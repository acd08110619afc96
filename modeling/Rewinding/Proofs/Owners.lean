import Mathlib.Algebra.GroupWithZero.Nat
import Rewinding.Proofs.LostPaths
import Rewinding.Proofs.Validation

/-!
# Who owns the members of collections

A graph has a table of owners for trees and one for collections of runfiles. Each is filled by putting in the
members of all collections of the kind one after another, and a member that came up twice would be left with
the later collection. The checks see to it that there is none such (`Description.nodup_memberships`), so the
tables say just what the description does (`owners_of_validate`).
-/

namespace Rewinding

/-! ### Filling a table -/

section Fill

variable {κ ν : Type} [Ord κ] [Std.TransOrd κ] [Std.LawfulEqOrd κ] {entries : List (κ × ν)}

/-- A table has as many entries more as have been put in, where no key was there before. -/
theorem size_foldl_insert {m : Std.ExtTreeMap κ ν} (hd : (entries.map Prod.fst).Nodup)
    (hm : ∀ e ∈ entries, e.1 ∉ m) :
    (entries.foldl (fun m e => m.insert e.1 e.2) m).size = m.size + entries.length := by
  induction entries generalizing m with
  | nil => rfl
  | cons e entries ih =>
    rw [List.map_cons, List.nodup_cons] at hd
    rw [List.forall_mem_cons] at hm
    have hfresh : ∀ e' ∈ entries, e'.1 ∉ m.insert e.1 e.2 := by
      intro e' he' hin
      obtain he | hin := Std.ExtTreeMap.mem_insert.1 hin
      · rw [Std.LawfulEqCmp.compare_eq_iff_eq] at he
        exact hd.1 (he ▸ List.mem_map_of_mem he')
      · exact hm.2 e' he' hin
    rw [List.foldl_cons, ih hd.2 hfresh, Std.ExtTreeMap.size_insert,
      if_neg fun hin => hm.1 (Std.ExtTreeMap.contains_iff_mem.1 hin), List.length_cons]
    omega

end Fill

/-! ### Who lists what -/

/-- The members of all declared collections of a kind, each with its collection, in the order in which they
are put into the table of owners. -/
def Config.memberships (c : Config) (kind : ArtifactKind) : List (String × Artifact) :=
  c.artifacts.toList.flatMap fun (path, declared) =>
    if declared.kind = kind then declared.members.map fun member => (member, ⟨path, kind⟩) else []

theorem Config.mem_memberships {c : Config} {kind : ArtifactKind} {member : String} {a : Artifact} :
    (member, a) ∈ c.memberships kind ↔ a.kind = kind ∧
      ∃ declared, c.artifacts[a.path]? = some declared ∧ declared.kind = kind ∧
        member ∈ declared.members := by
  unfold memberships
  rw [List.mem_flatMap]
  constructor
  · rintro ⟨⟨path, declared⟩, hd, hm⟩
    simp only at hm
    split at hm
    case isFalse => cases hm
    case isTrue hkind =>
      obtain ⟨member', hmember, he⟩ := List.mem_map.1 hm
      cases he
      exact ⟨rfl, declared, Std.ExtTreeMap.mem_toList_iff_getElem?_eq_some.1 hd, hkind, hmember⟩
  · rintro ⟨rfl, declared, hd, hkind, hmember⟩
    refine ⟨(a.path, declared), Std.ExtTreeMap.mem_toList_iff_getElem?_eq_some.2 hd, ?_⟩
    simp only [hkind, if_true]
    exact List.mem_map.2 ⟨member, hmember, rfl⟩

theorem Config.length_memberships (c : Config) (kind : ArtifactKind) : (c.memberships kind).length =
    (c.artifacts.toList.map fun e => if e.2.kind = kind then e.2.members.length else 0).sum := by
  unfold memberships
  rw [List.length_flatMap]
  congr 1
  refine List.map_congr_left fun e _ => ?_
  obtain ⟨path, declared⟩ := e
  simp only
  split
  · exact List.length_map ..
  · rfl

/-- The owners are what the collections of a kind list: each member belongs to the collection that lists it,
no member is left out, and no collection owns itself. -/
structure Owners.Represents (owners : Owners) (artifacts : Std.ExtTreeMap String ArtifactSection)
    (kind : ArtifactKind) : Prop where
  owner (member : String) (a : Artifact) : owners[member]? = some a ↔ a.kind = kind ∧
    ∃ declared, artifacts[a.path]? = some declared ∧ declared.kind = kind ∧ member ∈ declared.members
  size : owners.size =
    (artifacts.toList.map fun e => if e.2.kind = kind then e.2.members.length else 0).sum
  ne_path (member : String) (a : Artifact) : owners[member]? = some a → a.path ≠ member

namespace Description

variable {d : Description} {c : Config} (h : d.validate = .ok c)
include h

/-- No member is listed twice by collections of one kind, be it by one collection or by two. -/
theorem nodup_memberships (kind : ArtifactKind) : ((c.memberships kind).map Prod.fst).Nodup := by
  have ht := tables_of_validate h
  have hvalid := valid_of_validate h
  have hmembers : (c.memberships kind).map Prod.fst =
      c.artifacts.toList.flatMap fun e => if e.2.kind = kind then e.2.members else [] := by
    unfold Config.memberships
    rw [List.map_flatMap]
    congr 1
    funext e
    simp only
    split
    · rw [List.map_map]
      exact List.map_id _
    · rfl
  have hsymm : ∀ x y : String × ArtifactSection,
      Function.onFun List.Disjoint (fun e => if e.2.kind = kind then e.2.members else []) x y →
      Function.onFun List.Disjoint (fun e => if e.2.kind = kind then e.2.members else []) y x :=
    fun _ _ hd => List.disjoint_symm hd
  rw [hmembers, List.nodup_flatMap, pairwise_toList_iff hsymm, ht.artifacts]
  constructor
  · rintro ⟨path, declared⟩ hd
    have hd := Std.ExtTreeMap.mem_toList_iff_getElem?_eq_some.1 hd
    simp only
    split
    · exact hvalid.members_nodup hd
    · exact List.nodup_nil
  · intro path path' declared declared' hd hd' hne member hm hm'
    simp only [List.mem_ite_nil_right] at hm hm'
    obtain ⟨hkind, hm⟩ := hm
    obtain ⟨hkind', hm'⟩ := hm'
    exact hne (hvalid.members_unique hd hd' (hkind.trans hkind'.symm) hm hm')

theorem represents_ownersOf (kind : ArtifactKind) :
    (Graph.ownersOf c kind).Represents d.artifacts kind := by
  have hartifacts := (tables_of_validate h).artifacts
  have hd := nodup_memberships h kind
  have howner : ∀ (member : String) (a : Artifact), (Graph.ownersOf c kind)[member]? = some a ↔
      a.kind = kind ∧ ∃ declared, d.artifacts[a.path]? = some declared ∧ declared.kind = kind ∧
        member ∈ declared.members := by
    intro member a
    rw [← hartifacts, ← Config.mem_memberships]
    exact getElem?_foldl_insert_iff fun _ he _ he' => List.inj_on_of_nodup_map hd he he'
  refine ⟨howner, ?_, fun member a ha he => ?_⟩
  · have hsize := size_foldl_insert (m := (∅ : Owners)) hd fun _ _ => Std.ExtTreeMap.not_mem_empty
    rw [← hartifacts, ← Config.length_memberships]
    exact hsize.trans (by rw [Std.ExtTreeMap.size_empty, Nat.zero_add])
  · obtain ⟨-, declared, hdeclared, -, hm⟩ := (howner member a).1 ha
    exact (valid_of_validate h).members_others hdeclared (he ▸ hm)

/-- **The owners that a graph knows are those of its description.** A path belongs to a tree exactly if the
tree is declared and lists it, and to a collection of runfiles likewise. No entry is overwritten while a
table is filled, so each table has as many entries as its collections list members; and no artifact owns
itself. -/
theorem owners_of_validate :
    (Graph.ofConfig c).treeOwners.Represents d.artifacts .tree ∧
    (Graph.ofConfig c).runfilesOwners.Represents d.artifacts .runfiles ∧
    (Graph.ofConfig c).treeOwners = .ofPairs (c.memberships .tree) ∧
    (Graph.ofConfig c).runfilesOwners = .ofPairs (c.memberships .runfiles) ∧
    ∀ kind before entry after, c.memberships kind = before ++ entry :: after →
      entry.1 ∉ Owners.ofPairs before := by
  refine ⟨represents_ownersOf h .tree, represents_ownersOf h .runfiles, rfl, rfl, ?_⟩
  intro kind before entry after hsplit hm
  have hd := nodup_memberships h kind
  rw [hsplit, List.map_append, List.map_cons, List.nodup_append] at hd
  obtain ⟨a, ha⟩ := mem_iff_exists_getElem?.1 hm
  obtain hmem | hmem := mem_or_of_foldl_insert ha
  · exact hd.2.2 _ (List.mem_map_of_mem hmem) _ List.mem_cons_self rfl
  · simp at hmem

omit h

/-- A tree and a collection of runfiles with a member in common. -/
def common : Description where
  artifacts := Std.ExtTreeMap.ofList
    [("out/t", ({ kind := .tree, members := ["out/t/m", "out/t/n"] } : ArtifactSection)),
     ("out/r", { kind := .runfiles, members := ["out/t/m"] })]
  actions := Std.ExtTreeMap.ofList
    [("//t#0", ({ inputs := ["src/t"], outputs := ["out/t"] } : ActionSection)),
     ("//r#0", { inputs := ["out/t"], outputs := ["out/r"] })]

/-- The common member belongs to both, and the other one to the tree alone. -/
theorem owners_of_validate_common : ∃ c, common.validate = .ok c ∧
    (Graph.ofConfig c).treeOwners["out/t/m"]? = some ⟨"out/t", .tree⟩ ∧
    (Graph.ofConfig c).runfilesOwners["out/t/m"]? = some ⟨"out/r", .runfiles⟩ ∧
    (Graph.ofConfig c).runfilesOwners["out/t/n"]? ≠ some ⟨"out/r", .runfiles⟩ ∧
    (Graph.ofConfig c).treeOwners.size = 2 ∧ (Graph.ofConfig c).runfilesOwners.size = 1 := by
  have h : common.validate = .ok common.accepted := validate_eq_accepted (by decide +kernel)
  obtain ⟨htrees, hrunfiles, -⟩ := owners_of_validate h
  have htree : common.artifacts["out/t"]? =
      some { kind := .tree, members := ["out/t/m", "out/t/n"] } := by decide +kernel
  have hcollection : common.artifacts["out/r"]? =
      some { kind := .runfiles, members := ["out/t/m"] } := by decide +kernel
  refine ⟨_, h, (htrees.owner ..).2 ⟨rfl, _, htree, rfl, List.mem_cons_self⟩,
    (hrunfiles.owner ..).2 ⟨rfl, _, hcollection, rfl, List.mem_cons_self⟩, fun howner => ?_,
    htrees.size.trans (by decide +kernel), hrunfiles.size.trans (by decide +kernel)⟩
  obtain ⟨-, declared, hdeclared, -, hm⟩ := (hrunfiles.owner ..).1 howner
  cases hcollection.symm.trans hdeclared
  exact absurd hm (by decide)

end Description

end Rewinding
