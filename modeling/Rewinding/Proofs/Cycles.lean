import Rewinding.Proofs.Passes

/-!
# What the check for cycles finds

The check for cycles is asked about tables: the sections of actions, who makes what, and what templates
expanded to. Nothing is assumed of them here. They need not come from a description, two tables may
name makers of one path, and what makes an input need not be an action of the first table.

* `Feeds` says which action comes before which.
* `checkCycles_iff` says that the check accepts just the tables in which no action comes before itself,
  and that the action that it names otherwise does.
-/

namespace Rewinding.Config

open Relation

section Feeds

variable (table : Std.ExtTreeMap ActionKey ActionSection) (makers : Std.ExtTreeMap String ActionKey)
  (expansions : Expansions)

/-- One action makes, by itself or for a template, what another one reads. -/
def Feeds (k k' : ActionKey) : Prop :=
  ∃ a : ActionSection, table[k']? = some a ∧ ∃ path ∈ a.inputs, makers[path]? = some k ∨
    ∃ keys : Std.ExtTreeSet ActionKey, expansions[path]? = some keys ∧ k ∈ keys

/-- The edges of the graph that is searched are these pairs. -/
theorem precedes_eq_feeds :
    (precedence table makers expansions).Precedes = Feeds table makers expansions := by
  funext k k'
  apply propext
  constructor
  · intro h
    obtain ⟨a, path, ha, hpath, hk⟩ := mem_feeds.1 h
    exact ⟨a, ha, path, hpath, mem_makersOf.1 hk⟩
  · rintro ⟨a, ha, path, hpath, hk⟩
    exact mem_feeds.2 ⟨a, path, ha, hpath, mem_makersOf.2 hk⟩

/-- What feeds another action around a cycle is fed itself, so it has a section. -/
theorem mem_of_transGen_feeds {k : ActionKey} (h : TransGen (Feeds table makers expansions) k k) :
    k ∈ table := by
  rcases TransGen.tail'_iff.1 h with ⟨k', -, a, ha, -⟩
  exact mem_iff_exists_getElem?.2 ⟨a, ha⟩

/-- **The check for cycles.** It accepts exactly the tables in which no action comes before itself, over
any number of actions in between. Where it does not accept, it names an action of the table that does. -/
theorem checkCycles_iff :
    (checkCycles table makers expansions = .ok () ↔
      ∀ k, ¬TransGen (Feeds table makers expansions) k k) ∧
    ∀ rejection, checkCycles table makers expansions = .error rejection →
      ∃ k ∈ table, rejection = .cycle k ∧ TransGen (Feeds table makers expansions) k k := by
  have hnodes : ∀ k k', (precedence table makers expansions).Precedes k k' →
      k ∈ (precedence table makers expansions).nodes ∧
        k' ∈ (precedence table makers expansions).nodes :=
    fun _ _ => mem_nodes_precedence
  have hiff := Precedence.culprit?_eq_none_iff hnodes
  rw [precedes_eq_feeds] at hiff
  unfold checkCycles
  cases hculprit : (precedence table makers expansions).culprit? with
  | none =>
    constructor
    · simpa using hiff.1 hculprit
    · intro rejection h
      cases h
  | some k =>
    have hcycle := Precedence.transGen_of_culprit?_eq_some (fun _ _ h => (hnodes _ _ h).1) hculprit
    rw [precedes_eq_feeds] at hcycle
    constructor
    · simp only [reduceCtorEq, false_iff, not_forall, not_not]
      exact ⟨k, hcycle⟩
    · intro rejection h
      cases h
      exact ⟨k, mem_of_transGen_feeds table makers expansions hcycle, rfl, hcycle⟩

end Feeds

/-- An action is before itself if a template that makes an input of it expanded to it. -/
example : (precedence
    ((∅ : Std.ExtTreeMap ActionKey ActionSection).insert ⟨"//t", 0⟩ { inputs := ["out/t"] }) ∅
    ((∅ : Expansions).insert "out/t" {⟨"//t", 0⟩})).culprit? = some ⟨"//t", 0⟩ := by
  decide +kernel

end Rewinding.Config
