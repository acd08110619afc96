import Rewinding.Proofs.Closure
import Rewinding.Proofs.Effect
import Rewinding.Proofs.Upstream

/-!
# Which restarted actions are forgotten

An action whose last execution is remembered does not run again. A rewind forgets the executions of the
failed action and of those that it has noted, and so of every action that it restarts for its own sake.
But a noted action may want other actions restarted along. Such a companion is only restarted: its node
is made not done, and its execution stays remembered (`forgotten_of_restarted`).

Nothing is said here of a companion that is needed itself to make a lost input again; `Proofs/Eviction`
is about those.
-/

namespace Rewinding

/-- A rewind restarts no action but the failed one, those that it notes, and companions of these. -/
theorem Build.Rewound.restarted_action {g : Graph} {key : ActionKey} {lost : List Artifact}
    {builder : Builder} {b b' : Build} (h : Rewound g key lost builder b b') {k : ActionKey}
    (hk : .action k ∈ builder.plan.restart.nodes) :
    k ∈ key :: builder.plan.additionalKeys ∨
      ∃ action ∈ builder.plan.additional, .action k ∈ action.wanted := by
  have hmarked : .action k ∈ builder.marked := by
    obtain he | hm := Builder.mem_nodes_plan.1 hk
    · rw [he]
      exact h.finished.grounded.failed
    · exact hm
  obtain rfl | ⟨action, ha, rfl⟩ | hwanted := h.finished.grounded.marked_action hmarked
  · exact Or.inl (h.failed ▸ List.mem_cons_self)
  · exact Or.inl (List.mem_cons_of_mem _ (List.mem_map_of_mem ha))
  · exact Or.inr hwanted

/-- What a rewind notes is needed to make lost inputs again. -/
theorem Build.Rewound.needs_of_mem_additionalKeys {g : Graph} {key : ActionKey} {lost : List Artifact}
    {builder : Builder} {b b' : Build} (h : Rewound g key lost builder b b') {k : ActionKey}
    (hk : k ∈ builder.plan.additionalKeys) : (b.queries g).Needs key lost (.inr k) := by
  obtain ⟨action, ha, rfl⟩ := List.mem_map.1 hk
  obtain ⟨-, -, hneeds, -⟩ := h.finished.grounded.noted ha
  rwa [h.failed] at hneeds

/-- **A rewind forgets the actions that it restarts, but for companions.** After a rewind no execution
is remembered of a restarted action, be it the failed one, an evicted one or one that no evicted action
wants along. The execution of an action that is restarted only because it is wanted along, and that is
not needed to make lost inputs again, is remembered just as before. -/
theorem forgotten_of_restarted {c : Config} {s : Session} (hg : s.graph = .ofConfig c)
    {key : ActionKey} {loss : Loss} {o : Outcome} (ho : (s.handle key loss).1 = .ok o) :
    ∃ lost, s.responsible? key loss = some lost ∧
      ∀ k, .action k ∈ o.plan.restart.nodes →
        (k = key ∨ k ∈ o.plan.additionalKeys ∨
            (∀ action ∈ o.plan.additional, .action k ∉ action.wanted) →
          k ∉ (s.handle key loss).2.build.cache) ∧
        (k ≠ key → ¬(s.build.queries s.graph).Needs key lost (.inr k) →
          (∃ action ∈ o.plan.additional, .action k ∈ action.wanted) ∧
          (s.handle key loss).2.build.cache[k]? = s.build.cache[k]?) := by
  have hkeys : ∀ k (action : Action), s.graph.actions[k]? = some action → action.key = k := by
    rw [hg]
    exact fun k action => Graph.key_of_getElem?_actions
  obtain ⟨lost, builder, hlost, hplan, hrewound⟩ := Session.exists_rewound hkeys ho
  have hcache := (Session.applied_handle ho).cache_eq
  rw [hplan] at hcache ⊢
  refine ⟨lost, hlost, fun k hk => ⟨fun hsake => ?_, fun hne hneeds => ?_⟩⟩
  · -- it is not a companion, or evicted besides
    have hevicted : k ∈ key :: builder.plan.additionalKeys := by
      obtain rfl | hadditional | hnone := hsake
      · exact List.mem_cons_self
      · exact List.mem_cons_of_mem _ hadditional
      · obtain hevicted | ⟨action, ha, hwanted⟩ := hrewound.restarted_action hk
        · exact hevicted
        · exact absurd hwanted (hnone action ha)
    rw [hrewound.cached]
    exact fun hcached => hcached.1 hevicted
  · have hkept : k ∉ key :: builder.plan.additionalKeys := by
      intro hevicted
      obtain he | hadditional := List.mem_cons.1 hevicted
      · exact hne he
      · exact hneeds (hrewound.needs_of_mem_additionalKeys hadditional)
    obtain hevicted | hwanted := hrewound.restarted_action hk
    · exact absurd hevicted hkept
    · exact ⟨hwanted, by rw [hcache, if_neg hkept]⟩

/-- What the failed action reads is made by an action that wants another one along. -/
def Description.accompanied : Description where
  actions := Std.ExtTreeMap.ofList
    [("//a#0", { inputs := ["src/a"], outputs := ["out/a"], rewindDeps := ["//p#0"] }),
     ("//p#0", { inputs := ["src/p"], outputs := ["out/p"] }),
     ("//f#0", ({ inputs := ["out/a"], outputs := ["out/f"] } : ActionSection))]

theorem validate_accompanied :
    Description.accompanied.validate = .ok Description.accompanied.accepted :=
  Description.validate_eq_accepted (by decide +kernel)

def Session.accompanied : Session := .ready Description.accompanied.accepted .log

/-- The loss of what that action makes. -/
def Loss.accompanied : Loss := .ofEntries "" [("1", .artifact ⟨"out/a", .derived⟩)] ∅

/-- A companion is restarted, and its execution stays remembered. -/
theorem companion_remembered : ∃ o,
    Description.accompanied.validate = .ok Description.accompanied.accepted ∧
    (Session.accompanied.handle ⟨"//f", 0⟩ .accompanied).1 = .ok o ∧
    .action ⟨"//p", 0⟩ ∈ o.plan.restart.nodes ∧
    ⟨"//p", 0⟩ ∈ (Session.accompanied.handle ⟨"//f", 0⟩ .accompanied).2.build.cache := by
  have hnodes : (Session.accompanied.handle ⟨"//f", 0⟩ .accompanied).1.toOption.map
      (fun o => o.plan.restart.nodes) = some [.action ⟨"//f", 0⟩, .artifact "out/a",
        .action ⟨"//a", 0⟩, .action ⟨"//p", 0⟩] := by decide +kernel
  obtain ⟨o, ho⟩ := exists_eq_ok (x := (Session.accompanied.handle ⟨"//f", 0⟩ .accompanied).1)
    (by decide +kernel)
  rw [ho] at hnodes
  have hnodes' : o.plan.restart.nodes = _ := Option.some.inj hnodes
  refine ⟨o, validate_accompanied, ho, ?_, by decide +kernel⟩
  rw [hnodes']
  simp

/-- The action that makes the lost input is forgotten, and its companion is not. -/
theorem forgotten_of_restarted_accompanied : ∃ o,
    (Session.accompanied.handle ⟨"//f", 0⟩ .accompanied).1 = .ok o ∧
    ⟨"//a", 0⟩ ∉ (Session.accompanied.handle ⟨"//f", 0⟩ .accompanied).2.build.cache ∧
    (Session.accompanied.handle ⟨"//f", 0⟩ .accompanied).2.build.cache[(⟨"//p", 0⟩ : ActionKey)]? =
      Session.accompanied.build.cache[(⟨"//p", 0⟩ : ActionKey)]? := by
  have hplan : (Session.accompanied.handle ⟨"//f", 0⟩ .accompanied).1.toOption.map
      (fun o => (o.plan.restart.nodes, o.plan.additionalKeys)) =
      some ([.action ⟨"//f", 0⟩, .artifact "out/a", .action ⟨"//a", 0⟩, .action ⟨"//p", 0⟩],
        [⟨"//a", 0⟩]) := by decide +kernel
  have hlost : Session.accompanied.responsible? ⟨"//f", 0⟩ .accompanied =
      some [⟨"out/a", .derived⟩] := by decide +kernel
  have hcloses : (Session.accompanied.build.queries Session.accompanied.graph).closes ⟨"//f", 0⟩
      [⟨"out/a", .derived⟩] [.inl ⟨"out/a", .derived⟩, .inr ⟨"//a", 0⟩] := by decide +kernel
  obtain ⟨o, ho⟩ := exists_eq_ok (x := (Session.accompanied.handle ⟨"//f", 0⟩ .accompanied).1)
    (by decide +kernel)
  rw [ho] at hplan
  obtain ⟨hnodes, hkeys⟩ := Prod.mk.inj (Option.some.inj hplan)
  obtain ⟨lost, hlost', h⟩ := forgotten_of_restarted rfl ho
  rw [hlost] at hlost'
  obtain rfl := Option.some.inj hlost'
  have hmaker := h ⟨"//a", 0⟩ (by rw [hnodes]; simp)
  have hcompanion := h ⟨"//p", 0⟩ (by rw [hnodes]; simp)
  refine ⟨o, ho, hmaker.1 (Or.inr (Or.inl (by rw [hkeys]; simp))), ?_⟩
  refine (hcompanion.2 (by decide) fun hneeds => ?_).2
  have hmem := hneeds.mem_of_closes hcloses
  simp at hmem

end Rewinding
