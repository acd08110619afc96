import Mathlib.Data.String.Basic
import Rewinding.Node
import Std.Data.String.ToNat

/-!
# Names tell nodes apart

Keys and nodes are written without any escaping, and owners and paths are free texts. Yet no two of them are
written alike:

* an owner may have `#` in it, but an index has not, so the last `#` ends the owner
  (`ActionKey.text_injective`);
* the names of artifacts, of actions and of other nodes begin differently (`Node.text_injective`).
-/

namespace Rewinding

theorem Text.numeral_injective {m n : Nat} (h : numeral m = numeral n) : m = n :=
  Nat.repr_injective h

/-- Digits come after the last `#`. -/
theorem Text.notMem_toList_numeral (n : Nat) : '#' ∉ (numeral n).toList := by
  unfold numeral
  rw [String.toList_ofList]
  intro h
  exact absurd (Nat.isDigit_of_mem_toDigits (by decide) (by decide) h) (by decide)

namespace ActionKey

/-! ### Keys -/

theorem splitLast_of_notMem {sep : Char} {cs : List Char} (h : sep ∉ cs) : splitLast sep cs = none := by
  induction cs with
  | nil => rfl
  | cons c cs ih =>
    rw [List.mem_cons, not_or] at h
    unfold splitLast
    rw [ih h.2]
    exact if_neg fun he => h.1 he.symm

/-- A text is cut where no separator follows, whatever stands in front. -/
theorem splitLast_append {sep : Char} (before : List Char) {after : List Char} (h : sep ∉ after) :
    splitLast sep (before ++ sep :: after) = some (before, after) := by
  induction before with
  | nil =>
    rw [List.nil_append]
    unfold splitLast
    rw [splitLast_of_notMem h]
    exact if_pos rfl
  | cons c before ih =>
    rw [List.cons_append]
    unfold splitLast
    rw [ih]

/-- The last `#` of a key stands in front of its index. -/
theorem splitLast_text (k : ActionKey) : splitLast '#' k.text.toList =
    some (k.owner.toList, (Text.numeral k.index.toNat).toList) := by
  have htext : k.text.toList = k.owner.toList ++ '#' :: (Text.numeral k.index.toNat).toList := by
    simp [text]
  rw [htext]
  exact splitLast_append _ (Text.notMem_toList_numeral _)

/-- **No two keys are written alike.** -/
theorem text_injective {k k' : ActionKey} (h : k.text = k'.text) : k = k' := by
  have hsplit := k.splitLast_text
  rw [h, k'.splitLast_text, Option.some.injEq, Prod.mk.injEq] at hsplit
  obtain ⟨howner, hindex⟩ := hsplit
  apply ActionKey.ext
  · exact (String.toList_injective howner).symm
  · exact (UInt32.toNat.inj (Text.numeral_injective (String.toList_injective hindex))).symm

end ActionKey

namespace Node

/-! ### Nodes -/

/-- Nodes of two kinds are written differently from the second character on at the latest. -/
theorem level_eq_of_text {n n' : Node} (h : n.text = n'.text) : n.level = n'.level := by
  have hhead : n.text.toList.take 2 = n'.text.toList.take 2 := by rw [h]
  cases n <;> cases n' <;> first | rfl | simp [text] at hhead

/-- **No two nodes are written alike.** -/
theorem text_injective {n n' : Node} (h : n.text = n'.text) : n = n' := by
  have hlevel := level_eq_of_text h
  cases n with
  | artifact path =>
    cases n' with
    | artifact path' => exact congrArg artifact ((String.append_right_inj "artifact:").1 h)
    | action _ | other _ => cases hlevel
  | action k =>
    cases n' with
    | action k' => exact congrArg action (ActionKey.text_injective ((String.append_right_inj "action:").1 h))
    | artifact _ | other _ => cases hlevel
  | other name =>
    cases n' with
    | other name' => exact congrArg other ((String.append_right_inj "node:").1 h)
    | artifact _ | action _ => cases hlevel

end Node

end Rewinding
