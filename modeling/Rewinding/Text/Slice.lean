import Rewinding.Text.Numeral
import Rewinding.Text.Quoted

/-!
# Slices of a text

A slice is taken between two offsets that count bytes of UTF-8. An offset that falls inside a
character belongs to no slice: `slice` then says which character that is.
-/

namespace Rewinding.Text

/-- A character that a slice would have to split. -/
structure SplitChar where
  /-- Whether the slice was to start inside the character, or else to end there. -/
  atStart : Bool
  /-- The offset inside the character. -/
  index : Nat
  char : Char
  /-- The offset at which the character starts. -/
  first : Nat
  deriving DecidableEq, Repr

def SplitChar.message (s : SplitChar) : String :=
  String.join [if s.atStart then "start" else "end", " byte index ", numeral s.index,
    " is not a char boundary; it is inside '", String.ofList (quotedChar s.char), "' (bytes ",
    numeral s.first, "..", numeral (s.first + s.char.utf8Size), " of string)"]

/-- Cut a text at an offset, when `before` bytes precede the text, or return the character that the
offset falls into. -/
def cutAt (atStart : Bool) (index before : Nat) :
    List Char → Except SplitChar (List Char × List Char)
  | [] => .ok ([], [])
  | c :: cs =>
    if index ≤ before then .ok ([], c :: cs)
    else if index < before + c.utf8Size then .error ⟨atStart, index, c, before⟩
    else (cutAt atStart index (before + c.utf8Size) cs).map fun (left, right) => (c :: left, right)

/-- What stands in a text from the offset `start` on and before the offset `stop`. -/
def slice (cs : List Char) (start stop : Nat) : Except SplitChar (List Char) := do
  let (before, _) ← cutAt true start 0 cs
  let (front, _) ← cutAt false stop 0 cs
  return front.drop before.length

/-- What stands in a text from the offset `start` on. -/
def sliceFrom (cs : List Char) (start : Nat) : Except SplitChar (List Char) :=
  (cutAt true start 0 cs).map Prod.snd

/-- Cutting loses nothing. -/
theorem append_of_cutAt {atStart : Bool} {index before : Nat} {cs left right : List Char}
    (h : cutAt atStart index before cs = .ok (left, right)) : left ++ right = cs := by
  induction cs generalizing before left with
  | nil =>
    cases h
    rfl
  | cons c cs ih =>
    rw [cutAt] at h
    split at h
    · cases h
      rfl
    · split at h
      · cases h
      · cases hc : cutAt atStart index (before + c.utf8Size) cs with
        | error s => simp [hc, Except.map] at h
        | ok parts =>
          simp only [hc, Except.map, Except.ok.injEq, Prod.mk.injEq] at h
          obtain ⟨rfl, rfl⟩ := h
          simp [ih hc]

end Rewinding.Text
