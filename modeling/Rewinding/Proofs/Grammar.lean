import Mathlib.Algebra.Group.Nat.Defs
import Mathlib.Data.List.TakeWhile
import Rewinding.Proofs.Names

/-!
# Which texts are keys

Reading a key drops the blanks at both ends of the text, cuts it at the last `#`, and reads what follows as a
number. Each of these has a description that does not say how it is done: `Text.Trims`, a cut behind which no
`#` follows (`ActionKey.splitLast_eq_some_iff`), and `Text.IsNumeral`. Together they are the grammar of keys,
and the texts that are read are exactly those of the grammar (`ActionKey.exists_parse_iff`).

Writing a key and reading it again gives the key back, unless the owner is empty or begins with a blank
(`ActionKey.parse_text_iff`); no key that was read has such an owner.
-/

namespace Rewinding

namespace Text

variable {cs t : List Char}

/-! ### Blanks at the ends -/

/-- The text `t` is what `cs` is without the blanks at its ends. -/
structure Trims (cs t : List Char) : Prop where
  between : ∃ before after, cs = before ++ t ++ after ∧ (∀ c ∈ before, isBlank c = true) ∧
    ∀ c ∈ after, isBlank c = true
  head : ∀ c, t.head? = some c → isBlank c = false
  last : ∀ c, t.getLast? = some c → isBlank c = false

theorem isBlank_head_dropWhile {c : Char} (h : (cs.dropWhile isBlank).head? = some c) :
    isBlank c = false := by
  have hhead := List.head?_dropWhile_not isBlank cs
  rw [h] at hhead
  exact hhead

theorem dropWhile_isBlank_eq_self (h : ∀ c, cs.head? = some c → isBlank c = false) :
    cs.dropWhile isBlank = cs := by
  cases cs with
  | nil => rfl
  | cons c cs => simp [h c rfl]

theorem trims_trim (cs : List Char) : Trims cs (trim cs) where
  between := exists_blanks_trim cs
  head c hc := by
    have htrim : (trimEnd (cs.dropWhile isBlank)).head? = some c := hc
    have hhead : (cs.dropWhile isBlank).head? = some c := by
      rw [← trimEnd_append_takeWhile (cs.dropWhile isBlank), List.head?_append, htrim]
      rfl
    exact isBlank_head_dropWhile hhead
  last c hc := by
    unfold trim trimEnd at hc
    rw [List.getLast?_reverse] at hc
    exact isBlank_head_dropWhile hc

/-- Blanks around a text that has none at its ends are dropped, and nothing else. -/
theorem Trims.trim_eq (h : Trims cs t) : trim cs = t := by
  obtain ⟨before, after, rfl, hbefore, hafter⟩ := h.between
  have hend : trimEnd (t ++ after) = t := by
    unfold trimEnd
    rw [List.reverse_append, List.dropWhile_append_of_pos (by simpa using hafter),
      dropWhile_isBlank_eq_self (by simpa using h.last), List.reverse_reverse]
  unfold trim
  rw [List.append_assoc, List.dropWhile_append_of_pos hbefore]
  cases t with
  | nil =>
    have hnil : after.dropWhile isBlank = [] := List.dropWhile_eq_nil_iff.2 hafter
    rw [List.nil_append, hnil]
    rfl
  | cons c t =>
    rw [dropWhile_isBlank_eq_self (by simpa using h.head)]
    exact hend

/-! ### Numerals -/

/-- The text is a numeral of `n`: digits, perhaps with a sign in front. -/
def IsNumeral (cs : List Char) (n : Nat) : Prop :=
  ∃ digits, (cs = digits ∨ cs = '+' :: digits) ∧ digits ≠ [] ∧ (∀ c ∈ digits, c.isDigit = true) ∧
    Nat.ofDigitChars 10 digits 0 = n

theorem le_ofDigitChars (value : Nat) (cs : List Char) : value ≤ Nat.ofDigitChars 10 cs value := by
  induction cs generalizing value with
  | nil => exact Nat.le_refl _
  | cons c cs ih =>
    rw [Nat.ofDigitChars_cons]
    have hnext := ih (10 * value + (c.toNat - '0'.toNat))
    omega

/-- Digits are read as long as their value is that of a 32-bit number. Further digits make it no smaller, so
it does not matter that it is looked at after each of them. -/
theorem readDigits_eq_ok_iff {value n : Nat} (hvalue : value < 2 ^ 32) : readDigits value cs = .ok n ↔
    (∀ c ∈ cs, c.isDigit = true) ∧ Nat.ofDigitChars 10 cs value = n ∧ n < 2 ^ 32 := by
  induction cs generalizing value with
  | nil =>
    simp only [readDigits, Except.ok.injEq, List.not_mem_nil, false_implies, implies_true, true_and]
    constructor
    · rintro rfl
      exact ⟨rfl, hvalue⟩
    · exact fun h => h.1
  | cons c cs ih =>
    rw [Nat.ofDigitChars_cons, List.forall_mem_cons]
    unfold readDigits
    by_cases hc : c.isDigit = true
    case neg => simp [hc]
    rw [if_pos hc]
    simp only [hc, true_and]
    by_cases hnext : 10 * value + digitValue c < UInt32.size
    · rw [if_pos hnext]
      exact ih hnext
    · rw [if_neg hnext]
      have hle := le_ofDigitChars (10 * value + digitValue c) cs
      refine iff_of_false nofun fun ⟨_, he, hn⟩ => hnext ?_
      rw [← he] at hn
      exact lt_of_le_of_lt hle hn

theorem map_readUnsigned_eq_ok_iff {n : UInt32} : (readUnsigned cs).map UInt32.ofNat = .ok n ↔
    cs ≠ [] ∧ (∀ c ∈ cs, c.isDigit = true) ∧ Nat.ofDigitChars 10 cs 0 = n.toNat := by
  cases cs with
  | nil => simp [readUnsigned, Except.map]
  | cons c cs =>
    have hread : ∀ m, readUnsigned (c :: cs) = .ok m ↔ _ := fun m => readDigits_eq_ok_iff (by decide)
    simp only [ne_eq, reduceCtorEq, not_false_eq_true, true_and]
    constructor
    · intro h
      cases hr : readUnsigned (c :: cs) with
      | error fault =>
        rw [hr] at h
        cases h
      | ok m =>
        rw [hr] at h
        obtain ⟨hdigits, he, hm⟩ := (hread m).1 hr
        obtain rfl : UInt32.ofNat m = n := Except.ok.inj h
        rw [UInt32.toNat_ofNat_of_lt' hm]
        exact ⟨hdigits, he⟩
    · rintro ⟨hdigits, he⟩
      rw [(hread n.toNat).2 ⟨hdigits, he, n.toNat_lt⟩]
      exact congrArg Except.ok UInt32.ofNat_toNat

/-- The texts that are read as numbers are the numerals of 32-bit numbers. -/
theorem readNumeral_eq_ok_iff {n : UInt32} : readNumeral cs = .ok n ↔ IsNumeral cs n.toNat := by
  unfold readNumeral IsNumeral
  split
  case h_1 => simp
  case h_2 cs =>
    rw [map_readUnsigned_eq_ok_iff]
    constructor
    · intro h
      exact ⟨cs, Or.inr rfl, h⟩
    · rintro ⟨digits, rfl | he, hne, hdigits, hn⟩
      -- a sign is no digit
      · exact absurd (hdigits '+' List.mem_cons_self) (by decide)
      · obtain rfl := List.tail_eq_of_cons_eq he
        exact ⟨hne, hdigits, hn⟩
  case h_3 hplus =>
    rw [map_readUnsigned_eq_ok_iff]
    constructor
    · intro h
      exact ⟨cs, Or.inl rfl, h⟩
    · rintro ⟨digits, rfl | he, h⟩
      · exact h
      · exact absurd he (hplus digits)

/-! ### Written numbers -/

theorem isBlank_of_isDigit {c : Char} (h : c.isDigit = true) : isBlank c = false := by
  have hrange : 48 ≤ c.toNat ∧ c.toNat ≤ 57 := by
    simpa [Char.isDigit, UInt32.le_iff_toNat_le] using h
  unfold isBlank
  simp
  omega

theorem isDigit_of_mem_numeral {n : Nat} {c : Char} (h : c ∈ (numeral n).toList) : c.isDigit = true := by
  unfold numeral at h
  rw [String.toList_ofList] at h
  exact Nat.isDigit_of_mem_toDigits (by decide) (by decide) h

theorem isNumeral_numeral (n : Nat) : IsNumeral (numeral n).toList n := by
  refine ⟨_, Or.inl rfl, ?_, fun c => isDigit_of_mem_numeral, ?_⟩
  · unfold numeral
    rw [String.toList_ofList]
    exact Nat.toDigits_ne_nil
  · unfold numeral
    rw [String.toList_ofList]
    exact Nat.ofDigitChars_ten_toDigits

/-- Where no blank is among the last characters of a text, only its beginning is trimmed. -/
theorem trim_append (cs : List Char) (hne : t ≠ []) (ht : ∀ c ∈ t, isBlank c = false) :
    trim (cs ++ t) = cs.dropWhile isBlank ++ t := by
  apply Trims.trim_eq
  refine ⟨⟨cs.takeWhile isBlank, [], ?_, ?_, by simp⟩, ?_, ?_⟩
  · rw [List.append_nil, ← List.append_assoc, List.takeWhile_append_dropWhile]
  · intro c hc
    exact List.mem_takeWhile_imp hc
  · intro c hc
    rw [List.head?_append, Option.or_eq_some_iff] at hc
    rcases hc with hc | ⟨-, hc⟩
    · exact isBlank_head_dropWhile hc
    · exact ht c (List.mem_of_head? hc)
  · intro c hc
    rw [List.getLast?_append_of_ne_nil _ hne] at hc
    exact ht c (List.mem_of_getLast? hc)

end Text

namespace ActionKey

variable {s : String} {k : ActionKey}

/-! ### Reading keys -/

theorem splitLast_eq_none_iff {sep : Char} {cs : List Char} : splitLast sep cs = none ↔ sep ∉ cs := by
  constructor
  · intro h
    induction cs with
    | nil => exact List.not_mem_nil
    | cons c cs ih =>
      unfold splitLast at h
      split at h
      case h_1 => cases h
      case h_2 hnone =>
        split at h
        case isTrue => cases h
        case isFalse hc =>
          rw [List.mem_cons, not_or]
          exact ⟨fun he => hc he.symm, ih hnone⟩
  · exact splitLast_of_notMem

/-- A text is cut at the separator behind which there is no other. -/
theorem splitLast_eq_some_iff {sep : Char} {cs before after : List Char} :
    splitLast sep cs = some (before, after) ↔ cs = before ++ sep :: after ∧ sep ∉ after := by
  constructor
  · intro h
    induction cs generalizing before with
    | nil => cases h
    | cons c cs ih =>
      unfold splitLast at h
      split at h
      case h_1 hcut =>
        cases h
        obtain ⟨rfl, hafter⟩ := ih hcut
        exact ⟨rfl, hafter⟩
      case h_2 hnone =>
        split at h
        case isFalse => cases h
        case isTrue hc =>
          cases h
          subst hc
          exact ⟨rfl, splitLast_eq_none_iff.1 hnone⟩
  · rintro ⟨rfl, hafter⟩
    exact splitLast_append before hafter

theorem parseTrimmed_eq_ok_iff {cs : List Char} : parseTrimmed cs = .ok k ↔ ∃ index,
    splitLast '#' cs = some (k.owner.toList, index) ∧ k.owner ≠ "" ∧
      Text.readNumeral index = .ok k.index := by
  unfold parseTrimmed
  split
  case h_1 hcut => simp [hcut]
  case h_2 index hcut =>
    -- an empty owner is an error
    refine iff_of_false nofun ?_
    rintro ⟨index', hcut', howner, -⟩
    rw [hcut, Option.some.injEq, Prod.mk.injEq, eq_comm, String.toList_eq_nil_iff] at hcut'
    exact howner hcut'.1
  case h_3 owner index hne hcut =>
    constructor
    · intro h
      cases hindex : Text.readNumeral index with
      | error fault =>
        rw [hindex] at h
        cases h
      | ok n =>
        rw [hindex] at h
        obtain rfl : ⟨String.ofList owner, n⟩ = k := Except.ok.inj h
        refine ⟨index, by rw [hcut, String.toList_ofList], fun hempty => ?_, hindex⟩
        obtain rfl : owner = [] := by simpa using hempty
        exact hne rfl
    · rintro ⟨index', hcut', -, hindex⟩
      rw [hcut, Option.some.injEq, Prod.mk.injEq] at hcut'
      obtain ⟨rfl, rfl⟩ := hcut'
      rw [hindex, String.ofList_toList]

theorem parse_eq_ok_iff : parse s = .ok k ↔ ∃ index,
    splitLast '#' (Text.trim s.toList) = some (k.owner.toList, index) ∧ k.owner ≠ "" ∧
      Text.readNumeral index = .ok k.index := by
  rw [← parseTrimmed_eq_ok_iff]
  unfold parse
  cases parseTrimmed (Text.trim s.toList) <;> simp

/-- **The grammar of keys.** A text is the key with an owner and an index if, without the blanks at its ends,
it is the owner, which is not empty, a `#`, and a numeral of the index, which has no `#` and stands for a
32-bit number. -/
theorem exists_parse_iff (s owner : String) (n : Nat) :
    (∃ k, parse s = .ok k ∧ k.owner = owner ∧ k.index.toNat = n) ↔
      ∃ t index, Text.Trims s.toList t ∧ t = owner.toList ++ '#' :: index ∧ owner ≠ "" ∧
        '#' ∉ index ∧ Text.IsNumeral index n ∧ n < 2 ^ 32 := by
  simp only [parse_eq_ok_iff, splitLast_eq_some_iff, Text.readNumeral_eq_ok_iff]
  constructor
  · rintro ⟨k, ⟨index, ⟨ht, hsep⟩, howner, hindex⟩, rfl, rfl⟩
    exact ⟨_, index, Text.trims_trim _, ht, howner, hsep, hindex, k.index.toNat_lt⟩
  · rintro ⟨t, index, ht, he, howner, hsep, hindex, hn⟩
    have hnat : (UInt32.ofNat n).toNat = n := UInt32.toNat_ofNat_of_lt' hn
    refine ⟨⟨owner, UInt32.ofNat n⟩, ⟨index, ⟨ht.trim_eq.trans he, hsep⟩, howner, ?_⟩, rfl, hnat⟩
    rwa [hnat]

/-! ### Writing keys -/

theorem trim_text (k : ActionKey) : Text.trim k.text.toList =
    k.owner.toList.dropWhile Text.isBlank ++ '#' :: (Text.numeral k.index.toNat).toList := by
  have htext : k.text.toList = k.owner.toList ++ '#' :: (Text.numeral k.index.toNat).toList := by
    simp [text]
  rw [htext]
  apply Text.trim_append
  · exact List.cons_ne_nil _ _
  · intro c hc
    rcases List.mem_cons.1 hc with rfl | hc
    · rfl
    · exact Text.isBlank_of_isDigit (Text.isDigit_of_mem_numeral hc)

theorem parse_text_iff : parse k.text = .ok k ↔
    k.owner ≠ "" ∧ ∀ c, k.owner.toList.head? = some c → Text.isBlank c = false := by
  have hindex : Text.readNumeral (Text.numeral k.index.toNat).toList = .ok k.index :=
    Text.readNumeral_eq_ok_iff.2 (Text.isNumeral_numeral _)
  have hcut := splitLast_append (k.owner.toList.dropWhile Text.isBlank)
    (Text.notMem_toList_numeral k.index.toNat)
  rw [parse_eq_ok_iff, trim_text, hcut]
  constructor
  · rintro ⟨index, he, howner, -⟩
    refine ⟨howner, fun c hc => ?_⟩
    obtain ⟨hdrop, -⟩ := Prod.mk.inj (Option.some.inj he)
    rw [← hdrop] at hc
    exact Text.isBlank_head_dropWhile hc
  · rintro ⟨howner, hhead⟩
    rw [Text.dropWhile_isBlank_eq_self hhead]
    exact ⟨_, rfl, howner, hindex⟩

/-- What was read as a key begins with its owner, and not with a blank. -/
theorem parse_text_of_parse (h : parse s = .ok k) : parse k.text = .ok k := by
  obtain ⟨index, hcut, howner, -⟩ := parse_eq_ok_iff.1 h
  obtain ⟨htrim, -⟩ := splitLast_eq_some_iff.1 hcut
  refine parse_text_iff.2 ⟨howner, fun c hc => ?_⟩
  apply (Text.trims_trim s.toList).head
  rw [htrim, List.head?_append, hc]
  rfl

/-- **Writing and reading keys.** A key that is written and read again is the same exactly if its owner is
not empty and does not begin with a blank. So it is for every key that was read from some text. And no two
keys, and no two nodes, are written alike. -/
theorem parse_text_spec :
    (∀ k : ActionKey, parse k.text = .ok k ↔
      k.owner ≠ "" ∧ ∀ c, k.owner.toList.head? = some c → Text.isBlank c = false) ∧
    (∀ (s : String) (k : ActionKey), parse s = .ok k → parse k.text = .ok k) ∧
    Function.Injective text ∧ Function.Injective Node.text :=
  ⟨fun _ => parse_text_iff, fun _ _ => parse_text_of_parse, fun _ _ => text_injective,
    fun _ _ => Node.text_injective⟩

/-- A text with blanks around it, an owner with a `#` and a blank in it, a sign and leading zeros. -/
theorem parse_text_spec_ornate : parse " //a b#c#+007\n" = .ok ⟨"//a b#c", 7⟩ ∧
    parse (text ⟨"//a b#c", 7⟩) = .ok ⟨"//a b#c", 7⟩ := by
  have hread : parse " //a b#c#+007\n" = .ok ⟨"//a b#c", 7⟩ := by decide +kernel
  exact ⟨hread, parse_text_spec.2.1 _ _ hread⟩

end ActionKey

end Rewinding
