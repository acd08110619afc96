import Mathlib.Data.String.Basic
import Rewinding.Evaluation

/-!
# The values of nodes

What the value of a node is the hash of tells the name of the node and its generation
(`eq_of_valueBytes`): the generation takes up the last eight bytes, and the name the bytes before them.
So two nodes with one value have one name and one generation, as long as hashes do not collide.
-/

namespace Rewinding.Evaluation

/-! ### Bytes -/

theorem toList_loop_byteArray (bytes : ByteArray) (i : Nat) (read : List UInt8) :
    ByteArray.toList.loop bytes i read = read.reverse ++ bytes.data.toList.drop i := by
  induction i, read using ByteArray.toList.loop.induct bytes with
  | case1 i read h ih =>
    have hlt : i < bytes.data.toList.length := h
    have hget : bytes.get! i = bytes.data.toList[i] := getElem!_pos bytes.data i h
    rw [ByteArray.toList.loop, if_pos h, ih, List.reverse_cons, List.append_assoc,
      List.drop_eq_getElem_cons hlt, hget]
    rfl
  | case2 i read h =>
    have hle : bytes.data.toList.length ≤ i := Nat.le_of_not_lt h
    rw [ByteArray.toList.loop, if_neg h, List.drop_eq_nil_of_le hle, List.append_nil]

theorem textBytes_injective {s t : String} (h : textBytes s = textBytes t) : s = t := by
  unfold textBytes ByteArray.toList at h
  rw [toList_loop_byteArray, toList_loop_byteArray] at h
  exact String.toByteArray_inj.1 (ByteArray.ext (Array.toList_inj.1 h))

theorem length_numberBytes (n : UInt64) : (numberBytes n).length = 8 := by
  unfold numberBytes
  rw [List.length_map, List.length_range]

/-- The byte at place `i` is the digit of the number to the base 256. -/
theorem toNat_byte (n : UInt64) {i : Nat} (hi : i < 8) :
    ((n >>> (8 * i).toUInt64).toUInt8).toNat = n.toNat / 2 ^ (8 * i) % 256 := by
  have hshift : (8 * i).toUInt64.toNat = 8 * i := by
    rw [Nat.toUInt64_eq, UInt64.toNat_ofNat']
    omega
  have hlt : 8 * i < 64 := by omega
  rw [UInt64.toNat_toUInt8, UInt64.toNat_shiftRight, Nat.shiftRight_eq_div_pow, hshift,
    Nat.mod_eq_of_lt hlt]

/-- The bytes are the digits, so numbers of the same bytes agree up to every byte. -/
theorem numberBytes_injective {m n : UInt64} (h : numberBytes m = numberBytes n) : m = n := by
  have hmod : ∀ k ≤ 8, m.toNat % 2 ^ (8 * k) = n.toNat % 2 ^ (8 * k) := by
    intro k hk
    induction k with
    | zero => rw [Nat.mul_zero, Nat.pow_zero, Nat.mod_one, Nat.mod_one]
    | succ k ih =>
      have hlt : k < 8 := hk
      have hbyte := List.map_eq_map_iff.1 h k (List.mem_range.2 hlt)
      rw [Nat.mul_succ, Nat.pow_add, Nat.mod_mul, Nat.mod_mul, ih hlt.le]
      show _ + _ * (_ % 256) = _ + _ * (_ % 256)
      rw [← toNat_byte m hlt, ← toNat_byte n hlt, hbyte]
  have hall := hmod 8 le_rfl
  rw [Nat.mod_eq_of_lt m.toNat_lt, Nat.mod_eq_of_lt n.toNat_lt] at hall
  exact UInt64.toNat.inj hall

/-- The value of a node tells its name and its generation. -/
theorem eq_of_valueBytes {n n' : Node} {g g' : UInt64} (h : valueBytes n g = valueBytes n' g') :
    n.text = n'.text ∧ g = g' := by
  unfold valueBytes at h
  obtain ⟨htext, hnumber⟩ := List.append_inj' h (by rw [length_numberBytes, length_numberBytes])
  exact ⟨textBytes_injective htext, numberBytes_injective hnumber⟩

/-- Artifacts have names of their own. -/
theorem eq_of_valueBytes_artifact {path path' : String} {g g' : UInt64}
    (h : valueBytes (.artifact path) g = valueBytes (.artifact path') g') : path = path' ∧ g = g' := by
  obtain ⟨htext, hg⟩ := eq_of_valueBytes h
  exact ⟨(String.append_right_inj "artifact:").1 htext, hg⟩

/-! ### Texts without null characters -/

theorem toList_toUTF8 (s : String) : s.toUTF8.toList = s.toList.flatMap String.utf8EncodeChar := by
  unfold ByteArray.toList
  rw [toList_loop_byteArray, List.reverse_nil, List.nil_append, List.drop_zero]
  show s.toByteArray.data.toList = _
  rw [← String.utf8Encode_toList]
  unfold List.utf8Encode
  rw [List.data_toByteArray]

/-- Only the encoding of the null character has a zero byte. -/
theorem eq_of_zero_mem_utf8EncodeChar {c : Char} (h : 0 ∈ String.utf8EncodeChar c) : c = '\x00' := by
  have hzero : ∀ n : Nat, (0 : UInt8) = UInt8.ofNat n ↔ n % 256 = 0 := by
    intro n
    rw [← UInt8.toNat_inj, UInt8.toNat_ofNat']
    exact eq_comm
  unfold String.utf8EncodeChar at h
  simp only [apply_ite (fun l : List UInt8 => 0 ∈ l), List.mem_cons, List.not_mem_nil, or_false,
    hzero] at h
  -- the first byte of a longer encoding says how long it is, and the others are 128 at least
  have hval : c.val.toNat = 0 := by
    split at h
    · omega
    · split at h
      · omega
      · split at h <;> omega
  exact Char.ext (UInt32.toNat.inj hval)

/-- A text has a zero byte only if it has a null character. -/
theorem zero_notMem_textBytes {s : String} (h : '\x00' ∉ s.toList) : 0 ∉ textBytes s := by
  unfold textBytes
  rw [toList_toUTF8, List.mem_flatMap]
  rintro ⟨c, hc, hzero⟩
  exact h (eq_of_zero_mem_utf8EncodeChar hzero ▸ hc)

/-- The number behind the name of a node ends with a zero byte as long as it is small, and so no text
is hashed like the value of a node. -/
theorem textBytes_ne_valueBytes {s : String} (h : '\x00' ∉ s.toList) (n : Node) :
    textBytes s ≠ valueBytes n 1 := by
  intro he
  refine zero_notMem_textBytes h ?_
  rw [he]
  exact List.mem_append_right _ (by decide)

/-! ### Values -/

/-- The value of a node that has come to a generation. -/
def valueAt (node : Node) (generation : UInt64) : String := Blake3.digest (valueBytes node generation)

/-- No two of some values collide. -/
def Apart (hashed : List (Node × UInt64)) : Prop :=
  ∀ p ∈ hashed, ∀ q ∈ hashed, valueAt p.1 p.2 = valueAt q.1 q.2 →
    valueBytes p.1 p.2 = valueBytes q.1 q.2

/-! ### Completing a node -/

theorem value?_complete (e : Evaluation) (node n : Node) : (e.complete node).value? n =
    if node = n then some (valueAt node (e.generation node + 1)) else e.value? n := by
  unfold value? complete
  rw [Std.ExtTreeMap.getElem?_insert]
  simp only [Std.LawfulEqCmp.compare_eq_iff_eq]
  rfl

theorem generation_complete (e : Evaluation) (node n : Node) :
    (e.complete node).generation n = if node = n then e.generation node + 1 else e.generation n := by
  unfold generation complete
  rw [Std.ExtTreeMap.getElem?_insert]
  simp only [Std.LawfulEqCmp.compare_eq_iff_eq]
  split <;> rfl

end Rewinding.Evaluation
