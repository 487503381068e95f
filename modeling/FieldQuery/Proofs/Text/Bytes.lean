/-
Texts as bytes. In UTF-8 a greater code point never has smaller bytes: a longer sequence starts with a greater
byte, and two sequences of one length spell the code points in base 64, the first digit first. So texts stand in
one order, whether they are compared by code point or by byte.
-/
import FieldQuery.Proofs.Text.Order
import Mathlib.Tactic.SplitIfs

namespace FieldQuery.Text

/-! ## The bytes of a text -/

theorem toList_loop_eq (bytes : ByteArray) (i : Nat) (done : List UInt8) :
    ByteArray.toList.loop bytes i done = done.reverse ++ bytes.data.toList.drop i := by
  fun_induction ByteArray.toList.loop bytes i done with
  | case1 i done hi ih =>
    have hlt : i < bytes.data.toList.length := hi
    have hget : bytes.get! i = bytes.data.toList[i] := getElem!_pos bytes.data i hi
    rw [ih, List.reverse_cons, List.append_assoc, List.drop_eq_getElem_cons hlt, hget]
    rfl
  | case2 i done hi =>
    rw [List.drop_eq_nil_of_le (Nat.le_of_not_lt hi), List.append_nil]

theorem utf8_eq (s : String) : s.toUTF8.toList = s.toByteArray.data.toList :=
  toList_loop_eq s.toByteArray 0 []

/-- The bytes of a sequence of characters. -/
def encode (cs : List Char) : List UInt8 := cs.flatMap String.utf8EncodeChar

theorem utf8_eq_encode (s : String) : s.toUTF8.toList = encode s.toList := by
  rw [utf8_eq, ← String.utf8Encode_toList]
  exact List.toList_data_toByteArray

/-! ## One character -/

theorem toNat_lt (c : Char) : c.toNat < 0x110000 := by
  have hvalid := c.valid
  simp only [UInt32.isValidChar, Nat.isValidChar] at hvalid
  show c.val.toNat < _
  omega

theorem compare_byte_eq_lt {m n : Nat} (hm : m < 256) (hn : n < 256) :
    Ord.compare (UInt8.ofNat m) (UInt8.ofNat n) = .lt ↔ m < n := by
  rw [Std.compare_eq_lt, UInt8.lt_iff_toNat_lt, UInt8.toNat_ofNat_of_lt' hm, UInt8.toNat_ofNat_of_lt' hn]

theorem compare_byte_eq_eq {m n : Nat} (hm : m < 256) (hn : n < 256) :
    Ord.compare (UInt8.ofNat m) (UInt8.ofNat n) = .eq ↔ m = n := by
  rw [Std.compare_eq_iff_eq, ← UInt8.toNat_inj, UInt8.toNat_ofNat_of_lt' hm, UInt8.toNat_ofNat_of_lt' hn]

/-- A smaller code point has smaller bytes, whatever follows. -/
theorem compare_encodeChar_of_lt {c d : Char} (h : c.toNat < d.toNat) (s t : List UInt8) :
    Ord.compare (String.utf8EncodeChar c ++ s) (String.utf8EncodeChar d ++ t) = .lt := by
  have hbound := toNat_lt d
  have hc : c.val.toNat = c.toNat := rfl
  have hd : d.val.toNat = d.toNat := rfl
  -- the digits one by one, for the relation between them is linear then
  have hdigits : ∀ n < 0x110000, n / 4096 = n / 64 / 64 ∧ n / 262144 % 8 = n / 64 / 64 / 64 := by omega
  obtain ⟨hc₂, hc₃⟩ := hdigits c.toNat (by omega)
  obtain ⟨hd₂, hd₃⟩ := hdigits d.toNat hbound
  unfold String.utf8EncodeChar
  dsimp only
  rw [hc, hd, hc₂, hc₃, hd₂, hd₃]
  -- one case for every pair of lengths; what is left says which byte decides
  split_ifs <;> simp (disch := omega) only [List.cons_append, List.nil_append, List.compare_cons_cons,
    Ordering.then_eq_lt, compare_byte_eq_lt, compare_byte_eq_eq]
  all_goals omega

theorem compare_append (bytes s t : List UInt8) : Ord.compare (bytes ++ s) (bytes ++ t) = Ord.compare s t := by
  induction bytes with
  | nil => rfl
  | cons b bytes ih =>
    rw [List.cons_append, List.cons_append, List.compare_cons_cons, ih, Std.compare_self]
    rfl

theorem compare_encodeChar (c d : Char) (s t : List UInt8) :
    Ord.compare (String.utf8EncodeChar c ++ s) (String.utf8EncodeChar d ++ t) =
      (Ord.compare c.toNat d.toNat).then (Ord.compare s t) := by
  rcases Nat.lt_trichotomy c.toNat d.toNat with hlt | heq | hgt
  · rw [compare_encodeChar_of_lt hlt, Nat.compare_eq_lt.2 hlt]
    rfl
  · rw [Char.toNat_inj.1 heq, compare_append, Nat.compare_eq_eq.2 rfl]
    rfl
  · rw [Std.OrientedOrd.eq_swap, compare_encodeChar_of_lt hgt, Nat.compare_eq_gt.2 hgt]
    rfl

/-! ## One order -/

theorem compare_encode_nil (c : Char) (cs : List Char) : Ord.compare (encode []) (encode (c :: cs)) = .lt := by
  obtain ⟨byte, rest, h⟩ := List.exists_cons_of_ne_nil (String.utf8EncodeChar_ne_nil (c := c))
  rw [encode, encode, List.flatMap_cons, h]
  rfl

theorem compareChars_eq_compare_encode : ∀ as bs : List Char,
    compareChars as bs = Ord.compare (encode as) (encode bs)
  | [], [] => rfl
  | [], b :: bs => (compare_encode_nil b bs).symm
  | a :: as, [] => by
    rw [Std.OrientedOrd.eq_swap, compare_encode_nil]
    rfl
  | a :: as, b :: bs => by
    rw [compareChars, compareChars_eq_compare_encode as bs]
    exact (compare_encodeChar a b (encode as) (encode bs)).symm

/-- The order of texts is the lexicographic order of their bytes. -/
theorem compare_eq_utf8 (s t : String) : compare s t = Ord.compare s.toUTF8.toList t.toUTF8.toList := by
  rw [utf8_eq_encode, utf8_eq_encode]
  exact compareChars_eq_compare_encode s.toList t.toList

/-- The order of texts is the lexicographic order of their code points. -/
theorem compare_eq_codePoints (s t : String) :
    compare s t = Ord.compare (s.toList.map Char.toNat) (t.toList.map Char.toNat) := by
  unfold compare
  rw [compareChars_eq_compareLex]
  generalize s.toList = as, t.toList = bs
  induction as generalizing bs with
  | nil => cases bs <;> rfl
  | cons a as ih =>
    cases bs with
    | nil => rfl
    | cons b bs =>
      rw [List.compareLex_cons_cons, ih, List.map_cons, List.map_cons, List.compare_cons_cons]
      rfl

end FieldQuery.Text
