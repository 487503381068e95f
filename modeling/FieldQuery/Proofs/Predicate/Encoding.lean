/-
The encoding of conditions can be read back in one way only. Every part of it shows where it ends: a
number has a fixed width, a text and a list say their length first, and the tag of a value or of
operands says what follows. Two conditions with equal bytes therefore ask the same question, as long
as their lengths fit into the four bytes that hold one.
-/
import FieldQuery.Predicate.Fingerprint
import FieldQuery.Proofs.Text.Bytes
import Mathlib.Data.List.Basic

namespace FieldQuery

/-! ## Numbers -/

namespace Sha256

theorem length_bigEndian (count n : Nat) : (bigEndian count n).length = count := by
  induction count with
  | zero => rfl
  | succ count ih => exact congrArg (· + 1) ih

/-- A shift by whole bytes drops the lowest digits to the base 256. -/
theorem shiftRight_bytes (n count : Nat) : n >>> (8 * count) = n / 256 ^ count := by
  rw [Nat.shiftRight_eq_div_pow, Nat.pow_mul]

/-- The bytes of a number determine its remainder. -/
theorem mod_eq_of_bigEndian_eq {count m n : Nat} (h : bigEndian count m = bigEndian count n) :
    m % 256 ^ count = n % 256 ^ count := by
  -- on remainders, since the lower bytes say nothing of the digits above them
  induction count with
  | zero => rw [Nat.pow_zero, Nat.mod_one, Nat.mod_one]
  | succ count ih =>
    obtain ⟨hhead, htail⟩ := List.cons.inj h
    have hdigit : m / 256 ^ count % 256 = n / 256 ^ count % 256 := by
      rw [← shiftRight_bytes, ← shiftRight_bytes]
      simpa using congrArg UInt8.toNat hhead
    rw [Nat.mod_pow_succ, Nat.mod_pow_succ, ih htail, hdigit]

theorem bigEndian_append_inj {count m n : Nat} (hm : m < 256 ^ count) (hn : n < 256 ^ count) {s t : List UInt8}
    (h : bigEndian count m ++ s = bigEndian count n ++ t) : m = n ∧ s = t := by
  have hlength : (bigEndian count m).length = (bigEndian count n).length := by
    rw [length_bigEndian, length_bigEndian]
  obtain ⟨hbytes, hrest⟩ := List.append_inj h hlength
  have hmod := mod_eq_of_bigEndian_eq hbytes
  rw [Nat.mod_eq_of_lt hm, Nat.mod_eq_of_lt hn] at hmod
  exact ⟨hmod, hrest⟩

end Sha256

/-! ## Tags -/

theorem byte_inj {m n : Nat} (hm : m < 256) (hn : n < 256) (h : UInt8.ofNat m = UInt8.ofNat n) : m = n := by
  rw [← UInt8.toNat_ofNat_of_lt' hm, ← UInt8.toNat_ofNat_of_lt' hn, h]

theorem PredicateKind.mem_all (kind : PredicateKind) : kind ∈ all := by
  cases kind with
  | order relation => cases relation <;> decide
  | text anchor folded negated => cases anchor <;> cases folded <;> cases negated <;> decide
  | always truth => cases truth <;> decide
  | null negated | equal negated | equalFolded negated | between negated | member negated | empty negated =>
    cases negated <;> decide

theorem PredicateKind.tag_inj {k l : PredicateKind} (h : k.tag = l.tag) : k = l := by
  have hk : all.idxOf k < 30 := List.idxOf_lt_length_of_mem k.mem_all
  have hl : all.idxOf l < 30 := List.idxOf_lt_length_of_mem l.mem_all
  have hidx := byte_inj (by omega) (by omega) h
  exact (List.idxOf_inj k.mem_all).1 (by omega)

theorem Inclusion.mem_all (i : Inclusion) : i ∈ all := by
  obtain ⟨start, finish⟩ := i
  cases start <;> cases finish <;> decide

theorem Inclusion.tag_inj {i j : Inclusion} (h : i.tag = j.tag) : i = j := by
  have hi : all.idxOf i < 4 := List.idxOf_lt_length_of_mem i.mem_all
  have hj : all.idxOf j < 4 := List.idxOf_lt_length_of_mem j.mem_all
  have hidx := byte_inj (by omega) (by omega) h
  exact (List.idxOf_inj i.mem_all).1 hidx

/-! ## Lengths and texts -/

namespace Encoding

theorem length_utf8 (s : String) : s.toUTF8.toList.length = s.utf8ByteSize := by
  rw [Text.utf8_eq]
  rfl

theorem utf8_inj {s t : String} (h : s.toUTF8.toList = t.toUTF8.toList) : s = t := by
  rw [Text.utf8_eq, Text.utf8_eq] at h
  exact String.toByteArray_inj.1 (ByteArray.ext (Array.toList_inj.1 h))

theorem length_append_inj {m n : Nat} (hm : m < 2 ^ 32) (hn : n < 2 ^ 32) {s t : List UInt8}
    (h : length m ++ s = length n ++ t) : m = n ∧ s = t := by
  unfold length at h
  rw [Nat.min_eq_left (by omega), Nat.min_eq_left (by omega)] at h
  exact Sha256.bigEndian_append_inj hm hn h

theorem text_append_inj {a b : String} (ha : a.utf8ByteSize < 2 ^ 32) (hb : b.utf8ByteSize < 2 ^ 32)
    {s t : List UInt8} (h : text a ++ s = text b ++ t) : a = b ∧ s = t := by
  rw [← length_utf8] at ha hb
  unfold text at h
  dsimp only at h
  rw [List.append_assoc, List.append_assoc] at h
  obtain ⟨hlength, h⟩ := length_append_inj ha hb h
  obtain ⟨hbytes, hrest⟩ := List.append_inj h hlength
  exact ⟨utf8_inj hbytes, hrest⟩

end Encoding

/-! ## Values -/

namespace Value

mutual

/-- The lengths of the texts and lists in a value fit into four bytes. -/
def Fits : Value → Prop
  | text s => s.utf8ByteSize < 2 ^ 32
  | list items => items.length < 2 ^ 32 ∧ AllFit items
  | _ => True

/-- Every value of a list fits. -/
def AllFit : List Value → Prop
  | [] => True
  | v :: rest => v.Fits ∧ AllFit rest

end

end Value

namespace Encoding

open Sha256

theorem value_list_append (items : List Value) (s : List UInt8) :
    value (.list items) ++ s = 0x05 :: (length items.length ++ (values items ++ s)) :=
  congrArg (0x05 :: ·) (List.append_assoc _ _ _)

mutual

/-- The bytes of a value show which value they are and where they end. -/
theorem value_append_inj : ∀ (v w : Value), v.Fits → w.Fits → ∀ {s t : List UInt8},
    value v ++ s = value w ++ t → v = w ∧ s = t
  | .bool a, w, _, _, s, t, h => by
    -- here as below, the tags agree only for values of one kind
    cases w with
    | bool b =>
      obtain ⟨hbit, hrest⟩ := List.cons.inj (List.cons.inj h).2
      refine ⟨?_, hrest⟩
      cases a <;> cases b <;> first | rfl | exact absurd hbit (by decide)
    | _ => exact absurd (List.cons.inj h).1 (by decide)
  | .char c, w, _, _, s, t, h => by
    cases w with
    | char d =>
      obtain ⟨hcode, hrest⟩ := bigEndian_append_inj c.val.toNat_lt d.val.toNat_lt (List.cons.inj h).2
      exact ⟨congrArg Value.char (Char.toNat_inj.1 hcode), hrest⟩
    | _ => exact absurd (List.cons.inj h).1 (by decide)
  | .float x, w, _, _, s, t, h => by
    cases w with
    | float y =>
      obtain ⟨hbits, hrest⟩ := bigEndian_append_inj x.bits.toNat_lt y.bits.toNat_lt (List.cons.inj h).2
      exact ⟨congrArg (fun bits => Value.float ⟨bits⟩) (UInt64.toNat_inj.1 hbits), hrest⟩
    | _ => exact absurd (List.cons.inj h).1 (by decide)
  | .int i, w, _, _, s, t, h => by
    cases w with
    | int j =>
      obtain ⟨hbits, hrest⟩ := bigEndian_append_inj i.toUInt64.toNat_lt j.toUInt64.toNat_lt (List.cons.inj h).2
      exact ⟨congrArg (fun bits => Value.int bits.toInt64) (UInt64.toNat_inj.1 hbits), hrest⟩
    | _ => exact absurd (List.cons.inj h).1 (by decide)
  | .list vs, w, hv, hw, s, t, h => by
    cases w with
    | list ws =>
      rw [value_list_append, value_list_append] at h
      obtain ⟨hlength, h⟩ := length_append_inj hv.1 hw.1 (List.cons.inj h).2
      obtain ⟨hitems, hrest⟩ := values_append_inj vs ws hlength hv.2 hw.2 h
      exact ⟨congrArg Value.list hitems, hrest⟩
    | _ => exact absurd (List.cons.inj h).1 (by decide)
  | .null, w, _, _, s, t, h => by
    cases w with
    | null => exact ⟨rfl, (List.cons.inj h).2⟩
    | _ => exact absurd (List.cons.inj h).1 (by decide)
  | .text a, w, hv, hw, s, t, h => by
    cases w with
    | text b =>
      obtain ⟨htext, hrest⟩ := text_append_inj hv hw (List.cons.inj h).2
      exact ⟨congrArg Value.text htext, hrest⟩
    | _ => exact absurd (List.cons.inj h).1 (by decide)
  | .uint m, w, _, _, s, t, h => by
    cases w with
    | uint n =>
      obtain ⟨hbits, hrest⟩ := bigEndian_append_inj m.toNat_lt n.toNat_lt (List.cons.inj h).2
      exact ⟨congrArg Value.uint (UInt64.toNat_inj.1 hbits), hrest⟩
    | _ => exact absurd (List.cons.inj h).1 (by decide)

/-- The bytes of as many values show which values they are and where they end. -/
theorem values_append_inj : ∀ (vs ws : List Value), vs.length = ws.length →
    Value.AllFit vs → Value.AllFit ws → ∀ {s t : List UInt8}, values vs ++ s = values ws ++ t → vs = ws ∧ s = t
  | [], [], _, _, _, s, t, h => ⟨rfl, h⟩
  | v :: vs, w :: ws, hlength, hv, hw, s, t, h => by
    unfold values at h
    rw [List.append_assoc, List.append_assoc] at h
    obtain ⟨hhead, h⟩ := value_append_inj v w hv.1 hw.1 h
    obtain ⟨htail, hrest⟩ := values_append_inj vs ws (Nat.succ.inj hlength) hv.2 hw.2 h
    exact ⟨by rw [hhead, htail], hrest⟩

end

end Encoding

/-! ## Operands and conditions -/

/-- The lengths in operands fit. -/
def Operands.Fits : Operands → Prop
  | none => True
  | one v => v.Fits
  | two first second => first.Fits ∧ second.Fits

/-- The lengths in the name and the operands of a condition fit. -/
def Condition.Fits (c : Condition) : Prop :=
  c.attr.qualifiedName.utf8ByteSize < 2 ^ 32 ∧ c.operands.Fits

theorem Encoding.operands_two_append (first second : Value) (s : List UInt8) :
    operands (.two first second) ++ s = 0x62 :: (value first ++ (value second ++ s)) :=
  congrArg (0x62 :: ·) (List.append_assoc _ _ _)

theorem Encoding.operands_append_inj {o p : Operands} (ho : o.Fits) (hp : p.Fits) {s t : List UInt8}
    (h : operands o ++ s = operands p ++ t) : o = p ∧ s = t := by
  cases o with
  | none =>
    cases p with
    | none => exact ⟨rfl, (List.cons.inj h).2⟩
    | _ => exact absurd (List.cons.inj h).1 (by decide)
  | one v =>
    cases p with
    | one w =>
      obtain ⟨hvalue, hrest⟩ := value_append_inj v w ho hp (List.cons.inj h).2
      exact ⟨congrArg Operands.one hvalue, hrest⟩
    | _ => exact absurd (List.cons.inj h).1 (by decide)
  | two v v' =>
    cases p with
    | two w w' =>
      rw [operands_two_append, operands_two_append] at h
      obtain ⟨hfirst, h⟩ := value_append_inj v w ho.1 hp.1 (List.cons.inj h).2
      obtain ⟨hsecond, hrest⟩ := value_append_inj v' w' ho.2 hp.2 h
      exact ⟨by rw [hfirst, hsecond], hrest⟩
    | _ => exact absurd (List.cons.inj h).1 (by decide)

theorem Condition.encoding_eq (c : Condition) :
    c.encoding = 0x50 :: (Encoding.text c.attr.qualifiedName ++
      (c.kind.tag :: (Encoding.operands c.operands ++ [c.inclusion.tag]))) :=
  congrArg (0x50 :: ·) (List.append_assoc _ _ _)

theorem Condition.encoding_inj {c d : Condition} (hc : c.Fits) (hd : d.Fits) (h : c.encoding = d.encoding) :
    c.attr.qualifiedName = d.attr.qualifiedName ∧ c.kind = d.kind ∧ c.inclusion = d.inclusion ∧
      c.operands = d.operands := by
  rw [encoding_eq, encoding_eq] at h
  obtain ⟨hname, h⟩ := Encoding.text_append_inj hc.1 hd.1 (List.cons.inj h).2
  obtain ⟨hkind, h⟩ := List.cons.inj h
  obtain ⟨hoperands, hinclusion⟩ := Encoding.operands_append_inj hc.2 hd.2 h
  exact ⟨hname, PredicateKind.tag_inj hkind, Inclusion.tag_inj (List.cons.inj hinclusion).1, hoperands⟩

/-- The encoding is unambiguous, as long as the lengths fit. Equal bytes of two conditions mean the
same qualified name, kind, bounds and operands, floats bit for bit, and no encoding of a value begins
that of another one, whatever follows them. -/
theorem Encoding.unambiguous :
    (∀ c d : Condition, c.Fits → d.Fits → c.encoding = d.encoding →
      c.attr.qualifiedName = d.attr.qualifiedName ∧ c.kind = d.kind ∧ c.inclusion = d.inclusion ∧
        c.operands = d.operands) ∧
    (∀ v w : Value, v.Fits → w.Fits → ∀ s t : List UInt8, value v ++ s = value w ++ t → v = w ∧ s = t) :=
  ⟨fun _ _ hc hd h => Condition.encoding_inj hc hd h, fun v w hv hw _ _ h => value_append_inj v w hv hw h⟩

/-- Two attributes of one qualified name; the encoding cannot tell where the name of the entity ends. -/
theorem Encoding.unambiguous_dotted :
    let operands : Operands := .one (.list [.text "d", .null])
    let c : Condition := ⟨⟨"a", "b.c", .list, none, false⟩, .member false, operands, ⟨true, true⟩⟩
    let d : Condition := ⟨⟨"a.b", "c", .text, none, true⟩, .member false, operands, ⟨true, true⟩⟩
    c.Fits ∧ d.Fits ∧ c.encoding = d.encoding ∧ c.attr.entity ≠ d.attr.entity ∧ c.operands = d.operands := by
  intro operands c d
  have hname : c.attr.qualifiedName = d.attr.qualifiedName := by decide
  have hoperands : operands.Fits := ⟨by decide, (by decide : "d".utf8ByteSize < 2 ^ 32), trivial, trivial⟩
  have hd : d.Fits := ⟨by decide, hoperands⟩
  have hc : c.Fits := ⟨hname ▸ hd.1, hoperands⟩
  have hencoding : c.encoding = d.encoding := by
    unfold Condition.encoding
    rw [hname]
  exact ⟨hc, hd, hencoding, by decide, (Encoding.unambiguous.1 c d hc hd hencoding).2.2.2⟩

end FieldQuery
