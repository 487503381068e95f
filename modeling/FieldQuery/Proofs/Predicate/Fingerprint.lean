/-
Which equal conditions have equal bytes. Equality takes floats as numbers, the encoding takes them as
words, and the two part only at zero, which has one word for each sign. Equal conditions therefore
have encodings of one length, and equal ones exactly when the zeros in their operands have the same
signs; with equal bytes their fingerprints are equal.
-/
import FieldQuery.Proofs.Double.TotalOrder
import FieldQuery.Proofs.Predicate.Check
import FieldQuery.Proofs.Predicate.Encoding
import FieldQuery.Proofs.Value.Equality

namespace FieldQuery

/-! ## Signs of zeros -/

namespace Double64

/-- The sign of a zero; other numbers, whose sign equality sees, have none here. -/
def zeroSigns (x : Double64) : List Bool := if x.isZero then [x.negative] else []

theorem magnitude_eq_of_equal {x y : Double64} (h : x.equal y = true) : x.magnitude = y.magnitude := by
  have hrank := ((equal_iff x y).1 h).2
  unfold rank at hrank
  split at hrank <;> split at hrank <;> omega

theorem negative_eq_of_equal {x y : Double64} (h : x.equal y = true) (hzero : x.isZero = false) :
    x.negative = y.negative := by
  have hrank := ((equal_iff x y).1 h).2
  have hmagnitude := magnitude_eq_of_equal h
  have hne : x.magnitude ≠ 0 := of_decide_eq_false hzero
  unfold rank at hrank
  cases hx : x.negative <;> cases hy : y.negative <;> simp [hx, hy] at hrank ⊢ <;> omega

theorem zeroSigns_length_eq {x y : Double64} (h : x.equal y = true) :
    x.zeroSigns.length = y.zeroSigns.length := by
  unfold zeroSigns isZero
  rw [magnitude_eq_of_equal h]
  split <;> rfl

/-- Equal numbers are one word unless they are zeros of different signs. -/
theorem eq_iff_zeroSigns_eq {x y : Double64} (h : x.equal y = true) : x = y ↔ x.zeroSigns = y.zeroSigns := by
  have hmagnitude := magnitude_eq_of_equal h
  have hzero : y.isZero = x.isZero := by unfold isZero; rw [hmagnitude]
  constructor
  · rintro rfl
    rfl
  · intro hsigns
    refine eq_of_fields ?_ hmagnitude
    unfold zeroSigns at hsigns
    rw [hzero] at hsigns
    cases hx : x.isZero with
    | false => exact negative_eq_of_equal h hx
    | true => simpa [hx] using hsigns

end Double64

namespace Value

mutual

/-- The signs of the zeros among the floats of a value, from left to right. -/
def zeroSigns : Value → List Bool
  | float x => x.zeroSigns
  | list items => zeroSignsAll items
  | _ => []

/-- The signs of the zeros of a list of values. -/
def zeroSignsAll : List Value → List Bool
  | [] => []
  | v :: rest => zeroSigns v ++ zeroSignsAll rest

end

end Value

/-- The signs of the zeros in operands. -/
def Operands.zeroSigns : Operands → List Bool
  | none => []
  | one v => v.zeroSigns
  | two first second => first.zeroSigns ++ second.zeroSigns

/-! ## Bytes of equal parts -/

namespace Encoding

/-- Bytes of two equal parts beside the signs of their zeros: both pairs of one length, and the bytes
equal exactly when the signs are. -/
structure Matched (bytes bytes' : List UInt8) (signs signs' : List Bool) : Prop where
  length_bytes : bytes.length = bytes'.length
  length_signs : signs.length = signs'.length
  bytes_eq_iff : bytes = bytes' ↔ signs = signs'

namespace Matched

theorem refl (bytes : List UInt8) : Matched bytes bytes [] [] :=
  ⟨rfl, rfl, iff_of_true rfl rfl⟩

theorem append {b b' c c' : List UInt8} {s s' t t' : List Bool} (h : Matched b b' s s') (h' : Matched c c' t t') :
    Matched (b ++ c) (b' ++ c') (s ++ t) (s' ++ t') where
  length_bytes := by rw [List.length_append, List.length_append, h.length_bytes, h'.length_bytes]
  length_signs := by rw [List.length_append, List.length_append, h.length_signs, h'.length_signs]
  bytes_eq_iff := by
    rw [List.append_eq_append_iff_of_size_eq_left h.length_bytes,
      List.append_eq_append_iff_of_size_eq_left h.length_signs, h.bytes_eq_iff, h'.bytes_eq_iff]

end Matched

theorem matched_float {x y : Double64} (h : x.equal y = true) :
    Matched (value (.float x)) (value (.float y)) x.zeroSigns y.zeroSigns where
  length_bytes := by unfold value; simp only [List.length_cons, Sha256.length_bigEndian]
  length_signs := Double64.zeroSigns_length_eq h
  bytes_eq_iff := by
    rw [← Double64.eq_iff_zeroSigns_eq h]
    constructor
    · intro hbytes
      have hvalue := (value_append_inj (.float x) (.float y) trivial trivial (congrArg (· ++ []) hbytes)).1
      exact Value.float.inj hvalue
    · rintro rfl
      rfl

mutual

/-- Equal values have equal bytes when their zeros have the same signs. -/
theorem matched_value : ∀ v w : Value, v.same w = true → Matched (value v) (value w) v.zeroSigns w.zeroSigns
  | .float x, w, h => by
    cases w with
    | float y => exact matched_float h
    | _ => cases h
  | .list items, w, h => by
    cases w with
    | list items' =>
      obtain ⟨hlength, hitems⟩ := matched_values items items' h
      have hhead := Matched.refl (0x05 :: length items.length)
      have := hhead.append hitems
      unfold value
      rw [← hlength]
      exact this
    | _ => cases h
  | .bool _, _, h | .char _, _, h | .int _, _, h | .null, _, h | .text _, _, h | .uint _, _, h => by
    obtain rfl := Value.eq_of_same h nofun nofun
    exact .refl _

/-- Equal lists are of one length, and their items match one by one. -/
theorem matched_values : ∀ vs ws : List Value, Value.sameList vs ws = true →
    vs.length = ws.length ∧ Matched (values vs) (values ws) (Value.zeroSignsAll vs) (Value.zeroSignsAll ws)
  | [], [], _ => ⟨rfl, .refl []⟩
  | [], _ :: _, h => nomatch h
  | _ :: _, [], h => nomatch h
  | v :: vs, w :: ws, h => by
    obtain ⟨hhead, htail⟩ := Bool.and_eq_true_iff.1 h
    obtain ⟨hlength, hrest⟩ := matched_values vs ws htail
    exact ⟨congrArg (· + 1) hlength, (matched_value v w hhead).append hrest⟩

end

theorem matched_operands {o p : Operands} (h : o.same p = true) :
    Matched (operands o) (operands p) o.zeroSigns p.zeroSigns := by
  cases o with
  | none =>
    cases p with
    | none => exact .refl _
    | _ => cases h
  | one v =>
    cases p with
    | one w => exact (Matched.refl [0x61]).append (matched_value v w h)
    | _ => cases h
  | two v v' =>
    cases p with
    | two w w' =>
      obtain ⟨hfirst, hsecond⟩ := Bool.and_eq_true_iff.1 h
      exact (Matched.refl [0x62]).append ((matched_value v w hfirst).append (matched_value v' w' hsecond))
    | _ => cases h

end Encoding

/-! ## Equal conditions -/

namespace Condition

theorem qualifiedName_eq_of_same {a b : Attribute} (h : a.same b = true) : a.qualifiedName = b.qualifiedName := by
  unfold Attribute.same at h
  simp only [Bool.and_eq_true, beq_iff_eq] at h
  obtain ⟨⟨⟨hentity, hcolumn⟩, -⟩, -⟩ := h
  unfold Attribute.qualifiedName
  rw [hentity, hcolumn]

theorem matched_encoding {c d : Condition} (h : (c == d) = true) :
    Encoding.Matched c.encoding d.encoding c.operands.zeroSigns d.operands.zeroSigns := by
  obtain ⟨hattr, hkind, hoperands, hinclusion⟩ := same_iff.1 h
  have hhead := Encoding.Matched.refl (0x50 :: (Encoding.text c.attr.qualifiedName ++ [c.kind.tag]))
  have hall := (hhead.append (Encoding.matched_operands hoperands)).append (.refl [c.inclusion.tag])
  rw [encoding_eq, encoding_eq, ← qualifiedName_eq_of_same hattr, ← hkind, ← hinclusion]
  simpa using hall

/-- Equal conditions have equal bytes exactly when the zeros in their operands have the same signs,
and then equal fingerprints. -/
theorem encoding_eq_iff_zeroSigns_eq {c d : Condition} (h : (c == d) = true) :
    (c.encoding = d.encoding ↔ c.operands.zeroSigns = d.operands.zeroSigns) ∧
      (c.operands.zeroSigns = d.operands.zeroSigns → c.fingerprint = d.fingerprint) := by
  have hbytes := (matched_encoding h).bytes_eq_iff
  exact ⟨hbytes, fun hsigns => congrArg Sha256.digest (hbytes.2 hsigns)⟩

/-- The list of a positive zero and the list of a negative one are equal operands of unequal bytes. -/
theorem encoding_zero_listed :
    let attr : Attribute := ⟨"person", "score", .float, none, false⟩
    let c : Condition := ⟨attr, .member true, .one (.list [.int 1, .float ⟨0⟩]), ⟨true, true⟩⟩
    let d : Condition := ⟨attr, .member true, .one (.list [.int 1, .float ⟨0x8000000000000000⟩]), ⟨true, true⟩⟩
    (c == d) = true ∧ c.encoding ≠ d.encoding := by
  intro attr c d
  have hequal : (c == d) = true := by decide
  have hsigns : c.operands.zeroSigns ≠ d.operands.zeroSigns := by decide
  exact ⟨hequal, fun hbytes => hsigns ((encoding_eq_iff_zeroSigns_eq hequal).1.1 hbytes)⟩

/-- Being equal to positive zero and being equal to negative zero are one question with two
fingerprints. -/
theorem fingerprint_zero_signed :
    let attr : Attribute := ⟨"person", "score", .float, none, false⟩
    let c : Condition := ⟨attr, .equal false, .one (.float ⟨0⟩), ⟨true, true⟩⟩
    let d : Condition := ⟨attr, .equal false, .one (.float ⟨0x8000000000000000⟩), ⟨true, true⟩⟩
    (c == d) = true ∧ c.encoding ≠ d.encoding ∧ c.fingerprint ≠ d.fingerprint := by
  decide +kernel

end Condition

end FieldQuery
