/-
Equal values cannot be told apart. Equality takes floats as numbers: it joins the two zeros, which are two words, and
nothing else. Neither the kind of a value nor its type, nor any comparison with it, sees the sign of a zero.
-/
import FieldQuery.Proofs.Value.Order
import FieldQuery.Value.Text

namespace FieldQuery

/-! ## Floats -/

namespace Double64

theorem equal_iff (x y : Double64) :
    x.equal y = true ↔ (x.isNaN || y.isNaN) = false ∧ x.rank = y.rank := by
  unfold equal compare?
  cases x.isNaN || y.isNaN <;> simp

theorem compare?_of_equal {x y : Double64} (h : x.equal y = true) (z : Double64) : z.compare? x = z.compare? y := by
  obtain ⟨hnumbers, hrank⟩ := (equal_iff x y).1 h
  obtain ⟨hx, hy⟩ := Bool.or_eq_false_iff.1 hnumbers
  unfold compare?
  rw [hx, hy, hrank]

end Double64

namespace Value

/-! ## Kinds and types -/

/-- Outside of floats and lists, equal values are the same value. -/
theorem eq_of_same {v w : Value} (h : v.same w = true) (hfloat : ∀ x, v ≠ float x) (hlist : ∀ items, v ≠ list items) :
    v = w := by
  cases v <;> cases w <;> simp_all [same]

theorem eq_text_of_same {s : String} {w : Value} (h : (text s).same w = true) : w = text s := by
  cases w with
  | text t => exact congrArg text (eq_of_beq h).symm
  | _ => cases h

theorem kind_of_same {v w : Value} (h : v.same w = true) : v.kind = w.kind := by
  cases v <;> cases w <;> first | rfl | cases h

theorem isScalar_of_same {v w : Value} (h : v.same w = true) : v.isScalar = w.isScalar := by
  cases v <;> cases w <;> first | rfl | cases h

mutual

/-- Equal values have one type, with equal types of the items of lists. -/
theorem typeText_of_same : ∀ v w : Value, v.same w = true → v.typeText = w.typeText
  | .float x, w, h => by
    cases w with
    | float y => rfl
    | _ => cases h
  | .list items, w, h => by
    cases w with
    | list items' =>
      unfold typeText
      rw [typeTexts_of_sameList items items' h]
    | _ => cases h
  | .bool _, _, h | .char _, _, h | .int _, _, h | .null, _, h | .text _, _, h | .uint _, _, h => by
    obtain rfl := eq_of_same h nofun nofun
    rfl

theorem typeTexts_of_sameList : ∀ vs ws : List Value, sameList vs ws = true → typeTexts vs = typeTexts ws
  | [], [], _ => rfl
  | [], _ :: _, h => nomatch h
  | _ :: _, [], h => nomatch h
  | v :: vs, w :: ws, h => by
    obtain ⟨hhead, htail⟩ := Bool.and_eq_true_iff.1 h
    unfold typeTexts
    rw [typeText_of_same v w hhead, typeTexts_of_sameList vs ws htail]

end

/-! ## Comparisons -/

/-- Every value compares with two equal values alike. -/
theorem compare?_of_same {v w : Value} (h : v.same w = true) (u : Value) : u.compare? v = u.compare? w := by
  cases v with
  | float x =>
    cases w with
    | float y =>
      rcases hu : u.number? with _ | n
      · cases u <;> simp only [number?, reduceCtorEq] at hu <;> rfl
      · rw [compare?_of_number hu rfl, compare?_of_number hu rfl]
        cases n <;> exact Double64.compare?_of_equal h _
    | _ => cases h
  | list items =>
    cases w with
    | list items' => cases u <;> rfl
    | _ => cases h
  | _ =>
    obtain rfl := eq_of_same h nofun nofun
    rfl

theorem same_widenChar {v w : Value} (h : v.same w = true) : v.widenChar.same w.widenChar = true := by
  cases v with
  | char c =>
    obtain rfl := eq_of_same h nofun nofun
    exact beq_self_eq_true (Int64.ofNat c.toNat)
  | _ => cases w <;> first | exact h | cases h

theorem isEmpty_of_sameList {vs ws : List Value} (h : sameList vs ws = true) : vs.isEmpty = ws.isEmpty := by
  cases vs <;> cases ws <;> first | rfl | cases h

/-- A test that takes equal values alike holds of all or of some items of two equal lists alike. -/
theorem any_of_sameList {p : Value → Bool} (hp : ∀ {v w : Value}, v.same w = true → p v = p w) :
    ∀ {vs ws : List Value}, sameList vs ws = true → vs.any p = ws.any p
  | [], [], _ => rfl
  | v :: vs, w :: ws, h => by
    obtain ⟨hhead, htail⟩ := Bool.and_eq_true_iff.1 h
    rw [List.any_cons, List.any_cons, hp hhead, any_of_sameList hp htail]

theorem all_of_sameList {p : Value → Bool} (hp : ∀ {v w : Value}, v.same w = true → p v = p w) {vs ws : List Value}
    (h : sameList vs ws = true) : vs.all p = ws.all p := by
  rw [List.all_eq_not_any_not, List.all_eq_not_any_not, any_of_sameList (fun hvw => congrArg not (hp hvw)) h]

end Value

end FieldQuery
