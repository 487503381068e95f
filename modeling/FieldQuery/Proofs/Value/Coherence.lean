/-
The order of values is coherent. A comparison seen from the other side gives the reversed ordering, also between a
whole number and a float, and what compares is told by the two values alone. Integers and characters compare as the
whole numbers they denote, whatever their kinds, so on them the order is total and "equal" is an equivalence. Texts
stand in the order of their code points, which is that of their bytes.
-/
import FieldQuery.Proofs.Text.Bytes
import FieldQuery.Proofs.Value.Order

namespace FieldQuery

/-! ## The other side -/

theorem Double64.compare?_swap (x y : Double64) : y.compare? x = (x.compare? y).map Ordering.swap := by
  unfold compare?
  rw [Bool.or_comm, ← Int.compare_swap x.rank]
  split <;> rfl

theorem Number.compare?_swap (x y : Number) : y.compare? x = (x.compare? y).map Ordering.swap := by
  cases x with
  | float a => cases y <;> exact Double64.compare?_swap _ _
  | whole m =>
    cases y with
    | float b => exact Double64.compare?_swap _ _
    | whole n => exact congrArg some (Int.compare_swap m n).symm

namespace Value

theorem compare?_swap_of_not_number {a b : Value} (h : a.number? = none ∨ b.number? = none) :
    b.compare? a = (a.compare? b).map Ordering.swap := by
  cases a with
  | bool s =>
    cases b with
    | bool t => exact congrArg some (Nat.compare_swap s.toNat t.toNat).symm
    | _ => rfl
  | text s =>
    cases b with
    | text t => exact congrArg some Std.OrientedCmp.eq_swap
    | _ => rfl
  | null | list => cases b <;> rfl
  | char | float | int | uint =>
    cases b with
    | char | float | int | uint => simp [number?] at h
    | _ => rfl

/-- The comparison from the other side is the reversed one, and missing where that is. -/
theorem compare?_swap (a b : Value) : b.compare? a = (a.compare? b).map Ordering.swap := by
  rcases hx : a.number? with _ | x
  · exact compare?_swap_of_not_number (.inl hx)
  rcases hy : b.number? with _ | y
  · exact compare?_swap_of_not_number (.inr hy)
  rw [compare?_of_number hx hy, compare?_of_number hy hx, Number.compare?_swap]

/-! ## What compares -/

/-- Whether the value is the float NaN. -/
def isNaN : Value → Bool
  | float x => x.isNaN
  | _ => false

theorem scale?_eq_some_iff (v : Value) (scale : Family) : v.scale? = some scale ↔
    (scale = .bool ∧ ∃ s, v = bool s) ∨ (scale = .textual ∧ ∃ s, v = text s) ∨
      (scale = .numeric ∧ v.family = .numeric ∧ v.isNaN = false) := by
  cases v <;> cases scale <;> simp [scale?, family, kind, ValueKind.family, isNaN]

/-- Two values compare if they are truth values, texts, or numbers other than NaN. -/
theorem isSome_compare?_iff_kinds (a b : Value) : (a.compare? b).isSome ↔
    (∃ s t, a = bool s ∧ b = bool t) ∨ (∃ s t, a = text s ∧ b = text t) ∨
      (a.family = .numeric ∧ b.family = .numeric ∧ a.isNaN = false ∧ b.isNaN = false) := by
  rw [isSome_compare?_iff]
  simp only [scale?_eq_some_iff]
  constructor
  · rintro ⟨scale, ⟨rfl, s, rfl⟩ | ⟨rfl, s, rfl⟩ | ⟨rfl, ha, hnumber⟩, hb⟩
    · obtain ⟨t, rfl⟩ : ∃ t, b = bool t := by simpa using hb
      exact .inl ⟨s, t, rfl, rfl⟩
    · obtain ⟨t, rfl⟩ : ∃ t, b = text t := by simpa using hb
      exact .inr (.inl ⟨s, t, rfl, rfl⟩)
    · obtain ⟨hb, hother⟩ : b.family = .numeric ∧ b.isNaN = false := by simpa using hb
      exact .inr (.inr ⟨ha, hb, hnumber, hother⟩)
  · rintro (⟨s, t, rfl, rfl⟩ | ⟨s, t, rfl, rfl⟩ | ⟨ha, hb, hnumber, hother⟩)
    · exact ⟨.bool, by simp, by simp⟩
    · exact ⟨.textual, by simp, by simp⟩
    · exact ⟨.numeric, by simp [ha, hnumber], by simp [hb, hother]⟩

/-! ## Whole numbers -/

/-- The whole number that an integer or a character denotes. -/
def whole? : Value → Option Int
  | char c => some c.toNat
  | int i => some i.toInt
  | uint n => some n.toNat
  | _ => none

theorem number?_of_whole {v : Value} {n : Int} (h : v.whole? = some n) : v.number? = some (.whole n) := by
  cases v <;> simp only [whole?, Option.some.injEq, reduceCtorEq] at h <;> subst h <;> rfl

/-- Whole numbers compare as integers, without rounding. -/
theorem compare?_of_whole {a b : Value} {m n : Int} (ha : a.whole? = some m) (hb : b.whole? = some n) :
    a.compare? b = some (compare m n) :=
  compare?_of_number (number?_of_whole ha) (number?_of_whole hb)

/-- The order is total on the values with a property: they all compare, an ordering that holds twice in a row holds
from the first value to the last, and "equal" is an equivalence. -/
structure TotalOn (p : Value → Prop) : Prop where
  total : ∀ {a b}, p a → p b → (a.compare? b).isSome
  trans : ∀ {a b c o}, p a → p b → p c → a.compare? b = some o → b.compare? c = some o → a.compare? c = some o
  equal : Equivalence fun a b : { v : Value // p v } => a.1.compare? b.1 = some .eq

theorem totalOn_whole : TotalOn fun v => v.whole?.isSome := by
  have htrans : ∀ {a b c : Value} {o : Ordering}, a.whole?.isSome → b.whole?.isSome → c.whole?.isSome →
      a.compare? b = some o → b.compare? c = some o → a.compare? c = some o := by
    intro a b c o ha hb hc hab hbc
    obtain ⟨m, hm⟩ := Option.isSome_iff_exists.1 ha
    obtain ⟨n, hn⟩ := Option.isSome_iff_exists.1 hb
    obtain ⟨k, hk⟩ := Option.isSome_iff_exists.1 hc
    rw [compare?_of_whole hm hn, Option.some.injEq] at hab
    rw [compare?_of_whole hn hk, Option.some.injEq] at hbc
    rw [compare?_of_whole hm hk, Option.some.injEq]
    cases o with
    | lt => exact Std.TransCmp.lt_trans hab hbc
    | eq => exact Std.TransCmp.eq_trans hab hbc
    | gt => exact Std.TransCmp.gt_trans hab hbc
  refine ⟨?_, htrans, ?_, ?_, ?_⟩
  · intro a b ha hb
    obtain ⟨m, hm⟩ := Option.isSome_iff_exists.1 ha
    obtain ⟨n, hn⟩ := Option.isSome_iff_exists.1 hb
    rw [compare?_of_whole hm hn]
    rfl
  · rintro ⟨a, ha⟩
    obtain ⟨m, hm⟩ := Option.isSome_iff_exists.1 ha
    exact (compare?_of_whole hm hm).trans (congrArg some Std.ReflCmp.compare_self)
  · rintro ⟨a, _⟩ ⟨b, _⟩ hab
    exact (compare?_swap a b).trans (congrArg (Option.map Ordering.swap) hab)
  · rintro ⟨a, ha⟩ ⟨b, hb⟩ ⟨c, hc⟩ hab hbc
    exact htrans ha hb hc hab hbc

/-! ## Coherence -/

/-- The order of values is one order seen from both sides. It places two truth values, two texts, or two numbers of
which neither is NaN. Integers and characters stand in it as the whole numbers they denote, from the least signed to
the greatest unsigned one, and there it is total. Texts stand in lexicographic order by code point and by byte. -/
theorem compare?_coherent :
    (∀ a b : Value, b.compare? a = (a.compare? b).map Ordering.swap) ∧
    (∀ a b : Value, (a.compare? b).isSome ↔
      (∃ s t, a = bool s ∧ b = bool t) ∨ (∃ s t, a = text s ∧ b = text t) ∨
        (a.family = .numeric ∧ b.family = .numeric ∧ a.isNaN = false ∧ b.isNaN = false)) ∧
    (∀ (a b : Value) (m n : Int), a.whole? = some m → b.whole? = some n → a.compare? b = some (compare m n)) ∧
    (TotalOn fun v => v.whole?.isSome) ∧
    ∀ s t : String,
      (text s).compare? (text t) = some (compare (s.toList.map Char.toNat) (t.toList.map Char.toNat)) ∧
      (text s).compare? (text t) = some (compare s.toUTF8.toList t.toUTF8.toList) := by
  refine ⟨compare?_swap, isSome_compare?_iff_kinds, ?_, totalOn_whole, ?_⟩
  · intro a b m n ha hb
    exact compare?_of_whole ha hb
  · intro s t
    constructor
    · exact congrArg some (Text.compare_eq_codePoints s t)
    · exact congrArg some (Text.compare_eq_utf8 s t)

/-- The last character stands between the least signed and the greatest unsigned integer, whatever the width of the
three. -/
theorem compare?_coherent_extremes :
    let least : Value := .int (-9223372036854775808)
    let last : Value := .char (Char.ofNat 0x10ffff)
    let greatest : Value := .uint 18446744073709551615
    least.whole? = some (-2 ^ 63) ∧ last.whole? = some 0x10ffff ∧ greatest.whole? = some (2 ^ 64 - 1) ∧
      least.compare? last = some .lt ∧ last.compare? greatest = some .lt ∧ least.compare? greatest = some .lt := by
  intro least last greatest
  have hleast : least.whole? = some (-2 ^ 63) := by decide
  have hlast : last.whole? = some 0x10ffff := by decide
  have hgreatest : greatest.whole? = some (2 ^ 64 - 1) := by decide
  obtain ⟨-, -, hwhole, horder, -⟩ := compare?_coherent
  have hbelow : least.compare? last = some .lt := hwhole least last _ _ hleast hlast
  have habove : last.compare? greatest = some .lt := hwhole last greatest _ _ hlast hgreatest
  exact ⟨hleast, hlast, hgreatest, hbelow, habove, horder.trans rfl rfl rfl hbelow habove⟩

end Value

end FieldQuery
