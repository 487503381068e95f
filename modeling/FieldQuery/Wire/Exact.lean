/-
The exact JSON forms of values and clauses. No digit and no bit is lost: integers are written as
decimal texts, and floats as their words.
-/
import FieldQuery.Search.Eval
import FieldQuery.Wire.Codec

namespace FieldQuery

/-! ## Numbers -/

namespace Double64

/-- The word of a float in sixteen hexadecimal digits. -/
def wordText (x : Double64) : String :=
  let digits := Nat.toDigits 16 x.bits.toNat
  String.ofList (List.replicate (16 - digits.length) '0' ++ digits)

/-- Reads a word after its mark `0x`. -/
def ofWord? (s : String) : Option Double64 :=
  match s.toList with
  | '0' :: 'x' :: digits =>
    (digits.mapM Json.hexDigit?).map fun ds => ⟨UInt64.ofNat (ds.foldl (fun n d => n * 16 + d) 0)⟩
  | _ => none

end Double64

namespace Json

/-- The word of a float with its mark. -/
def ofDouble (x : Double64) : Json := .string ("0x" ++ x.wordText)

/-- Reads the word of a float. -/
def double? : Json → Option Double64
  | .string s => Double64.ofWord? s
  | _ => none

/-- An integer as decimal text. -/
def ofInt (n : Int) : Json := .string (toString n)

/-- Reads an integer from decimal text. -/
def int? : Json → Option Int
  | .string s => s.toInt?
  | _ => none

/-- A character as a text of its own. -/
def ofChar (c : Char) : Json := .string (String.ofList [c])

end Json

/-! ## Values -/

namespace Value

mutual

/-- The exact form of a value. -/
def toExact : Value → Json
  | bool b => .object [("Bool", .bool b)]
  | char c => .object [("Char", Json.ofChar c)]
  | float x => .object [("Float", Json.ofDouble x)]
  | int i => .object [("Int", Json.ofInt i.toInt)]
  | list items => .object [("List", .array (toExacts items))]
  | null => .string "Null"
  | text s => .object [("Text", .string s)]
  | uint n => .object [("Uint", Json.ofInt n.toNat)]

/-- The exact forms of a list of values. -/
def toExacts : List Value → List Json
  | [] => []
  | v :: rest => toExact v :: toExacts rest

end

mutual

/-- Reads the exact form of a value. -/
def ofExact? : Json → Option Value
  | .string "Null" => some null
  | .object [("Bool", .bool b)] => some (bool b)
  | .object [("Char", c)] => c.char?.map char
  | .object [("Float", x)] => x.double?.map float
  | .object [("Int", n)] => n.int?.map fun n => int (Int64.ofInt n)
  | .object [("List", .array items)] => (ofExacts? items).map list
  | .object [("Text", .string s)] => some (text s)
  | .object [("Uint", n)] => n.int?.map fun n => uint (UInt64.ofNat n.toNat)
  | _ => none

/-- Reads the exact forms of a list of values. -/
def ofExacts? : List Json → Option (List Value)
  | [] => some []
  | v :: rest =>
    match ofExact? v, ofExacts? rest with
    | some v, some vs => some (v :: vs)
    | _, _ => none

end

end Value

/-! ## Clauses -/

/-- The name of a comparison. -/
def CompareOp.name : CompareOp → String
  | eq => "Eq"
  | ne => "Ne"
  | lt => "Lt"
  | le => "Le"
  | gt => "Gt"
  | ge => "Ge"

/-- Every comparison. -/
def CompareOp.all : List CompareOp := [.eq, .ne, .lt, .le, .gt, .ge]

/-- Reads a pattern. -/
def LikePattern.ofJson? (j : Json) : Option LikePattern :=
  match j.member? "anchor", j.member? "needle", (j.member? "escape").bind Json.char? with
  | some (.string anchor), some (.string needle), some escape =>
    (named? Text.Anchor.all Text.Anchor.name anchor).map fun a => ⟨a, needle, escape⟩
  | _, _, _ => none

/-- The exact form of a term: its name and its parts. -/
def Term.toExact : Term → Json
  | column name => .array [.string "col", .string name]
  | literal v => .array [.string "lit", v.toExact]
  | lower t => .array [.string "lower", t.toExact]

/-- Reads the exact form of a term. -/
def Term.ofExact? : Json → Option Term
  | .array [.string "col", .string name] => some (column name)
  | .array [.string "lit", v] => (Value.ofExact? v).map literal
  | .array [.string "lower", t] => (Term.ofExact? t).map lower
  | _ => none

namespace Clause

/-- The exact form of a clause: its name and its parts. -/
def toExact : Clause → Json
  | isTrue t => .array [.string "is_true", t.toExact]
  | isFalse t => .array [.string "is_false", t.toExact]
  | isNull t => .array [.string "is_null", t.toExact]
  | isNotNull t => .array [.string "is_not_null", t.toExact]
  | compare a op b => .array [.string "compare", a.toExact, .string op.name, b.toExact]
  | like t p negated => .array [.string "like", t.toExact, p.toJson, .bool negated]
  | inList t vs => .array [.string "in", t.toExact, .array (Value.toExacts vs)]
  | and a b => .array [.string "and", a.toExact, b.toExact]
  | or a b => .array [.string "or", a.toExact, b.toExact]
  | not a => .array [.string "not", a.toExact]

/-- Reads the exact form of a clause. -/
def ofExact? : Json → Option Clause
  | .array [.string "is_true", t] => (Term.ofExact? t).map isTrue
  | .array [.string "is_false", t] => (Term.ofExact? t).map isFalse
  | .array [.string "is_null", t] => (Term.ofExact? t).map isNull
  | .array [.string "is_not_null", t] => (Term.ofExact? t).map isNotNull
  | .array [.string "compare", a, .string op, b] =>
    match Term.ofExact? a, named? CompareOp.all CompareOp.name op, Term.ofExact? b with
    | some a, some op, some b => some (compare a op b)
    | _, _, _ => none
  | .array [.string "like", t, p, .bool negated] =>
    match Term.ofExact? t, LikePattern.ofJson? p with
    | some t, some p => some (like t p negated)
    | _, _ => none
  | .array [.string "in", t, .array vs] =>
    match Term.ofExact? t, Value.ofExacts? vs with
    | some t, some vs => some (inList t vs)
    | _, _ => none
  | .array [.string "and", a, b] =>
    match ofExact? a, ofExact? b with
    | some a, some b => some (and a b)
    | _, _ => none
  | .array [.string "or", a, b] =>
    match ofExact? a, ofExact? b with
    | some a, some b => some (or a b)
    | _, _ => none
  | .array [.string "not", a] => (ofExact? a).map not
  | _ => none

end Clause

end FieldQuery
