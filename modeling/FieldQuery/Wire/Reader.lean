/-
The reading of JSON text.
-/
import FieldQuery.Wire.Number

namespace FieldQuery

namespace Json

/-- Blanks between the parts of a document. -/
def isBlank (c : Char) : Bool := c = ' ' || c = '\n' || c = '\t' || c = '\r'

/-- The text after its leading blanks. -/
def skipBlanks (cs : List Char) : List Char := cs.dropWhile isBlank

/-! ## Strings -/

/-- The value of a hexadecimal digit. -/
def hexDigit? (c : Char) : Option Nat :=
  let n := c.toNat
  if 48 ≤ n ∧ n ≤ 57 then some (n - 48)
  else if 65 ≤ n ∧ n ≤ 70 then some (n - 55)
  else if 97 ≤ n ∧ n ≤ 102 then some (n - 87)
  else none

/-- The number of four hexadecimal digits. -/
def hexWord? (a b c d : Char) : Option Nat :=
  match hexDigit? a, hexDigit? b, hexDigit? c, hexDigit? d with
  | some a, some b, some c, some d => some (((a * 16 + b) * 16 + c) * 16 + d)
  | _, _, _, _ => none

/-- The character of a short escape. -/
def shortEscape? (c : Char) : Option Char :=
  if c = '"' ∨ c = '\\' ∨ c = '/' then some c
  else if c = 'n' then some '\n'
  else if c = 'r' then some '\r'
  else if c = 't' then some '\t'
  else if c = 'b' then some (Char.ofNat 8)
  else if c = 'f' then some (Char.ofNat 12)
  else none

/-- Reads a string after its opening quote; `done` holds what was read, last character first, and
`high` the first half of a pair of surrogate escapes. -/
def stringBody? (done : List Char) (high : Option Nat) : List Char → Option (String × List Char)
  | [] => none
  | '"' :: rest => if high.isSome then none else some (String.ofList done.reverse, rest)
  | '\\' :: 'u' :: a :: b :: c :: d :: rest =>
    match hexWord? a b c d, high with
    | none, _ => none
    | some low, some h =>
      if 0xdc00 ≤ low ∧ low ≤ 0xdfff then
        stringBody? (Char.ofNat (0x10000 + (h - 0xd800) * 1024 + (low - 0xdc00)) :: done) none rest
      else none
    | some word, none =>
      if 0xd800 ≤ word ∧ word ≤ 0xdbff then stringBody? done (some word) rest
      else if 0xdc00 ≤ word ∧ word ≤ 0xdfff then none
      else stringBody? (Char.ofNat word :: done) none rest
  | '\\' :: c :: rest =>
    match shortEscape? c, high with
    | some e, none => stringBody? (e :: done) none rest
    | _, _ => none
  | c :: rest =>
    if high.isSome ∨ c.toNat < 32 then none else stringBody? (c :: done) none rest

/-! ## Documents -/

mutual

/-- Reads a document; `fuel` bounds the nesting and the number of parts. -/
def value? : Nat → List Char → Option (Json × List Char)
  | 0, _ => none
  | fuel + 1, cs =>
    match skipBlanks cs with
    | 'n' :: 'u' :: 'l' :: 'l' :: rest => some (null, rest)
    | 't' :: 'r' :: 'u' :: 'e' :: rest => some (bool true, rest)
    | 'f' :: 'a' :: 'l' :: 's' :: 'e' :: rest => some (bool false, rest)
    | '"' :: rest => (stringBody? [] none rest).map fun (s, rest) => (string s, rest)
    | '[' :: rest =>
      match skipBlanks rest with
      | ']' :: rest => some (array [], rest)
      | rest => items? fuel [] rest
    | '\x7b' :: rest =>
      match skipBlanks rest with
      | '\x7d' :: rest => some (object [], rest)
      | rest => members? fuel [] rest
    | '-' :: rest => number? true rest
    | rest => number? false rest

/-- Reads the items of an array up to its end; `done` holds those already read, last one first. -/
def items? : Nat → List Json → List Char → Option (Json × List Char)
  | 0, _, _ => none
  | fuel + 1, done, cs =>
    match value? fuel cs with
    | none => none
    | some (v, rest) =>
      match skipBlanks rest with
      | ',' :: rest => items? fuel (v :: done) rest
      | ']' :: rest => some (array (v :: done).reverse, rest)
      | _ => none

/-- Reads the members of an object up to its end. Of members with one name the last is kept. -/
def members? : Nat → List (String × Json) → List Char → Option (Json × List Char)
  | 0, _, _ => none
  | fuel + 1, done, cs =>
    match skipBlanks cs with
    | '"' :: rest =>
      match stringBody? [] none rest with
      | none => none
      | some (name, rest) =>
        match skipBlanks rest with
        | ':' :: rest =>
          match value? fuel rest with
          | none => none
          | some (v, rest) =>
            match skipBlanks rest with
            | ',' :: rest => members? fuel ((name, v) :: done.filter (·.1 != name)) rest
            | '\x7d' :: rest => some (object ((name, v) :: done.filter (·.1 != name)).reverse, rest)
            | _ => none
        | _ => none
    | _ => none

end

/-- The document of a text with nothing after it. -/
def ofText? (text : String) : Option Json :=
  match value? (2 * text.length + 2) text.toList with
  | some (v, rest) => if (skipBlanks rest).isEmpty then some v else none
  | none => none

end Json

end FieldQuery
