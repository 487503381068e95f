/-
The JSON forms of values, of the names of kinds, and of policies. A choice without content is
written as its name and also read from an object with this one name and null.
-/
import FieldQuery.Compile.Policy
import FieldQuery.Value.Text
import FieldQuery.Wire.Reader

namespace FieldQuery

/-! ## Names -/

/-- The choice with a name, among choices written by name. -/
def named? {α : Type} (choices : List α) (name : α → String) (text : String) : Option α :=
  choices.find? (name · == text)

/-- Reads a choice without content. -/
def Json.choice? {α : Type} (choices : List α) (name : α → String) : Json → Option α
  | .string s => named? choices name s
  | .object [(s, .null)] => named? choices name s
  | _ => none

/-- Every kind of value. -/
def ValueKind.all : List ValueKind := [.bool, .char, .float, .int, .list, .null, .text, .uint]

/-- Every family of values. -/
def Family.all : List Family := [.bool, .collection, .null, .numeric, .textual]

/-- The name of a meaning of exclusion. -/
def NotInMode.name : NotInMode → String
  | complement => "complement"
  | backendNegation => "backend_negation"

/-- Every meaning of exclusion. -/
def NotInMode.all : List NotInMode := [.complement, .backendNegation]

/-! ## Values -/

/-- Reads a text of one character. -/
def Json.char? : Json → Option Char
  | .string s => match s.toList with
    | [c] => some c
    | _ => none
  | _ => none

namespace Value

mutual

/-- The JSON form of a value: the name of its kind with the content. -/
def toJson : Value → Json
  | bool b => .object [("Bool", .bool b)]
  | char c => .object [("Char", .string (String.ofList [c]))]
  | float x => .object [("Float", .float x)]
  | int i => .object [("Int", .whole i.toInt)]
  | list items => .object [("List", .array (toJsons items))]
  | null => .string "Null"
  | text s => .object [("Text", .string s)]
  | uint n => .object [("Uint", .whole n.toNat)]

/-- The JSON forms of a list of values. -/
def toJsons : List Value → List Json
  | [] => []
  | v :: rest => toJson v :: toJsons rest

end

/-- Reads the content of a value that is no list. -/
def scalarOfJson? (kind : String) (content : Json) : Option Value :=
  match kind, content with
  | "Bool", .bool b => some (bool b)
  | "Char", c => c.char?.map char
  | "Float", .float x => some (float x)
  | "Float", .whole n => some (float (Double64.ofInt n))
  | "Int", .whole n =>
    if -(2 ^ 63) ≤ n ∧ n < 2 ^ 63 then some (int (Int64.ofInt n)) else none
  | "Null", .null => some null
  | "Text", .string s => some (text s)
  | "Uint", .whole n => if 0 ≤ n ∧ n < 2 ^ 64 then some (uint (UInt64.ofNat n.toNat)) else none
  | _, _ => none

mutual

/-- Reads a value. Integers must be written without fraction and be in range; a float may be any
number. -/
def ofJson? : Json → Option Value
  | .string "Null" => some null
  | .object [(kind, .array items)] =>
    if kind == "List" then (ofJsons? items).map list else none
  | .object [(kind, content)] => scalarOfJson? kind content
  | _ => none

/-- Reads a list of values. -/
def ofJsons? : List Json → Option (List Value)
  | [] => some []
  | v :: rest =>
    match ofJson? v, ofJsons? rest with
    | some v, some vs => some (v :: vs)
    | _, _ => none

end

end Value

/-! ## Policies -/

namespace PolicyDocument

/-- Reads an optional part: a missing one takes the standard value. -/
def part? {α : Type} (standard : α) (read : Json → Option α) : Option Json → Option α
  | none => some standard
  | some v => read v

/-- The parts of a policy document: the members of an object, none of them given twice, or the items of
an array in order. -/
def parts? : Json → Option (Option Json × Option Json)
  | .object members =>
    match Json.single? "not_in" members, Json.single? "like_escape" members with
    | some mode, some escape => some (mode, escape)
    | _, _ => none
  | .array [] => some (none, none)
  | .array [mode] => some (some mode, none)
  | .array [mode, escape] => some (some mode, some escape)
  | _ => none

/-- What a JSON document says of a policy. -/
def ofJson? (document : Json) : Option PolicyDocument :=
  match parts? document with
  | none => none
  | some (mode, escape) =>
    match part? standard.notIn (Json.choice? NotInMode.all NotInMode.name) mode,
        part? standard.likeEscape Json.char? escape with
    | some mode, some escape => some ⟨mode, escape⟩
    | _, _ => none

end PolicyDocument

namespace Policy

/-- The JSON form of a policy. -/
def toJson (p : Policy) : Json :=
  .object [("not_in", .string p.notIn.name), ("like_escape", .string (String.ofList [p.likeEscape]))]

/-- Policies in JSON. -/
def jsonFormat : PolicyFormat Json := ⟨.object, .string, toJson, PolicyDocument.ofJson?⟩

/-- Reads a policy. -/
def ofJson (document : Json) : Except DocumentError Policy := jsonFormat.read document

end Policy

/-! ## Patterns -/

/-- The name of an anchor in JSON. -/
def Text.Anchor.name : Text.Anchor → String
  | head => "Prefix"
  | tail => "Suffix"
  | anywhere => "Infix"

/-- Every anchor. -/
def Text.Anchor.all : List Text.Anchor := [.head, .tail, .anywhere]

/-- The JSON form of a pattern. -/
def LikePattern.toJson (p : LikePattern) : Json :=
  .object [("anchor", .string p.anchor.name), ("needle", .string p.needle),
    ("escape", .string (String.ofList [p.escape]))]

end FieldQuery
