/-
The written forms of values: plain text for readers, structural text that names the kind, and the
type of a value with those of its items.
-/
import FieldQuery.Double.Text
import FieldQuery.Text.Quoted
import FieldQuery.Value.Basic

namespace FieldQuery

/-- The name of a kind in structural text. -/
def ValueKind.name : ValueKind → String
  | bool => "Bool"
  | char => "Char"
  | float => "Float"
  | int => "Int"
  | list => "List"
  | null => "Null"
  | text => "Text"
  | uint => "Uint"

/-- The name of a family in structural text. -/
def Family.name : Family → String
  | bool => "Bool"
  | collection => "Collection"
  | null => "Null"
  | numeric => "Numeric"
  | textual => "Textual"

/-- A truth value as a word. -/
def boolText (b : Bool) : String := if b then "true" else "false"

namespace Value

mutual

/-- The type of a value; a list shows the types of its items. -/
def typeText : Value → String
  | list items => "list<" ++ ", ".intercalate (typeTexts items) ++ ">"
  | v => v.kind.typeName

/-- The types of a list of values. -/
def typeTexts : List Value → List String
  | [] => []
  | v :: rest => typeText v :: typeTexts rest

end

mutual

/-- The plain text of a value: texts are quoted, characters stand as they are between quotes. -/
def render : Value → String
  | bool b => boolText b
  | char c => String.ofList ['\x27', c, '\x27']
  | float x => DoubleLayout.plain.text x
  | int i => toString i.toInt
  | list items => "[" ++ ", ".intercalate (renderAll items) ++ "]"
  | null => "null"
  | text s => Text.quote s
  | uint n => toString n.toNat

/-- The plain texts of a list of values. -/
def renderAll : List Value → List String
  | [] => []
  | v :: rest => render v :: renderAll rest

end

mutual

/-- The structural text of a value: its kind around its content. -/
def inspect : Value → String
  | bool b => "Bool(" ++ boolText b ++ ")"
  | char c => "Char(" ++ Text.quoteChar c ++ ")"
  | float x => "Float(" ++ DoubleLayout.structural.text x ++ ")"
  | int i => "Int(" ++ toString i.toInt ++ ")"
  | list items => "List([" ++ ", ".intercalate (inspectAll items) ++ "])"
  | null => "Null"
  | text s => "Text(" ++ Text.quote s ++ ")"
  | uint n => "Uint(" ++ toString n.toNat ++ ")"

/-- The structural texts of a list of values. -/
def inspectAll : List Value → List String
  | [] => []
  | v :: rest => inspect v :: inspectAll rest

end

end Value

end FieldQuery
