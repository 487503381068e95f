/-
The shapes of streams and the kinds of operations on them.
-/

namespace FieldQuery

/-- What a stream carries: elements of any type, or numbers of one of three widths. -/
inductive StreamShape where
  | elements
  | int
  | long
  | double
deriving DecidableEq, Inhabited

namespace StreamShape

/-- Whether the stream carries numbers. -/
def isPrimitive : StreamShape → Bool
  | elements => false
  | int | long | double => true

/-- The plain text of a shape. -/
def render : StreamShape → String
  | elements => "elements"
  | int => "int"
  | long => "long"
  | double => "double"

/-- The name of a shape in structural text. -/
def name : StreamShape → String
  | elements => "Elements"
  | int => "Int"
  | long => "Long"
  | double => "Double"

end StreamShape

/-- What an operation carries besides its kind. -/
inductive CapabilityClass where
  | none
  | predicate
  | mapper
  | comparator
  | action
  | count
deriving DecidableEq, Inhabited

namespace CapabilityClass

/-- The plain text of a class. -/
def render : CapabilityClass → String
  | none => "none"
  | predicate => "predicate"
  | mapper => "mapper"
  | comparator => "comparator"
  | action => "action"
  | count => "count"

/-- The name of a class in structural text. -/
def name : CapabilityClass → String
  | none => "None"
  | predicate => "Predicate"
  | mapper => "Mapper"
  | comparator => "Comparator"
  | action => "Action"
  | count => "Count"

end CapabilityClass

/-- The kinds of operations on streams. -/
inductive OperationKind where
  | filter
  | map
  | mapToPrimitive
  | flatMap
  | flatMapToPrimitive
  | distinct
  | sorted
  | peek
  | limit
  | skip
  | takeWhile
  | dropWhile
deriving DecidableEq, Inhabited

namespace OperationKind

/-- Every kind. -/
def all : List OperationKind :=
  [filter, map, mapToPrimitive, flatMap, flatMapToPrimitive, distinct, sorted, peek, limit, skip,
    takeWhile, dropWhile]

/-- The plain text of a kind. -/
def render : OperationKind → String
  | filter => "FILTER"
  | map => "MAP"
  | mapToPrimitive => "MAP_TO_PRIMITIVE"
  | flatMap => "FLAT_MAP"
  | flatMapToPrimitive => "FLAT_MAP_TO_PRIMITIVE"
  | distinct => "DISTINCT"
  | sorted => "SORTED"
  | peek => "PEEK"
  | limit => "LIMIT"
  | skip => "SKIP"
  | takeWhile => "TAKE_WHILE"
  | dropWhile => "DROP_WHILE"

/-- The name of a kind in structural text. -/
def name : OperationKind → String
  | filter => "Filter"
  | map => "Map"
  | mapToPrimitive => "MapToPrimitive"
  | flatMap => "FlatMap"
  | flatMapToPrimitive => "FlatMapToPrimitive"
  | distinct => "Distinct"
  | sorted => "Sorted"
  | peek => "Peek"
  | limit => "Limit"
  | skip => "Skip"
  | takeWhile => "TakeWhile"
  | dropWhile => "DropWhile"

/-- The kind with the given plain text. -/
def ofName? (name : String) : Option OperationKind := all.find? (·.render = name)

/-- Whether the stream has the same shape before and after. -/
def preservesShape : OperationKind → Bool
  | map | mapToPrimitive | flatMap | flatMapToPrimitive => false
  | _ => true

/-- Whether the result depends on the order of the elements. -/
def orderSensitive : OperationKind → Bool
  | limit | skip | takeWhile | dropWhile => true
  | _ => false

/-- Whether the operation can end the stream before its source is used up. -/
def shortCircuiting : OperationKind → Bool
  | limit | takeWhile => true
  | _ => false

/-- Whether the operation selects elements one by one. -/
def filterLike : OperationKind → Bool
  | filter => true
  | _ => false

/-- What an operation of this kind carries. -/
def capabilityClass : OperationKind → CapabilityClass
  | filter | takeWhile | dropWhile => .predicate
  | map | mapToPrimitive | flatMap | flatMapToPrimitive => .mapper
  | distinct => .none
  | sorted => .comparator
  | peek => .action
  | limit | skip => .count

/-- Whether an operation of this kind may carry something of a class. A sort may also carry nothing
and follow the natural order. -/
def accepts (kind : OperationKind) (c : CapabilityClass) : Bool :=
  c == kind.capabilityClass || (kind == sorted && c == .none)

/-- Whether an operation of this kind may turn a stream of one shape into one of another. -/
def turns : OperationKind → StreamShape → StreamShape → Bool
  | map, _, output | flatMap, _, output => output == .elements
  | mapToPrimitive, _, output | flatMapToPrimitive, _, output => output.isPrimitive
  | _, input, output => input == output

end OperationKind

end FieldQuery
