/-
Fingerprints of conditions: a digest of an unambiguous byte encoding of the question.
-/
import FieldQuery.Digest.Sha256
import FieldQuery.Predicate.Basic

namespace FieldQuery

namespace Encoding

/-- A length as four bytes; greater lengths count as the greatest. -/
def length (n : Nat) : List UInt8 := Sha256.bigEndian 4 (min n 0xffffffff)

/-- A text as its length in bytes and its UTF-8 bytes. -/
def text (s : String) : List UInt8 :=
  let bytes := s.toUTF8.toList
  length bytes.length ++ bytes

mutual

/-- A value as a tag for its kind and its content. -/
def value : Value → List UInt8
  | .bool b => [0x01, if b then 1 else 0]
  | .char c => 0x02 :: Sha256.bigEndian 4 c.toNat
  | .float x => 0x03 :: Sha256.bigEndian 8 x.bits.toNat
  | .int i => 0x04 :: Sha256.bigEndian 8 i.toUInt64.toNat
  | .list items => 0x05 :: length items.length ++ values items
  | .null => [0x06]
  | .text s => 0x07 :: text s
  | .uint n => 0x08 :: Sha256.bigEndian 8 n.toNat

/-- A list of values, one after the other. -/
def values : List Value → List UInt8
  | [] => []
  | v :: rest => value v ++ values rest

end

/-- Operands as a tag for their number and the values. -/
def operands : Operands → List UInt8
  | .none => [0x60]
  | .one v => 0x61 :: value v
  | .two a b => 0x62 :: value a ++ value b

end Encoding

namespace Condition

/-- The bytes of a condition: a tag, the qualified name, the kind, the operands and the included
bounds. -/
def encoding (c : Condition) : List UInt8 :=
  0x50 :: Encoding.text c.attr.qualifiedName ++ c.kind.tag :: Encoding.operands c.operands ++
    [c.inclusion.tag]

/-- The fingerprint of a condition. -/
def fingerprint (c : Condition) : List UInt8 := Sha256.digest c.encoding

end Condition

end FieldQuery
