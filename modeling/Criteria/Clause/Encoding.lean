/-
Module: Criteria.Clause.Encoding
Purpose: The tagged byte encoding of conditions and the fingerprint taken from it.
Main exports:
  Clause.encode, Operand.encode, Predicate.encode, Clause.fingerprint, Fingerprint
-/
import Criteria.Clause.Basic
import Criteria.Digest.Sha256

namespace Criteria

/-- The last bytes of a number, most significant first, as many as the width says. -/
def bigEndian : Nat → Nat → List UInt8
  | 0, _ => []
  | width + 1, n => bigEndian width (n / 256) ++ [UInt8.ofNat n]

/-- A count in four bytes. -/
def encodeCount (count : Nat) : List UInt8 :=
  bigEndian 4 count

/-- An integer in eight bytes, negative ones in two's complement. -/
def encodeInteger (n : Int) : List UInt8 :=
  bigEndian 8 (n % 18446744073709551616).toNat

/-- The UTF-8 form of a text. -/
def utf8Bytes (text : String) : List UInt8 :=
  text.toUTF8.data.toList

/-- A text: the number of its bytes, then the bytes. -/
def encodeText (text : String) : List UInt8 :=
  encodeCount (utf8Bytes text).length ++ utf8Bytes text

/-- A value: its kind, then its content. A date counts in whole seconds. -/
def Value.encode : Value → List UInt8
  | .text content => 0x40 :: encodeText content
  | .number n => 0x41 :: encodeInteger n.toInt
  | .date moment => 0x42 :: encodeInteger moment.timestamp

mutual

/-- An operand: its kind, then its content. -/
def Operand.encode : Operand → List UInt8
  | .value content => 0x30 :: content.encode
  | .list items => 0x31 :: encodeCount items.length ++ Operand.encodeList items
  | .empty => [0x32]
  | .function call =>
      0x33 :: encodeText call.name ++ encodeCount call.args.length ++
        call.args.flatMap encodeText

/-- Operands one after another. -/
def Operand.encodeList : List Operand → List UInt8
  | [] => []
  | item :: items => item.encode ++ Operand.encodeList items

end

mutual

/-- A history predicate: its kind, then its content. -/
def Predicate.encode : Predicate → List UInt8
  | .leaf operator operand => 0x20 :: operator.tag :: operand.encode
  | .all parts => 0x21 :: encodeCount parts.length ++ Predicate.encodeList parts

/-- History predicates one after another. -/
def Predicate.encodeList : List Predicate → List UInt8
  | [] => []
  | part :: parts => part.encode ++ Predicate.encodeList parts

end

/-- A terminal: field, operator, operand, and the predicate if there is one. -/
def Terminal.encode (terminal : Terminal) : List UInt8 :=
  encodeText terminal.field ++ terminal.operator.tag :: terminal.operand.encode ++
    match terminal.predicate with
    | some predicate => 0x01 :: predicate.encode
    | none => [0x00]

mutual

/-- A condition: its kind, then its content. -/
def Clause.encode : Clause → List UInt8
  | .terminal leaf => 0x01 :: leaf.encode
  | .and children => 0x02 :: encodeCount children.length ++ Clause.encodeList children
  | .or children => 0x03 :: encodeCount children.length ++ Clause.encodeList children
  | .not child => 0x04 :: child.encode

/-- Conditions one after another. -/
def Clause.encodeList : List Clause → List UInt8
  | [] => []
  | child :: children => child.encode ++ Clause.encodeList children

end

/-- The digest that identifies a condition. -/
structure Fingerprint where
  bytes : List UInt8
deriving Repr, DecidableEq

/-- The fingerprint in hexadecimal. -/
def Fingerprint.hex (fingerprint : Fingerprint) : String :=
  Digest.hexDigits fingerprint.bytes

/-- The bytes that are digested: the version of the encoding, then the condition. -/
def Clause.fingerprintInput (clause : Clause) : List UInt8 :=
  utf8Bytes "clausefp:v1" ++ clause.encode

/-- The fingerprint of a condition. -/
def Clause.fingerprint (clause : Clause) : Fingerprint :=
  ⟨Digest.sha256 clause.fingerprintInput⟩

end Criteria
