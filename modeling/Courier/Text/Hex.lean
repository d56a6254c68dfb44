import Courier.Json.Reader

/-!
# Hexadecimal text

Bytes written as pairs of hexadecimal digits.

Main definitions:

- `Hex.encode` writes bytes in lower case, `Hex.decode?` reads them back.
-/

namespace Courier.Text.Hex

/-- The two digits of a byte. -/
def byteChars (b : UInt8) : List Char :=
  [Nat.digitChar (b.toNat / 16), Nat.digitChar (b.toNat % 16)]

/-- The digits of several bytes. -/
def chars (bytes : List UInt8) : List Char :=
  bytes.flatMap byteChars

/-- The text of some bytes, two digits for each. -/
def encode (bytes : ByteArray) : String :=
  bytes.foldl
    (fun s b => (s.push (Nat.digitChar (b.toNat / 16))).push (Nat.digitChar (b.toNat % 16))) ""

/-- The bytes that a row of digits stands for. -/
def decodeChars : List Char → Option (List UInt8)
  | [] => some []
  | [_] => none
  | a :: b :: rest => do
      let a ← Json.hexValue? a
      let b ← Json.hexValue? b
      let bytes ← decodeChars rest
      return (a * 16 + b).toUInt8 :: bytes

/-- The bytes that a text stands for. -/
def decode? (s : String) : Option ByteArray :=
  (decodeChars s.toList).map fun bytes => ⟨bytes.toArray⟩

end Courier.Text.Hex
