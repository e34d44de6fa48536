import ColumnTypes.Text.Utf8

/-!
# Hexadecimal names

Names that may hold any bytes are spelled as pairs of hexadecimal digits. `encode` writes lowercase
digits; `decode` reads digits of either case, and says which character is at fault when it fails.
-/

namespace ColumnTypes.Hex

inductive Fault where
  /-- The last digit has no partner. -/
  | oddLength
  /-- A character that is no digit, with the number of characters before it. -/
  | invalidCharacter (char : Char) (position : Nat)
  deriving DecidableEq, Repr

def Fault.message : Fault → String
  | .oddLength => "Odd number of digits"
  | .invalidCharacter char position => s!"Invalid character '{char}' at position {position}"

def digits : List Char := "0123456789abcdef".toList

/-- The lowercase digit of a value below sixteen. -/
def digit (value : Nat) : Char :=
  digits.getD value '0'

/-- The value of a digit of either case. -/
def digitValue? (char : Char) : Option Nat :=
  digits.findIdx? (· = char.toLower)

/-- Two digits for each byte, the high half first. -/
def encode (bytes : Bytes) : List Char :=
  bytes.flatMap fun byte => [digit (byte.toNat / 16), digit (byte.toNat % 16)]

def digitAt (position : Nat) (char : Char) : Except Fault Nat :=
  match digitValue? char with
  | some value => .ok value
  | none => .error (.invalidCharacter char position)

/-- The bytes of pairs of digits, of which the first stands at `position`. -/
def decodeFrom (position : Nat) : List Char → Except Fault Bytes
  | [] => .ok []
  | [_] => .error .oddLength
  | high :: low :: rest => do
    let upper ← digitAt position high
    let lower ← digitAt (position + 1) low
    let bytes ← decodeFrom (position + 2) rest
    return UInt8.ofNat (upper * 16 + lower) :: bytes

/-- The bytes that a text of digits spells. An odd length is reported before any character. -/
def decode (text : List Char) : Except Fault Bytes :=
  if text.length % 2 = 1 then .error .oddLength else decodeFrom 0 text

end ColumnTypes.Hex
