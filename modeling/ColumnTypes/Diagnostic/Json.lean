import ColumnTypes.Diagnostic.Basic
import ColumnTypes.Json

/-!
# JSON form of diagnostics

A code is written as its number and a diagnostic as an object of three members. Reading is more
liberal: the help may be missing, unknown members are passed over, and an array of the three values
in order stands for the object. None of the three may stand twice. Numbers outside 16 bits, or with
a fraction, are no codes.
-/

namespace ColumnTypes

def ErrorCode.toJson (code : ErrorCode) : Json :=
  .integer code.number.toNat

def ErrorCode.ofJson? : Json → Option ErrorCode
  | .integer value =>
    if 0 ≤ value ∧ value < 65536 then some ⟨UInt16.ofNat value.toNat⟩ else none
  | _ => none

namespace Diagnostic

def messageOfJson? : Json → Option String
  | .string text => some text
  | _ => none

/-- Help is a string or, where there is none, null. -/
def helpOfJson? : Json → Option (Option String)
  | .null => some none
  | .string text => some (some text)
  | _ => none

def helpToJson : Option String → Json
  | none => .null
  | some text => .string text

/-- An object with the members `code`, `message` and `help`. -/
def toJson (diagnostic : Diagnostic) : Json :=
  .object [("code", diagnostic.code.toJson), ("message", .string diagnostic.message),
    ("help", helpToJson diagnostic.help)]

def ofValues? (code message help : Json) : Option Diagnostic := do
  let code ← ErrorCode.ofJson? code
  let message ← messageOfJson? message
  let help ← helpOfJson? help
  return ⟨code, message, help⟩

/-- The diagnostic that an object or an array of exactly three values stands for. -/
def ofJson? : Json → Option Diagnostic
  | .array [code, message, help] => ofValues? code message help
  | .object members =>
    match Json.valuesOf "code" members, Json.valuesOf "message" members,
        Json.valuesOf "help" members with
    | [code], [message], [help] => ofValues? code message help
    | [code], [message], [] => ofValues? code message .null
    | _, _, _ => none
  | _ => none

end Diagnostic

end ColumnTypes
