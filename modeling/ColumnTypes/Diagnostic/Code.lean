/-!
# Error codes

Every error carries a code. The codes fall into four bands: malformed spellings (from 1), invalid
types (from 100), invalid requests (from 200) and configuration (from 300). `ErrorCode.table`
describes the codes that the library raises; any other number is a code as well, without a
description of its own.
-/

namespace ColumnTypes

/-- A number of 16 bits that identifies a kind of error. -/
structure ErrorCode where
  number : UInt16
  deriving DecidableEq, Repr

namespace ErrorCode

def illegalCharacter : ErrorCode := ⟨1⟩
def unbalancedParameters : ErrorCode := ⟨2⟩
def trailingInput : ErrorCode := ⟨3⟩
def emptyParameter : ErrorCode := ⟨4⟩
def invalidHexName : ErrorCode := ⟨5⟩
def nestingTooDeep : ErrorCode := ⟨6⟩
def nestedCollection : ErrorCode := ⟨100⟩
def counterInCollection : ErrorCode := ⟨101⟩
def unknownUserType : ErrorCode := ⟨200⟩
def notUserType : ErrorCode := ⟨201⟩
def unknownClass : ErrorCode := ⟨300⟩
def wrongParameterCount : ErrorCode := ⟨301⟩
def unexpectedParameters : ErrorCode := ⟨302⟩
def shadowsBuiltIn : ErrorCode := ⟨303⟩

structure Entry where
  code : ErrorCode
  description : String
  help : Option String
  deriving DecidableEq, Repr

/-- The codes that the library raises, in ascending order. -/
def table : List Entry :=
  [⟨illegalCharacter, "Illegal character in type name", none⟩,
    ⟨unbalancedParameters, "Unbalanced type parameter list", none⟩,
    ⟨trailingInput, "Unexpected trailing input", none⟩,
    ⟨emptyParameter, "Empty type parameter", none⟩,
    ⟨invalidHexName, "Invalid hex-encoded name", none⟩,
    ⟨nestingTooDeep, "Type nesting too deep",
      some "Type names may nest parameters at most 64 levels deep"⟩,
    ⟨nestedCollection, "Collection inside a collection",
      some "Collections are one level deep; use a user type or a frozen value instead"⟩,
    ⟨counterInCollection, "Counter inside a collection",
      some "Counters can only be used as top-level column types"⟩,
    ⟨unknownUserType, "Unknown user type",
      some "Check that the type was created before it is referenced"⟩,
    ⟨notUserType, "Not a user type", none⟩,
    ⟨unknownClass, "Unknown type class", none⟩,
    ⟨wrongParameterCount, "Wrong number of type parameters", none⟩,
    ⟨unexpectedParameters, "Type does not take parameters", none⟩,
    ⟨shadowsBuiltIn, "Class name shadows a built-in type", none⟩]

def raised : List ErrorCode :=
  table.map (·.code)

def entry? (code : ErrorCode) : Option Entry :=
  table.find? (·.code = code)

def description (code : ErrorCode) : String :=
  match code.entry? with
  | some entry => entry.description
  | none => "Unknown error"

/-- Advice that holds for every error of the code. -/
def help (code : ErrorCode) : Option String :=
  code.entry?.bind (·.help)

/-- A decimal number with at least four digits, after the letters CQL. -/
def display (code : ErrorCode) : String :=
  let digits := toString code.number.toNat
  "CQL" ++ String.ofList (List.replicate (4 - digits.length) '0') ++ digits

instance : ToString ErrorCode := ⟨display⟩

end ErrorCode

end ColumnTypes
