import ColumnTypes.Descriptor.Spelling
import ColumnTypes.Spelling.Reading

/-!
# Class paths

A class path is the set of classes from outside that can be loaded. It gives the names of a term
their meaning: `ClassPath.resolve` turns a term into a descriptor, and `ClassPath.parse` does so for
a text. Built-in classes come first, so a class path cannot change what their names mean.

Where a term has several faults, the first in reading order is reported, with two exceptions: a
wrong number of arguments precedes the faults inside them, and the type of a field precedes its
name.
-/

namespace ColumnTypes

/-- The classes from outside that can be loaded, by their full names. -/
structure ClassPath where
  classes : List String
  deriving DecidableEq, Repr

/-- Why a term stands for no descriptor. Class names are full. -/
inductive ResolutionFault where
  | unknownClass (name : String)
  /-- A class takes a fixed number of arguments, and was given another. -/
  | wrongCount (name : String) (expected given : Nat)
  /-- A user type was given fewer than the two arguments that name it. -/
  | namesMissing (name : String) (given : Nat)
  | takesNoArguments (name : String)
  | emptyArgument
  /-- A field stands where a type has to. -/
  | unexpectedField (label : String)
  /-- A keyspace or type name is more than a bare name. -/
  | hexNameExpected
  | invalidHex (text : String) (fault : Hex.Fault)
  | keyspaceNotText
  /-- An argument of a user type behind its two names is no field. -/
  | fieldExpected
  /-- A class that can be loaded has a name that no class can have. -/
  | invalidClassName (name : String) (fault : ClassName.Fault)
  deriving DecidableEq, Repr

namespace ResolutionFault

/-- The error for a fault in a text. Only an unknown class names the text as its context. -/
def toError (text : String) : ResolutionFault → TypeError
  | unknownClass name =>
    .configuration .unknownClass s!"Unable to find abstract-type class '{name}'" (some text)
  | wrongCount name expected given =>
    .configuration .wrongParameterCount
      s!"{name} takes exactly {expected} type parameter(s), got {given}" none
  | namesMissing name given =>
    .configuration .wrongParameterCount
      s!"{name} needs a keyspace and a name, got {given} parameter(s)" none
  | takesNoArguments name =>
    .configuration .unexpectedParameters s!"{name} does not take type parameters" none
  | emptyArgument => .malformed .emptyParameter "empty type parameter" text
  | unexpectedField label =>
    .malformed .illegalCharacter s!"unexpected field '{label}:' in type parameters" text
  | hexNameExpected => .malformed .invalidHexName "expected a hex-encoded name" text
  | invalidHex digits fault =>
    .malformed .invalidHexName ("invalid hex name '" ++ digits ++ "': " ++ fault.message) text
  | keyspaceNotText => .malformed .invalidHexName "keyspace name is not valid UTF-8" text
  | fieldExpected =>
    .malformed .illegalCharacter "expected '<hex name>:<type>' for user type field" text
  | invalidClassName name fault => fault.toError name

end ResolutionFault

def decodeHexName (text : String) : Except ResolutionFault Bytes :=
  match Hex.decode text.toList with
  | .ok bytes => .ok bytes
  | .error fault => .error (.invalidHex text fault)

/-- The bytes of an argument that names a keyspace or a type. -/
def Argument.hexName? : Argument → Except ResolutionFault Bytes
  | .empty => decodeHexName ""
  | .type (.bare text) => decodeHexName text
  | _ => .error .hexNameExpected

def userTypeNames (keyspace name : Argument) : Except ResolutionFault (String × Bytes) := do
  let bytes ← keyspace.hexName?
  match Utf8.decode? bytes with
  | none => .error .keyspaceNotText
  | some text =>
    let name ← name.hexName?
    return (text, name)

namespace ClassPath

def builtInOnly : ClassPath := ⟨[]⟩

/-- The class path with one more class, which may lack its package. -/
def register (path : ClassPath) (name : String) : ClassPath :=
  ⟨path.classes ++ [qualify name]⟩

def ofNames (names : List String) : ClassPath :=
  names.foldl register builtInOnly

/-- The descriptor of a class that is not built in, for a number of arguments. -/
def load (path : ClassPath) (name : String) (given : Nat) : Except ResolutionFault Descriptor :=
  if name ∈ path.classes then
    if given = 0 then
      match ClassName.ofString name with
      | .ok name => .ok (.external name)
      | .error fault => .error (.invalidClassName name fault)
    else .error (.takesNoArguments name)
  else .error (.unknownClass name)

def resolveBare (path : ClassPath) (name : String) : Except ResolutionFault Descriptor :=
  match BuiltIn.ofClassName? name with
  | some (.scalar type) => .ok (.scalar type)
  | some .reversed | some .list | some .set => .error (.wrongCount name 1 0)
  | some .map => .error (.wrongCount name 2 0)
  | some .user => .error (.namesMissing name 0)
  | none => path.load name 0

mutual

/-- The descriptor that a term stands for. -/
def resolve (path : ClassPath) : Term → Except ResolutionFault Descriptor
  | .bare name => path.resolveBare (qualify name)
  | .applied name arguments =>
    let name := qualify name
    match BuiltIn.ofClassName? name with
    | some (.scalar type) =>
      if arguments.isEmpty then .ok (.scalar type) else .error (.takesNoArguments name)
    | some .reversed => (path.resolveOne name arguments).map .reversed
    | some .list => (path.resolveOne name arguments).map .list
    | some .set => (path.resolveOne name arguments).map .set
    | some .map => (path.resolveTwo name arguments).map fun (keys, values) => .map keys values
    | some .user => (path.resolveUser name arguments).map .user
    | none => path.load name arguments.length

/-- The descriptor of an argument that has to be a type. -/
def resolveArgument (path : ClassPath) : Argument → Except ResolutionFault Descriptor
  | .type term => path.resolve term
  | .empty => .error .emptyArgument
  | .field label _ => .error (.unexpectedField label)

def resolveOne (path : ClassPath) (name : String) :
    List Argument → Except ResolutionFault Descriptor
  | [argument] => path.resolveArgument argument
  | arguments => .error (.wrongCount name 1 arguments.length)

def resolveTwo (path : ClassPath) (name : String) :
    List Argument → Except ResolutionFault (Descriptor × Descriptor)
  | [first, second] => do
    let keys ← path.resolveArgument first
    let values ← path.resolveArgument second
    return (keys, values)
  | arguments => .error (.wrongCount name 2 arguments.length)

def resolveUser (path : ClassPath) (name : String) :
    List Argument → Except ResolutionFault UserType
  | keyspace :: typeName :: fields => do
    let (keyspace, typeName) ← userTypeNames keyspace typeName
    let fields ← path.resolveFields fields
    return ⟨keyspace, typeName, fields⟩
  | arguments => .error (.namesMissing name arguments.length)

def resolveFields (path : ClassPath) :
    List Argument → Except ResolutionFault (List (Bytes × Descriptor))
  | [] => .ok []
  | .field label type :: rest => do
    let type ← path.resolve type
    let label ← decodeHexName label
    let rest ← path.resolveFields rest
    return (label, type) :: rest
  | _ :: _ => .error .fieldExpected

end

/-- The descriptor that a text spells. A blank text spells the bytes. -/
def parse (path : ClassPath) (text : String) : Except TypeError Descriptor :=
  if text.toList.all Text.isBlank then .ok (.scalar .bytes)
  else
    match Term.ofText text.toList with
    | .error fault => .error (fault.toError text)
    | .ok term =>
      match path.resolve term with
      | .error fault => .error (fault.toError text)
      | .ok descriptor => .ok descriptor

end ClassPath

end ColumnTypes
