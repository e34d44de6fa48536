import ColumnTypes.Diagnostic.Basic

/-!
# Errors of type construction

An error belongs to one of four kinds, by what went wrong, and carries a code and a message. An
error in a spelling remembers the whole spelling; a configuration error may remember what it arose
in. Nothing here relates the kind of an error to the band of its code: the library's own errors keep
to the bands, but an error may be made with any code.
-/

namespace ColumnTypes

/-- Why a type could not be made. -/
inductive TypeError where
  /-- A spelling is malformed. -/
  | malformed (code : ErrorCode) (message input : String)
  /-- A spelling does not lead to a type that can be loaded. -/
  | configuration (code : ErrorCode) (message : String) (context : Option String)
  /-- A collection was given a component that it cannot hold. -/
  | invalidType (code : ErrorCode) (message : String)
  /-- Something that does not exist was referred to. -/
  | invalidRequest (code : ErrorCode) (message : String)
  deriving DecidableEq, Repr

namespace TypeError

def code : TypeError → ErrorCode
  | malformed code _ _ | configuration code _ _ | invalidType code _ | invalidRequest code _ => code

def message : TypeError → String
  | malformed _ message _ | configuration _ message _ | invalidType _ message
  | invalidRequest _ message => message

/-- The spelling at fault, or the context of a configuration error. -/
def detail : TypeError → Option String
  | malformed _ _ input => some input
  | configuration _ _ context => context
  | invalidType .. | invalidRequest .. => none

def display (error : TypeError) : String :=
  error.code.display ++ ": " ++ error.message

/-- The same error with this context. Only configuration errors have one. -/
def withContext (error : TypeError) (context : String) : TypeError :=
  match error with
  | configuration code message _ => configuration code message (some context)
  | other => other

/-- Help for the user: the spelling at fault, else the context, else what the code advises. -/
def help : TypeError → Option String
  | malformed _ _ input => some ("while parsing '" ++ input ++ "'")
  | configuration code _ context => context <|> code.help
  | invalidType code _ | invalidRequest code _ => code.help

def toDiagnostic (error : TypeError) : Diagnostic :=
  ⟨error.code, error.message, error.help⟩

end TypeError

end ColumnTypes
