import ColumnTypes.Diagnostic.Code

/-!
# Diagnostics

A diagnostic is what a user is shown about an error: its code, its message and, where there is
some, a line of help.
-/

namespace ColumnTypes

/-- A report of one error. -/
structure Diagnostic where
  code : ErrorCode
  message : String
  help : Option String
  deriving DecidableEq, Repr

namespace Diagnostic

def error (code : ErrorCode) (message : String) : Diagnostic :=
  ⟨code, message, none⟩

/-- The report with this help in place of any it had. -/
def withHelp (diagnostic : Diagnostic) (help : String) : Diagnostic :=
  { diagnostic with help := some help }

/-- One line of text, with the help in parentheses at its end. -/
def display (diagnostic : Diagnostic) : String :=
  let line := "error: " ++ diagnostic.code.display ++ " - " ++ diagnostic.message
  match diagnostic.help with
  | some help => line ++ " (" ++ help ++ ")"
  | none => line

end Diagnostic

end ColumnTypes
