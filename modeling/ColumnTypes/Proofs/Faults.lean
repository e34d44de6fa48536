import ColumnTypes.Proofs.Decoding
import ColumnTypes.Proofs.Loading
import Mathlib.Control.Monad.Basic

/-!
# What failures report

A text that leads to no type is malformed, needs a class that cannot be loaded, or gives a class
arguments that it does not take. The error reports the whole text in the first case, as the text at
fault, and in the second, as its context; in the third it reports no text. What a user is shown as
help follows from that (`TypeError.Reports`).

Most faults arise in a part of the text and are found in different passes, so the statement rests on
the list of faults there are: `SpellingFault` for the text and `ResolutionFault.Possible` for the
term.
-/

namespace ColumnTypes

def TypeError.malformedCodes : List ErrorCode :=
  [.illegalCharacter, .unbalancedParameters, .trailingInput, .emptyParameter, .invalidHexName,
    .nestingTooDeep]

/-- The error is of one of the sorts that a text leads to, and the help is what it tells about the
text. -/
inductive TypeError.Reports (text : String) : TypeError → Option String → Prop
  | malformed {code : ErrorCode} {message : String} (mem : code ∈ malformedCodes) :
      Reports text (.malformed code message text) (some ("while parsing '" ++ text ++ "'"))
  | unknownClass {message : String} :
      Reports text (.configuration .unknownClass message (some text)) (some text)
  | parameters {code : ErrorCode} {message : String}
      (mem : code ∈ [ErrorCode.wrongParameterCount, .unexpectedParameters]) :
      Reports text (.configuration code message none) none

theorem SpellingFault.reports (text : String) (fault : SpellingFault) :
    (fault.toError text).Reports text (some ("while parsing '" ++ text ++ "'")) := by
  apply TypeError.Reports.malformed
  have each : ∀ code ∈ codes, code ∈ TypeError.malformedCodes := by decide
  exact each fault.code fault.code_mem

theorem ResolutionFault.Possible.reports {fault : ResolutionFault} (possible : fault.Possible)
    (text : String) : ∃ help, (fault.toError text).Reports text help := by
  cases fault with
  | unknownClass name => exact ⟨_, .unknownClass⟩
  | wrongCount name expected given => exact ⟨_, .parameters (by decide)⟩
  | namesMissing name given => exact ⟨_, .parameters (by decide)⟩
  | takesNoArguments name => exact ⟨_, .parameters (by decide)⟩
  | emptyArgument => exact ⟨_, .malformed (by decide)⟩
  | unexpectedField label => exact ⟨_, .malformed (by decide)⟩
  | hexNameExpected => exact ⟨_, .malformed (by decide)⟩
  | invalidHex digits fault => exact ⟨_, .malformed (by decide)⟩
  | keyspaceNotText => exact ⟨_, .malformed (by decide)⟩
  | fieldExpected => exact ⟨_, .malformed (by decide)⟩
  | invalidClassName name fault => cases possible

/-- A report keeps the code and the message. A code of wrong parameters has no advice of its own. -/
theorem TypeError.Reports.toDiagnostic_eq {text : String} {error : TypeError}
    {help : Option String} (h : error.Reports text help) :
    error.toDiagnostic = ⟨error.code, error.message, help⟩ := by
  cases h with
  | malformed => rfl
  | unknownClass => rfl
  | @parameters code message mem =>
    have unadvised : ∀ code ∈ [ErrorCode.wrongParameterCount, .unexpectedParameters],
        code.help = none := by decide
    simp [toDiagnostic, TypeError.help, unadvised code mem, TypeError.code, TypeError.message]

namespace ClassPath

/-- What a reader lets through is well-formed, so some faults of resolution never come about. -/
theorem possible_of_ofText {path : ClassPath} {text : String} {term : Term}
    {fault : ResolutionFault} (read : Term.ofText text.toList = .ok term)
    (failed : path.resolve term = .error fault) : fault.Possible := by
  obtain ⟨spelled, -⟩ := spells_of_ofText read
  exact possible_of_resolve spelled.wellFormed failed

/-- A failure reports the text it arose in, as its sort does, and so does its diagnostic. No class
is refused for its name, and no number of arguments is refused that is right. -/
theorem failure_reports_text (path : ClassPath) (text : String) {error : TypeError}
    (failed : path.parse text = .error error) :
    (∃ help, error.Reports text help ∧
      error.toDiagnostic = ⟨error.code, error.message, help⟩) ∧
    ∀ term fault, Term.ofText text.toList = .ok term → path.resolve term = .error fault →
      fault.Possible := by
  refine ⟨?_, fun term fault => possible_of_ofText⟩
  have reports : ∃ help, error.Reports text help := by
    rcases parse_cases text with blank | ⟨fault, always⟩ | ⟨term, spelled, -, resolved⟩
    · rw [blank] at failed
      cases failed
    · rw [always] at failed
      cases failed
      exact ⟨_, fault.reports text⟩
    · rw [resolved, mapError_eq_error_iff] at failed
      obtain ⟨fault, unresolved, rfl⟩ := failed
      have possible := possible_of_resolve spelled.wellFormed unresolved
      exact possible.reports text
  obtain ⟨help, reports⟩ := reports
  exact ⟨help, reports, reports.toDiagnostic_eq⟩

/-- A keyspace with a digit too few, in the elements of a list. -/
theorem failure_reports_nested_digits :
    builtInOnly.parse "ListType(UserType(6b7, 61))" =
        .error (.malformed .invalidHexName "invalid hex name '6b7': Odd number of digits"
          "ListType(UserType(6b7, 61))") ∧
      ∃ help, TypeError.Reports "ListType(UserType(6b7, 61))"
        (.malformed .invalidHexName "invalid hex name '6b7': Odd number of digits"
          "ListType(UserType(6b7, 61))") help := by
  have failed : builtInOnly.parse "ListType(UserType(6b7, 61))" =
      .error (.malformed .invalidHexName "invalid hex name '6b7': Odd number of digits"
        "ListType(UserType(6b7, 61))") := by
    decide +kernel
  obtain ⟨help, reports, -⟩ := (failure_reports_text _ _ failed).1
  exact ⟨failed, help, reports⟩

end ClassPath

end ColumnTypes
