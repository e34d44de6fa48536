import ColumnTypes.Proofs.Loading
import Mathlib.Control.Monad.Basic

/-!
# Gaps between tokens

Texts that are laid out as the same tokens are read alike, also where they are at fault. Reading
looks at the tokens of a text and at nothing else; the text itself is only quoted, as the input or
the context of an error, and in the message about text behind a complete type. So the faults are the
same, with that one exception (`ofText_eq_or_trailing`), and the errors agree in kind and code.

Blanks other than gaps are tokens. They may be moved by gaps like any others, but not dropped.
-/

namespace ColumnTypes

/-- Errors of one kind with one code. -/
def TypeError.Alike : TypeError → TypeError → Prop
  | malformed code _ _, malformed code' _ _ => code = code'
  | configuration code _ _, configuration code' _ _ => code = code'
  | invalidType code _, invalidType code' _ => code = code'
  | invalidRequest code _, invalidRequest code' _ => code = code'
  | _, _ => False

theorem TypeError.Alike.refl (error : TypeError) : error.Alike error := by
  cases error <;> rfl

/-- Only blank texts are laid out as blank characters. -/
theorem Token.Layout.blank_iff {text : List Char} {tokens : List Token} (h : Layout text tokens) :
    (∀ c ∈ text, Text.isBlank c) ↔ ∀ token ∈ tokens, token.isBlank := by
  constructor
  · intro blank
    obtain ⟨strays, laid, stray⟩ := Layout.nil.blank_append blank
    simp only [List.append_nil] at laid
    have same : strays = tokens := laid.scan_eq.symm.trans h.scan_eq
    exact same ▸ stray
  · exact h.blank

variable {a b : List Char}

theorem trailingFault?_eq_or_trailing (lexemes lexemes' : List Lexeme) (tokens : List Token) :
    trailingFault? lexemes tokens = trailingFault? lexemes' tokens ∨
      ∃ text text', trailingFault? lexemes tokens = some (.trailing text) ∧
        trailingFault? lexemes' tokens = some (.trailing text') := by
  match tokens with
  | [] | .opening :: _ | .closing :: _ | .comma :: _ | .colon :: _ | .stray _ :: _ =>
    exact Or.inl rfl
  | .name _ :: _ => exact Or.inr ⟨_, _, rfl, rfl⟩

/-- Texts with the same tokens spell the same term or have the same fault, but for the text that is
quoted from behind a term. -/
theorem ofText_eq_or_trailing (same : Token.scan a = Token.scan b) :
    Term.ofText a = Term.ofText b ∨
      ∃ text text', Term.ofText a = .error (.trailing text) ∧
        Term.ofText b = .error (.trailing text') := by
  unfold Term.ofText
  rw [same]
  cases Term.ofTokens maxNesting ((Token.scan b).dropWhile Token.isBlank) with
  | error fault => exact Or.inl rfl
  | ok read =>
    obtain ⟨term, rest⟩ := read
    rcases trailingFault?_eq_or_trailing (Lexeme.scan a) (Lexeme.scan b)
      (rest.dropWhile Token.isBlank) with equal | ⟨text, text', first, second⟩
    · exact Or.inl (by simp only [equal])
    · exact Or.inr ⟨text, text', by simp only [first], by simp only [second]⟩

/-- What a fault of resolution is reported as depends on the text only in what is quoted. -/
theorem ResolutionFault.alike_toError (fault : ResolutionFault) (text text' : String) :
    (fault.toError text).Alike (fault.toError text') ∧
      (fault.toError text).message = (fault.toError text').message := by
  cases fault with
  | invalidClassName name fault => exact ⟨TypeError.Alike.refl _, rfl⟩
  | _ => exact ⟨rfl, rfl⟩

/-- Texts that are laid out as the same tokens are read as the same descriptor, or are refused with
errors of one kind and one code. The messages are the same as well, unless the fault is that more
text follows the type: then each quotes its own. -/
theorem ClassPath.parse_ignores_gaps (path : ClassPath) {a b : String} {tokens : List Token}
    (first : Token.Layout a.toList tokens) (second : Token.Layout b.toList tokens) :
    (∃ d, path.parse a = .ok d ∧ path.parse b = .ok d) ∨
      ∃ error other, path.parse a = .error error ∧ path.parse b = .error other ∧
        error.Alike other ∧ (error.code ≠ .trailingInput → error.message = other.message) := by
  by_cases blank : ∀ token ∈ tokens, token.isBlank
  · have blankFirst : a.toList.all Text.isBlank := List.all_eq_true.mpr (first.blank_iff.mpr blank)
    have blankSecond : b.toList.all Text.isBlank :=
      List.all_eq_true.mpr (second.blank_iff.mpr blank)
    exact Or.inl ⟨.scalar .bytes, if_pos blankFirst, if_pos blankSecond⟩
  have shownFirst : ¬ a.toList.all Text.isBlank := fun all =>
    blank (first.blank_iff.mp (List.all_eq_true.mp all))
  have shownSecond : ¬ b.toList.all Text.isBlank := fun all =>
    blank (second.blank_iff.mp (List.all_eq_true.mp all))
  simp only [parse, if_neg shownFirst, if_neg shownSecond]
  rcases ofText_eq_or_trailing (first.scan_eq.trans second.scan_eq.symm) with
    equal | ⟨text, text', trailing, trailing'⟩
  · rw [equal]
    cases Term.ofText b.toList with
    | error fault => exact Or.inr ⟨_, _, rfl, rfl, rfl, fun _ => rfl⟩
    | ok term =>
      dsimp only
      cases path.resolve term with
      | ok d => exact Or.inl ⟨d, rfl, rfl⟩
      | error fault =>
        obtain ⟨alike, message⟩ := fault.alike_toError a b
        exact Or.inr ⟨_, _, rfl, rfl, alike, fun _ => message⟩
  · simp only [trailing, trailing']
    exact Or.inr ⟨_, _, rfl, rfl, rfl, fun other => absurd rfl other⟩

/-- A name behind a list, with gaps and without. -/
theorem ClassPath.parse_ignores_gaps_trailing :
    Token.Layout "ListType(Int32Type)a b".toList (Token.scan "ListType(Int32Type)a b".toList) ∧
    Token.Layout " ListType ( Int32Type )\n a\tb".toList
      (Token.scan "ListType(Int32Type)a b".toList) ∧
    ∃ error other, builtInOnly.parse "ListType(Int32Type)a b" = .error error ∧
      builtInOnly.parse " ListType ( Int32Type )\n a\tb" = .error other ∧ error.Alike other := by
  have first := Token.layout_scan "ListType(Int32Type)a b".toList
  have second : Token.Layout " ListType ( Int32Type )\n a\tb".toList
      (Token.scan "ListType(Int32Type)a b".toList) :=
    Token.layout_iff_scan.mpr (by decide +kernel)
  have refused : builtInOnly.parse "ListType(Int32Type)a b" =
      .error
        (.malformed .trailingInput "unexpected 'a b' after type" "ListType(Int32Type)a b") := by
    decide +kernel
  refine ⟨first, second, ?_⟩
  rcases parse_ignores_gaps builtInOnly first second with ⟨d, read, -⟩ | ⟨error, other, h⟩
  · cases refused.symm.trans read
  · exact ⟨error, other, h.1, h.2.1, h.2.2.1⟩

end ColumnTypes
