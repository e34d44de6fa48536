import ColumnTypes.ClassPath
import ColumnTypes.Proofs.OpenLists
import ColumnTypes.Proofs.Spells
import Mathlib.Control.Monad.Basic

/-!
# Texts that nest too deep

A text leaves parameter lists open if, behind blanks, it is laid out as the beginning of a type that
does (`LeavesOpen`); closing parentheses complete it. A text is refused as too deep exactly if such
a beginning of it leaves one list more open than the limit allows, and what follows, behind gaps, is
neither a comma nor a closing parenthesis. The fault is then settled: whatever the text goes on
with, it is the same.
-/

namespace ColumnTypes

/-- The text begins a type, leaves so many parameter lists open, and stops where a parameter of the
innermost list may start. Blanks may precede the type. -/
def LeavesOpen (levels : Nat) (text : List Char) : Prop :=
  ∃ (blanks body : List Char) (tokens : List Token), text = blanks ++ body ∧
    (∀ c ∈ blanks, Text.isBlank c) ∧ Token.Layout body tokens ∧ Grammar.Unfinished levels tokens

/-- A parameter that is not empty starts with the character, or is at fault there. -/
def StartsParameter (c : Char) : Prop :=
  Text.isGap c = false ∧ c ≠ ',' ∧ c ≠ ')'

namespace Token

theorem endsParameter_ofChar {c : Char} : (ofChar c).EndsParameter ↔ c = ',' ∨ c = ')' := by
  simp only [EndsParameter, ofChar]
  grind

/-- The first character of a token tells whether it ends a parameter. -/
theorem scan_cons {c : Char} (rest : List Char) (noGap : Text.isGap c = false) :
    ∃ token more, scan (c :: rest) = token :: more ∧
      (token.EndsParameter ↔ c = ',' ∨ c = ')') := by
  obtain ⟨more, read⟩ := List.head?_eq_some_iff.mp (head?_scan rest noGap)
  refine ⟨_, more, read, ?_⟩
  split
  · rename_i hc
    have other : ¬ (c = ',' ∨ c = ')') := by
      rintro (rfl | rfl) <;> exact absurd hc (by decide)
    exact iff_of_false (by simp [EndsParameter]) other
  · exact endsParameter_ofChar

theorem exists_gaps {text : List Char} {token : Token} {more : List Token}
    (h : scan text = token :: more) :
    ∃ gaps c rest, text = gaps ++ c :: rest ∧ (∀ gap ∈ gaps, Text.isGap gap) ∧
      Text.isGap c = false ∧ (token.EndsParameter ↔ c = ',' ∨ c = ')') := by
  induction text with
  | nil => cases h
  | cons c text ih =>
    by_cases gap : Text.isGap c
    · obtain ⟨gaps, d, rest, rfl, others, noGap, ends⟩ := ih ((scan_gap gap).symm.trans h)
      exact ⟨c :: gaps, d, rest, rfl, List.forall_mem_cons.mpr ⟨gap, others⟩, noGap, ends⟩
    · have noGap : Text.isGap c = false := Bool.eq_false_iff.mpr gap
      obtain ⟨first, rest, read, ends⟩ := scan_cons text noGap
      cases read.symm.trans h
      exact ⟨[], c, text, rfl, by simp, noGap, ends⟩

end Token

/-- Behind a text that leaves lists open, any text is read as it is. -/
theorem LeavesOpen.scan {levels : Nat} {text : List Char} (h : LeavesOpen levels text) :
    ∃ tokens, Grammar.Opens levels tokens ∧ ∀ rest : List Char,
      (Token.scan (text ++ rest)).dropWhile Token.isBlank = tokens ++ Token.scan rest := by
  obtain ⟨blanks, body, tokens, rfl, blank, laid, unfinished⟩ := h
  have opens := unfinished.opens
  refine ⟨tokens, opens, fun rest => ?_⟩
  have joined := laid.append_of_last opens.getLast?_ne_name (Token.layout_scan rest)
  obtain ⟨strays, whole, stray⟩ := joined.blank_append blank
  obtain ⟨name, more, rfl⟩ := opens.head?_eq_name
  rw [List.append_assoc, whole.scan_eq]
  refine dropWhile_isBlank stray fun token first => ?_
  cases first
  rfl

/-- Closing parentheses complete a text that leaves lists open. -/
theorem LeavesOpen.completes {levels : Nat} {text : List Char} (h : LeavesOpen levels text) :
    ∃ term, Spells (text ++ List.replicate levels ')') term := by
  obtain ⟨blanks, body, tokens, rfl, blank, laid, unfinished⟩ := h
  have opens := unfinished.opens
  obtain ⟨term, type⟩ := opens.completes
  have closing (count : Nat) :
      Token.Layout (List.replicate count ')') (List.replicate count .closing) := by
    induction count with
    | zero => exact .nil
    | succ count ih => exact .symbol (by decide) (by decide) ih
  refine ⟨term, blanks, body ++ List.replicate levels ')', [], _, ?_, blank, by simp, ?_, type⟩
  · simp
  · exact laid.append_of_last opens.getLast?_ne_name (closing levels)

/-- The text leaves so many lists open and goes on with a parameter. -/
theorem LeavesOpen.ofText_tooDeep {levels : Nat} {before gaps : List Char} {c : Char}
    (opens : LeavesOpen levels before) (beyond : maxNesting < levels)
    (gap : ∀ c ∈ gaps, Text.isGap c) (starts : StartsParameter c) (rest : List Char) :
    Term.ofText (before ++ (gaps ++ c :: rest)) = .error (.tooDeep maxNesting) := by
  obtain ⟨tokens, opened, read⟩ := opens.scan
  obtain ⟨token, more, first, ends⟩ := Token.scan_cons rest starts.1
  have filled : ¬ token.EndsParameter := fun separator =>
    (ends.mp separator).elim starts.2.1 starts.2.2
  have behind : Token.scan (gaps ++ c :: rest) = token :: more :=
    (Token.scan_gaps gap (c :: rest)).trans first
  rw [Term.ofText, read, behind, opened.tooDeep beyond filled more]

theorem trailingFault?_ne_tooDeep {levels : Nat} (lexemes : List Lexeme) (tokens : List Token) :
    trailingFault? lexemes tokens ≠ some (.tooDeep levels) := by
  cases tokens with
  | nil => simp [trailingFault?]
  | cons token rest => cases token <;> simp [trailingFault?]

/-- Nothing behind a complete term is too deep. -/
theorem ofTokens_of_tooDeep {levels : Nat} {text : List Char}
    (h : Term.ofText text = .error (.tooDeep levels)) :
    Term.ofTokens maxNesting ((Token.scan text).dropWhile Token.isBlank) =
      .error (.tooDeep levels) := by
  unfold Term.ofText at h
  split at h
  · rename_i fault read
    cases h
    exact read
  split at h
  · rename_i fault trailing
    cases h
    exact absurd trailing (trailingFault?_ne_tooDeep _ _)
  · cases h

/-- A text that is too deep leaves one list more open than the limit allows, and goes on with a
parameter. -/
theorem leavesOpen_of_tooDeep {levels : Nat} {text : List Char}
    (h : Term.ofText text = .error (.tooDeep levels)) :
    ∃ before gaps c rest, text = before ++ (gaps ++ c :: rest) ∧
      LeavesOpen (maxNesting + 1) before ∧ (∀ gap ∈ gaps, Text.isGap gap) ∧ StartsParameter c := by
  have laid := Token.layout_scan text
  have names : ∀ name, .name name ∈ (Token.scan text).dropWhile Token.isBlank → IsName name :=
    fun name mem => laid.isName name ((List.dropWhile_sublist _).subset mem)
  have stray : ∀ token ∈ (Token.scan text).takeWhile Token.isBlank, token.isBlank :=
    List.all_eq_true.mp List.all_takeWhile
  obtain ⟨-, tokens, token, more, read, unfinished, filled⟩ :=
    (Term.ofTokens_eq_tooDeep_iff names).mp (ofTokens_of_tooDeep h)
  have parts : Token.scan text = (Token.scan text).takeWhile Token.isBlank ++
      (tokens ++ token :: more) := read ▸ List.takeWhile_append_dropWhile.symm
  rw [parts] at laid
  obtain ⟨blanks, others, rfl, laidBlanks, laidOthers⟩ := laid.split
  obtain ⟨body, behind, rfl, laidBody, laidBehind⟩ := laidOthers.split
  obtain ⟨gaps, c, rest, rfl, gap, noGap, ends⟩ := Token.exists_gaps laidBehind.scan_eq
  refine ⟨blanks ++ body, gaps, c, rest, (List.append_assoc ..).symm, ?_, gap, noGap, ?_, ?_⟩
  · exact ⟨blanks, body, tokens, rfl, laidBlanks.blank stray, laidBody, unfinished⟩
  · exact fun comma => filled (ends.mpr (Or.inl comma))
  · exact fun closing => filled (ends.mpr (Or.inr closing))

theorem ofText_of_blank {text : List Char} (blank : ∀ c ∈ text, Text.isBlank c) :
    Term.ofText text = .error .nameExpected := by
  obtain ⟨strays, laid, stray⟩ := Token.Layout.nil.blank_append blank
  have nothing : (strays ++ []).dropWhile Token.isBlank = [] := dropWhile_isBlank stray (by simp)
  rw [← laid.scan_eq, List.append_nil] at nothing
  rw [Term.ofText, nothing]
  rfl

/-- Only a reader looks at the nesting. -/
theorem ResolutionFault.code_ne_nestingTooDeep (fault : ResolutionFault) (text : String) :
    (fault.toError text).code ≠ .nestingTooDeep := by
  intro code
  cases fault with
  | invalidClassName name fault => cases fault <;> cases code
  | _ => cases code

namespace ClassPath

variable {text : String}

theorem parse_of_tooDeep (path : ClassPath) {levels : Nat}
    (h : Term.ofText text.toList = .error (.tooDeep levels)) :
    path.parse text =
      .error (.malformed .nestingTooDeep (SpellingFault.tooDeep levels).message text) := by
  have shown : ¬ text.toList.all Text.isBlank := by
    intro blank
    cases h.symm.trans (ofText_of_blank (List.all_eq_true.mp blank))
  rw [parse, if_neg shown, h]
  rfl

/-- No other fault has the code of a text that is too deep. -/
theorem tooDeep_of_code {path : ClassPath} {error : TypeError}
    (failed : path.parse text = .error error) (code : error.code = .nestingTooDeep) :
    ∃ levels, Term.ofText text.toList = .error (.tooDeep levels) := by
  unfold parse at failed
  split at failed
  · cases failed
  split at failed
  · rename_i fault read
    cases failed
    cases fault with
    | tooDeep levels => exact ⟨levels, read⟩
    | _ => cases code
  split at failed
  · rename_i fault unresolved
    cases failed
    exact absurd code (fault.code_ne_nestingTooDeep text)
  · cases failed

/-- A text is refused as too deep exactly if it begins with one list more left open than the limit
allows, at the start of a parameter, and what follows behind gaps is neither a comma nor a closing
parenthesis. It is refused then whatever it goes on with, with the same message. Where only commas,
closing parentheses or the end of the text follow such beginnings, so that their innermost lists
hold empty parameters at most, nothing is too deep. Each such beginning is correct as far as it
goes: with its lists closed it spells a term. -/
theorem parse_too_deep_exactly (path : ClassPath) (text : String) :
    ((∃ error, path.parse text = .error error ∧ error.code = .nestingTooDeep) ↔
      ∃ before gaps c rest, text.toList = before ++ (gaps ++ c :: rest) ∧
        LeavesOpen (maxNesting + 1) before ∧ (∀ gap ∈ gaps, Text.isGap gap) ∧
        StartsParameter c) ∧
    (∀ before gaps c, LeavesOpen (maxNesting + 1) before → (∀ gap ∈ gaps, Text.isGap gap) →
      StartsParameter c → ∀ rest,
        path.parse (String.ofList (before ++ (gaps ++ c :: rest))) =
          .error (.malformed .nestingTooDeep (SpellingFault.tooDeep maxNesting).message
            (String.ofList (before ++ (gaps ++ c :: rest))))) ∧
    ((∀ before rest, text.toList = before ++ rest → LeavesOpen (maxNesting + 1) before →
        ∀ c, (rest.dropWhile Text.isGap).head? = some c → c = ',' ∨ c = ')') →
      ∀ error, path.parse text = .error error → error.code ≠ .nestingTooDeep) ∧
    (∀ levels before, LeavesOpen levels before →
      ∃ term, Spells (before ++ List.replicate levels ')') term) := by
  have settled : ∀ before gaps c, LeavesOpen (maxNesting + 1) before →
      (∀ gap ∈ gaps, Text.isGap gap) → StartsParameter c → ∀ rest,
        Term.ofText (before ++ (gaps ++ c :: rest)) = .error (.tooDeep maxNesting) :=
    fun before gaps c opens gap starts rest =>
      opens.ofText_tooDeep (Nat.lt_succ_self _) gap starts rest
  refine ⟨⟨?_, ?_⟩, ?_, ?_, fun levels before opens => opens.completes⟩
  · rintro ⟨error, failed, code⟩
    obtain ⟨levels, deep⟩ := tooDeep_of_code failed code
    exact leavesOpen_of_tooDeep deep
  · rintro ⟨before, gaps, c, rest, whole, opens, gap, starts⟩
    have deep := settled before gaps c opens gap starts rest
    rw [← whole] at deep
    exact ⟨_, path.parse_of_tooDeep deep, rfl⟩
  · intro before gaps c opens gap starts rest
    apply path.parse_of_tooDeep
    rw [String.toList_ofList]
    exact settled before gaps c opens gap starts rest
  · intro idle error failed code
    obtain ⟨levels, deep⟩ := tooDeep_of_code failed code
    obtain ⟨before, gaps, c, rest, whole, opens, gap, noGap, noComma, noClosing⟩ :=
      leavesOpen_of_tooDeep deep
    have first : ((gaps ++ c :: rest).dropWhile Text.isGap).head? = some c := by
      simp [List.dropWhile_append_of_pos gap, noGap]
    exact (idle before (gaps ++ c :: rest) whole opens c first).elim noComma noClosing

/-- A parameter in 65 lists. -/
theorem parse_too_deep_exactly_lists :
    builtInOnly.parse (String.ofList ((List.replicate 65 ['A', '(']).flatten ++ ['B'])) =
        .error (.malformed .nestingTooDeep "type parameters nest deeper than 64 levels"
          (String.ofList ((List.replicate 65 ['A', '(']).flatten ++ ['B']))) ∧
      ∃ before gaps c rest,
        (String.ofList ((List.replicate 65 ['A', '(']).flatten ++ ['B'])).toList =
          before ++ (gaps ++ c :: rest) ∧
        LeavesOpen (maxNesting + 1) before ∧ (∀ gap ∈ gaps, Text.isGap gap) ∧
        StartsParameter c := by
  have failed :
      builtInOnly.parse (String.ofList ((List.replicate 65 ['A', '(']).flatten ++ ['B'])) =
        .error (.malformed .nestingTooDeep "type parameters nest deeper than 64 levels"
          (String.ofList ((List.replicate 65 ['A', '(']).flatten ++ ['B']))) := by
    decide +kernel
  exact ⟨failed, (parse_too_deep_exactly builtInOnly _).1.mp ⟨_, failed, rfl⟩⟩

end ClassPath

end ColumnTypes
