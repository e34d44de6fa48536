import ColumnTypes.Proofs.Grammar
import ColumnTypes.Proofs.Layout
import ColumnTypes.Proofs.Nesting
import ColumnTypes.Spelling.Reading

/-!
# Texts that spell terms

A text spells a term if, between blanks at its ends, it is laid out as tokens that derive the term.
It is read as that term if the term keeps within the limit on nesting, and is refused as too deep if
it does not (`Spells.ofText`). Nothing else is read (`spells_of_ofText`), so a text spells one term
at most, and a text without one is at fault.
-/

namespace ColumnTypes

/-- Between blanks, the text consists of tokens that derive the term. -/
def Spells (text : List Char) (term : Term) : Prop :=
  ∃ (before body after : List Char) (tokens : List Token),
    text = before ++ (body ++ after) ∧ (∀ c ∈ before, Text.isBlank c) ∧
      (∀ c ∈ after, Text.isBlank c) ∧ Token.Layout body tokens ∧ Grammar.IsType tokens term

theorem head?_any_of_blank {text : List Char} (blank : ∀ c ∈ text, Text.isBlank c) :
    text.head?.any isNameChar = false := by
  cases text with
  | nil => rfl
  | cons c rest =>
    have first := blank c (List.mem_cons_self ..)
    rw [List.head?_cons, Option.any_some, Bool.eq_false_iff]
    intro name
    rw [Text.isBlank_eq_false name] at first
    cases first

/-- The tokens of a spelling are those of its term, with blank characters around them. -/
theorem spells_iff_scan {text : List Char} {term : Term} :
    Spells text term ↔ term.WellFormed ∧ ∃ before after,
      Token.scan text = before ++ (term.tokens ++ after) ∧
        (∀ token ∈ before, token.isBlank) ∧ ∀ token ∈ after, token.isBlank := by
  constructor
  · rintro ⟨before, body, after, tokens, rfl, blankBefore, blankAfter, laid, derived⟩
    obtain ⟨wf, rfl⟩ := Grammar.isType_iff.mp derived
    obtain ⟨straysAfter, laidAfter, strayAfter⟩ := Token.Layout.nil.blank_append blankAfter
    rw [List.append_nil, List.append_nil] at laidAfter
    have joined := laid.append (head?_any_of_blank blankAfter) laidAfter
    obtain ⟨straysBefore, whole, strayBefore⟩ := joined.blank_append blankBefore
    exact ⟨wf, straysBefore, straysAfter, whole.scan_eq, strayBefore, strayAfter⟩
  · rintro ⟨wf, before, after, scanned, strayBefore, strayAfter⟩
    have whole := Token.layout_iff_scan.mpr scanned
    obtain ⟨first, others, rfl, laidBefore, laidOthers⟩ := whole.split
    obtain ⟨body, last, rfl, laid, laidAfter⟩ := laidOthers.split
    exact ⟨first, body, last, term.tokens, rfl, laidBefore.blank strayBefore,
      laidAfter.blank strayAfter, laid, Grammar.isType_iff.mpr ⟨wf, rfl⟩⟩

theorem Spells.wellFormed {text : List Char} {term : Term} (h : Spells text term) :
    term.WellFormed :=
  (spells_iff_scan.mp h).1

theorem dropWhile_isBlank {before tokens : List Token} (stray : ∀ token ∈ before, token.isBlank)
    (stops : ∀ token ∈ tokens.head?, token.isBlank = false) :
    (before ++ tokens).dropWhile Token.isBlank = tokens := by
  induction before with
  | nil =>
    cases tokens with
    | nil => rfl
    | cons token rest => simp [stops token rfl]
  | cons token before ih =>
    obtain ⟨first, stray⟩ := List.forall_mem_cons.mp stray
    rw [List.cons_append, List.dropWhile_cons, if_pos first]
    exact ih stray

/-- A term begins with its name, so the blanks before it end there. -/
theorem Term.head?_tokens_not_blank (term : Term) (rest : List Token) :
    ∀ token ∈ (term.tokens ++ rest).head?, token.isBlank = false := by
  intro token first
  rw [term.tokens_eq] at first
  cases first
  rfl

theorem Token.head?_ne_opening {tokens : List Token} (stray : ∀ token ∈ tokens, token.isBlank) :
    tokens.head? ≠ some .opening := by
  intro first
  have opening := stray .opening (List.mem_of_mem_head? first)
  cases opening

/-- A spelling is read as its term, unless that is too deep. -/
theorem Spells.ofText {text : List Char} {term : Term} (h : Spells text term) :
    Term.ofText text =
      if term.depth ≤ maxNesting then .ok term else .error (.tooDeep maxNesting) := by
  obtain ⟨wf, before, after, scanned, strayBefore, strayAfter⟩ := spells_iff_scan.mp h
  have start : (Token.scan text).dropWhile Token.isBlank = term.tokens ++ after := by
    rw [scanned]
    exact dropWhile_isBlank strayBefore (term.head?_tokens_not_blank after)
  by_cases within : term.depth ≤ maxNesting
  · have read : Term.ofTokens maxNesting (term.tokens ++ after) = .ok (term, after) :=
      Term.ofTokens_tokens wf within fun _ _ => Token.head?_ne_opening strayAfter
    have nothing : after.dropWhile Token.isBlank = [] := by
      have dropped : (after ++ []).dropWhile Token.isBlank = [] :=
        dropWhile_isBlank strayAfter (by simp)
      rwa [List.append_nil] at dropped
    rw [Term.ofText, start, read, if_pos within]
    simp [nothing, trailingFault?]
  · have deep : Term.ofTokens maxNesting (term.tokens ++ after) = .error (.tooDeep maxNesting) :=
      Term.ofTokens_deep wf (Nat.not_le.mp within)
    rw [Term.ofText, start, deep, if_neg within]

theorem trailingFault?_eq_none {lexemes : List Lexeme} {tokens : List Token}
    (h : trailingFault? lexemes tokens = none) : tokens = [] := by
  cases tokens with
  | nil => rfl
  | cons token rest => cases token <;> cases h

theorem blank_of_dropWhile_eq_nil {tokens : List Token}
    (h : tokens.dropWhile Token.isBlank = []) : ∀ token ∈ tokens, token.isBlank := by
  induction tokens with
  | nil => simp
  | cons token rest ih =>
    rw [List.dropWhile_cons] at h
    split at h
    · rename_i first
      exact List.forall_mem_cons.mpr ⟨first, ih h⟩
    · cases h

/-- What is read is spelled, and keeps within the limit. -/
theorem spells_of_ofText {text : List Char} {term : Term} (h : Term.ofText text = .ok term) :
    Spells text term ∧ term.depth ≤ maxNesting := by
  rw [Term.ofText] at h
  split at h
  · cases h
  rename_i whole rest read
  split at h
  · cases h
  rename_i noFault
  cases h
  have names : ∀ name, .name name ∈ (Token.scan text).dropWhile Token.isBlank → IsName name :=
    fun name mem => (Token.layout_scan text).isName name ((List.dropWhile_sublist _).subset mem)
  obtain ⟨wf, within, tokens⟩ := Term.ofTokens_sound names read
  have strayAfter := blank_of_dropWhile_eq_nil (trailingFault?_eq_none noFault)
  have strayBefore : ∀ token ∈ (Token.scan text).takeWhile Token.isBlank, token.isBlank :=
    List.all_eq_true.mp List.all_takeWhile
  refine ⟨spells_iff_scan.mpr ⟨wf, _, rest, ?_, strayBefore, strayAfter⟩, within⟩
  rw [tokens, List.takeWhile_append_dropWhile]

/-- Texts are read exactly if the grammar derives them within the limit, and as the term derived. -/
theorem ofText_eq_ok_iff {text : List Char} {term : Term} :
    Term.ofText text = .ok term ↔ Spells text term ∧ term.Shallow maxNesting := by
  rw [Term.shallow_iff]
  constructor
  · exact spells_of_ofText
  · rintro ⟨spelled, within⟩
    rw [spelled.ofText, if_pos within]

/-- Well-formed terms with the same tokens in front of blank characters are the same. -/
theorem Term.eq_of_tokens_append {first second : Term} {after rest : List Token}
    (wf : first.WellFormed) (wf' : second.WellFormed) (stray : ∀ token ∈ after, token.isBlank)
    (stray' : ∀ token ∈ rest, token.isBlank)
    (same : first.tokens ++ after = second.tokens ++ rest) : first = second := by
  have read : Term.ofTokens (max first.depth second.depth) (first.tokens ++ after) =
      .ok (first, after) :=
    Term.ofTokens_tokens wf (Nat.le_max_left ..) fun _ _ => Token.head?_ne_opening stray
  have read' : Term.ofTokens (max first.depth second.depth) (second.tokens ++ rest) =
      .ok (second, rest) :=
    Term.ofTokens_tokens wf' (Nat.le_max_right ..) fun _ _ => Token.head?_ne_opening stray'
  rw [same, read'] at read
  cases read
  rfl

/-- A text spells one term at most. -/
theorem Spells.unique {text : List Char} {first second : Term} (h : Spells text first)
    (h' : Spells text second) : first = second := by
  obtain ⟨wf, before, after, scanned, strayBefore, strayAfter⟩ := spells_iff_scan.mp h
  obtain ⟨wf', before', after', scanned', strayBefore', strayAfter'⟩ := spells_iff_scan.mp h'
  have start := dropWhile_isBlank strayBefore (first.head?_tokens_not_blank after)
  have start' := dropWhile_isBlank strayBefore' (second.head?_tokens_not_blank after')
  rw [← scanned] at start
  rw [← scanned'] at start'
  exact Term.eq_of_tokens_append wf wf' strayAfter strayAfter' (start.symm.trans start')

/-- A text of blanks only spells no term. It never comes to a reader, for it stands for bytes. -/
theorem Spells.not_blank {text : List Char} {term : Term} (h : Spells text term) :
    ¬ ∀ c ∈ text, Text.isBlank c := by
  intro blank
  obtain ⟨-, before, after, scanned, -, -⟩ := spells_iff_scan.mp h
  obtain ⟨strays, laid, stray⟩ := Token.Layout.nil.blank_append blank
  rw [List.append_nil, List.append_nil, Token.layout_iff_scan, scanned, term.tokens_eq] at laid
  have named := stray (.name term.name) (by rw [← laid]; simp)
  cases named

def SpellingFault.codes : List ErrorCode :=
  [.illegalCharacter, .unbalancedParameters, .trailingInput, .nestingTooDeep]

theorem SpellingFault.code_mem (fault : SpellingFault) : fault.code ∈ codes := by
  cases fault <;> simp [code, codes]

/-- The texts that are read as a term are those that the grammar derives it from within the limit.
There is no second such term, and a text that has none is malformed. -/
theorem ofText_accepts_grammar (text : String) :
    (∀ term, Term.ofText text.toList = .ok term ↔
      Spells text.toList term ∧ term.Shallow maxNesting) ∧
    (∀ first second, Spells text.toList first → Spells text.toList second → first = second) ∧
    ((∀ term, ¬ (Spells text.toList term ∧ term.Shallow maxNesting)) →
      ∃ fault, Term.ofText text.toList = .error fault ∧ ∃ code ∈ SpellingFault.codes,
        fault.toError text = .malformed code fault.message text) := by
  refine ⟨fun term => ofText_eq_ok_iff, fun first second => Spells.unique, ?_⟩
  intro noTerm
  cases read : Term.ofText text.toList with
  | ok term => exact absurd (ofText_eq_ok_iff.mp read) (noTerm term)
  | error fault => exact ⟨fault, rfl, fault.code, fault.code_mem, rfl⟩

end ColumnTypes
