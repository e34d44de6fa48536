import ColumnTypes.Proofs.Grammar
import ColumnTypes.Proofs.Nesting

/-!
# Beginnings of types

Tokens that stop where a parameter may start leave some parameter lists open. `Grammar.Unfinished`
says so in terms of types: the tokens can be continued to a type, the last of them opens a list or
separates parameters, and more parentheses open than close. `Grammar.Opens` derives such tokens from
left to right, one parameter or one list at a time. The two are the same: closing parentheses
complete what was derived (`Opens.unfinished`), and what can be completed is read up to a state
whose open lists were derived (`Unfinished.opens`).
-/

namespace ColumnTypes

namespace Grammar

/-- The tokens begin a type and stop where a parameter may start, with so many lists open. -/
structure Unfinished (levels : Nat) (tokens : List Token) : Prop where
  /-- The tokens are correct so far. -/
  continues : ∃ rest term, IsType (tokens ++ rest) term
  stops : tokens.getLast? = some .opening ∨ tokens.getLast? = some .comma
  balance : tokens.count .opening = tokens.count .closing + levels

/-- The tokens are derived from left to right up to where a parameter may start, with so many lists
open. -/
inductive Opens : Nat → List Token → Prop where
  | outermost {name : String} (isName : IsName name) : Opens 1 [.name name, .opening]
  /-- A parameter starts with a name and its own list, and with a label if it is a field. -/
  | inner {levels : Nat} {tokens : List Token} {label : Option String} {name : String}
      (around : Opens levels tokens) (isLabel : IsLabel label) (isName : IsName name) :
      Opens (levels + 1) (tokens ++ (labelTokens label ++ [.name name, .opening]))
  /-- Behind a parameter and a comma the next one may start. -/
  | next {levels : Nat} {tokens param : List Token} {argument : Argument}
      (before : Opens levels tokens) (isParam : IsParam param argument) :
      Opens levels (tokens ++ (param ++ [.comma]))

theorem Opens.head?_eq_name {levels : Nat} {tokens : List Token} (opens : Opens levels tokens) :
    ∃ name rest, tokens = .name name :: rest := by
  induction opens with
  | outermost => exact ⟨_, _, rfl⟩
  | inner _ _ _ ih | next _ _ ih =>
    obtain ⟨name, rest, rfl⟩ := ih
    exact ⟨name, _, rfl⟩

/-- A beginning stops where a parameter may start, so never behind a name. -/
theorem Opens.getLast?_ne_name {levels : Nat} {tokens : List Token} (opens : Opens levels tokens) :
    ∀ name, tokens.getLast? ≠ some (.name name) := by
  intro name
  cases opens <;> simp

theorem isParam_labelled {label : Option String} {tokens : List Token} {term : Term}
    (isLabel : IsLabel label) (type : IsType tokens term) :
    IsParam (labelTokens label ++ tokens) (.labelled label term) := by
  cases label with
  | none => exact .type type
  | some label =>
    by_cases unlabelled : label = ""
    · subst unlabelled
      exact .unlabelled type
    · have isName : IsName label := (isLabel label rfl).resolve_left unlabelled
      simpa [labelTokens, unlabelled, Argument.labelled] using IsParam.field isName type

/-- A series in parentheses is a parameter list. An empty parameter that stands alone makes it the
empty list. -/
theorem exists_isParams {tokens : List Token} {arguments : List Argument}
    (series : IsSeries tokens arguments) :
    ∃ arguments, IsParams (.opening :: (tokens ++ [.closing])) arguments := by
  by_cases empty : tokens = []
  · subst empty
    exact ⟨[], .none⟩
  · exact ⟨arguments, .some empty series⟩

/-- The innermost list may be continued by any parameters, and closing the lists ends the type. -/
theorem Opens.completes_series {levels : Nat} {tokens : List Token} (opens : Opens levels tokens)
    {inside : List Token} {arguments : List Argument} (series : IsSeries inside arguments) :
    ∃ term, IsType (tokens ++ (inside ++ List.replicate levels .closing)) term := by
  induction opens generalizing inside arguments with
  | outermost isName =>
    obtain ⟨arguments, params⟩ := exists_isParams series
    exact ⟨_, .applied isName params⟩
  | inner _ isLabel isName ih =>
    obtain ⟨arguments, params⟩ := exists_isParams series
    obtain ⟨term, type⟩ := ih (.single (isParam_labelled isLabel (.applied isName params)))
    exact ⟨term, by simpa [List.replicate_succ] using type⟩
  | next _ isParam ih =>
    obtain ⟨term, type⟩ := ih (.more isParam series)
    exact ⟨term, by simpa using type⟩

/-- Closing the open lists ends the type. -/
theorem Opens.completes {levels : Nat} {tokens : List Token} (opens : Opens levels tokens) :
    ∃ term, IsType (tokens ++ List.replicate levels .closing) term :=
  opens.completes_series (.single .empty)

end Grammar

theorem allWellFormed_reverse {arguments : List Argument} (wf : AllWellFormed arguments) :
    AllWellFormed arguments.reverse :=
  allWellFormed_iff.mpr fun argument mem =>
    allWellFormed_iff.mp wf argument (List.mem_reverse.mp mem)

theorem opens_settled {levels : Nat} {tokens : List Token} {arguments : List Argument}
    (before : Grammar.Opens levels tokens) (wf : AllWellFormed arguments) :
    Grammar.Opens levels (tokens ++ settledTokens arguments) := by
  induction arguments generalizing tokens with
  | nil => simpa [settledTokens] using before
  | cons argument rest ih =>
    have first := before.next (Grammar.isParam_tokens argument wf.1)
    simpa [settledTokens] using ih first wf.2

/-- Open lists were read from a beginning that leaves as many lists open. -/
theorem opens_of_allValid {limit : Nat} {outer : List OpenList} {inner : OpenList}
    (valid : AllValid limit (inner :: outer)) :
    Grammar.Opens (outer.length + 1) (openTokens (inner :: outer)) := by
  induction outer generalizing inner with
  | nil =>
    obtain ⟨list, outermost, -⟩ := valid
    have opens := opens_settled (.outermost list.isName) (allWellFormed_reverse list.wellFormed)
    simpa [openTokens, OpenList.tokens, outermost rfl, labelTokens] using opens
  | cons next outer ih =>
    obtain ⟨list, -, validOuter⟩ := valid
    have opens := opens_settled ((ih validOuter).inner list.isLabel list.isName)
      (allWellFormed_reverse list.wellFormed)
    simpa [openTokens, OpenList.tokens] using opens

theorem Token.Spaced.isName {tokens : List Token} (spaced : Spaced tokens) :
    ∀ name, .name name ∈ tokens → IsName name := by
  induction tokens with
  | nil => simp
  | cons token rest ih =>
    intro name mem
    cases token with
    | name text =>
      obtain ⟨isName, -, spaced⟩ := spaced
      rcases List.mem_cons.mp mem with same | mem
      · cases same
        exact isName
      · exact ih spaced name mem
    | stray c => exact spaced.elim
    | opening | closing | comma | colon =>
      exact ih spaced name (List.mem_of_ne_of_mem (by simp) mem)

theorem Term.WellFormed.isName_of_mem {term : Term} (wf : term.WellFormed) :
    ∀ name, .name name ∈ term.tokens → IsName name := by
  have spaced : Token.Spaced (term.tokens ++ []) :=
    term.spaced_append wf (fun _ => by simp) trivial
  simpa using spaced.isName

mutual

/-- In a term the parentheses are balanced. -/
theorem Term.count_tokens (term : Term) :
    term.tokens.count .opening = term.tokens.count .closing := by
  match term with
  | .bare name => simp [Term.tokens]
  | .applied name arguments =>
    have inside := count_listTokens arguments
    simp [Term.tokens, inside]

theorem Argument.count_tokens (argument : Argument) :
    argument.tokens.count .opening = argument.tokens.count .closing := by
  match argument with
  | .type term => exact term.count_tokens
  | .field label type =>
    have inside := type.count_tokens
    by_cases unlabelled : label = "" <;>
      simp [Argument.tokens, unlabelled, inside]
  | .empty => rfl

theorem count_listTokens (arguments : List Argument) :
    (listTokens arguments).count .opening = (listTokens arguments).count .closing := by
  match arguments with
  | [] => rfl
  | argument :: rest =>
    have first := argument.count_tokens
    have others := count_moreTokens rest
    simp [listTokens, first, others]

theorem count_moreTokens (arguments : List Argument) :
    (moreTokens arguments).count .opening = (moreTokens arguments).count .closing := by
  match arguments with
  | [] => rfl
  | argument :: rest =>
    have first := argument.count_tokens
    have others := count_moreTokens rest
    simp [moreTokens, first, others]

end

theorem count_labelTokens (label : Option String) :
    (labelTokens label).count .opening = 0 ∧ (labelTokens label).count .closing = 0 := by
  cases label with
  | none => exact ⟨rfl, rfl⟩
  | some label => by_cases unlabelled : label = "" <;> simp [labelTokens, unlabelled]

/-- Every level that is open is one opening parenthesis with no closing one. -/
theorem Grammar.Opens.balance {levels : Nat} {tokens : List Token} (opens : Opens levels tokens) :
    tokens.count .opening = tokens.count .closing + levels := by
  induction opens with
  | outermost => simp
  | @inner _ _ label _ _ _ _ ih =>
    obtain ⟨noneOpens, noneCloses⟩ := count_labelTokens label
    simp [ih, noneOpens, noneCloses]
    omega
  | next _ isParam ih =>
    obtain ⟨-, rfl⟩ := isParam.exact
    simp [ih, Argument.count_tokens]
    omega

/-- What is derived as a beginning is an unfinished beginning of some spelling, with that many lists
open. -/
theorem Grammar.Opens.unfinished {levels : Nat} {tokens : List Token}
    (opens : Opens levels tokens) : Unfinished levels tokens where
  continues := by
    obtain ⟨term, type⟩ := opens.completes
    exact ⟨_, term, type⟩
  stops := by cases opens <;> simp
  balance := opens.balance

namespace OpenTerm

variable {limit : Nat} {state : OpenTerm} {token : Token}

/-- Behind an opening parenthesis or a comma a parameter may start. -/
theorem step_starts {reading : Reading} (starts : token = .opening ∨ token = .comma)
    (h : state.step limit token = .ok reading) :
    ∃ outer inner place, reading = .more ⟨outer, inner, place⟩ ∧
      (place = .first ∨ place = .next) := by
  obtain ⟨outer, inner, place⟩ := state
  rcases starts with rfl | rfl
  · cases place with
    | first | next =>
      by_cases deep : limit < outer.length + 1 <;> simp [step, begin, depth, deep] at h
    | fieldType label => cases h
    | named label name =>
      cases label <;> cases h <;> exact ⟨_, _, _, rfl, Or.inl rfl⟩
    | complete argument => cases h
  · cases place with
    | first | next | complete => cases h; exact ⟨_, _, _, rfl, Or.inr rfl⟩
    | fieldType label => cases h
    | named label name =>
      cases label <;> cases h <;> exact ⟨_, _, _, rfl, Or.inr rfl⟩

/-- A run that succeeds with no token left over takes each token from a valid state, which stands
for the tokens before. -/
theorem run_reaches {before rest : List Token} {term : Term} (valid : state.Valid limit)
    (isName : ∀ name, .name name ∈ before → IsName name)
    (h : state.run limit (before ++ token :: rest) = .ok (term, [])) :
    ∃ reached : OpenTerm, reached.Valid limit ∧ reached.tokens = state.tokens ++ before ∧
      ∃ reading, reached.step limit token = .ok reading := by
  induction before generalizing state with
  | nil =>
    refine ⟨state, valid, (List.append_nil _).symm, ?_⟩
    cases stepped : state.step limit token with
    | error fault => cases (run_error stepped).symm.trans h
    | ok reading => exact ⟨reading, rfl⟩
  | cons first before ih =>
    have named : ∀ name, first = .name name → IsName name := by
      rintro name rfl
      exact isName name (List.mem_cons_self ..)
    cases stepped : state.step limit first with
    | error fault => cases (run_error stepped).symm.trans h
    | ok reading =>
      have followed := step_follows valid named stepped
      have resumed := (run_cons stepped).symm.trans h
      cases reading with
      | more next =>
        obtain ⟨validNext, read⟩ := followed
        obtain ⟨reached, validReached, stands, taken⟩ :=
          ih validNext (fun name mem => isName name (List.mem_cons_of_mem _ mem)) resumed
        exact ⟨reached, validReached, by simp [stands, read], taken⟩
      | done whole => simp [resume] at resumed

end OpenTerm

namespace Grammar

/-- What is read behind an outermost list up to where a parameter may start was derived. -/
theorem opens_of_run {limit : Nat} {name : String} {before rest : List Token} {token : Token}
    {term : Term} (isName : IsName name) (names : ∀ name, .name name ∈ before → IsName name)
    (starts : token = .opening ∨ token = .comma)
    (h : OpenTerm.run limit ⟨[], ⟨none, name, []⟩, .first⟩ (before ++ token :: rest) =
      .ok (term, [])) :
    ∃ levels, Opens levels (.name name :: .opening :: (before ++ [token])) := by
  obtain ⟨reached, valid, stands, reading, stepped⟩ :=
    OpenTerm.run_reaches (OpenTerm.valid_outermost isName) names h
  obtain ⟨outer, inner, place, rfl, start⟩ := OpenTerm.step_starts starts stepped
  have unnamed : ∀ name, token = .name name → IsName name := by
    rintro name rfl
    simp at starts
  obtain ⟨⟨lists, -⟩, tokens⟩ := OpenTerm.step_follows valid unnamed stepped
  have nothing : place.tokens = [] := by rcases start with rfl | rfl <;> rfl
  have derived : openTokens (inner :: outer) = .name name :: .opening :: (before ++ [token]) :=
    calc openTokens (inner :: outer)
      _ = openTokens (inner :: outer) ++ place.tokens := by rw [nothing, List.append_nil]
      _ = reached.tokens ++ [token] := tokens
      _ = .name name :: .opening :: (before ++ [token]) := by
        rw [stands, OpenTerm.tokens_outermost, List.append_assoc]
        rfl
  exact ⟨outer.length + 1, derived ▸ opens_of_allValid lists⟩

theorem Unfinished.ends {levels : Nat} {tokens : List Token} (h : Unfinished levels tokens) :
    ∃ before token, tokens = before ++ [token] ∧ (token = .opening ∨ token = .comma) := by
  rcases h.stops with last | last
  · obtain ⟨before, whole⟩ := List.getLast?_eq_some_iff.mp last
    exact ⟨before, .opening, whole, Or.inl rfl⟩
  · obtain ⟨before, whole⟩ := List.getLast?_eq_some_iff.mp last
    exact ⟨before, .comma, whole, Or.inr rfl⟩

theorem Unfinished.exists_opens {levels : Nat} {tokens : List Token}
    (h : Unfinished levels tokens) : ∃ levels, Opens levels tokens := by
  obtain ⟨rest, term, type⟩ := h.continues
  obtain ⟨wf, whole⟩ := isType_iff.mp type
  obtain ⟨before, token, rfl, starts⟩ := h.ends
  match term, before with
  | .bare name, [] | .applied name arguments, [] =>
    have first : token = .name name := by simpa [Term.tokens] using congrArg List.head? whole
    rcases starts with rfl | rfl <;> cases first
  | .bare name, _ :: _ => simp [Term.tokens] at whole
  | .applied name arguments, [only] =>
    obtain ⟨rfl, rfl, -⟩ : only = .name name ∧ token = .opening ∧
        rest = listTokens arguments ++ [.closing] := by
      simpa [Term.tokens] using whole
    exact ⟨1, .outermost wf.1⟩
  | .applied name arguments, first :: second :: before =>
    obtain ⟨rfl, rfl, inside⟩ : first = .name name ∧ second = .opening ∧
        before ++ token :: rest = listTokens arguments ++ [.closing] := by
      simpa [Term.tokens] using whole
    have names : ∀ name, .name name ∈ before → IsName name := fun label mem =>
      wf.isName_of_mem label (whole ▸ by simp [mem])
    have read : Term.ofTokens (Term.applied name arguments).depth
        ((Term.applied name arguments).tokens ++ []) = .ok (.applied name arguments, []) :=
      Term.ofTokens_tokens wf (Nat.le_refl _) (by simp)
    have run : OpenTerm.run (Term.applied name arguments).depth ⟨[], ⟨none, name, []⟩, .first⟩
        (before ++ token :: rest) = .ok (.applied name arguments, []) := by
      simpa [Term.tokens, Term.ofTokens, ← inside] using read
    exact opens_of_run wf.1 names starts run

/-- The number of levels is not free: the count of parentheses settles it. -/
theorem Unfinished.opens {levels : Nat} {tokens : List Token} (h : Unfinished levels tokens) :
    Opens levels tokens := by
  obtain ⟨derived, opens⟩ := h.exists_opens
  have same : derived = levels := Nat.add_left_cancel (opens.balance.symm.trans h.balance)
  exact same ▸ opens

end Grammar

end ColumnTypes
