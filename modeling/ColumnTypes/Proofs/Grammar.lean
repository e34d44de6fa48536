import ColumnTypes.Spelling.Term

/-!
# The grammar of terms

The rules by which tokens derive a term, one relation for each nonterminal:

    type   := name params?
    params := '(' ')' | '(' param (',' param)* ')'
    param  := type | name? ':' type | ε

Nothing between two parentheses can be read as no parameter and as one empty parameter; the rules
allow the first alone. With that, the tokens that derive a term are those that `Term.tokens` writes
(`Grammar.isType_iff`), so a term has one derivation and its tokens are its own.
-/

namespace ColumnTypes

theorem moreTokens_cons (argument : Argument) (rest : List Argument) :
    moreTokens (argument :: rest) = .comma :: listTokens (argument :: rest) := by
  simp [moreTokens, listTokens]

theorem Argument.tokens_ne_nil {argument : Argument} (filled : argument ≠ .empty) :
    argument.tokens ≠ [] := by
  cases argument with
  | type term => cases term <;> simp [Argument.tokens, Term.tokens]
  | field label type => simp [Argument.tokens]
  | empty => exact absurd rfl filled

theorem listTokens_ne_nil {arguments : List Argument} (nonempty : arguments ≠ [])
    (single : ∀ only, arguments = [only] → only ≠ .empty) : listTokens arguments ≠ [] := by
  match arguments with
  | [] => exact absurd rfl nonempty
  | [only] => simpa [listTokens, moreTokens] using Argument.tokens_ne_nil (single only rfl)
  | first :: second :: rest => simp [listTokens, moreTokens]

namespace Grammar

mutual

/-- A name, alone or in front of parameters. -/
inductive IsType : List Token → Term → Prop where
  | bare {name : String} (isName : IsName name) : IsType [.name name] (.bare name)
  | applied {name : String} {tokens : List Token} {arguments : List Argument}
      (isName : IsName name) (params : IsParams tokens arguments) :
      IsType (.name name :: tokens) (.applied name arguments)

inductive IsParams : List Token → List Argument → Prop where
  | none : IsParams [.opening, .closing] []
  | some {tokens : List Token} {arguments : List Argument} (nonempty : tokens ≠ [])
      (series : IsSeries tokens arguments) :
      IsParams (.opening :: (tokens ++ [.closing])) arguments

/-- One parameter or more, with commas between them. -/
inductive IsSeries : List Token → List Argument → Prop where
  | single {tokens : List Token} {argument : Argument} (param : IsParam tokens argument) :
      IsSeries tokens [argument]
  | more {first rest : List Token} {argument : Argument} {arguments : List Argument}
      (param : IsParam first argument) (series : IsSeries rest arguments) :
      IsSeries (first ++ .comma :: rest) (argument :: arguments)

/-- A type, a field or nothing. -/
inductive IsParam : List Token → Argument → Prop where
  | type {tokens : List Token} {term : Term} (type : IsType tokens term) :
      IsParam tokens (.type term)
  | field {label : String} {tokens : List Token} {term : Term} (isName : IsName label)
      (type : IsType tokens term) :
      IsParam (.name label :: .colon :: tokens) (.field label term)
  | unlabelled {tokens : List Token} {term : Term} (type : IsType tokens term) :
      IsParam (.colon :: tokens) (.field "" term)
  | empty : IsParam [] .empty

end

mutual

/-- A derivation fixes the term, which writes exactly the tokens derived. -/
theorem IsType.exact {tokens : List Token} {term : Term} (h : IsType tokens term) :
    term.WellFormed ∧ tokens = term.tokens := by
  match h with
  | .bare isName => exact ⟨isName, rfl⟩
  | .applied isName params =>
    obtain ⟨single, wf, rfl⟩ := params.exact
    exact ⟨⟨isName, single, wf⟩, rfl⟩

theorem IsParams.exact {tokens : List Token} {arguments : List Argument}
    (h : IsParams tokens arguments) :
    (∀ only, arguments = [only] → only ≠ .empty) ∧ AllWellFormed arguments ∧
      tokens = .opening :: (listTokens arguments ++ [.closing]) := by
  match h with
  | .none => exact ⟨by simp, trivial, rfl⟩
  | .some nonempty series =>
    obtain ⟨-, wf, rfl⟩ := series.exact
    refine ⟨?_, wf, rfl⟩
    rintro only rfl rfl
    exact nonempty rfl

theorem IsSeries.exact {tokens : List Token} {arguments : List Argument}
    (h : IsSeries tokens arguments) :
    arguments ≠ [] ∧ AllWellFormed arguments ∧ tokens = listTokens arguments := by
  match h with
  | .single param =>
    obtain ⟨wf, rfl⟩ := param.exact
    exact ⟨by simp, ⟨wf, trivial⟩, by simp [listTokens, moreTokens]⟩
  | @IsSeries.more _ _ _ arguments param series =>
    obtain ⟨wf, rfl⟩ := param.exact
    obtain ⟨nonempty, wfs, rfl⟩ := series.exact
    refine ⟨by simp, ⟨wf, wfs⟩, ?_⟩
    cases arguments with
    | nil => exact absurd rfl nonempty
    | cons second rest => rw [← moreTokens_cons]; rfl

theorem IsParam.exact {tokens : List Token} {argument : Argument} (h : IsParam tokens argument) :
    argument.WellFormed ∧ tokens = argument.tokens := by
  match h with
  | .type type => exact type.exact
  | .field isName type =>
    obtain ⟨wf, rfl⟩ := type.exact
    exact ⟨⟨Or.inr isName, wf⟩, by simp [Argument.tokens, isName.1]⟩
  | .unlabelled type =>
    obtain ⟨wf, rfl⟩ := type.exact
    exact ⟨⟨Or.inl rfl, wf⟩, rfl⟩
  | .empty => exact ⟨trivial, rfl⟩

end

mutual

theorem isType_tokens (term : Term) (wf : term.WellFormed) : IsType term.tokens term := by
  match term with
  | .bare name => exact .bare wf
  | .applied name [] => exact .applied wf.1 .none
  | .applied name (argument :: rest) =>
    have nonempty := listTokens_ne_nil (List.cons_ne_nil argument rest) wf.2.1
    exact .applied wf.1 (.some nonempty (isSeries_tokens (argument :: rest) (by simp) wf.2.2))

theorem isSeries_tokens (arguments : List Argument) (nonempty : arguments ≠ [])
    (wf : AllWellFormed arguments) : IsSeries (listTokens arguments) arguments := by
  match arguments with
  | [] => exact absurd rfl nonempty
  | [argument] =>
    have param := isParam_tokens argument wf.1
    simpa [listTokens, moreTokens] using IsSeries.single param
  | argument :: second :: rest =>
    rw [listTokens, moreTokens_cons]
    exact .more (isParam_tokens argument wf.1)
      (isSeries_tokens (second :: rest) (by simp) wf.2)

theorem isParam_tokens (argument : Argument) (wf : argument.WellFormed) :
    IsParam argument.tokens argument := by
  match argument with
  | .type term => exact .type (isType_tokens term wf)
  | .empty => exact .empty
  | .field label type =>
    have derived := isType_tokens type wf.2
    by_cases unlabelled : label = ""
    · subst unlabelled
      exact .unlabelled derived
    · simpa [Argument.tokens, unlabelled] using
        IsParam.field (wf.1.resolve_left unlabelled) derived

end

/-- Tokens derive a term exactly if it is well formed and they are the tokens it is written as. -/
theorem isType_iff {tokens : List Token} {term : Term} :
    IsType tokens term ↔ term.WellFormed ∧ tokens = term.tokens := by
  constructor
  · exact IsType.exact
  · rintro ⟨wf, rfl⟩
    exact isType_tokens term wf

end Grammar

end ColumnTypes
