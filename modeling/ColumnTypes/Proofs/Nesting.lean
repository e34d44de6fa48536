import ColumnTypes.Proofs.OpenTerm

/-!
# The limit on nesting

`Term.Holds` counts the parameter lists that an argument stands in. The depth of a term is the
greatest such number among its arguments that are not empty (`Term.shallow_iff`), so an empty
argument may stand one list deeper than any other.

A well-formed term that is deeper than the limit is refused as too deep, whatever follows it
(`Term.ofTokens_deep`). Together with `Term.ofTokens_tokens` this settles what every well-formed
term is read as.
-/

namespace ColumnTypes

/-- The argument stands in so many parameter lists of the term. -/
inductive Term.Holds : Term → Nat → Argument → Prop where
  | here {name : String} {arguments : List Argument} {argument : Argument}
      (mem : argument ∈ arguments) : Holds (.applied name arguments) 1 argument
  | inType {name : String} {arguments : List Argument} {term : Term} {levels : Nat}
      {argument : Argument} (mem : .type term ∈ arguments) (inside : Holds term levels argument) :
      Holds (.applied name arguments) (levels + 1) argument
  | inField {name label : String} {arguments : List Argument} {type : Term} {levels : Nat}
      {argument : Argument} (mem : .field label type ∈ arguments)
      (inside : Holds type levels argument) :
      Holds (.applied name arguments) (levels + 1) argument

/-- No argument stands in more than `limit` parameter lists, unless it is empty. -/
def Term.Shallow (limit : Nat) (term : Term) : Prop :=
  ∀ levels argument, term.Holds levels argument → argument ≠ .empty → levels ≤ limit

theorem listDepth_mem {arguments : List Argument} {argument : Argument}
    (mem : argument ∈ arguments) : listDepth [argument] ≤ listDepth arguments :=
  listDepth_le_iff.mp (Nat.le_refl _) argument mem

theorem Term.Holds.levels_le {term : Term} {levels : Nat} {argument : Argument}
    (h : term.Holds levels argument) (filled : argument ≠ .empty) : levels ≤ term.depth := by
  induction h with
  | @here _ _ argument mem =>
    refine Nat.le_trans ?_ (listDepth_mem mem)
    cases argument with
    | empty => exact absurd rfl filled
    | type term => simp [listDepth]
    | field label type => simp [listDepth]
  | inType mem _ ih =>
    have bound := listDepth_mem mem
    simp only [listDepth, Nat.max_zero] at bound
    exact Nat.le_trans (Nat.succ_le_succ (ih filled)) bound
  | inField mem _ ih =>
    have bound := listDepth_mem mem
    simp only [listDepth, Nat.max_zero] at bound
    exact Nat.le_trans (Nat.succ_le_succ (ih filled)) bound

mutual

/-- The depth of a term is that of some argument in it that is not empty. -/
theorem Term.depth_le_of_shallow (term : Term) {limit : Nat} (shallow : term.Shallow limit) :
    term.depth ≤ limit := by
  match term with
  | .bare _ => exact Nat.zero_le _
  | .applied name arguments =>
    apply listDepth_le_of_shallow arguments
    · intro argument mem filled
      exact shallow 1 argument (.here mem) filled
    · intro term mem levels argument inside filled
      exact shallow (levels + 1) argument (.inType mem inside) filled
    · intro label type mem levels argument inside filled
      exact shallow (levels + 1) argument (.inField mem inside) filled

theorem listDepth_le_of_shallow (arguments : List Argument) {limit : Nat}
    (here : ∀ argument ∈ arguments, argument ≠ .empty → 1 ≤ limit)
    (inType : ∀ term, .type term ∈ arguments → ∀ levels argument, term.Holds levels argument →
      argument ≠ .empty → levels + 1 ≤ limit)
    (inField : ∀ label type, .field label type ∈ arguments → ∀ levels argument,
      type.Holds levels argument → argument ≠ .empty → levels + 1 ≤ limit) :
    listDepth arguments ≤ limit := by
  match arguments with
  | [] => exact Nat.zero_le _
  | argument :: rest =>
    have tail : listDepth rest ≤ limit := listDepth_le_of_shallow rest
      (fun argument mem => here argument (List.mem_cons_of_mem _ mem))
      (fun term mem => inType term (List.mem_cons_of_mem _ mem))
      (fun label type mem => inField label type (List.mem_cons_of_mem _ mem))
    match argument with
    | .empty => exact tail
    | .type term =>
      have one := here (.type term) (List.mem_cons_self ..) (by simp)
      have head : term.depth ≤ limit - 1 := by
        apply term.depth_le_of_shallow
        intro levels argument inside filled
        have within := inType term (List.mem_cons_self ..) levels argument inside filled
        exact Nat.le_sub_one_of_lt within
      simp only [listDepth]
      omega
    | .field label type =>
      have one := here (.field label type) (List.mem_cons_self ..) (by simp)
      have head : type.depth ≤ limit - 1 := by
        apply type.depth_le_of_shallow
        intro levels argument inside filled
        have within := inField label type (List.mem_cons_self ..) levels argument inside filled
        exact Nat.le_sub_one_of_lt within
      simp only [listDepth]
      omega

end

/-- The depth is the greatest number of lists that an argument stands in, unless it is empty. -/
theorem Term.shallow_iff {limit : Nat} {term : Term} :
    term.Shallow limit ↔ term.depth ≤ limit := by
  constructor
  · exact term.depth_le_of_shallow
  · intro within levels argument inside filled
    exact Nat.le_trans (inside.levels_le filled) within

namespace OpenTerm

variable {limit : Nat} {outer : List OpenList} {inner : OpenList} {place : Place}

/-- Beyond the limit no argument may begin, whatever it begins with. -/
theorem step_deep {token : Token} (start : place = .first ∨ place = .next)
    (filled : token ≠ .comma ∧ token ≠ .closing) (deep : limit ≤ outer.length) :
    step limit ⟨outer, inner, place⟩ token = .error (.tooDeep limit) := by
  have beyond : limit < depth ⟨outer, inner, place⟩ := Nat.lt_succ_of_le deep
  have begun : begin limit ⟨outer, inner, place⟩ token = .error (.tooDeep limit) := by
    simp [begin, filled.1, filled.2, beyond]
  rcases start with rfl | rfl
  · cases token with
    | closing => exact absurd rfl filled.2
    | _ => exact begun
  · exact begun

theorem tokens_of_filled {argument : Argument} (filled : argument ≠ .empty) :
    ∃ token rest, argument.tokens = token :: rest ∧ token ≠ .comma ∧ token ≠ .closing := by
  cases argument with
  | empty => exact absurd rfl filled
  | type term => exact ⟨.name term.name, term.parameterTokens, term.tokens_eq, by simp, by simp⟩
  | field label type =>
    by_cases unlabelled : label = ""
    · exact ⟨.colon, type.tokens, by simp [Argument.tokens, unlabelled], by simp, by simp⟩
    · exact ⟨.name label, .colon :: type.tokens, by simp [Argument.tokens, unlabelled], by simp,
        by simp⟩

theorem run_filled_deep {argument : Argument} {rest : List Token} (filled : argument ≠ .empty)
    (start : place = .first ∨ place = .next) (deep : limit ≤ outer.length) :
    run limit ⟨outer, inner, place⟩ (argument.tokens ++ rest) = .error (.tooDeep limit) := by
  obtain ⟨token, others, tokens, begins⟩ := tokens_of_filled filled
  rw [tokens, List.cons_append]
  exact run_error (step_deep start begins deep)

mutual

theorem run_term_deep {limit : Nat} {outer : List OpenList} {inner : OpenList}
    {label : Option String} (term : Term) {rest : List Token}
    (wf : term.WellFormed) (within : outer.length < limit)
    (deep : limit < outer.length + 1 + term.depth) :
    run limit ⟨outer, inner, .named label term.name⟩ (term.parameterTokens ++ rest) =
      .error (.tooDeep limit) := by
  match term with
  | .bare _ =>
    simp only [Term.depth] at deep
    omega
  | .applied name arguments =>
    have inside : run limit ⟨inner :: outer, ⟨label, name, []⟩, .first⟩
        (listTokens arguments ++ .closing :: rest) = .error (.tooDeep limit) :=
      run_list_deep arguments (.inl rfl) wf.2.2 within deep
    simp only [Term.parameterTokens, Term.name, List.cons_append, List.append_assoc,
      List.nil_append]
    rw [run_cons (step_opening label name), resume, inside]

theorem run_argument_deep {limit : Nat} {outer : List OpenList} {inner : OpenList} {place : Place}
    (argument : Argument) {rest : List Token}
    (start : place = .first ∨ place = .next) (wf : argument.WellFormed)
    (shallow : outer.length ≤ limit) (deep : limit < outer.length + listDepth [argument]) :
    run limit ⟨outer, inner, place⟩ (argument.tokens ++ rest) = .error (.tooDeep limit) := by
  match argument with
  | .empty =>
    simp only [listDepth] at deep
    omega
  | .type term =>
    simp only [listDepth, Nat.max_zero] at deep
    by_cases within : outer.length < limit
    · have begun := @run_labelled limit outer inner place none term rest start within
      exact begun.trans (run_term_deep term wf within (by omega))
    · exact run_filled_deep (by simp) start (Nat.not_lt.mp within)
  | .field label type =>
    simp only [listDepth, Nat.max_zero] at deep
    by_cases within : outer.length < limit
    · have begun := @run_labelled limit outer inner place (some label) type rest start within
      exact begun.trans (run_term_deep type wf.2 within (by omega))
    · exact run_filled_deep (by simp) start (Nat.not_lt.mp within)

theorem run_list_deep {limit : Nat} {outer : List OpenList} {inner : OpenList} {place : Place}
    (arguments : List Argument) {rest : List Token}
    (start : place = .first ∨ place = .next) (wf : AllWellFormed arguments)
    (shallow : outer.length ≤ limit) (deep : limit < outer.length + listDepth arguments) :
    run limit ⟨outer, inner, place⟩ (listTokens arguments ++ rest) = .error (.tooDeep limit) := by
  match arguments with
  | [] =>
    simp only [listDepth] at deep
    omega
  | [argument] =>
    simp only [listTokens, moreTokens, List.append_nil]
    exact run_argument_deep argument start wf.1 shallow deep
  | argument :: second :: more =>
    have split : listTokens (argument :: second :: more) ++ rest =
        argument.tokens ++ .comma :: (listTokens (second :: more) ++ rest) := by
      simp [listTokens, moreTokens]
    rw [split]
    by_cases first : limit < outer.length + listDepth [argument]
    · exact run_argument_deep argument start wf.1 shallow first
    · have within := Nat.not_lt.mp first
      rw [run_comma start fun filled => run_argument argument start filled wf.1 within]
      refine run_list_deep (second :: more) (.inr rfl) wf.2 shallow ?_
      rw [listDepth_cons] at deep
      omega

end

end OpenTerm

/-- A well-formed term beyond the limit is too deep, whatever follows it. -/
theorem Term.ofTokens_deep {limit : Nat} {term : Term} {rest : List Token}
    (wf : term.WellFormed) (deep : limit < term.depth) :
    Term.ofTokens limit (term.tokens ++ rest) = .error (.tooDeep limit) := by
  match term with
  | .bare _ => exact absurd deep (Nat.not_lt_zero _)
  | .applied name arguments =>
    have beyond : limit < ([] : List OpenList).length + listDepth arguments := by
      simpa [Term.depth] using deep
    simp only [Term.tokens, List.cons_append, List.append_assoc, Term.ofTokens]
    exact OpenTerm.run_list_deep arguments (.inl rfl) wf.2.2 (Nat.zero_le _) beyond

end ColumnTypes
