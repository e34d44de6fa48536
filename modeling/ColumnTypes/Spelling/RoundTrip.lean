import ColumnTypes.Spelling.Reading

/-!
# Terms and their spellings

What is written reads back, in two steps. The tokens of a text written from spaced tokens are those
tokens (`Token.scan_write`), and the tokens of a well-formed term are read as that term, with
whatever follows them left over (`Term.ofTokens_tokens`). The second holds for every limit that the
depth of the term does not exceed.
-/

namespace ColumnTypes

def Token.NoNameFirst (tokens : List Token) : Prop :=
  ∀ text, tokens.head? ≠ some (.name text)

/-- Tokens that stay apart when written without gaps: every name is one, no name follows a name,
and no character is stray. -/
def Token.Spaced : List Token → Prop
  | [] => True
  | .name text :: rest => IsName text ∧ NoNameFirst rest ∧ Spaced rest
  | .stray _ :: _ => False
  | _ :: rest => Spaced rest

theorem Text.isGap_eq_false {c : Char} (h : isNameChar c) : Text.isGap c = false := by
  rw [Bool.eq_false_iff]
  intro gap
  simp only [Text.isGap, Bool.or_eq_true, decide_eq_true_eq] at gap
  rcases gap with ((rfl | rfl) | rfl) | rfl <;> exact absurd h (by decide)

/-- A run of name characters is read as one name, unless the text goes on with another. -/
theorem Lexeme.scan_name {c : Char} {text rest : List Char} (hc : isNameChar c)
    (legal : ∀ c ∈ text, isNameChar c) (ends : rest.head?.any isNameChar = false) :
    ∃ source, scan (c :: text ++ rest) =
      ⟨.name (String.ofList (c :: text)), source⟩ :: scan rest := by
  induction text generalizing c with
  | nil =>
    refine ⟨c :: rest, ?_⟩
    have alone : pushName c rest (scan rest) = ⟨.name (.singleton c), c :: rest⟩ :: scan rest := by
      simp only [pushName, ends]
    simpa [scan, Text.isGap_eq_false hc, hc] using alone
  | cons d text ih =>
    have hd : isNameChar d := legal d (by simp)
    obtain ⟨source, tail⟩ := ih hd (fun c hc => legal c (by simp [hc]))
    refine ⟨c :: d :: text ++ rest, ?_⟩
    have joined : String.singleton c ++ String.ofList (d :: text) =
        String.ofList (c :: d :: text) := by
      rw [← String.toList_inj]
      simp
    rw [List.cons_append] at tail
    rw [List.cons_append, List.cons_append, scan, tail, ← joined]
    simp [Text.isGap_eq_false hc, hc, pushName, hd]

/-- A name is scanned whole where no further name character follows. -/
theorem Token.scan_name {text : String} {rest : List Char} (isName : IsName text)
    (longest : rest.head?.any isNameChar = false) :
    scan (text.toList ++ rest) = .name text :: scan rest := by
  obtain ⟨nonempty, legal⟩ := isName
  cases letters : text.toList with
  | nil => exact absurd (String.toList_eq_nil_iff.mp letters) nonempty
  | cons c cs =>
    rw [letters] at legal
    have others : ∀ d ∈ cs, isNameChar d := fun d hd => legal d (List.mem_cons_of_mem c hd)
    obtain ⟨source, read⟩ := Lexeme.scan_name (legal c (by simp)) others longest
    have back : String.ofList (c :: cs) = text := by rw [← letters, String.ofList_toList]
    rw [scan, read, List.map_cons, back]
    rfl

theorem Token.head?_write {tokens : List Token} (spaced : Spaced tokens)
    (h : NoNameFirst tokens) : (write tokens).head?.any isNameChar = false := by
  match tokens with
  | [] => rfl
  | .name text :: _ => exact absurd rfl (h text)
  | .stray _ :: _ => exact spaced.elim
  | .opening :: _ | .closing :: _ | .comma :: _ | .colon :: _ =>
    simp only [write, List.flatMap_cons, Token.text, List.singleton_append, List.head?_cons,
      Option.any_some]
    decide

/-- Spaced tokens read back from their text. -/
theorem Token.scan_write {tokens : List Token} (spaced : Spaced tokens) :
    scan (write tokens) = tokens := by
  induction tokens with
  | nil => rfl
  | cons token rest ih =>
    cases token with
    | name text =>
      obtain ⟨isName, apart, spaced⟩ := spaced
      have unfolded : write (.name text :: rest) = text.toList ++ write rest := rfl
      rw [unfolded, scan_name isName (head?_write spaced apart), ih spaced]
    | stray c => exact spaced.elim
    | opening | closing | comma | colon => exact congrArg (_ :: ·) (ih spaced)

theorem Token.noNameFirst_cons {token : Token} {rest : List Token}
    (h : ∀ text, token ≠ .name text) : NoNameFirst (token :: rest) :=
  fun text equal => h text (Option.some.inj equal)

mutual

theorem Term.spaced_append (term : Term) {rest : List Token} (wf : term.WellFormed)
    (apart : Token.NoNameFirst rest) (spaced : Token.Spaced rest) :
    Token.Spaced (term.tokens ++ rest) := by
  match term with
  | .bare name => exact ⟨wf, apart, spaced⟩
  | .applied name arguments =>
    have tail : Token.Spaced (.closing :: rest) := spaced
    have inside := spaced_list arguments wf.2.2 (Token.noNameFirst_cons (by simp)) tail
    have whole : (Term.applied name arguments).tokens ++ rest =
        .name name :: .opening :: (listTokens arguments ++ .closing :: rest) := by
      simp [Term.tokens]
    rw [whole]
    exact ⟨wf.1, Token.noNameFirst_cons (by simp), inside⟩

theorem Argument.spaced_append (argument : Argument) {rest : List Token}
    (wf : argument.WellFormed) (apart : Token.NoNameFirst rest) (spaced : Token.Spaced rest) :
    Token.Spaced (argument.tokens ++ rest) := by
  match argument with
  | .empty => exact spaced
  | .type term => exact term.spaced_append wf apart spaced
  | .field label type =>
    have tail : Token.Spaced (.colon :: (type.tokens ++ rest)) :=
      type.spaced_append wf.2 apart spaced
    by_cases unnamed : label = ""
    · simpa [Argument.tokens, unnamed] using tail
    · have named : IsName label := wf.1.resolve_left unnamed
      simp only [Argument.tokens, unnamed, if_false, List.cons_append, List.nil_append]
      exact ⟨named, Token.noNameFirst_cons (by simp), tail⟩

theorem spaced_list (arguments : List Argument) {rest : List Token}
    (wf : AllWellFormed arguments) (apart : Token.NoNameFirst rest) (spaced : Token.Spaced rest) :
    Token.Spaced (listTokens arguments ++ rest) := by
  match arguments with
  | [] => exact spaced
  | argument :: more =>
    have tail := spaced_more more wf.2 apart spaced
    simp only [listTokens, List.append_assoc]
    exact argument.spaced_append wf.1 tail.1 tail.2

theorem spaced_more (arguments : List Argument) {rest : List Token}
    (wf : AllWellFormed arguments) (apart : Token.NoNameFirst rest) (spaced : Token.Spaced rest) :
    Token.NoNameFirst (moreTokens arguments ++ rest) ∧
      Token.Spaced (moreTokens arguments ++ rest) := by
  match arguments with
  | [] => exact ⟨apart, spaced⟩
  | argument :: more =>
    have tail := spaced_more more wf.2 apart spaced
    simp only [moreTokens, List.cons_append, List.append_assoc]
    exact ⟨Token.noNameFirst_cons (by simp), argument.spaced_append wf.1 tail.1 tail.2⟩

end

def Term.name : Term → String
  | .bare name => name
  | .applied name _ => name

def Term.parameterTokens : Term → List Token
  | .bare _ => []
  | .applied _ arguments => .opening :: (listTokens arguments ++ [.closing])

/-- A term begins with its name, which the machine reads apart from the parameters. -/
theorem Term.tokens_eq (term : Term) : term.tokens = .name term.name :: term.parameterTokens := by
  cases term <;> simp [Term.tokens, Term.name, Term.parameterTokens]

/-- The place behind a term. -/
def Place.behind (label : Option String) : Term → Place
  | .bare name => .named label name
  | term => .complete (.labelled label term)

/-- At this place the argument is complete as soon as a separator follows. -/
def Place.Holds (argument : Argument) : Place → Prop
  | .named label name => argument = .labelled label (.bare name)
  | .complete whole => argument = whole
  | _ => False

theorem Place.holds_behind (label : Option String) (term : Term) :
    (behind label term).Holds (.labelled label term) := by
  cases term <;> rfl

namespace OpenTerm

/-- Go on from where a step has led to. -/
def resume (limit : Nat) (reading : Reading) (rest : List Token) :
    Except SpellingFault (Term × List Token) :=
  match reading with
  | .more state => run limit state rest
  | .done term => .ok (term, rest)

theorem run_cons {limit : Nat} {state : OpenTerm} {token : Token} {rest : List Token}
    {reading : Reading} (h : state.step limit token = .ok reading) :
    run limit state (token :: rest) = resume limit reading rest := by
  cases reading <;> simp [run, h, resume]

theorem run_error {limit : Nat} {state : OpenTerm} {token : Token} {rest : List Token}
    {fault : SpellingFault} (h : state.step limit token = .error fault) :
    run limit state (token :: rest) = .error fault := by
  simp [run, h]

/-- An argument that stands complete is finished by what comes behind it. -/
theorem step_holds {limit : Nat} {outer : List OpenList} {inner : OpenList} {place : Place}
    {argument : Argument} {token : Token} (h : place.Holds argument)
    (ends : token = .comma ∨ token = .closing) :
    step limit ⟨outer, inner, place⟩ token = finish ⟨outer, inner, place⟩ argument token := by
  cases place with
  | named label name =>
    rcases ends with rfl | rfl <;> cases label <;> cases h <;> rfl
  | complete whole => cases h; rfl
  | _ => exact h.elim

theorem step_comma {limit : Nat} {outer : List OpenList} {inner : OpenList} {place : Place}
    {argument : Argument} (h : place.Holds argument) :
    step limit ⟨outer, inner, place⟩ .comma =
      .ok (.more ⟨outer, { inner with arguments := argument :: inner.arguments }, .next⟩) :=
  step_holds h (Or.inl rfl)

/-- A closing parenthesis closes the innermost list, with the argument before it as the last. -/
theorem step_closing {limit : Nat} {outer : List OpenList} {inner : OpenList} {place : Place}
    {argument : Argument} (h : place.Holds argument) :
    step limit ⟨outer, inner, place⟩ .closing =
      .ok (close ⟨outer, inner, place⟩ (argument :: inner.arguments)) :=
  step_holds h (Or.inr rfl)

theorem step_name {limit : Nat} {outer : List OpenList} {inner : OpenList} {place : Place}
    {name : String} (start : place = .first ∨ place = .next) (within : outer.length < limit) :
    step limit ⟨outer, inner, place⟩ (.name name) =
      .ok (.more ⟨outer, inner, .named none name⟩) := by
  have shallow : ¬ limit < outer.length + 1 := by omega
  rcases start with rfl | rfl <;> simp [step, begin, depth, shallow]

theorem step_colon {limit : Nat} {outer : List OpenList} {inner : OpenList} {place : Place}
    (start : place = .first ∨ place = .next) (within : outer.length < limit) :
    step limit ⟨outer, inner, place⟩ .colon = .ok (.more ⟨outer, inner, .fieldType ""⟩) := by
  have shallow : ¬ limit < outer.length + 1 := by omega
  rcases start with rfl | rfl <;> simp [step, begin, depth, shallow]

theorem step_opening {limit : Nat} {outer : List OpenList} {inner : OpenList}
    (label : Option String) (name : String) :
    step limit ⟨outer, inner, .named label name⟩ .opening =
      .ok (.more ⟨inner :: outer, ⟨label, name, []⟩, .first⟩) := by
  cases label <;> rfl

/-- Where an argument may begin within the limit, the label of a term and its name are read. -/
theorem run_labelled {limit : Nat} {outer : List OpenList} {inner : OpenList} {place : Place}
    (label : Option String) (term : Term) {rest : List Token}
    (start : place = .first ∨ place = .next) (within : outer.length < limit) :
    run limit ⟨outer, inner, place⟩ ((Argument.labelled label term).tokens ++ rest) =
      run limit ⟨outer, inner, .named label term.name⟩ (term.parameterTokens ++ rest) := by
  cases label with
  | none =>
    simp only [Argument.labelled, Argument.tokens, term.tokens_eq, List.cons_append]
    exact run_cons (step_name start within)
  | some label =>
    have typed : run limit ⟨outer, inner, .fieldType label⟩ (term.tokens ++ rest) =
        run limit ⟨outer, inner, .named (some label) term.name⟩ (term.parameterTokens ++ rest) := by
      have named : step limit ⟨outer, inner, .fieldType label⟩ (.name term.name) =
        .ok (.more ⟨outer, inner, .named (some label) term.name⟩) := rfl
      rw [term.tokens_eq, List.cons_append]
      exact run_cons named
    by_cases unnamed : label = ""
    · subst unnamed
      simp only [Argument.labelled, Argument.tokens, if_true, List.nil_append, List.cons_append]
      rw [run_cons (step_colon start within)]
      exact typed
    · have colon : step limit ⟨outer, inner, .named none label⟩ .colon =
        .ok (.more ⟨outer, inner, .fieldType label⟩) := rfl
      simp only [Argument.labelled, Argument.tokens, unnamed, if_false, List.nil_append,
        List.cons_append]
      rw [run_cons (step_name start within)]
      simp only [resume]
      rw [run_cons colon]
      exact typed

/-- The comma behind an argument is read if the argument is, which an empty one always is. -/
theorem run_comma {limit : Nat} {outer : List OpenList} {inner : OpenList} {place : Place}
    {argument : Argument} {rest : List Token} (start : place = .first ∨ place = .next)
    (read : argument ≠ .empty → ∃ behind : Place, behind.Holds argument ∧
      run limit ⟨outer, inner, place⟩ (argument.tokens ++ .comma :: rest) =
        run limit ⟨outer, inner, behind⟩ (.comma :: rest)) :
    run limit ⟨outer, inner, place⟩ (argument.tokens ++ .comma :: rest) =
      run limit ⟨outer, { inner with arguments := argument :: inner.arguments }, .next⟩ rest := by
  by_cases empty : argument = .empty
  · subst empty
    have stepped : step limit ⟨outer, inner, place⟩ .comma = .ok (.more ⟨outer,
        { inner with arguments := .empty :: inner.arguments }, .next⟩) := by
      rcases start with rfl | rfl <;> rfl
    exact run_cons stepped
  · obtain ⟨behind, holds, read⟩ := read empty
    rw [read, run_cons (step_comma holds)]
    rfl

mutual

/-- Behind the name of a term, the rest of the term is read. -/
theorem run_term {limit : Nat} {outer : List OpenList} {inner : OpenList} {label : Option String}
    (term : Term) {rest : List Token} (wf : term.WellFormed)
    (within : outer.length + 1 + term.depth ≤ limit) :
    run limit ⟨outer, inner, .named label term.name⟩ (term.parameterTokens ++ rest) =
      run limit ⟨outer, inner, .behind label term⟩ rest := by
  match term with
  | .bare _ => rfl
  | .applied name [] =>
    simp only [Term.parameterTokens, listTokens, Term.name, List.cons_append, List.nil_append]
    rw [run_cons (step_opening label name)]
    rfl
  | .applied name (argument :: more) =>
    have several : argument = .empty → more ≠ [] := by
      rintro rfl rfl
      exact wf.2.1 .empty rfl rfl
    have deeper : (inner :: outer).length + listDepth (argument :: more) ≤ limit := by
      have bound : outer.length + 1 + listDepth (argument :: more) ≤ limit := within
      simpa using bound
    simp only [Term.parameterTokens, Term.name, List.cons_append, List.append_assoc,
      List.nil_append]
    have only : ∀ only, argument :: more = [only] → Place.first = .first → only ≠ .empty := by
      rintro only equal - rfl
      cases equal
      exact several rfl rfl
    have read : run limit ⟨inner :: outer, ⟨label, name, []⟩, .first⟩
        (listTokens (argument :: more) ++ .closing :: rest) = _ :=
      run_list (argument :: more) (.inl rfl) (by simp) only wf.2.2 deeper
    rw [run_cons (step_opening label name), resume, read]
    simp [close, resume, Place.behind]

/-- Where an argument may begin, an argument that is not empty is read. -/
theorem run_argument {limit : Nat} {outer : List OpenList} {inner : OpenList} {place : Place}
    (argument : Argument) {rest : List Token} (start : place = .first ∨ place = .next)
    (filled : argument ≠ .empty) (wf : argument.WellFormed)
    (within : outer.length + listDepth [argument] ≤ limit) :
    ∃ behind : Place, behind.Holds argument ∧
      run limit ⟨outer, inner, place⟩ (argument.tokens ++ rest) =
        run limit ⟨outer, inner, behind⟩ rest := by
  match argument with
  | .empty => exact absurd rfl filled
  | .type term =>
    simp only [listDepth] at within
    refine ⟨.behind none term, Place.holds_behind none term, ?_⟩
    have begun := @run_labelled limit outer inner place none term rest start (by omega)
    exact begun.trans (run_term term wf (by omega))
  | .field label type =>
    simp only [listDepth] at within
    refine ⟨.behind (some label) type, Place.holds_behind (some label) type, ?_⟩
    have begun := @run_labelled limit outer inner place (some label) type rest start (by omega)
    exact begun.trans (run_term type wf.2 (by omega))

/-- Where an argument may begin, the arguments of a list and its end are read. -/
theorem run_list {limit : Nat} {outer : List OpenList} {inner : OpenList} {place : Place}
    (arguments : List Argument) {rest : List Token} (start : place = .first ∨ place = .next)
    (nonempty : arguments ≠ [])
    (several : ∀ only, arguments = [only] → place = .first → only ≠ .empty)
    (wf : AllWellFormed arguments)
    (within : outer.length + listDepth arguments ≤ limit) :
    run limit ⟨outer, inner, place⟩ (listTokens arguments ++ .closing :: rest) =
      resume limit (close ⟨outer, inner, place⟩ (arguments.reverse ++ inner.arguments)) rest := by
  match arguments with
  | [] => exact absurd rfl nonempty
  | [argument] =>
    simp only [listTokens, moreTokens, List.append_nil, List.reverse_cons, List.reverse_nil,
      List.nil_append, List.singleton_append]
    by_cases empty : argument = .empty
    · subst empty
      have next : place = .next := start.resolve_left fun first => several _ rfl first rfl
      subst next
      exact run_cons rfl
    · obtain ⟨behind, holds, read⟩ := run_argument argument start empty wf.1 within
      rw [read, run_cons (step_closing holds)]
      rfl
  | argument :: second :: more =>
    have shallow : outer.length + listDepth [argument] ≤ limit ∧
        outer.length + listDepth (second :: more) ≤ limit := by
      cases argument <;> simp only [listDepth] at within ⊢ <;> omega
    have comma : run limit ⟨outer, inner, place⟩
        (argument.tokens ++ .comma :: (listTokens (second :: more) ++ .closing :: rest)) =
          run limit ⟨outer, { inner with arguments := argument :: inner.arguments }, .next⟩
            (listTokens (second :: more) ++ .closing :: rest) :=
      run_comma start fun filled => run_argument argument start filled wf.1 shallow.1
    have tail : run limit ⟨outer, { inner with arguments := argument :: inner.arguments }, .next⟩
        (listTokens (second :: more) ++ .closing :: rest) = _ :=
      run_list (second :: more) (.inr rfl) (by simp) (by simp) wf.2 shallow.2
    have split : listTokens (argument :: second :: more) ++ .closing :: rest =
        argument.tokens ++ .comma :: (listTokens (second :: more) ++ .closing :: rest) := by
      simp [listTokens, moreTokens]
    rw [split, comma, tail]
    simp [close]

end

end OpenTerm

/-- A well-formed term within the limit is read from its tokens, and what follows is left over. A
name alone must not be followed by an opening parenthesis, which would belong to it. -/
theorem Term.ofTokens_tokens {limit : Nat} {term : Term} {rest : List Token}
    (wf : term.WellFormed) (within : term.depth ≤ limit)
    (ends : ∀ name, term = .bare name → rest.head? ≠ some .opening) :
    Term.ofTokens limit (term.tokens ++ rest) = .ok (term, rest) := by
  match term with
  | .bare name =>
    cases rest with
    | nil => rfl
    | cons token rest =>
      have other : token ≠ .opening := fun equal => ends name rfl (congrArg some equal)
      cases token with
      | opening => exact absurd rfl other
      | _ => rfl
  | .applied name [] => rfl
  | .applied name (argument :: more) =>
    have shallow : ([] : List OpenList).length + listDepth (argument :: more) ≤ limit := by
      simpa [Term.depth] using within
    have read : OpenTerm.run limit ⟨[], ⟨none, name, []⟩, .first⟩
        (listTokens (argument :: more) ++ .closing :: rest) = _ :=
      OpenTerm.run_list (argument :: more) (.inl rfl) (by simp)
        (fun only equal _ => wf.2.1 only equal) wf.2.2 shallow
    simp only [Term.tokens, List.cons_append, List.append_assoc, Term.ofTokens, List.nil_append]
    rw [read]
    simp [OpenTerm.close, OpenTerm.resume]

end ColumnTypes
