import ColumnTypes.Spelling.RoundTrip

/-!
# What an open term has read

An open term stands for the tokens that it was read from (`OpenTerm.tokens`). A step appends its
token to them and keeps the term valid (`OpenTerm.step_follows`): its names are names, no argument
lies too deep, and a place is one that the arguments before it allow. So a run stops in a valid
open term or has read the tokens of the term that it returns (`OpenTerm.run_stops`,
`Term.ofTokens_sound`).
-/

namespace ColumnTypes

theorem allWellFormed_iff {arguments : List Argument} :
    AllWellFormed arguments ↔ ∀ argument ∈ arguments, argument.WellFormed := by
  induction arguments with
  | nil => simp [AllWellFormed]
  | cons argument rest ih => simp [AllWellFormed, ih]

theorem listDepth_cons (argument : Argument) (rest : List Argument) :
    listDepth (argument :: rest) = max (listDepth [argument]) (listDepth rest) := by
  cases argument <;> simp [listDepth]

theorem listDepth_le_iff {arguments : List Argument} {limit : Nat} :
    listDepth arguments ≤ limit ↔ ∀ argument ∈ arguments, listDepth [argument] ≤ limit := by
  induction arguments with
  | nil => simp [listDepth]
  | cons argument rest ih =>
    rw [listDepth_cons, Nat.max_le, ih, List.forall_mem_cons]

theorem listDepth_reverse (arguments : List Argument) :
    listDepth arguments.reverse = listDepth arguments := by
  apply Nat.le_antisymm
  · rw [listDepth_le_iff]
    intro argument mem
    exact listDepth_le_iff.mp (Nat.le_refl _) argument (List.mem_reverse.mp mem)
  · rw [listDepth_le_iff]
    intro argument mem
    exact listDepth_le_iff.mp (Nat.le_refl _) argument (List.mem_reverse.mpr mem)

/-- The tokens of complete arguments, each with the comma behind it. -/
def settledTokens (arguments : List Argument) : List Token :=
  arguments.flatMap fun argument => argument.tokens ++ [.comma]

theorem moreTokens_append_last (arguments : List Argument) (last : Argument) :
    moreTokens (arguments ++ [last]) = .comma :: (settledTokens arguments ++ last.tokens) := by
  induction arguments with
  | nil => simp [moreTokens, settledTokens]
  | cons argument rest ih =>
    rw [List.cons_append, moreTokens, ih]
    simp [settledTokens]

theorem listTokens_append_last (arguments : List Argument) (last : Argument) :
    listTokens (arguments ++ [last]) = settledTokens arguments ++ last.tokens := by
  cases arguments with
  | nil => simp [listTokens, moreTokens, settledTokens]
  | cons argument rest =>
    rw [List.cons_append, listTokens, moreTokens_append_last]
    simp [settledTokens]

def labelTokens : Option String → List Token
  | none => []
  | some label => (if label = "" then [] else [.name label]) ++ [.colon]

/-- A label, if there is one, is empty or a name. -/
def IsLabel (label : Option String) : Prop :=
  ∀ text, label = some text → text = "" ∨ IsName text

theorem Argument.tokens_labelled (label : Option String) (term : Term) :
    (Argument.labelled label term).tokens = labelTokens label ++ term.tokens := by
  cases label <;> simp [Argument.labelled, Argument.tokens, labelTokens]

theorem Argument.wellFormed_labelled {label : Option String} {term : Term} (isLabel : IsLabel label)
    (wf : term.WellFormed) : (Argument.labelled label term).WellFormed := by
  cases label with
  | none => exact wf
  | some label => exact ⟨isLabel label rfl, wf⟩

theorem Argument.labelled_ne_empty (label : Option String) (term : Term) :
    Argument.labelled label term ≠ .empty := by
  cases label <;> simp [Argument.labelled]

theorem listDepth_labelled (label : Option String) (term : Term) :
    listDepth [Argument.labelled label term] = term.depth + 1 := by
  cases label <;> simp [Argument.labelled, listDepth]

/-- The tokens of an open list up to the place of its next argument. -/
def OpenList.tokens (list : OpenList) : List Token :=
  labelTokens list.label ++ .name list.name :: .opening :: settledTokens list.arguments.reverse

def openTokens : List OpenList → List Token
  | [] => []
  | inner :: outer => openTokens outer ++ inner.tokens

def Place.tokens : Place → List Token
  | .first | .next => []
  | .fieldType label => labelTokens (some label)
  | .named label name => labelTokens label ++ [.name name]
  | .complete argument => argument.tokens

/-- An open list with so many lists around it, none of whose arguments lies too deep. -/
structure OpenList.Valid (limit around : Nat) (list : OpenList) : Prop where
  isLabel : IsLabel list.label
  isName : IsName list.name
  wellFormed : AllWellFormed list.arguments
  within : around + listDepth list.arguments ≤ limit
  shallow : around ≤ limit

/-- Open lists of one term, of which the innermost comes first and the last has no label. -/
def AllValid (limit : Nat) : List OpenList → Prop
  | [] => True
  | inner :: outer =>
    inner.Valid limit outer.length ∧ (outer = [] → inner.label = none) ∧ AllValid limit outer

/-- A place behind these arguments, in a list with so many lists around it. -/
def Place.Valid (limit around : Nat) (arguments : List Argument) : Place → Prop
  | .first => arguments = []
  | .next => arguments ≠ []
  | .fieldType label => IsLabel (some label) ∧ around < limit
  | .named label name => IsLabel label ∧ IsName name ∧ around < limit
  | .complete argument =>
    argument.WellFormed ∧ argument ≠ .empty ∧ around + listDepth [argument] ≤ limit

namespace OpenTerm

def tokens (state : OpenTerm) : List Token :=
  openTokens (state.inner :: state.outer) ++ state.place.tokens

/-- The open term is the beginning of a term within the limit. -/
def Valid (limit : Nat) (state : OpenTerm) : Prop :=
  AllValid limit (state.inner :: state.outer) ∧
    state.place.Valid limit state.outer.length state.inner.arguments

end OpenTerm

/-- What a step leads to was read from these tokens. -/
def Reading.Follows (limit : Nat) (tokens : List Token) : Reading → Prop
  | .more state => state.Valid limit ∧ state.tokens = tokens
  | .done term => term.WellFormed ∧ term.depth ≤ limit ∧ term.tokens = tokens

namespace OpenTerm

variable {limit : Nat} {outer : List OpenList} {inner : OpenList} {place : Place}
  {token : Token} {reading : Reading}

/-- A list that is closed becomes the parameters of the name before it, one level further out. -/
theorem close_follows (valid : AllValid limit (inner :: outer)) {arguments : List Argument}
    (wf : AllWellFormed arguments) (single : arguments ≠ [.empty])
    (within : outer.length + listDepth arguments ≤ limit) :
    (close ⟨outer, inner, place⟩ arguments).Follows limit (openTokens outer ++
      (labelTokens inner.label ++ .name inner.name :: .opening ::
        (listTokens arguments.reverse ++ [.closing]))) := by
  obtain ⟨list, outermost, validOuter⟩ := valid
  have termWf : (Term.applied inner.name arguments.reverse).WellFormed := by
    refine ⟨list.isName, ?_, ?_⟩
    · rintro only equal rfl
      exact single (List.reverse_eq_iff.mp equal)
    · rw [allWellFormed_iff] at wf ⊢
      exact fun argument mem => wf argument (List.mem_reverse.mp mem)
  have depth : (Term.applied inner.name arguments.reverse).depth = listDepth arguments :=
    listDepth_reverse arguments
  cases outer with
  | nil =>
    have unlabelled := outermost rfl
    refine ⟨termWf, ?_, ?_⟩
    · rw [depth]
      simpa using within
    · simp [Term.tokens, openTokens, unlabelled, labelTokens]
  | cons next outer =>
    refine ⟨⟨validOuter, ?_, ?_, ?_⟩, ?_⟩
    · exact Argument.wellFormed_labelled list.isLabel termWf
    · exact Argument.labelled_ne_empty _ _
    · have around : outer.length + (listDepth arguments + 1) ≤ limit := by
        rw [List.length_cons] at within
        omega
      rw [listDepth_labelled, depth]
      exact around
    · simp [tokens, Place.tokens, Argument.tokens_labelled, Term.tokens]

theorem finish_follows (valid : AllValid limit (inner :: outer)) {argument : Argument}
    (wf : argument.WellFormed) (within : outer.length + listDepth [argument] ≤ limit)
    (single : token = .closing → argument = .empty → inner.arguments ≠ [])
    (h : finish ⟨outer, inner, place⟩ argument token = .ok reading) :
    reading.Follows limit (openTokens (inner :: outer) ++ (argument.tokens ++ [token])) := by
  have list := valid.1
  have wfs : AllWellFormed (argument :: inner.arguments) := ⟨wf, list.wellFormed⟩
  have deep : outer.length + listDepth (argument :: inner.arguments) ≤ limit := by
    have before := list.within
    rw [listDepth_cons]
    omega
  cases token with
  | comma =>
    cases h
    refine ⟨⟨⟨?_, valid.2⟩, List.cons_ne_nil _ _⟩, ?_⟩
    · exact ⟨list.isLabel, list.isName, wfs, deep, list.shallow⟩
    · simp [tokens, openTokens, OpenList.tokens, settledTokens, Place.tokens]
  | closing =>
    cases h
    have notAlone : argument :: inner.arguments ≠ [.empty] := by
      intro equal
      obtain ⟨empty, alone⟩ := List.cons.inj equal
      exact single rfl empty alone
    have closed : (close ⟨outer, inner, place⟩ (argument :: inner.arguments)).Follows limit _ :=
      close_follows valid wfs notAlone deep
    rw [List.reverse_cons, listTokens_append_last] at closed
    simpa [openTokens, OpenList.tokens] using closed
  | _ => cases h

theorem begin_follows (valid : AllValid limit (inner :: outer))
    (isName : ∀ name, token = .name name → IsName name)
    (single : token = .closing → inner.arguments ≠ [])
    (h : begin limit ⟨outer, inner, place⟩ token = .ok reading) :
    reading.Follows limit (openTokens (inner :: outer) ++ [token]) := by
  unfold begin at h
  split at h
  · have shallow : outer.length + listDepth [.empty] ≤ limit := valid.1.shallow
    have empty : Argument.WellFormed .empty := trivial
    exact finish_follows valid empty shallow (fun last _ => single last) h
  split at h
  · cases h
  have within : outer.length < limit := by
    rename_i shallow
    simp only [depth] at shallow
    omega
  cases token with
  | name name =>
    cases h
    refine ⟨⟨valid, ?_, isName name rfl, within⟩, rfl⟩
    intro text absent
    cases absent
  | colon =>
    cases h
    refine ⟨⟨valid, ?_, within⟩, rfl⟩
    intro text same
    cases same
    exact Or.inl rfl
  | _ => cases h

/-- A step keeps the open term valid and has read one token more. -/
theorem step_follows {state : OpenTerm} (valid : state.Valid limit)
    (isName : ∀ name, token = .name name → IsName name)
    (h : state.step limit token = .ok reading) :
    reading.Follows limit (state.tokens ++ [token]) := by
  obtain ⟨outer, inner, place⟩ := state
  obtain ⟨lists, placed⟩ := valid
  have list := lists.1
  cases place with
  | first =>
    have noArguments : inner.arguments = [] := placed
    simp only [tokens, Place.tokens, List.append_nil]
    by_cases closes : token = .closing
    · subst closes
      cases h
      have closed : (close ⟨outer, inner, .first⟩ []).Follows limit _ :=
        close_follows lists trivial (by simp) list.shallow
      simpa [openTokens, OpenList.tokens, noArguments, settledTokens, listTokens] using closed
    · have begun : begin limit ⟨outer, inner, .first⟩ token = .ok reading := by
        cases token with
        | closing => exact absurd rfl closes
        | _ => exact h
      exact begin_follows lists isName (fun last => absurd last closes) begun
  | next =>
    simp only [tokens, Place.tokens, List.append_nil]
    exact begin_follows lists isName (fun _ => placed) h
  | fieldType label =>
    cases token with
    | name name =>
      cases h
      refine ⟨⟨lists, placed.1, isName name rfl, placed.2⟩, ?_⟩
      simp [tokens, Place.tokens]
    | _ => cases h
  | named label name =>
    obtain ⟨isLabel, named, within⟩ := placed
    have bare : (Argument.labelled label (.bare name)).WellFormed :=
      Argument.wellFormed_labelled isLabel named
    have deep : outer.length + listDepth [Argument.labelled label (.bare name)] ≤ limit := by
      rw [listDepth_labelled]
      exact within
    have finished (h : finish ⟨outer, inner, .named label name⟩ (.labelled label (.bare name))
        token = .ok reading) :
        reading.Follows limit (tokens ⟨outer, inner, .named label name⟩ ++ [token]) := by
      have followed := finish_follows lists bare deep
        (fun _ empty => absurd empty (Argument.labelled_ne_empty _ _)) h
      simpa [tokens, Place.tokens, Argument.tokens_labelled, Term.tokens] using followed
    cases token with
    | opening =>
      have opened : reading = .more ⟨inner :: outer, ⟨label, name, []⟩, .first⟩ := by
        cases label <;> cases h <;> rfl
      subst opened
      refine ⟨⟨⟨⟨isLabel, named, trivial, ?_, within⟩, by simp, lists⟩, rfl⟩, ?_⟩
      · exact within
      · simp [tokens, openTokens, OpenList.tokens, settledTokens, Place.tokens]
    | colon =>
      cases label with
      | none =>
        cases h
        refine ⟨⟨lists, ?_, within⟩, ?_⟩
        · intro text same
          cases same
          exact Or.inr named
        · simp [tokens, Place.tokens, labelTokens, named.1]
      | some label => exact finished h
    | _ =>
      apply finished
      cases label <;> exact h
  | complete argument =>
    obtain ⟨wf, filled, within⟩ := placed
    have followed := finish_follows lists wf within (fun _ empty => absurd empty filled) h
    simpa [tokens, Place.tokens] using followed

/-- What a run over these tokens may come to: it runs out of them, or a step from a valid open term
finds a fault, or a term is complete. -/
inductive Stops (limit : Nat) (tokens : List Token) :
    Except SpellingFault (Term × List Token) → Prop where
  | atEnd {last : OpenTerm} (read : last.tokens = tokens) : Stops limit tokens (.error last.atEnd)
  | fault {last : OpenTerm} {token : Token} {rest : List Token} {fault : SpellingFault}
      (valid : last.Valid limit) (read : last.tokens ++ token :: rest = tokens)
      (stepped : last.step limit token = .error fault) : Stops limit tokens (.error fault)
  | done {term : Term} {rest : List Token} (wf : term.WellFormed) (within : term.depth ≤ limit)
      (read : term.tokens ++ rest = tokens) : Stops limit tokens (.ok (term, rest))

/-- A run goes over the tokens behind those that were read before. -/
theorem run_stops {state : OpenTerm} {input : List Token} (valid : state.Valid limit)
    (isName : ∀ name, .name name ∈ input → IsName name) :
    Stops limit (state.tokens ++ input) (state.run limit input) := by
  induction input generalizing state with
  | nil => exact .atEnd (List.append_nil _).symm
  | cons token input ih =>
    have first : ∀ name, token = .name name → IsName name := by
      rintro name rfl
      exact isName name (List.mem_cons_self ..)
    cases stepped : state.step limit token with
    | error fault =>
      rw [run_error stepped]
      exact .fault valid rfl stepped
    | ok reading =>
      have followed := step_follows valid first stepped
      rw [run_cons stepped]
      cases reading with
      | more next =>
        obtain ⟨validNext, read⟩ := followed
        have stops := ih validNext fun name mem => isName name (List.mem_cons_of_mem _ mem)
        rwa [read, List.append_assoc] at stops
      | done whole =>
        obtain ⟨wf, within, read⟩ := followed
        exact .done wf within (by simp [read])

theorem tokens_outermost (name : String) :
    tokens ⟨[], ⟨none, name, []⟩, .first⟩ = [.name name, .opening] :=
  rfl

/-- Right behind the opening parenthesis of the outermost list. -/
theorem valid_outermost {name : String} (isName : IsName name) :
    Valid limit ⟨[], ⟨none, name, []⟩, .first⟩ := by
  refine ⟨⟨⟨?_, isName, trivial, Nat.zero_le _, Nat.zero_le _⟩, fun _ => rfl, trivial⟩, rfl⟩
  intro text absent
  cases absent

theorem run_outermost_stops (limit : Nat) {name : String} {input : List Token}
    (isName : ∀ text, .name text ∈ .name name :: .opening :: input → IsName text) :
    Stops limit (.name name :: .opening :: input)
      (run limit ⟨[], ⟨none, name, []⟩, .first⟩ input) := by
  have named : IsName name := isName name (List.mem_cons_self ..)
  have names : ∀ text, .name text ∈ input → IsName text := fun text mem =>
    isName text (List.mem_cons_of_mem _ (List.mem_cons_of_mem _ mem))
  exact run_stops (valid_outermost named) names

end OpenTerm

/-- The term that is read is well formed, within the limit, and written as the tokens read. -/
theorem Term.ofTokens_sound {limit : Nat} {input rest : List Token} {term : Term}
    (isName : ∀ name, .name name ∈ input → IsName name)
    (h : Term.ofTokens limit input = .ok (term, rest)) :
    term.WellFormed ∧ term.depth ≤ limit ∧ term.tokens ++ rest = input := by
  unfold Term.ofTokens at h
  split at h
  · have stops := OpenTerm.run_outermost_stops limit isName
    rw [h] at stops
    cases stops with
    | done wf within read => exact ⟨wf, within, read⟩
  · cases h
    exact ⟨isName _ (List.mem_cons_self ..), Nat.zero_le _, rfl⟩
  · cases h

end ColumnTypes
