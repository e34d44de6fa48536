import ColumnTypes.Proofs.Beginnings

/-!
# Reading open lists

The limit on nesting is tested where a parameter may start and nowhere else, before the parameter is
looked at (`OpenTerm.step_eq_tooDeep`). What was read up to there is an unfinished beginning, and
behind any unfinished beginning the reader looks for a parameter, unless it has stopped before
(`Grammar.Opens.read`). So tokens are too deep exactly if they begin with one list more than the
limit left open and go on with anything but a separator (`Term.ofTokens_eq_tooDeep_iff`); what
stands behind has no say. A list at that depth is still read while it holds empty parameters.
-/

namespace ColumnTypes

/-- A separator of parameters, or the end of their list. -/
def Token.EndsParameter (token : Token) : Prop :=
  token = .comma ∨ token = .closing

namespace OpenTerm

variable {limit levels : Nat}

theorem finish_ne_tooDeep (state : OpenTerm) (argument : Argument) (token : Token) :
    state.finish argument token ≠ .error (.tooDeep levels) := by
  cases token <;> simp [finish]

theorem begin_eq_tooDeep {state : OpenTerm} {token : Token}
    (h : state.begin limit token = .error (.tooDeep levels)) :
    levels = limit ∧ ¬ token.EndsParameter ∧ limit ≤ state.outer.length := by
  unfold begin at h
  split at h
  · exact absurd h (finish_ne_tooDeep state .empty token)
  rename_i filled
  split at h
  · rename_i deep
    cases h
    exact ⟨rfl, filled, Nat.le_of_lt_succ deep⟩
  · cases token <;> cases h

/-- A step finds something too deep only where a parameter may start. -/
theorem step_eq_tooDeep {state : OpenTerm} {token : Token}
    (h : state.step limit token = .error (.tooDeep levels)) :
    levels = limit ∧ (state.place = .first ∨ state.place = .next) ∧ ¬ token.EndsParameter ∧
      limit ≤ state.outer.length := by
  obtain ⟨outer, inner, place⟩ := state
  cases place with
  | first =>
    have begun : begin limit ⟨outer, inner, .first⟩ token = .error (.tooDeep levels) := by
      cases token with
      | closing => cases h
      | _ => exact h
    obtain ⟨same, filled, deep⟩ := begin_eq_tooDeep begun
    exact ⟨same, Or.inl rfl, filled, deep⟩
  | next =>
    obtain ⟨same, filled, deep⟩ := begin_eq_tooDeep h
    exact ⟨same, Or.inr rfl, filled, deep⟩
  | fieldType label => cases token <;> cases h
  | named label name => cases token <;> cases label <;> cases h
  | complete argument => exact absurd h (finish_ne_tooDeep _ _ _)

/-- A run that finds an argument too deep has come to a place where one may start, with one list
more open than the limit allows. -/
theorem Stops.opens_of_tooDeep {tokens : List Token}
    (h : Stops limit tokens (.error (.tooDeep levels))) :
    levels = limit ∧ ∃ before token rest, tokens = before ++ token :: rest ∧
      Grammar.Opens (limit + 1) before ∧ ¬ token.EndsParameter := by
  generalize outcome : Except.error (SpellingFault.tooDeep levels) = result at h
  cases h with
  | @atEnd last =>
    obtain ⟨outer, inner, place⟩ := last
    cases place <;> simp [OpenTerm.atEnd] at outcome
  | @fault last token rest _ valid read stepped =>
    cases outcome
    obtain ⟨same, start, filled, deep⟩ := step_eq_tooDeep stepped
    obtain ⟨outer, inner, place⟩ := last
    obtain ⟨lists, -⟩ := valid
    have atLimit : outer.length = limit := Nat.le_antisymm lists.1.shallow deep
    refine ⟨same, openTokens (inner :: outer), token, rest, ?_, ?_, filled⟩
    · rw [← read]
      rcases start with rfl | rfl <;> simp [OpenTerm.tokens, Place.tokens]
    · exact atLimit ▸ opens_of_allValid lists
  | done => cases outcome

end OpenTerm

namespace Grammar

/-- Behind an unfinished beginning a parameter is looked for, unless it is too deep already. -/
theorem Opens.read {limit levels : Nat} {tokens : List Token} (opens : Opens levels tokens) :
    (∃ outer inner place, (place = .first ∨ place = .next) ∧ outer.length + 1 = levels ∧
      levels ≤ limit + 1 ∧ ∀ rest, Term.ofTokens limit (tokens ++ rest) =
        OpenTerm.run limit ⟨outer, inner, place⟩ rest) ∨
    ∀ rest, Term.ofTokens limit (tokens ++ rest) = .error (.tooDeep limit) := by
  induction opens with
  | @outermost name isName =>
    exact Or.inl ⟨[], ⟨none, name, []⟩, .first, Or.inl rfl, rfl, Nat.le_add_left .., fun _ => rfl⟩
  | @inner levels tokens label name around isLabel isName ih =>
    rcases ih with ⟨outer, inner, place, start, rfl, within, read⟩ | deep
    · by_cases shallow : outer.length < limit
      · refine Or.inl ⟨inner :: outer, ⟨label, name, []⟩, .first, Or.inl rfl, rfl, ?_, ?_⟩
        · exact Nat.succ_le_succ shallow
        · intro rest
          have begun := @OpenTerm.run_labelled limit outer inner place label (.bare name)
            (.opening :: rest) start shallow
          simp only [Argument.tokens_labelled, Term.tokens, List.append_assoc] at begun
          simp only [List.append_assoc, read]
          refine begun.trans ?_
          exact OpenTerm.run_cons (OpenTerm.step_opening label name)
      · refine Or.inr fun rest => ?_
        have deep := @OpenTerm.run_filled_deep limit outer inner place
          (.labelled label (.bare name)) (.opening :: rest) (Argument.labelled_ne_empty _ _) start
          (Nat.not_lt.mp shallow)
        simpa [Argument.tokens_labelled, Term.tokens, read] using deep
    · exact Or.inr fun rest => by simp only [List.append_assoc, deep]
  | @next levels tokens param argument before isParam ih =>
    obtain ⟨wf, rfl⟩ := isParam.exact
    rcases ih with ⟨outer, inner, place, start, rfl, within, read⟩ | deep
    · by_cases shallow : outer.length + listDepth [argument] ≤ limit
      · refine Or.inl ⟨outer, { inner with arguments := argument :: inner.arguments }, .next,
          Or.inr rfl, rfl, within, fun rest => ?_⟩
        simp only [List.append_assoc, read]
        exact OpenTerm.run_comma start fun filled =>
          OpenTerm.run_argument argument start filled wf shallow
      · refine Or.inr fun rest => ?_
        simp only [List.append_assoc, read]
        exact OpenTerm.run_argument_deep argument start wf (Nat.le_of_succ_le_succ within)
          (Nat.not_le.mp shallow)
    · exact Or.inr fun rest => by simp only [List.append_assoc, deep]

/-- A parameter that starts beyond the limit is too deep, whatever it starts with. -/
theorem Opens.tooDeep {limit levels : Nat} {tokens : List Token} (opens : Opens levels tokens)
    (beyond : limit < levels) {token : Token} (filled : ¬ token.EndsParameter)
    (rest : List Token) :
    Term.ofTokens limit (tokens ++ token :: rest) = .error (.tooDeep limit) := by
  rcases @Opens.read limit levels tokens opens with
    ⟨outer, inner, place, start, rfl, -, read⟩ | deep
  · rw [read]
    exact OpenTerm.run_error (OpenTerm.step_deep start (not_or.mp filled)
      (Nat.le_of_lt_succ beyond))
  · exact deep _

end Grammar

/-- The tokens are too deep exactly if they begin with one list more than the limit left open, and
go on with a parameter. -/
theorem Term.ofTokens_eq_tooDeep_iff {limit levels : Nat} {input : List Token}
    (isName : ∀ name, .name name ∈ input → IsName name) :
    Term.ofTokens limit input = .error (.tooDeep levels) ↔
      levels = limit ∧ ∃ before token rest, input = before ++ token :: rest ∧
        Grammar.Unfinished (limit + 1) before ∧ ¬ token.EndsParameter := by
  constructor
  · intro h
    unfold Term.ofTokens at h
    split at h
    · have stops := OpenTerm.run_outermost_stops limit isName
      rw [h] at stops
      obtain ⟨same, before, token, rest, read, opens, filled⟩ := stops.opens_of_tooDeep
      exact ⟨same, before, token, rest, read, opens.unfinished, filled⟩
    · cases h
    · cases h
  · rintro ⟨rfl, before, token, rest, rfl, unfinished, filled⟩
    exact unfinished.opens.tooDeep (Nat.lt_succ_self _) filled rest

end ColumnTypes
