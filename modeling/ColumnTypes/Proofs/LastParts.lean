import ColumnTypes.Proofs.Layout
import ColumnTypes.Spelling.Reading

/-!
# Last parts of texts

A message quotes a text from a token on to the end. If the tokens of a last part of a text are the
last tokens of the text, then the lexemes of that part are the last lexemes (`Lexeme.scan_suffix`),
so what is quoted from its first token on is the part itself (`Lexeme.textOfLast_scan`). A name may
be cut in two, but then the first half has fewer characters than the name, and the tokens differ
(`Token.write_scan`).
-/

namespace ColumnTypes

namespace Token

/-- The tokens of a text, written without gaps, are its characters but for the gaps. -/
theorem write_scan (text : List Char) : write (scan text) = text.filter fun c => !Text.isGap c := by
  have laid := layout_scan text
  generalize scan text = tokens at laid
  induction laid with
  | nil => rfl
  | gap gap _ ih => rw [List.filter_cons_of_neg (by simp [gap]), ih]
  | @name name rest tokens isName _ _ ih =>
    have kept : (name.toList.filter fun c => !Text.isGap c) = name.toList :=
      List.filter_eq_self.mpr fun c hc => by simp [Text.isGap_eq_false (isName.2 c hc)]
    rw [List.filter_append, kept, ← ih]
    rfl
  | @symbol c rest tokens noGap _ _ ih =>
    rw [List.filter_cons_of_pos (by simp [noGap]), ← ih, write, List.flatMap_cons, text_ofChar]
    rfl

/-- A text that begins with a token has other tokens than its last parts. -/
theorem scan_cons_append_ne {c : Char} (noGap : Text.isGap c = false) (text rest : List Char) :
    scan (c :: (text ++ rest)) ≠ scan rest := by
  intro same
  have written := congrArg (List.length ∘ write) same
  simp only [Function.comp_apply, write_scan, List.filter_cons, noGap, Bool.not_false, if_true,
    List.filter_append, List.length_cons, List.length_append] at written
  omega

end Token

namespace Lexeme

/-- The first lexeme starts the whole text, and the others are found behind its first character. -/
theorem scan_cons {c : Char} (rest : List Char) (noGap : Text.isGap c = false) :
    ∃ first before behind, scan (c :: rest) = first :: behind ∧ first.source = c :: rest ∧
      scan rest = before ++ behind := by
  by_cases hc : isNameChar c
  · have pushed : scan (c :: rest) = pushName c rest (scan rest) := by simp [scan, noGap, hc]
    simp only [pushed, pushName]
    split
    · rename_i found
      exact ⟨_, [_], _, rfl, rfl, found⟩
    · exact ⟨_, [], _, rfl, rfl, rfl⟩
  · exact ⟨⟨.ofChar c, c :: rest⟩, [], scan rest, by simp [scan, noGap, hc], rfl, rfl⟩

/-- If the tokens of a last part of a text are the last tokens, then so are the lexemes. -/
theorem scan_suffix {text rest : List Char} (last : rest <:+ text)
    (tokens : Token.scan rest <:+ Token.scan text) : scan rest <:+ scan text := by
  obtain ⟨front, rfl⟩ := last
  induction front with
  | nil => exact List.suffix_rfl
  | cons c front ih =>
    rw [List.cons_append] at tokens ⊢
    by_cases gap : Text.isGap c
    · rw [Token.scan_gap gap] at tokens
      simpa [scan, gap] using ih tokens
    have noGap : Text.isGap c = false := Bool.eq_false_iff.mpr gap
    obtain ⟨first, others, behind, read, -, tail⟩ := scan_cons (front ++ rest) noGap
    -- The tokens of the last part are not all tokens, so they stand behind the first one.
    have inner : Token.scan rest <:+ behind.map (·.token) := by
      have whole : Token.scan (c :: (front ++ rest)) = first.token :: behind.map (·.token) := by
        rw [Token.scan, read, List.map_cons]
      rw [whole, List.suffix_cons_iff] at tokens
      refine tokens.resolve_left fun same => ?_
      exact Token.scan_cons_append_ne noGap front rest (whole.trans same.symm)
    have shorter : (scan rest).length ≤ behind.length := by
      simpa [Token.scan] using inner.length_le
    have found : Token.scan (front ++ rest) = others.map (·.token) ++ behind.map (·.token) := by
      rw [Token.scan, tail, List.map_append]
    have lexemes : scan rest <:+ others ++ behind := by
      rw [← tail]
      apply ih
      rw [found]
      exact inner.trans (List.suffix_append _ _)
    rw [read]
    exact (List.suffix_of_suffix_length_le lexemes (List.suffix_append _ _) shorter).trans
      (List.suffix_cons _ _)

/-- The text that is quoted from a token on is the last part of the text that begins with it. -/
theorem textOfLast_scan {text rest : List Char} {c : Char} (noGap : Text.isGap c = false)
    (last : c :: rest <:+ text) (tokens : Token.scan (c :: rest) <:+ Token.scan text) :
    textOfLast (Token.scan (c :: rest)).length (scan text) = String.ofList (c :: rest) := by
  obtain ⟨before, whole⟩ := scan_suffix last tokens
  obtain ⟨first, -, behind, read, source, -⟩ := scan_cons rest noGap
  have count : (scan text).length - (Token.scan (c :: rest)).length = before.length := by
    rw [← whole, List.length_append, Token.scan, List.length_map]
    omega
  rw [textOfLast, count, ← whole, List.drop_left, read]
  exact congrArg String.ofList source

end Lexeme

end ColumnTypes
