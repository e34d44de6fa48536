import ColumnTypes.Proofs.LastParts
import ColumnTypes.Proofs.Spacing
import ColumnTypes.Proofs.Spells
import ColumnTypes.Spelling.Direct

/-!
# Spellings read directly and through tokens

Reading straight from the characters comes to the same as reading tokens, also where the text is at
fault (`Direct.ofText_eq`). So gaps may be looked at as something between tokens, although a reader
skips them only where it expects them.

The readers of the parts are compared with runs of the machine over the tokens. Where a term may
begin, the machine goes on as if the term had just been read (`Direct.term_reads`), and so it does
for arguments (`Direct.argument_reads`), for a series of them and for the list that they stand in.
What is quoted from behind a complete term is a last part of the text that begins with a token
(`Lexeme.textOfLast_scan`).
-/

namespace ColumnTypes

/-- What begins with no blank begins with no gap. -/
theorem Text.noGapFirst {text : List Char} (shown : text.head?.any isBlank = false) :
    text.head?.any isGap = false := by
  cases text with
  | nil => rfl
  | cons c rest =>
    rw [List.head?_cons, Option.any_some, Bool.eq_false_iff] at shown ⊢
    exact shown ∘ isBlank_of_isGap

namespace Token

theorem scan_dropWhile_isGap (text : List Char) : scan (text.dropWhile Text.isGap) = scan text := by
  have gap : ∀ c ∈ text.takeWhile Text.isGap, Text.isGap c := List.all_eq_true.mp List.all_takeWhile
  have skipped := scan_gaps gap (text.dropWhile Text.isGap)
  rw [List.takeWhile_append_dropWhile] at skipped
  exact skipped.symm

theorem head?_scan_eq_ofChar_iff {c d : Char} (rest : List Char) (noGap : Text.isGap c = false)
    (noName : isNameChar d = false) :
    (scan (c :: rest)).head? = some (.ofChar d) ↔ c = d := by
  rw [head?_scan rest noGap, Option.some_inj]
  split
  · rename_i hc
    refine iff_of_false (fun same => ofChar_ne_name d _ same.symm) ?_
    rintro rfl
    rw [noName] at hc
    cases hc
  · exact ⟨ofChar_inj, congrArg ofChar⟩

theorem head?_scan_dropWhile_isBlank (text : List Char) :
    ∀ token ∈ (scan (text.dropWhile Text.isBlank)).head?, token.isBlank = false := by
  intro token first
  have shown := head?_dropWhile_any Text.isBlank text
  cases left : text.dropWhile Text.isBlank with
  | nil =>
    rw [left] at first
    cases first
  | cons c rest =>
    rw [left] at shown first
    rw [head?_scan rest (Text.noGapFirst shown)] at first
    cases first
    split
    · rfl
    · rw [List.head?_cons, Option.any_some, Bool.eq_false_iff] at shown
      exact Bool.eq_false_iff.mpr (shown ∘ isBlank_ofChar)

theorem scan_dropWhile_isBlank (text : List Char) :
    (scan text).dropWhile isBlank = scan (text.dropWhile Text.isBlank) := by
  have blank : ∀ c ∈ text.takeWhile Text.isBlank, Text.isBlank c :=
    List.all_eq_true.mp List.all_takeWhile
  have behind := layout_scan (text.dropWhile Text.isBlank)
  obtain ⟨strays, laid, stray⟩ := behind.blank_append blank
  rw [List.takeWhile_append_dropWhile] at laid
  rw [laid.scan_eq]
  exact dropWhile_isBlank stray (head?_scan_dropWhile_isBlank text)

end Token

/-- A term with this label may begin at the place, if these tokens come next. -/
def Place.Awaits (label : Option String) (tokens : List Token) : Place → Prop
  | .fieldType text => label = some text
  | .first | .next =>
    label = none ∧ ∃ token ∈ tokens.head?, token ≠ .comma ∧ token ≠ .closing ∧ token ≠ .colon
  | _ => False

namespace OpenTerm

variable {limit : Nat} {outer : List OpenList} {inner : OpenList} {place : Place}
  {label : Option String} {tokens : List Token}

theorem run_name {name : String} {rest : List Token}
    (awaits : place.Awaits label (.name name :: rest)) (within : outer.length < limit) :
    run limit ⟨outer, inner, place⟩ (.name name :: rest) =
      run limit ⟨outer, inner, .named label name⟩ rest := by
  cases place with
  | fieldType text =>
    cases awaits
    rfl
  | first =>
    obtain ⟨rfl, -⟩ := awaits
    exact run_cons (step_name (Or.inl rfl) within)
  | next =>
    obtain ⟨rfl, -⟩ := awaits
    exact run_cons (step_name (Or.inr rfl) within)
  | named | complete => exact awaits.elim

theorem begin_noName {token : Token}
    (noName : ∀ name, token ≠ .name name) (within : outer.length < limit)
    (other : token ≠ .comma ∧ token ≠ .closing ∧ token ≠ .colon) :
    begin limit ⟨outer, inner, place⟩ token = .error .nameExpected := by
  have shallow : ¬ limit < outer.length + 1 := by omega
  simp only [begin, depth, other, or_self, shallow, if_false]
  cases token with
  | name text => exact absurd rfl (noName text)
  | colon => exact absurd rfl other.2.2
  | _ => rfl

/-- Where a type must come and no name does, the machine reports the name and nothing later. -/
theorem run_noName (awaits : place.Awaits label tokens) (within : outer.length < limit)
    (noName : ∀ name, tokens.head? ≠ some (.name name)) :
    run limit ⟨outer, inner, place⟩ tokens = .error .nameExpected := by
  cases tokens with
  | nil =>
    cases place with
    | fieldType text => rfl
    | first | next =>
      obtain ⟨-, token, none, -⟩ := awaits
      cases none
    | named | complete => exact awaits.elim
  | cons token rest =>
    have noName : ∀ name, token ≠ .name name := fun name same =>
      noName name (congrArg some same)
    apply run_error
    cases place with
    | fieldType text =>
      cases token with
      | name text => exact absurd rfl (noName text)
      | _ => rfl
    | first =>
      obtain ⟨-, next, first, other⟩ := awaits
      obtain rfl : token = next := Option.some.inj first
      cases token with
      | closing => exact absurd rfl other.2.1
      | _ => exact begin_noName noName within other
    | next =>
      obtain ⟨-, next, first, other⟩ := awaits
      obtain rfl : token = next := Option.some.inj first
      exact begin_noName noName within other
    | named | complete => exact awaits.elim

/-- Nothing that may extend an argument comes next, so the argument is complete. -/
theorem run_behind {term : Term} (closed : ∀ name, term = .bare name → tokens.head? ≠ some .opening)
    (unlabelled : ∀ name, term = .bare name → label = none → tokens.head? ≠ some .colon) :
    run limit ⟨outer, inner, .behind label term⟩ tokens =
      run limit ⟨outer, inner, .complete (.labelled label term)⟩ tokens := by
  cases term with
  | applied name arguments => rfl
  | bare name =>
    cases tokens with
    | nil => rfl
    | cons token rest =>
      cases token with
      | opening => exact absurd rfl (closed name rfl)
      | colon =>
        cases label with
        | none => exact absurd rfl (unlabelled name rfl rfl)
        | some text => rfl
      | _ => cases label <;> rfl

theorem run_unclosed {argument : Argument} (comma : tokens.head? ≠ some .comma)
    (closing : tokens.head? ≠ some .closing) :
    run limit ⟨outer, inner, .complete argument⟩ tokens = .error .listNotClosed := by
  cases tokens with
  | nil => rfl
  | cons token rest =>
    apply run_error
    cases token with
    | comma => exact absurd rfl comma
    | closing => exact absurd rfl closing
    | _ => rfl

end OpenTerm

namespace Direct

open OpenTerm (run)

variable {α β γ : Type} {limit depth : Nat} {text : List Char} {outer : List OpenList}

/-- Go on with the tokens behind what was read. -/
def onward (result : Except SpellingFault (Front α text))
    (next : α → List Token → Except SpellingFault β) : Except SpellingFault β :=
  match result with
  | .error fault => .error fault
  | .ok front => next front.value (Token.scan front.rest)

/-- How far a front has come is all that counts for what is read behind it. -/
theorem onward_read (front : Front α text) (reader : Reader β)
    (next : β → List Token → Except SpellingFault γ) :
    onward (front.read reader) next = onward (reader front.rest) next := by
  rw [Front.read]
  cases reader front.rest <;> rfl

theorem Front.head?_skipGaps (front : Front α text) :
    front.skipGaps.rest.head?.any Text.isGap = false :=
  Token.head?_dropWhile_any Text.isGap front.rest

theorem Front.scan_skipGaps (front : Front α text) :
    Token.scan front.skipGaps.rest = Token.scan front.rest :=
  Token.scan_dropWhile_isGap front.rest

theorem scan_start_skipGaps (text : List Char) :
    Token.scan (Front.start text).skipGaps.rest = Token.scan text :=
  (Front.start text).scan_skipGaps

theorem Front.scan_of_token? {char : Char} {front behind : Front α text}
    (h : front.token? char = some behind) (noGap : Text.isGap char = false)
    (noName : isNameChar char = false) :
    Token.scan front.rest = .ofChar char :: Token.scan behind.rest := by
  rw [(Front.token?_eq_some h).2, Token.scan_symbol noGap noName]

theorem Front.head?_scan_of_token? {char : Char} {front : Front α text}
    (h : front.token? char = none) (skipped : front.rest.head?.any Text.isGap = false)
    (noName : isNameChar char = false) :
    (Token.scan front.rest).head? ≠ some (.ofChar char) := by
  obtain ⟨value, rest, suffix⟩ := front
  cases rest with
  | nil => exact Option.some_ne_none _ ∘ Eq.symm
  | cons c rest =>
    have other : c ≠ char := by
      rintro rfl
      simp [token?] at h
    rwa [Ne, Token.head?_scan_eq_ofChar_iff rest skipped noName]

theorem name_eq_error {fault : SpellingFault} (h : name text = .error fault)
    (skipped : text.head?.any Text.isGap = false) :
    fault = .nameExpected ∧ ∀ name, (Token.scan text).head? ≠ some (.name name) := by
  rw [name] at h
  split at h
  · rename_i nothing
    cases h
    refine ⟨rfl, fun name first => ?_⟩
    cases text with
    | nil => cases first
    | cons c rest =>
      have noName : isNameChar c = false := by
        rw [Bool.eq_false_iff]
        intro hc
        exact Token.takeWhile_ne_nil hc (List.isEmpty_iff.mp nothing)
      rw [Token.scan_symbol skipped noName] at first
      exact Token.ofChar_ne_name c name (Option.some.inj first)
  · cases h

/-- A name that is read from the characters is the first token of them. -/
theorem name_eq_ok {front : Front String text} (h : name text = .ok front) :
    Token.scan text = .name front.value :: Token.scan front.rest := by
  rw [name] at h
  split at h
  · cases h
  · rename_i begins
    cases h
    exact Token.scan_of_begins (begins ∘ List.isEmpty_iff.mpr)

/-- The limit is tested before anything else of a type is looked at. -/
theorem term_eq_error_of_lt (deep : limit < depth) :
    term limit depth text = .error (.tooDeep limit) := by
  rw [term, if_pos deep]

theorem onward_withParameters (parameters : Reader (List Argument)) (front : Front String text)
    (next : Term → List Token → Except SpellingFault β) :
    onward (withParameters parameters front) next =
      match front.skipGaps.token? '(' with
      | none => next (.bare front.value) (Token.scan front.rest)
      | some behind =>
        onward (parameters behind.rest) fun arguments => next (.applied front.value arguments) := by
  rw [withParameters]
  cases front.skipGaps.token? '(' with
  | none => exact congrArg (next _) front.scan_skipGaps
  | some behind =>
    simp only [Front.read]
    cases parameters behind.rest <;> rfl

/-- The parameters of a name are read along with it. -/
theorem head?_behind_bare {front : Front Term text} (h : term limit depth text = .ok front) :
    ∀ name, front.value = .bare name → (Token.scan front.rest).head? ≠ some .opening := by
  rw [term] at h
  split at h
  · cases h
  split at h
  · cases h
  rename_i front _
  rw [withParameters] at h
  split at h
  · rename_i opening
    cases h
    exact fun _ _ => front.skipGaps.head?_scan_of_token? opening front.head?_skipGaps (by decide)
  · split at h
    · cases h
    · cases h
      rintro name ⟨⟩

/-- In these lists, where a term may begin, the machine goes on as if the term had been read. -/
def ReadsTerms (limit : Nat) (outer : List OpenList) (type : Reader Term) : Prop :=
  ∀ (inner : OpenList) (place : Place) (label : Option String) (text : List Char),
    text.head?.any Text.isGap = false → place.Awaits label (Token.scan text) →
      run limit ⟨outer, inner, place⟩ (Token.scan text) =
        onward (type text) fun term => run limit ⟨outer, inner, .behind label term⟩

/-- In these lists, where an argument may begin, the machine goes on as if the argument were
complete, and no gap is left behind it. -/
structure ReadsArguments (limit : Nat) (outer : List OpenList) (argument : Reader Argument) :
    Prop where
  run_eq : ∀ (inner : OpenList) (place : Place) (text : List Char),
    (place = .next ∨ place = .first ∧ (Token.scan text).head? ≠ some .closing) →
      run limit ⟨outer, inner, place⟩ (Token.scan text) =
        onward (argument text) fun value => run limit ⟨outer, inner, .complete value⟩
  skipped : ∀ (text : List Char) (front : Front Argument text), argument text = .ok front →
    front.rest.head?.any Text.isGap = false

theorem field_reads (types : ReadsTerms limit outer (term limit depth)) (inner : OpenList)
    (label : String) (text : List Char) :
    run limit ⟨outer, inner, .fieldType label⟩ (Token.scan text) =
      onward (field (term limit depth) label text) fun value =>
        run limit ⟨outer, inner, .complete value⟩ := by
  have start := types inner (.fieldType label) (some label) _ (Front.start text).head?_skipGaps rfl
  rw [Front.scan_skipGaps] at start
  refine start.trans ?_
  rw [field, Front.read]
  cases read : term limit depth (Front.start text).skipGaps.rest with
  | error fault => rfl
  | ok front =>
    simp only [onward, Front.map, Front.scan_skipGaps, Front.within]
    exact OpenTerm.run_behind (head?_behind_bare read) fun _ _ none => by cases none

theorem asArgument_reads (types : ReadsTerms limit outer (term limit depth)) (inner : OpenList)
    (front : Front Term text)
    (closed : ∀ name, front.value = .bare name →
      (Token.scan front.rest).head? ≠ some .opening) :
    run limit ⟨outer, inner, .behind none front.value⟩ (Token.scan front.rest) =
      onward (asArgument (term limit depth) front) fun value =>
        run limit ⟨outer, inner, .complete value⟩ := by
  rw [asArgument]
  split
  · rename_i name behind bare colon
    have scanned := Front.scan_of_token? colon (by decide) (by decide)
    rw [Front.scan_skipGaps] at scanned
    rw [onward_read, scanned, bare, ← field_reads types]
    rfl
  · rename_i noLabel
    simp only [onward, Front.map, Front.scan_skipGaps]
    refine OpenTerm.run_behind closed fun name bare _ => ?_
    cases colon : front.skipGaps.token? ':' with
    | some behind => exact absurd colon (noLabel name behind bare)
    | none =>
      rw [← Front.scan_skipGaps]
      exact Front.head?_scan_of_token? colon front.head?_skipGaps (by decide)

theorem head?_field {type : Reader Term} {label : String} {front : Front Argument text}
    (h : field type label text = .ok front) : front.rest.head?.any Text.isGap = false := by
  rw [field] at h
  split at h
  · cases h
  · rename_i read _
    cases h
    exact read.head?_skipGaps

theorem Front.read_eq_ok {front : Front α text} {reader : Reader β} {behind : Front β text}
    (h : front.read reader = .ok behind) :
    ∃ found, reader front.rest = .ok found ∧ behind = found.within front.suffix := by
  rw [read] at h
  split at h
  · cases h
  · rename_i found read
    cases h
    exact ⟨found, read, rfl⟩

theorem head?_asArgument {type : Reader Term} {front : Front Term text}
    {behind : Front Argument text} (h : asArgument type front = .ok behind) :
    behind.rest.head?.any Text.isGap = false := by
  rw [asArgument] at h
  split at h
  · obtain ⟨found, read, rfl⟩ := Front.read_eq_ok h
    have skipped := head?_field read
    exact skipped
  · cases h
    exact front.head?_skipGaps

theorem head?_argument {type : Reader Term} {front : Front Argument text}
    (h : argument type text = .ok front) : front.rest.head?.any Text.isGap = false := by
  rw [argument] at h
  split at h
  · cases h
    exact (Front.start text).head?_skipGaps
  rw [filled] at h
  split at h
  · obtain ⟨found, read, rfl⟩ := Front.read_eq_ok h
    have skipped := head?_field read
    exact skipped
  split at h
  · cases h
  · exact head?_asArgument h

/-- Beyond the limit a term is too deep, and so is the type of a field. -/
theorem onward_field_of_lt (deep : limit < depth) (label : String)
    (next : Argument → List Token → Except SpellingFault β) :
    onward (field (term limit depth) label text) next = .error (.tooDeep limit) := by
  rw [field, Front.read, term_eq_error_of_lt deep]
  rfl

theorem filled_reads
    (types : outer.length < limit → ReadsTerms limit outer (term limit (outer.length + 1)))
    (inner : OpenList) {place : Place} (start : place = .first ∨ place = .next)
    (front : Front Unit text) (skipped : front.rest.head?.any Text.isGap = false) {token : Token}
    (first : (Token.scan front.rest).head? = some token)
    (filled : token ≠ .comma ∧ token ≠ .closing) :
    run limit ⟨outer, inner, place⟩ (Token.scan front.rest) =
      onward (Direct.filled (term limit (outer.length + 1)) front) fun value =>
        run limit ⟨outer, inner, .complete value⟩ := by
  obtain ⟨more, scanned⟩ := List.head?_eq_some_iff.mp first
  rw [Direct.filled]
  by_cases within : outer.length < limit
  · cases colon : front.token? ':' with
    | some behind =>
      have labelled := Front.scan_of_token? colon (by decide) (by decide)
      rw [onward_read, labelled, ← field_reads (types within)]
      exact OpenTerm.run_cons (OpenTerm.step_colon start within)
    | none =>
      have other := Front.head?_scan_of_token? colon skipped (by decide)
      have noColon : token ≠ .colon := by
        rintro rfl
        exact other first
      have awaits : place.Awaits none (Token.scan front.rest) := by
        rcases start with rfl | rfl <;>
          exact ⟨rfl, token, first, filled.1, filled.2, noColon⟩
      rw [types within inner place none front.rest skipped awaits, Front.read]
      cases read : term limit (outer.length + 1) front.rest with
      | error fault => rfl
      | ok found =>
        have closed := head?_behind_bare read
        exact asArgument_reads (types within) inner (found.within front.suffix) closed
  · -- The machine refuses the token that begins the argument, the readers refuse the type in it.
    have deep : limit ≤ outer.length := Nat.not_lt.mp within
    have beyond : limit < outer.length + 1 := Nat.lt_succ_of_le deep
    rw [scanned, OpenTerm.run_error (OpenTerm.step_deep start filled deep)]
    cases front.token? ':' with
    | some behind => rw [onward_read, onward_field_of_lt beyond]
    | none =>
      rw [Front.read, term_eq_error_of_lt beyond]
      rfl

/-- An empty argument is seen before the depth is tested, in both ways of reading. -/
theorem argument_reads
    (types : outer.length < limit → ReadsTerms limit outer (term limit (outer.length + 1))) :
    ReadsArguments limit outer (argument (term limit (outer.length + 1))) where
  run_eq inner place text starts := by
    have start : place = .first ∨ place = .next :=
      starts.elim Or.inr fun first => Or.inl first.1
    have skipped := (Front.start text).head?_skipGaps
    rw [← scan_start_skipGaps text] at starts ⊢
    rw [argument]
    -- From here it only matters where the front stands, and that no gap comes next.
    generalize (Front.start text).skipGaps = front at skipped starts ⊢
    obtain ⟨⟨⟩, rest, suffix⟩ := front
    cases rest with
    | nil => rcases start with rfl | rfl <;> rfl
    | cons c rest =>
      simp only [List.head?_cons, Option.all_some, Bool.or_eq_true, decide_eq_true_eq]
      simp only at starts
      split
      · rename_i separator
        rcases separator with rfl | rfl
        · rcases start with rfl | rfl <;> rfl
        · rcases starts with rfl | ⟨-, closing⟩
          · rfl
          · exact absurd rfl closing
      · rename_i other
        obtain ⟨noComma, noClosing⟩ := not_or.mp other
        have filled : ∀ d, c ≠ d → isNameChar d = false →
            (Token.scan (c :: rest)).head? ≠ some (.ofChar d) := fun d other noName same =>
          other ((Token.head?_scan_eq_ofChar_iff rest skipped noName).mp same)
        have first := Token.head?_scan rest skipped
        refine filled_reads types inner start _ skipped first ⟨?_, ?_⟩
        · rintro same
          exact filled ',' noComma (by decide) (first.trans (congrArg some same))
        · rintro same
          exact filled ')' noClosing (by decide) (first.trans (congrArg some same))
  skipped _ _ := head?_argument

theorem onward_closed (front : Front (List Argument) text) {whole : List Char}
    (suffix : text <:+ whole) (f : List Argument → List Argument)
    (next : List Argument → List Token → Except SpellingFault β) :
    onward (closed (.ok ((front.map f).within suffix))) next =
      onward (closed (.ok front)) fun value => next (f value) := by
  obtain ⟨value, rest, _⟩ := front
  cases rest with
  | nil => rfl
  | cons c rest =>
    simp only [closed, Front.token?, Front.map, Front.within]
    by_cases closing : c = ')' <;> simp [closing, onward]

/-- The list of an argument ends, unless a comma comes next. -/
theorem closed_reads (inner : OpenList) (place : Place) (front : Front Argument text)
    (skipped : front.rest.head?.any Text.isGap = false)
    (comma : (Token.scan front.rest).head? ≠ some .comma) :
    run limit ⟨outer, inner, .complete front.value⟩ (Token.scan front.rest) =
      onward (closed (.ok (front.map fun first => [first]))) fun arguments =>
        OpenTerm.resume limit
          (OpenTerm.close ⟨outer, inner, place⟩ (arguments.reverse ++ inner.arguments)) := by
  cases closing : (front.map fun first => [first]).token? ')' with
  | none =>
    have unclosed := Front.head?_scan_of_token? closing skipped (by decide)
    simp only [closed, closing]
    exact OpenTerm.run_unclosed comma unclosed
  | some behind =>
    have scanned : Token.scan front.rest = .closing :: Token.scan behind.rest :=
      Front.scan_of_token? closing (by decide) (by decide)
    have value : behind.value = [front.value] := (Front.token?_eq_some closing).1
    simp only [closed, closing, onward, scanned, value]
    exact OpenTerm.run_cons (OpenTerm.step_closing rfl)

/-- Behind a comma, the arguments before it are complete. -/
theorem run_of_comma (inner : OpenList) {front behind : Front Argument text}
    (comma : front.token? ',' = some behind) :
    run limit ⟨outer, inner, .complete front.value⟩ (Token.scan front.rest) =
      run limit ⟨outer, { inner with arguments := front.value :: inner.arguments }, .next⟩
        (Token.scan behind.rest) := by
  rw [Front.scan_of_token? comma (by decide) (by decide)]
  rfl

/-- The arguments behind one argument are read by the same reader, so the induction is on what is
left of the text. -/
theorem series_reads {argument : Reader Argument} (reads : ReadsArguments limit outer argument)
    (inner : OpenList) (place : Place)
    (starts : place = .next ∨ place = .first ∧ (Token.scan text).head? ≠ some .closing) :
    run limit ⟨outer, inner, place⟩ (Token.scan text) =
      onward (closed (series argument text)) fun arguments =>
        OpenTerm.resume limit
          (OpenTerm.close ⟨outer, inner, place⟩ (arguments.reverse ++ inner.arguments)) := by
  fun_induction series argument text generalizing inner place with
  | case1 text fault failed =>
    rw [reads.run_eq inner place text starts, failed]
    rfl
  | case2 text front read noComma =>
    have skipped := reads.skipped text front read
    have comma := Front.head?_scan_of_token? noComma skipped (by decide)
    rw [reads.run_eq inner place text starts, read]
    exact closed_reads inner place front skipped comma
  | case3 text front read behind comma fault failed ih =>
    rw [reads.run_eq inner place text starts, read, onward, run_of_comma inner comma,
      ih _ _ (Or.inl rfl), failed]
    rfl
  | case4 text front read behind comma others rest ih =>
    rw [reads.run_eq inner place text starts, read, onward, run_of_comma inner comma,
      ih _ _ (Or.inl rfl), rest, onward_closed]
    simp only [List.reverse_cons, List.append_assoc, List.singleton_append]
    rfl

/-- A whole list. That its closing parenthesis may follow at once is what sets its first place apart
from those behind commas. -/
theorem parameters_reads {argument : Reader Argument} (reads : ReadsArguments limit outer argument)
    (label : Option String) (name : String) (text : List Char) :
    run limit ⟨outer, ⟨label, name, []⟩, .first⟩ (Token.scan text) =
      onward (parameters argument text) fun arguments =>
        OpenTerm.resume limit
          (OpenTerm.close ⟨outer, ⟨label, name, []⟩, .first⟩ arguments.reverse) := by
  rw [parameters, ← scan_start_skipGaps text]
  cases closing : (Front.start text).skipGaps.token? ')' with
  | some behind =>
    have ends : OpenTerm.step limit ⟨outer, ⟨label, name, []⟩, .first⟩ .closing =
      .ok (OpenTerm.close ⟨outer, ⟨label, name, []⟩, .first⟩ []) := rfl
    rw [Front.scan_of_token? closing (by decide) (by decide)]
    exact OpenTerm.run_cons ends
  | none =>
    have skipped := (Front.start text).head?_skipGaps
    have unclosed := Front.head?_scan_of_token? closing skipped (by decide)
    have rest := series_reads reads ⟨label, name, []⟩ .first (Or.inr ⟨rfl, unclosed⟩)
    simp only [List.append_nil] at rest
    rw [rest, Front.read]
    cases series argument (Front.start text).skipGaps.rest with
    | error fault => rfl
    | ok front =>
      have whole := onward_closed front (Front.start text).skipGaps.suffix id fun arguments =>
        OpenTerm.resume limit
          (OpenTerm.close ⟨outer, ⟨label, name, []⟩, .first⟩ arguments.reverse)
      exact whole.symm

/-- A type is read alike wherever it may begin. Each list that is opened takes one of the levels
that the limit leaves, which is what the induction is on. -/
theorem term_reads (outer : List OpenList) (within : outer.length < limit) :
    ReadsTerms limit outer (term limit (outer.length + 1)) := by
  intro inner place label text skipped awaits
  have shallow : ¬ limit < outer.length + 1 := by omega
  rw [term, if_neg shallow]
  cases read : name text with
  | error fault =>
    obtain ⟨rfl, noName⟩ := name_eq_error read skipped
    exact OpenTerm.run_noName awaits within noName
  | ok front =>
    rw [name_eq_ok read] at awaits ⊢
    dsimp only
    rw [OpenTerm.run_name awaits within, onward_withParameters]
    cases opening : front.skipGaps.token? '(' with
    | none => rfl
    | some behind =>
      have arguments : ReadsArguments limit (inner :: outer)
          (argument (term limit (outer.length + 1 + 1))) :=
        argument_reads (term_reads (inner :: outer))
      have list := parameters_reads arguments label front.value behind.rest
      rw [← Front.scan_skipGaps, Front.scan_of_token? opening (by decide) (by decide)]
      refine (OpenTerm.run_cons (OpenTerm.step_opening label front.value)).trans (list.trans ?_)
      simp only [OpenTerm.close, List.reverse_reverse]
      rfl
termination_by limit - outer.length

/-- The same term is read from the front of a text and from its tokens, and the same is left. -/
theorem ofTokens_scan (limit : Nat) (skipped : text.head?.any Text.isGap = false) :
    Term.ofTokens limit (Token.scan text) =
      onward (term limit 0 text) fun term tokens => .ok (term, tokens) := by
  rw [term, if_neg (Nat.not_lt_zero limit)]
  cases read : name text with
  | error fault =>
    obtain ⟨rfl, noName⟩ := name_eq_error read skipped
    cases tokens : Token.scan text with
    | nil => rfl
    | cons token rest =>
      cases token with
      | name name => exact absurd (congrArg List.head? tokens) (noName name)
      | _ => rfl
  | ok front =>
    rw [name_eq_ok read]
    dsimp only
    rw [onward_withParameters]
    cases opening : front.skipGaps.token? '(' with
    | none =>
      have other := Front.head?_scan_of_token? opening front.head?_skipGaps (by decide)
      rw [Front.scan_skipGaps] at other
      cases tokens : Token.scan front.rest with
      | nil => rfl
      | cons token rest =>
        cases token with
        | opening => exact absurd (congrArg List.head? tokens) other
        | _ => rfl
    | some behind =>
      have arguments : ReadsArguments limit [] (argument (term limit (0 + 1))) :=
        argument_reads (term_reads [])
      have list := parameters_reads arguments none front.value behind.rest
      rw [← Front.scan_skipGaps, Front.scan_of_token? opening (by decide) (by decide)]
      refine list.trans ?_
      simp only [OpenTerm.close, List.reverse_reverse]
      rfl

/-- Where tokens follow a term, the fault is the same as where their text follows it. -/
theorem trailingFault?_scan {text rest : List Char}
    (shown : rest.head?.any Text.isBlank = false) (last : rest <:+ text)
    (tokens : Token.scan rest <:+ Token.scan text) :
    ColumnTypes.trailingFault? (Lexeme.scan text) (Token.scan rest) = trailingFault? rest := by
  cases rest with
  | nil => rfl
  | cons c rest =>
    have noGap : Text.isGap c = false := Text.noGapFirst shown
    by_cases hc : isNameChar c
    · have other : c ≠ ')' := by
        rintro rfl
        exact absurd hc (by decide)
      have quoted := Lexeme.textOfLast_scan noGap last tokens
      have begins : (c :: rest).takeWhile isNameChar ≠ [] := Token.takeWhile_ne_nil hc
      have read := Token.scan_of_begins begins
      rw [read] at quoted ⊢
      simp only [ColumnTypes.trailingFault?, trailingFault?, other, hc, if_false, if_true, quoted]
    · have read := @Token.scan_symbol c rest noGap (Bool.eq_false_iff.mpr hc)
      simp only [read, Token.ofChar, trailingFault?, if_neg hc]
      split
      · simp [ColumnTypes.trailingFault?, *]
      split
      · simp [ColumnTypes.trailingFault?]
      split
      · simp [ColumnTypes.trailingFault?, *]
      split <;> simp [ColumnTypes.trailingFault?, *]

/-- Reading the characters of a text comes to the same as reading its tokens. -/
theorem ofText_eq (text : List Char) : ofText text = Term.ofText text := by
  have shown := Token.head?_dropWhile_any Text.isBlank text
  have read := ofTokens_scan maxNesting (Text.noGapFirst shown)
  rw [ofText, Term.ofText, Token.scan_dropWhile_isBlank, read]
  cases found : term maxNesting 0 (text.dropWhile Text.isBlank) with
  | error fault => rfl
  | ok front =>
    rw [found] at read
    have names := (Token.layout_scan (text.dropWhile Text.isBlank)).isName
    obtain ⟨-, -, tokens⟩ := Term.ofTokens_sound names read
    have left : Token.scan front.rest <:+ (Token.scan text).dropWhile Token.isBlank := by
      rw [Token.scan_dropWhile_isBlank]
      exact ⟨front.value.tokens, tokens⟩
    have behind : Token.scan (front.rest.dropWhile Text.isBlank) <:+ Token.scan text := by
      rw [← Token.scan_dropWhile_isBlank]
      exact (List.dropWhile_suffix _).trans (left.trans (List.dropWhile_suffix _))
    have last : front.rest.dropWhile Text.isBlank <:+ text :=
      (List.dropWhile_suffix _).trans (front.suffix.trans (List.dropWhile_suffix _))
    have faults := trailingFault?_scan
      (Token.head?_dropWhile_any Text.isBlank front.rest) last behind
    simp only [onward, Token.scan_dropWhile_isBlank]
    rewrite [faults]
    rfl

/-- What is read directly is what the grammar derives, within the limit. -/
theorem ofText_eq_ok_iff {term : Term} :
    ofText text = .ok term ↔ Spells text term ∧ term.Shallow maxNesting := by
  rw [ofText_eq]
  exact ColumnTypes.ofText_eq_ok_iff

/-- Gaps that are skipped where they are expected make no difference but for what is quoted. -/
theorem ofText_of_layout {a b : List Char} {tokens : List Token} (first : Token.Layout a tokens)
    (second : Token.Layout b tokens) :
    ofText a = ofText b ∨
      ∃ text text', ofText a = .error (.trailing text) ∧ ofText b = .error (.trailing text') := by
  rw [ofText_eq, ofText_eq]
  exact ofText_eq_or_trailing (first.scan_eq.trans second.scan_eq.symm)

end Direct

/-- What a text is read as, if its term is read straight from the characters. -/
theorem ClassPath.parse_eq_directly (path : ClassPath) (text : String) :
    path.parse text =
      if text.toList.all Text.isBlank then .ok (.scalar .bytes)
      else
        match Direct.ofText text.toList with
        | .error fault => .error (fault.toError text)
        | .ok term =>
          match path.resolve term with
          | .error fault => .error (fault.toError text)
          | .ok descriptor => .ok descriptor := by
  rw [Direct.ofText_eq]
  rfl

end ColumnTypes
