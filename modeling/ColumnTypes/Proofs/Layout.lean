import ColumnTypes.Spelling.RoundTrip

/-!
# Texts laid out as tokens

`Token.Layout` says which texts consist of given tokens. Names are longest runs of name characters,
gaps may stand anywhere outside of names, and every other character is a token of its own. The
scanner finds exactly the tokens that a text is laid out as (`Token.layout_iff_scan`); in particular
every text is laid out as one sequence of tokens.

A layout may be cut between two tokens, and two layouts may be joined unless a name would run on
across the joint.
-/

namespace ColumnTypes

theorem Text.range_of_isAlphanum {c : Char} (h : c.isAlphanum) :
    0x30 ≤ c.toNat ∧ c.toNat ≤ 0x7A := by
  have between {first last : Char} (h : c.val ≥ first.val ∧ c.val ≤ last.val) :
      first.toNat ≤ c.toNat ∧ c.toNat ≤ last.toNat :=
    ⟨UInt32.le_iff_toNat_le.mp h.1, UInt32.le_iff_toNat_le.mp h.2⟩
  have bounds : 'A'.toNat = 0x41 ∧ 'Z'.toNat = 0x5A ∧ 'a'.toNat = 0x61 ∧ 'z'.toNat = 0x7A ∧
    '0'.toNat = 0x30 ∧ '9'.toNat = 0x39 := by decide
  rcases Bool.or_eq_true_iff.mp h with letter | digit
  · rcases Bool.or_eq_true_iff.mp letter with upper | lower
    · have inRange := between (of_decide_eq_true upper)
      omega
    · have inRange :=
        between ((Bool.and_eq_true_iff.mp lower).imp of_decide_eq_true of_decide_eq_true)
      omega
  · have inRange :=
      between ((Bool.and_eq_true_iff.mp digit).imp of_decide_eq_true of_decide_eq_true)
    omega

theorem Text.isBlank_eq_false {c : Char} (h : isNameChar c) : Text.isBlank c = false := by
  have inRange : 0x26 ≤ c.toNat ∧ c.toNat ≤ 0x7A := by
    simp only [isNameChar, Bool.or_eq_true, decide_eq_true_eq] at h
    rcases h with ((((h | rfl) | rfl) | rfl) | rfl) | rfl
    · have range := range_of_isAlphanum h
      omega
    all_goals decide
  simp only [Text.isBlank, Text.blankRanges, List.any_cons, List.any_nil, Bool.or_false,
    Bool.or_eq_false_iff, Bool.and_eq_false_iff, decide_eq_false_iff_not]
  omega

namespace Token

/-- The text consists of these tokens, with gaps around and between them. -/
inductive Layout : List Char → List Token → Prop where
  | nil : Layout [] []
  | gap {c : Char} {rest : List Char} {tokens : List Token} (gap : Text.isGap c)
      (tail : Layout rest tokens) : Layout (c :: rest) tokens
  /-- A name, which the text behind it does not continue. -/
  | name {text : String} {rest : List Char} {tokens : List Token} (isName : IsName text)
      (longest : rest.head?.any isNameChar = false) (tail : Layout rest tokens) :
      Layout (text.toList ++ rest) (.name text :: tokens)
  /-- A character that is neither a gap nor part of a name. -/
  | symbol {c : Char} {rest : List Char} {tokens : List Token} (noGap : Text.isGap c = false)
      (noName : isNameChar c = false) (tail : Layout rest tokens) :
      Layout (c :: rest) (.ofChar c :: tokens)

theorem ofChar_cases (c : Char) : ofChar c = .opening ∨ ofChar c = .closing ∨ ofChar c = .comma ∨
    ofChar c = .colon ∨ ofChar c = .stray c := by
  simp only [ofChar]
  split
  · exact Or.inl rfl
  split
  · exact Or.inr (Or.inl rfl)
  split
  · exact Or.inr (Or.inr (Or.inl rfl))
  split
  · exact Or.inr (Or.inr (Or.inr (Or.inl rfl)))
  · exact Or.inr (Or.inr (Or.inr (Or.inr rfl)))

theorem scan_gap {c : Char} {rest : List Char} (gap : Text.isGap c) :
    scan (c :: rest) = scan rest := by
  simp [scan, Lexeme.scan, gap]

theorem scan_symbol {c : Char} {rest : List Char} (noGap : Text.isGap c = false)
    (noName : isNameChar c = false) : scan (c :: rest) = ofChar c :: scan rest := by
  simp [scan, Lexeme.scan, noGap, noName]

theorem scan_gaps {gaps : List Char} (gap : ∀ c ∈ gaps, Text.isGap c) (text : List Char) :
    scan (gaps ++ text) = scan text := by
  induction gaps with
  | nil => rfl
  | cons c gaps ih =>
    obtain ⟨first, gap⟩ := List.forall_mem_cons.mp gap
    exact (scan_gap first).trans (ih gap)

/-- Scanning forgets the gaps and nothing else. -/
theorem Layout.scan_eq {text : List Char} {tokens : List Token} (h : Layout text tokens) :
    scan text = tokens := by
  induction h with
  | nil => rfl
  | gap gap _ ih => rw [scan_gap gap, ih]
  | name isName longest _ ih => rw [scan_name isName longest, ih]
  | symbol noGap noName _ ih => rw [scan_symbol noGap noName, ih]

theorem head?_dropWhile_any (p : Char → Bool) (text : List Char) :
    (text.dropWhile p).head?.any p = false := by
  cases h : (text.dropWhile p).head? with
  | none => rfl
  | some c =>
    have stopped := List.head?_dropWhile_not p text
    rw [h] at stopped
    simpa using stopped

theorem takeWhile_ne_nil {c : Char} {rest : List Char} (hc : isNameChar c) :
    (c :: rest).takeWhile isNameChar ≠ [] := by
  rw [List.takeWhile_cons_of_pos hc]
  exact List.cons_ne_nil _ _

theorem isName_takeWhile {text : List Char} (begins : text.takeWhile isNameChar ≠ []) :
    IsName (String.ofList (text.takeWhile isNameChar)) := by
  constructor
  · simpa using begins
  · rw [String.toList_ofList]
    exact List.all_eq_true.mp List.all_takeWhile

theorem toList_takeWhile_append (text : List Char) :
    (String.ofList (text.takeWhile isNameChar)).toList ++ text.dropWhile isNameChar = text := by
  rw [String.toList_ofList, List.takeWhile_append_dropWhile]

/-- A text that begins with a name character begins with the name of all that follow. -/
theorem scan_of_begins {text : List Char} (begins : text.takeWhile isNameChar ≠ []) :
    scan text =
      .name (String.ofList (text.takeWhile isNameChar)) :: scan (text.dropWhile isNameChar) := by
  have longest := head?_dropWhile_any isNameChar text
  have read := scan_name (isName_takeWhile begins) longest
  rwa [toList_takeWhile_append] at read

/-- The first token of a text that does not begin with a gap. -/
theorem head?_scan {c : Char} (rest : List Char) (noGap : Text.isGap c = false) :
    (scan (c :: rest)).head? = some (if isNameChar c then
      .name (String.ofList (c :: rest.takeWhile isNameChar)) else .ofChar c) := by
  by_cases hc : isNameChar c
  · rw [scan_of_begins (takeWhile_ne_nil hc), List.takeWhile_cons_of_pos hc, if_pos hc,
      List.head?_cons]
  · rw [scan_symbol noGap (Bool.eq_false_iff.mpr hc), if_neg hc, List.head?_cons]

theorem text_ofChar (c : Char) : (ofChar c).text = [c] := by
  simp only [ofChar]
  split
  · simp [text, *]
  split
  · simp [text, *]
  split
  · simp [text, *]
  split <;> simp [text, *]

theorem ofChar_inj {c d : Char} (h : ofChar c = ofChar d) : c = d := by
  have same := congrArg text h
  rw [text_ofChar, text_ofChar] at same
  exact List.head_eq_of_cons_eq same

theorem ofChar_ne_name (c : Char) (name : String) : ofChar c ≠ .name name := by
  rcases ofChar_cases c with symbol | symbol | symbol | symbol | symbol <;> simp [symbol]

theorem layout_scan (text : List Char) : Layout text (scan text) := by
  match text with
  | [] => exact .nil
  | c :: rest =>
    by_cases gap : Text.isGap c
    · rw [scan_gap gap]
      exact .gap gap (layout_scan rest)
    have noGap : Text.isGap c = false := Bool.eq_false_iff.mpr gap
    by_cases hc : isNameChar c
    · have behind : (c :: rest).dropWhile isNameChar = rest.dropWhile isNameChar :=
        List.dropWhile_cons_of_pos hc
      have shorter : ((c :: rest).dropWhile isNameChar).length ≤ rest.length := by
        rw [behind]
        exact (List.dropWhile_sublist _).length_le
      have begins : (c :: rest).takeWhile isNameChar ≠ [] := takeWhile_ne_nil hc
      have longest := head?_dropWhile_any isNameChar (c :: rest)
      have laid := layout_scan ((c :: rest).dropWhile isNameChar)
      rw [← toList_takeWhile_append (c :: rest), scan_name (isName_takeWhile begins) longest]
      exact .name (isName_takeWhile begins) longest laid
    · have noName : isNameChar c = false := Bool.eq_false_iff.mpr hc
      rw [scan_symbol noGap noName]
      exact .symbol noGap noName (layout_scan rest)
termination_by text.length

/-- A text is laid out as the tokens that the scanner finds, and as no others. -/
theorem layout_iff_scan {text : List Char} {tokens : List Token} :
    Layout text tokens ↔ scan text = tokens := by
  constructor
  · exact Layout.scan_eq
  · intro h
    exact h ▸ layout_scan text

theorem Layout.isName {text : List Char} {tokens : List Token} (h : Layout text tokens) :
    ∀ name, .name name ∈ tokens → IsName name := by
  induction h with
  | nil => intro name mem; cases mem
  | gap _ _ ih => exact ih
  | name isName _ _ ih =>
    intro name mem
    rcases List.mem_cons.mp mem with same | mem
    · cases same
      exact isName
    · exact ih name mem
  | @symbol c _ _ _ _ _ ih =>
    intro name mem
    rcases List.mem_cons.mp mem with same | mem
    · exact absurd same.symm (ofChar_ne_name c name)
    · exact ih name mem

theorem head?_any_of_append {first rest : List Char}
    (h : (first ++ rest).head?.any isNameChar = false) : first.head?.any isNameChar = false := by
  cases first with
  | nil => rfl
  | cons c first => exact h

/-- Where the tokens are cut in two, the text can be cut too. -/
theorem Layout.split {text : List Char} {before after : List Token}
    (h : Layout text (before ++ after)) :
    ∃ first second, text = first ++ second ∧ Layout first before ∧ Layout second after := by
  generalize whole : before ++ after = tokens at h
  induction h generalizing before with
  | nil =>
    obtain ⟨rfl, rfl⟩ := List.append_eq_nil_iff.mp whole
    exact ⟨[], [], rfl, .nil, .nil⟩
  | gap gap _ ih =>
    obtain ⟨first, second, rfl, left, right⟩ := ih whole
    exact ⟨_ :: first, second, rfl, .gap gap left, right⟩
  | name isName longest tail ih =>
    cases before with
    | nil =>
      cases whole
      exact ⟨[], _, rfl, .nil, .name isName longest tail⟩
    | cons token before =>
      obtain ⟨rfl, others⟩ := List.cons.inj whole
      obtain ⟨first, second, rfl, left, right⟩ := ih others
      exact ⟨_, second, (List.append_assoc ..).symm,
        .name isName (head?_any_of_append longest) left, right⟩
  | symbol noGap noName tail ih =>
    cases before with
    | nil =>
      cases whole
      exact ⟨[], _, rfl, .nil, .symbol noGap noName tail⟩
    | cons token before =>
      obtain ⟨rfl, others⟩ := List.cons.inj whole
      obtain ⟨first, second, rfl, left, right⟩ := ih others
      exact ⟨_ :: first, second, rfl, .symbol noGap noName left, right⟩

/-- Texts may be joined where no name would run on. -/
theorem Layout.append {first second : List Char} {before after : List Token}
    (left : Layout first before) (apart : second.head?.any isNameChar = false)
    (right : Layout second after) : Layout (first ++ second) (before ++ after) := by
  induction left with
  | nil => exact right
  | gap gap _ ih => exact .gap gap ih
  | @name _ rest _ isName longest _ ih =>
    rw [List.append_assoc]
    refine .name isName ?_ ih
    cases rest with
    | nil => exact apart
    | cons c rest => exact longest
  | symbol noGap noName _ ih => exact .symbol noGap noName ih

/-- Behind a token that is no name, any text may follow. -/
theorem Layout.append_of_last {first second : List Char} {before after : List Token}
    (left : Layout first before) (last : ∀ name, before.getLast? ≠ some (.name name))
    (right : Layout second after) : Layout (first ++ second) (before ++ after) := by
  have others {token : Token} {tokens : List Token}
      (last : ∀ name, (token :: tokens).getLast? ≠ some (.name name)) :
      ∀ name, tokens.getLast? ≠ some (.name name) := by
    cases tokens with
    | nil => simp
    | cons token tokens => simpa only [List.getLast?_cons_cons] using last
  induction left with
  | nil => exact right
  | gap gap _ ih => exact .gap gap (ih last)
  | @name text rest tokens isName longest tail ih =>
    rw [List.append_assoc]
    cases rest with
    | nil =>
      have nothing : tokens = [] := tail.scan_eq.symm
      subst nothing
      exact absurd rfl (last text)
    | cons c rest => exact .name isName longest (ih (others last))
  | symbol noGap noName _ ih => exact .symbol noGap noName (ih (others last))

theorem isBlank_ofChar {c : Char} (h : (ofChar c).isBlank) : Text.isBlank c := by
  rcases ofChar_cases c with symbol | symbol | symbol | symbol | symbol <;> rw [symbol] at h
  · cases h
  · cases h
  · cases h
  · cases h
  · exact h

theorem ofChar_of_isBlank {c : Char} (h : Text.isBlank c) : (ofChar c).isBlank := by
  have other : ∀ d ∈ ['(', ')', ',', ':'], c ≠ d := by
    rintro d hd rfl
    simp only [List.mem_cons, List.not_mem_nil, or_false] at hd
    rcases hd with rfl | rfl | rfl | rfl <;> exact absurd h (by decide)
  simp only [List.mem_cons, List.not_mem_nil, or_false, forall_eq_or_imp, forall_eq] at other
  have stray : ofChar c = .stray c := by simp [ofChar, other]
  rw [stray]
  exact h

/-- Blanks are laid out as blank tokens, in front of whatever follows them. -/
theorem Layout.blank_append {blanks rest : List Char} {tokens : List Token}
    (blank : ∀ c ∈ blanks, Text.isBlank c) (tail : Layout rest tokens) :
    ∃ strays, Layout (blanks ++ rest) (strays ++ tokens) ∧ ∀ token ∈ strays, token.isBlank := by
  induction blanks with
  | nil => exact ⟨[], tail, by simp⟩
  | cons c blanks ih =>
    obtain ⟨hc, blank⟩ := List.forall_mem_cons.mp blank
    obtain ⟨strays, laid, stray⟩ := ih blank
    by_cases gap : Text.isGap c
    · exact ⟨strays, .gap gap laid, stray⟩
    · have noName : isNameChar c = false := by
        rw [Bool.eq_false_iff]
        intro name
        rw [Text.isBlank_eq_false name] at hc
        cases hc
      refine ⟨ofChar c :: strays, .symbol (Bool.eq_false_iff.mpr gap) noName laid, ?_⟩
      exact List.forall_mem_cons.mpr ⟨ofChar_of_isBlank hc, stray⟩

theorem Layout.blank {text : List Char} {tokens : List Token} (h : Layout text tokens)
    (stray : ∀ token ∈ tokens, token.isBlank) : ∀ c ∈ text, Text.isBlank c := by
  induction h with
  | nil => simp
  | gap gap _ ih => exact List.forall_mem_cons.mpr ⟨Text.isBlank_of_isGap gap, ih stray⟩
  | name =>
    have named := stray _ (List.mem_cons_self ..)
    cases named
  | symbol _ _ _ ih =>
    obtain ⟨first, stray⟩ := List.forall_mem_cons.mp stray
    exact List.forall_mem_cons.mpr ⟨isBlank_ofChar first, ih stray⟩

end Token

end ColumnTypes
