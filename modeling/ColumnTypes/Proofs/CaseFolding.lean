import ColumnTypes.Proofs.Decoding
import ColumnTypes.Proofs.RegistryLog
import ColumnTypes.Text.RoundTrip

/-!
# Folding the case of identifiers

Lowercasing a text leaves no capital in it (`Text.isCapital_lowerFrom`), and it changes nothing but
capitals (`Text.lowerFrom_eq_self`), so doing it twice is doing it once. The capital sigma is what
makes this worth a proof: its lowercase depends on letters at any distance. But it is a capital
itself, so none is left for a second pass, whatever the first made of its neighbours.

The letters around a sigma matter for another law, that the case of ASCII letters is no part of an
unquoted identifier. It holds as both cases of a letter are letters, and case ignores neither.

What is asked of the table of letter case is decided on its runs: the lowercases of a run are
characters and no capitals.
-/

namespace ColumnTypes

namespace Text

/-- The runs of all capitals: those of the table, and the capital I with a dot above. -/
def capitals : List CaseRun :=
  ⟨0x130, 1, 1, 0x69⟩ :: caseRuns

/-- The character has a lowercase of its own. -/
def isCapital (c : Char) : Bool :=
  capitals.any (·.covers c.toNat)

/-- None of the lowercases of the first run is a capital of the second: they lie apart, or one by
one they are none. -/
def CaseRun.clears (run other : CaseRun) : Bool :=
  Nat.blt (run.lower + run.count * run.stride) other.first ||
    Nat.ble (other.first + other.count * other.stride) run.lower ||
    (List.range run.count).all fun i => !other.covers (run.lower + i * run.stride)

/-- No lowercase that the table gives is a capital in turn. -/
theorem clears_capitals : caseRuns.all fun run => capitals.all run.clears := by
  decide +kernel

/-- The lowercases of a run lie on one side of the surrogates. -/
theorem lower_valid : ∀ run ∈ caseRuns,
    run.lower + run.count * run.stride < 0xD800 ∨
      0xDFFF < run.lower ∧ run.lower + run.count * run.stride < 0x110000 := by
  decide +kernel

namespace CaseRun

variable {run other : CaseRun} {code i : Nat}

theorem exists_of_covers (covered : run.covers code) :
    ∃ i < run.count, code = run.first + i * run.stride := by
  simp only [covers, Bool.and_eq_true, decide_eq_true_eq, beq_iff_eq] at covered
  obtain ⟨⟨above, below⟩, onRun⟩ := covered
  have steps := Nat.div_mul_cancel (Nat.dvd_of_mod_eq_zero onRun)
  refine ⟨(code - run.first) / run.stride, Nat.div_lt_of_lt_mul ?_, by omega⟩
  rw [Nat.mul_comm]
  omega

theorem covers_eq_false_of_clears (clear : run.clears other) (inside : i < run.count) :
    other.covers (run.lower + i * run.stride) = false := by
  have within := Nat.mul_le_mul_right run.stride (Nat.le_of_lt inside)
  simp only [clears, Bool.or_eq_true, Nat.blt_eq, Nat.ble_eq, List.all_eq_true, List.mem_range,
    Bool.not_eq_true'] at clear
  rcases clear with (below | above) | none
  · simp [covers]
    omega
  · simp [covers]
    omega
  · exact none i inside

end CaseRun

/-- What stands for a capital in the table is a character and no capital. -/
theorem isCapital_lower {run : CaseRun} {code : Nat} (mem : run ∈ caseRuns)
    (covered : run.covers code) :
    isCapital (Char.ofNat (run.lower + (code - run.first))) = false := by
  obtain ⟨i, inside, rfl⟩ := CaseRun.exists_of_covers covered
  have within := Nat.mul_le_mul_right run.stride (Nat.le_of_lt inside)
  have valid := lower_valid run mem
  rw [Nat.add_sub_cancel_left, isCapital, Utf8.toNat_ofNat_of_valid (by omega), List.any_eq_false]
  intro other mem'
  have clear := List.all_eq_true.mp (List.all_eq_true.mp clears_capitals run mem) other mem'
  simp [CaseRun.covers_eq_false_of_clears clear inside]

theorem find?_caseRuns_eq_none {c : Char} (plain : isCapital c = false) :
    caseRuns.find? (·.covers c.toNat) = none := by
  simp only [isCapital, capitals, List.any_cons, Bool.or_eq_false_iff] at plain
  simpa using plain.2

theorem simpleLower_eq_self {c : Char} (plain : isCapital c = false) : simpleLower c = c := by
  rw [simpleLower, find?_caseRuns_eq_none plain]

/-- The capital I with a dot above is left out, for it becomes two characters. -/
theorem isCapital_simpleLower {c : Char} (dotless : c ≠ 'İ') :
    isCapital (simpleLower c) = false := by
  unfold simpleLower
  split
  · rename_i run found
    have covered : run.covers c.toNat := by simpa using List.find?_some found
    exact isCapital_lower (List.mem_of_find?_eq_some found) covered
  · rename_i unfound
    rw [isCapital, List.any_eq_false]
    intro run mem covered
    rcases List.mem_cons.mp mem with rfl | mem
    · obtain ⟨i, inside, code⟩ := CaseRun.exists_of_covers covered
      have dotted : c.toNat = 'İ'.toNat := by
        rw [code, Nat.lt_one_iff.mp inside]
        rfl
      exact dotless (Char.toNat_inj.mp dotted)
    · exact List.find?_eq_none.mp unfound run mem covered

theorem isCapital_lowerAt {before after : List Char} {c d : Char}
    (mem : d ∈ lowerAt before c after) : isCapital d = false := by
  have sigmas : isCapital 'ς' = false ∧ isCapital 'σ' = false := by decide +kernel
  have dotted : isCapital 'i' = false ∧ isCapital '\u0307' = false := by decide +kernel
  unfold lowerAt at mem
  split at mem
  · split at mem
    · exact List.mem_singleton.mp mem ▸ sigmas.1
    · exact List.mem_singleton.mp mem ▸ sigmas.2
  split at mem
  · rcases List.mem_pair.mp mem with rfl | rfl
    · exact dotted.1
    · exact dotted.2
  · rename_i dotless
    exact List.mem_singleton.mp mem ▸ isCapital_simpleLower dotless

theorem lowerAt_of_ne {before after : List Char} {c : Char} (sigma : c ≠ 'Σ') (dotless : c ≠ 'İ') :
    lowerAt before c after = [simpleLower c] := by
  rw [lowerAt, if_neg sigma, if_neg dotless]

theorem lowerAt_eq_self {before after : List Char} {c : Char} (plain : isCapital c = false) :
    lowerAt before c after = [c] := by
  have sigma : c ≠ 'Σ' := by
    rintro rfl
    exact absurd plain (by decide +kernel)
  have dotless : c ≠ 'İ' := by
    rintro rfl
    exact absurd plain (by decide +kernel)
  rw [lowerAt_of_ne sigma dotless, simpleLower_eq_self plain]

/-- No capital is left, wherever the text stands. -/
theorem isCapital_lowerFrom {before text : List Char} :
    ∀ c ∈ lowerFrom before text, isCapital c = false := by
  induction text generalizing before with
  | nil => simp [lowerFrom]
  | cons first rest ih =>
    intro c mem
    rcases List.mem_append.mp mem with here | behind
    · exact isCapital_lowerAt here
    · exact ih c behind

/-- A text without capitals is not changed, whatever stands before it. -/
theorem lowerFrom_eq_self {before text : List Char} (plain : ∀ c ∈ text, isCapital c = false) :
    lowerFrom before text = text := by
  induction text generalizing before with
  | nil => rfl
  | cons first rest ih =>
    obtain ⟨here, behind⟩ := List.forall_mem_cons.mp plain
    rw [lowerFrom, lowerAt_eq_self here, ih behind, List.singleton_append]

/-- Lowercase is a normal form: what has no capitals stays as it is. -/
theorem lowercase_lowercase (text : String) : lowercase (lowercase text) = lowercase text := by
  rw [lowercase, lowercase, String.toList_ofList, lowerFrom_eq_self isCapital_lowerFrom]

/-- A character is left alone by the case of ASCII, or it is one of its capitals. -/
theorem toLower_eq_self_or (c : Char) :
    c.toLower = c ∨ ∃ n < 26, c = Char.ofNat (0x41 + n) ∧ c.toLower = Char.ofNat (0x61 + n) := by
  have letters : ∀ n < 26, (Char.ofNat (0x41 + n)).toLower = Char.ofNat (0x61 + n) := by decide
  by_cases upper : c.val ≥ 'A'.val ∧ c.val ≤ 'Z'.val
  · have low : 0x41 ≤ c.toNat := upper.1
    have high : c.toNat ≤ 0x5A := upper.2
    have letter : c = Char.ofNat (0x41 + (c.toNat - 0x41)) := by
      rw [Nat.add_sub_cancel' low, Char.ofNat_toNat]
    refine Or.inr ⟨c.toNat - 0x41, by omega, letter, ?_⟩
    rw [← letters _ (by omega), ← letter]
  · exact Or.inl (dif_neg upper)

/-- Case does not ignore the letters of ASCII. -/
theorem isCaseIgnorable_letter {first n : Nat} (alphabet : first = 0x41 ∨ first = 0x61)
    (letter : n < 26) : isCaseIgnorable (Char.ofNat (first + n)) = false := by
  have apart : ∀ range ∈ caseIgnorableRanges,
      range.2 < 0x41 ∨ 0x5A < range.1 ∧ range.2 < 0x61 ∨ 0x7A < range.1 := by
    decide +kernel
  rw [isCaseIgnorable, Utf8.toNat_ofNat_of_valid (by omega), List.any_eq_false]
  rintro ⟨low, high⟩ mem
  have outside := apart _ mem
  simp only [Bool.and_eq_true, decide_eq_true_eq]
  omega

theorem isCaseIgnorable_toLower (c : Char) : isCaseIgnorable c.toLower = isCaseIgnorable c := by
  obtain same | ⟨n, letter, upper, lower⟩ := toLower_eq_self_or c
  · rw [same]
  · rw [lower, upper, isCaseIgnorable_letter (Or.inl rfl) letter,
      isCaseIgnorable_letter (Or.inr rfl) letter]

theorem isCased_toLower (c : Char) : isCased c.toLower = isCased c := by
  have letters : ∀ n < 26, isCased (Char.ofNat (0x61 + n)) = isCased (Char.ofNat (0x41 + n)) := by
    decide +kernel
  obtain same | ⟨n, letter, upper, lower⟩ := toLower_eq_self_or c
  · rw [same]
  · rw [lower, upper, letters n letter]

/-- The search for a neighbouring letter does not see the case of ASCII letters. -/
theorem startsCased_map_toLower (text : List Char) :
    startsCased (text.map Char.toLower) = startsCased text := by
  have skipped : isCaseIgnorable ∘ Char.toLower = isCaseIgnorable := funext isCaseIgnorable_toLower
  rw [startsCased, List.dropWhile_map, skipped, startsCased]
  cases text.dropWhile isCaseIgnorable with
  | nil => rfl
  | cons c rest => exact isCased_toLower c

/-- What one character becomes does not depend on the case of ASCII letters, neither on its own nor
on that of its neighbours. -/
theorem lowerAt_toLower (before after : List Char) (c : Char) :
    lowerAt (before.map Char.toLower) c.toLower (after.map Char.toLower) =
      lowerAt before c after := by
  have letters : ∀ n < 26, ∀ first ∈ [0x41, 0x61], Char.ofNat (first + n) ≠ 'Σ' ∧
      Char.ofNat (first + n) ≠ 'İ' ∧
      simpleLower (Char.ofNat (first + n)) = Char.ofNat (0x61 + n) := by
    decide +kernel
  have place : endsWord (before.map Char.toLower) (after.map Char.toLower) =
      endsWord before after := by
    rw [endsWord, startsCased_map_toLower, startsCased_map_toLower, endsWord]
  obtain same | ⟨n, letter, upper, lower⟩ := toLower_eq_self_or c
  · rw [same, lowerAt, place, lowerAt]
  · obtain ⟨sigma, dotless, folded⟩ := letters n letter 0x41 (by simp)
    obtain ⟨sigma', dotless', folded'⟩ := letters n letter 0x61 (by simp)
    rw [lower, upper, lowerAt_of_ne sigma dotless, lowerAt_of_ne sigma' dotless', folded, folded']

/-- The ASCII letters may be lowered first. Neither whether a final sigma is due nor any other
lowercase depends on their case. -/
theorem lowerFrom_map_toLower (before text : List Char) :
    lowerFrom (before.map Char.toLower) (text.map Char.toLower) = lowerFrom before text := by
  induction text generalizing before with
  | nil => rfl
  | cons first rest ih =>
    have behind := ih (first :: before)
    rw [List.map_cons] at behind
    rw [List.map_cons, lowerFrom, lowerFrom, lowerAt_toLower, behind]

/-- The texts are equal but for the case of ASCII letters. -/
def SameButCase (a b : String) : Prop :=
  a.toList.map Char.toLower = b.toList.map Char.toLower

instance (a b : String) : Decidable (SameButCase a b) :=
  inferInstanceAs (Decidable (_ = _))

theorem SameButCase.lowercase_eq {a b : String} (same : SameButCase a b) :
    lowercase a = lowercase b := by
  have first := lowerFrom_map_toLower [] a.toList
  have second := lowerFrom_map_toLower [] b.toList
  rw [same] at first
  exact congrArg String.ofList (first.symm.trans second)

end Text

namespace Registry

/-- What is found under an unquoted identifier has a name in lowercase. -/
theorem lowercase_of_lookup_unquoted {registry : Registry} {text : String} {found : Descriptor}
    (h : registry.lookup (.unquoted text) = some found) :
    ∃ type, found = .user type ∧ Text.lowercase type.nameText = type.nameText := by
  obtain ⟨type, unfolded, rfl⟩ := Option.map_eq_some_iff.mp h
  have named : type.nameText = (Identifier.unquoted text).text := by
    simpa using List.find?_some unfolded
  refine ⟨type, rfl, ?_⟩
  rw [named]
  exact Text.lowercase_lowercase text

/-- An unquoted identifier is canonical: it is its own folding, and so is its text in quotes; it
does not depend on the case of ASCII letters. The text of a stored name is the same identifier when
it is stored again. So an unquoted identifier finds only types whose names are in lowercase. -/
theorem unquoted_is_canonical :
    (∀ text, Identifier.unquoted (Identifier.unquoted text).text = .unquoted text ∧
      Identifier.quoted (Identifier.unquoted text).text = .unquoted text) ∧
    (∀ a b, Text.SameButCase a b → Identifier.unquoted a = .unquoted b) ∧
    (∀ name, Identifier.ofBytes (Utf8.encode (Identifier.ofBytes name).text) = .ofBytes name) ∧
    (∀ (log : List Request) (text : String) (found : Descriptor),
      (after log).lookup (.unquoted text) = some found →
      ∃ type, found = .user type ∧ Text.lowercase type.nameText = type.nameText) := by
  refine ⟨fun text => ⟨?_, rfl⟩, ?_, ?_, fun log text found => lowercase_of_lookup_unquoted⟩
  · exact congrArg Identifier.mk (Text.lowercase_lowercase text)
  · intro a b same
    exact congrArg Identifier.mk same.lowercase_eq
  · intro name
    exact congrArg Identifier.mk (Utf8.decodeLossy_encode _)

/-- A letter of ASCII behind a sigma keeps it from the end of the word in either case. -/
theorem unquoted_is_canonical_sigma :
    Text.SameButCase "ΑΣa" "ΑΣA" ∧ Identifier.unquoted "ΑΣa" = .unquoted "ΑΣA" := by
  have same : Text.SameButCase "ΑΣa" "ΑΣA" := by decide +kernel
  exact ⟨same, unquoted_is_canonical.2.1 _ _ same⟩

end Registry

end ColumnTypes
