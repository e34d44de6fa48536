import ColumnTypes.Text.RoundTrip

/-!
# Which texts and bytes can be read

The converse of reading back what was written. Digits are read as bytes exactly if they are the
digits of the bytes but for the case of the letters (`Hex.decode_eq_ok_iff`), and bytes are read as
a text exactly if they are the bytes of the text (`Utf8.decode?_eq_some_iff`): no overlong form, no
surrogate and no open character is read.
-/

namespace ColumnTypes

variable {α β ε : Type}

theorem bind_eq_ok_iff {x : Except ε α} {f : α → Except ε β} {b : β} :
    (x >>= f) = .ok b ↔ ∃ a, x = .ok a ∧ f a = .ok b := by
  cases x with
  | error fault => simp [bind, Except.bind]
  | ok a => simp [bind, Except.bind]

theorem map_eq_ok_iff {x : Except ε α} {f : α → β} {b : β} :
    x.map f = .ok b ↔ ∃ a, x = .ok a ∧ f a = b := by
  cases x with
  | error fault => simp [Except.map]
  | ok a => simp [Except.map]

theorem pure_eq_ok_iff {a b : α} : (pure a : Except ε α) = .ok b ↔ a = b := by
  simp [pure, Except.pure]

theorem mapError_eq_ok_iff {ε' : Type} {x : Except ε α} {f : ε → ε'} {a : α} :
    x.mapError f = .ok a ↔ x = .ok a := by
  constructor
  · intro h
    cases x with
    | error fault => cases h
    | ok found =>
      cases h
      rfl
  · rintro rfl
    rfl

theorem mapError_eq_error_iff {ε' : Type} {x : Except ε α} {f : ε → ε'} {e : ε'} :
    x.mapError f = .error e ↔ ∃ fault, x = .error fault ∧ f fault = e := by
  constructor
  · intro h
    cases x with
    | error fault =>
      cases h
      exact ⟨fault, rfl, rfl⟩
    | ok found => cases h
  · rintro ⟨fault, rfl, rfl⟩
    rfl

namespace Hex

theorem encode_cons (byte : UInt8) (rest : Bytes) :
    encode (byte :: rest) =
      digit (byte.toNat / 16) :: digit (byte.toNat % 16) :: encode rest := rfl

theorem encode_eq_nil_iff {bytes : Bytes} : encode bytes = [] ↔ bytes = [] := by
  rw [← List.length_eq_zero_iff, length_encode, ← List.length_eq_zero_iff]
  omega

/-- A digit may be in either case, and its value is that of the one in lowercase. -/
theorem digitValue?_eq_some_iff {c : Char} {value : Nat} :
    digitValue? c = some value ↔ value < 16 ∧ c.toLower = digit value := by
  constructor
  · intro h
    obtain ⟨bound, found, -⟩ := List.findIdx?_eq_some_iff_getElem.mp h
    have lower : digits[value] = c.toLower := of_decide_eq_true found
    have small : value < 16 := bound
    refine ⟨small, ?_⟩
    rw [← lower, digit, List.getD_eq_getElem?_getD, List.getElem?_eq_getElem bound,
      Option.getD_some]
  · rintro ⟨small, lower⟩
    have each : ∀ value < 16, digits.findIdx? (· = digit value) = some value := by decide
    rw [digitValue?, lower]
    exact each value small

theorem digitAt_eq_ok_iff {position value : Nat} {c : Char} :
    digitAt position c = .ok value ↔ value < 16 ∧ c.toLower = digit value := by
  rw [← digitValue?_eq_some_iff, digitAt]
  cases digitValue? c with
  | none => simp
  | some found => simp

theorem decodeFrom_eq_ok_iff {position : Nat} {text : List Char} {bytes : Bytes} :
    decodeFrom position text = .ok bytes ↔ text.map Char.toLower = encode bytes := by
  induction position, text using decodeFrom.induct generalizing bytes with
  | case1 position =>
    rw [decodeFrom, List.map_nil]
    constructor
    · rintro ⟨⟩
      rfl
    · intro none
      rw [encode_eq_nil_iff.mp none.symm]
  | case2 position c =>
    rw [decodeFrom]
    constructor
    · rintro ⟨⟩
    · intro odd
      have both := congrArg List.length odd
      rw [length_encode] at both
      simp at both
      omega
  | case3 position high low rest ih =>
    simp only [decodeFrom, bind_eq_ok_iff, pure_eq_ok_iff, digitAt_eq_ok_iff, ih]
    constructor
    · rintro ⟨upper, ⟨smallUpper, first⟩, lower, ⟨smallLower, second⟩, others, tail, rfl⟩
      have whole : (UInt8.ofNat (upper * 16 + lower)).toNat = upper * 16 + lower :=
        Utf8.toNat_ofNat_lt (by omega)
      have upperHalf : (upper * 16 + lower) / 16 = upper := by omega
      have lowerHalf : (upper * 16 + lower) % 16 = lower := by omega
      rw [List.map_cons, List.map_cons, first, second, tail, encode_cons, whole, upperHalf,
        lowerHalf]
    · intro same
      cases bytes with
      | nil => cases same
      | cons byte others =>
        have small := byte.toNat_lt
        have halves : byte.toNat / 16 * 16 + byte.toNat % 16 = byte.toNat := by omega
        simp only [encode_cons, List.map_cons, List.cons.injEq] at same
        obtain ⟨first, second, tail⟩ := same
        refine ⟨_, ⟨by omega, first⟩, _, ⟨by omega, second⟩, others, tail, ?_⟩
        rw [halves, UInt8.ofNat_toNat]

/-- Digits spell the bytes that are written so in lowercase. -/
theorem decode_eq_ok_iff {text : List Char} {bytes : Bytes} :
    decode text = .ok bytes ↔ text.map Char.toLower = encode bytes := by
  rw [decode]
  split
  · rename_i odd
    constructor
    · rintro ⟨⟩
    · intro same
      have both := congrArg List.length same
      rw [length_encode, List.length_map] at both
      omega
  · exact decodeFrom_eq_ok_iff

end Hex

namespace Utf8

theorem toNat_ofNat_of_valid {n : Nat} (valid : n < 0xD800 ∨ 0xDFFF < n ∧ n < 0x110000) :
    (Char.ofNat n).toNat = n := by
  rw [Char.ofNat, dif_pos valid]
  rfl

/-- An open character is completed by bytes in range. -/
theorem scan_within {owed low high value : Nat} {bytes : Bytes} {text : List Char}
    (above : 0x80 ≤ low) (below : high ≤ 0xBF)
    (h : scan (.within owed low high value) bytes = text.map some) :
    ∃ tail rest, bytes = UInt8.ofNat (0x80 + tail) :: rest ∧
      (low ≤ 0x80 + tail ∧ 0x80 + tail ≤ high) ∧
      (if owed ≤ 1 then some (Char.ofNat (value * 0x40 + tail)) :: scan .start rest
        else scan (.within (owed - 1) 0x80 0xBF (value * 0x40 + tail)) rest) = text.map some := by
  cases bytes with
  | nil => cases text <;> cases h
  | cons byte rest =>
    by_cases inRange : low ≤ byte.toNat ∧ byte.toNat ≤ high
    · have whole : 0x80 + (byte.toNat - 0x80) = byte.toNat := by omega
      have back : byte = UInt8.ofNat (0x80 + (byte.toNat - 0x80)) := by
        rw [whole, UInt8.ofNat_toNat]
      rw [back, scan_tail (by omega) (by omega)] at h
      exact ⟨byte.toNat - 0x80, rest, congrArg (· :: rest) back, by omega, h⟩
    · have broken : ∃ entries, scan (.within owed low high value) (byte :: rest) =
          none :: entries := by
        simp [scan, step, inRange]
      obtain ⟨entries, broken⟩ := broken
      rw [broken] at h
      cases text <;> cases h

theorem scan_within_one {low high value : Nat} {bytes : Bytes} {text : List Char}
    (above : 0x80 ≤ low) (below : high ≤ 0xBF)
    (h : scan (.within 1 low high value) bytes = text.map some) :
    ∃ tail rest others, bytes = UInt8.ofNat (0x80 + tail) :: rest ∧
      (low ≤ 0x80 + tail ∧ 0x80 + tail ≤ high) ∧
      text = Char.ofNat (value * 0x40 + tail) :: others ∧ scan .start rest = others.map some := by
  obtain ⟨tail, rest, rfl, inRange, found⟩ := scan_within above below h
  rw [if_pos (Nat.le_refl 1)] at found
  cases text with
  | nil => cases found
  | cons c others =>
    rw [List.map_cons, List.cons.injEq, Option.some.injEq] at found
    obtain ⟨rfl, found⟩ := found
    exact ⟨tail, rest, others, rfl, inRange, rfl, found⟩

theorem scan_within_two {low high value : Nat} {bytes : Bytes} {text : List Char}
    (above : 0x80 ≤ low) (below : high ≤ 0xBF)
    (h : scan (.within 2 low high value) bytes = text.map some) :
    ∃ first second rest others,
      bytes = UInt8.ofNat (0x80 + first) :: UInt8.ofNat (0x80 + second) :: rest ∧
      (low ≤ 0x80 + first ∧ 0x80 + first ≤ high) ∧ second < 0x40 ∧
      text = Char.ofNat ((value * 0x40 + first) * 0x40 + second) :: others ∧
      scan .start rest = others.map some := by
  obtain ⟨first, bytes, rfl, inRange, found⟩ := scan_within above below h
  rw [if_neg (by omega)] at found
  obtain ⟨second, rest, others, rfl, inRange', rfl, behind⟩ :=
    scan_within_one (Nat.le_refl _) (Nat.le_refl _) found
  exact ⟨first, second, rest, others, rfl, inRange, by omega, rfl, behind⟩

theorem scan_within_three {low high value : Nat} {bytes : Bytes} {text : List Char}
    (above : 0x80 ≤ low) (below : high ≤ 0xBF)
    (h : scan (.within 3 low high value) bytes = text.map some) :
    ∃ first second third rest others,
      bytes = UInt8.ofNat (0x80 + first) :: UInt8.ofNat (0x80 + second) ::
        UInt8.ofNat (0x80 + third) :: rest ∧
      (low ≤ 0x80 + first ∧ 0x80 + first ≤ high) ∧ second < 0x40 ∧ third < 0x40 ∧
      text = Char.ofNat (((value * 0x40 + first) * 0x40 + second) * 0x40 + third) :: others ∧
      scan .start rest = others.map some := by
  obtain ⟨first, bytes, rfl, inRange, found⟩ := scan_within above below h
  rw [if_neg (by omega)] at found
  obtain ⟨second, third, rest, others, rfl, inRange', small, rfl, behind⟩ :=
    scan_within_two (Nat.le_refl _) (Nat.le_refl _) found
  exact ⟨first, second, third, rest, others, rfl, inRange, by omega, small, rfl, behind⟩

/-- The bytes start with a character, and the rest of them with the rest of the text. -/
def Starts (bytes : Bytes) (text : List Char) : Prop :=
  ∃ c others rest, bytes = encodeChar c ++ rest ∧ text = c :: others ∧
    scan .start rest = others.map some

theorem starts_one {byte : UInt8} {rest : Bytes} {text : List Char} (small : byte.toNat < 0x80)
    (h : some (Char.ofNat byte.toNat) :: scan .start rest = text.map some) :
    Starts (byte :: rest) text := by
  cases text with
  | nil => cases h
  | cons c others =>
    rw [List.map_cons, List.cons.injEq, Option.some.injEq] at h
    obtain ⟨rfl, behind⟩ := h
    have code : (Char.ofNat byte.toNat).toNat = byte.toNat := toNat_ofNat_of_valid (by omega)
    refine ⟨_, others, rest, ?_, rfl, behind⟩
    simp only [encodeChar, code]
    rw [if_pos small, UInt8.ofNat_toNat]
    rfl

theorem starts_two {byte : UInt8} {value : Nat} {rest : Bytes} {text : List Char}
    (lead : byte.toNat = 0xC0 + value) (range : 2 ≤ value ∧ value < 0x20)
    (h : scan (.within 1 0x80 0xBF value) rest = text.map some) : Starts (byte :: rest) text := by
  obtain ⟨tail, rest, others, rfl, inRange, rfl, behind⟩ :=
    scan_within_one (Nat.le_refl _) (Nat.le_refl _) h
  have code := toNat_ofNat_of_valid (n := value * 0x40 + tail) (by omega)
  have high : (value * 0x40 + tail) / 0x40 = value := by omega
  have low : (value * 0x40 + tail) % 0x40 = tail := by omega
  refine ⟨_, others, rest, ?_, rfl, behind⟩
  simp only [encodeChar, code]
  rw [if_neg (by omega), if_pos (by omega), high, low, ← lead, UInt8.ofNat_toNat]
  rfl

theorem starts_three {byte : UInt8} {value low high : Nat} {rest : Bytes} {text : List Char}
    (lead : byte.toNat = 0xE0 + value) (small : value < 0x10)
    (above : 0x80 ≤ low ∧ (value = 0 → 0xA0 ≤ low))
    (below : high ≤ 0xBF ∧ (value = 0xD → high ≤ 0x9F))
    (h : scan (.within 2 low high value) rest = text.map some) : Starts (byte :: rest) text := by
  obtain ⟨first, second, rest, others, rfl, inRange, tail, rfl, behind⟩ :=
    scan_within_two above.1 below.1 h
  have code := toNat_ofNat_of_valid (n := (value * 0x40 + first) * 0x40 + second) (by omega)
  have high : ((value * 0x40 + first) * 0x40 + second) / 0x1000 = value := by omega
  have mid : ((value * 0x40 + first) * 0x40 + second) / 0x40 % 0x40 = first := by omega
  have low : ((value * 0x40 + first) * 0x40 + second) % 0x40 = second := by omega
  refine ⟨_, others, rest, ?_, rfl, behind⟩
  simp only [encodeChar, code]
  rw [if_neg (by omega), if_neg (by omega), if_pos (by omega), high, mid, low, ← lead,
    UInt8.ofNat_toNat]
  rfl

theorem starts_four {byte : UInt8} {value low high : Nat} {rest : Bytes} {text : List Char}
    (lead : byte.toNat = 0xF0 + value) (small : value < 5)
    (above : 0x80 ≤ low ∧ (value = 0 → 0x90 ≤ low))
    (below : high ≤ 0xBF ∧ (value = 4 → high ≤ 0x8F))
    (h : scan (.within 3 low high value) rest = text.map some) : Starts (byte :: rest) text := by
  obtain ⟨first, second, third, rest, others, rfl, inRange, tail, tail', rfl, behind⟩ :=
    scan_within_three above.1 below.1 h
  have code := toNat_ofNat_of_valid
    (n := ((value * 0x40 + first) * 0x40 + second) * 0x40 + third) (by omega)
  have high : (((value * 0x40 + first) * 0x40 + second) * 0x40 + third) / 0x40000 = value := by
    omega
  have upper :
      (((value * 0x40 + first) * 0x40 + second) * 0x40 + third) / 0x1000 % 0x40 = first := by omega
  have mid : (((value * 0x40 + first) * 0x40 + second) * 0x40 + third) / 0x40 % 0x40 = second := by
    omega
  have low : (((value * 0x40 + first) * 0x40 + second) * 0x40 + third) % 0x40 = third := by omega
  refine ⟨_, others, rest, ?_, rfl, behind⟩
  simp only [encodeChar, code]
  rw [if_neg (by omega), if_neg (by omega), if_neg (by omega), high, upper, mid, low, ← lead,
    UInt8.ofNat_toNat]
  rfl

/-- A first byte that gives no mistake starts the encoding of a character. -/
theorem starts_of_scan {byte : UInt8} {rest : Bytes} {text : List Char}
    (h : scan .start (byte :: rest) = text.map some) : Starts (byte :: rest) text := by
  have read : scan .start (byte :: rest) = (lead byte).1 ++ scan (lead byte).2 rest := rfl
  have refused (entries : List (Option Char)) : none :: entries ≠ text.map some := by
    cases text <;> simp
  rw [read] at h
  -- One case for each range of first bytes. The ranges of the bytes that follow are narrowed where
  -- an overlong form, a surrogate or too great a code point would begin.
  simp only [lead] at h
  split at h
  · exact starts_one ‹_› h
  split at h
  · exact absurd h (refused _)
  split at h
  · have lead : byte.toNat = 0xC0 + (byte.toNat - 0xC0) := by omega
    exact starts_two lead (by omega) h
  split at h
  · exact starts_three (by omega) (by omega) (by omega) (by omega) h
  split at h
  · exact starts_three (by omega) (by omega) (by omega) (by omega) h
  split at h
  · have lead : byte.toNat = 0xE0 + (byte.toNat - 0xE0) := by omega
    exact starts_three lead (by omega) (by omega) (by omega) h
  split at h
  · exact starts_four (by omega) (by omega) (by omega) (by omega) h
  split at h
  · have lead : byte.toNat = 0xF0 + (byte.toNat - 0xF0) := by omega
    exact starts_four lead (by omega) (by omega) (by omega) h
  split at h
  · exact starts_four (by omega) (by omega) (by omega) (by omega) h
  · exact absurd h (refused _)

theorem encode_of_scan {bytes : Bytes} {text : List Char} (h : scan .start bytes = text.map some) :
    bytes = text.flatMap encodeChar := by
  induction text generalizing bytes with
  | nil =>
    cases bytes with
    | nil => rfl
    | cons byte rest =>
      obtain ⟨c, others, remaining, -, impossible, -⟩ := starts_of_scan h
      cases impossible
  | cons c others ih =>
    cases bytes with
    | nil => cases h
    | cons byte rest =>
      obtain ⟨first, tail, remaining, split, same, behind⟩ := starts_of_scan h
      cases same
      rw [split, ih behind, List.flatMap_cons]

theorem map_some_filterMap {entries : List (Option α)} (complete : entries.all Option.isSome) :
    (entries.filterMap id).map some = entries := by
  induction entries with
  | nil => rfl
  | cons entry rest ih =>
    cases entry with
    | none => cases complete
    | some a => exact congrArg (some a :: ·) (ih complete)

/-- Bytes are valid for exactly one text, of which they are the encoding. So no overlong form and no
surrogate is let through. -/
theorem decode?_eq_some_iff {bytes : Bytes} {text : String} :
    decode? bytes = some text ↔ bytes = encode text := by
  constructor
  · intro h
    simp only [decode?] at h
    split at h
    · rename_i complete
      cases h
      rw [encode, String.toList_ofList]
      exact encode_of_scan (map_some_filterMap complete).symm
    · cases h
  · rintro rfl
    exact decode?_encode text

end Utf8

end ColumnTypes
