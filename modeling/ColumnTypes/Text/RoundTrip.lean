import ColumnTypes.Text.Hex

/-!
# Bytes and their texts

What is written reads back: hexadecimal digits as the bytes they were written from, and UTF-8 as its
text. The second is a fact about one character with any bytes behind it (`Utf8.scan_encodeChar`).
That every text of digits, or every sequence of bytes, can be read is not claimed, as it is false.
-/

namespace ColumnTypes

namespace Hex

theorem digitValue?_digit : ∀ value < 16, digitValue? (digit value) = some value := by
  decide +kernel

theorem decodeFrom_encode (bytes : Bytes) (position : Nat) :
    decodeFrom position (encode bytes) = .ok bytes := by
  induction bytes generalizing position with
  | nil => rfl
  | cons byte rest ih =>
    have small := byte.toNat_lt
    have upper : digitValue? (digit (byte.toNat / 16)) = some (byte.toNat / 16) :=
      digitValue?_digit _ (by omega)
    have lower : digitValue? (digit (byte.toNat % 16)) = some (byte.toNat % 16) :=
      digitValue?_digit _ (by omega)
    have whole : byte.toNat / 16 * 16 + byte.toNat % 16 = byte.toNat := by omega
    have tail := ih (position + 2)
    simp only [encode] at tail
    simp [encode, decodeFrom, digitAt, upper, lower, tail, whole, bind, Except.bind, pure,
      Except.pure]

theorem length_encode (bytes : Bytes) : (encode bytes).length = 2 * bytes.length := by
  induction bytes with
  | nil => rfl
  | cons byte rest ih =>
    have tail : (encode (byte :: rest)).length = (encode rest).length + 2 := rfl
    rw [tail, ih, List.length_cons]
    omega

/-- The digits of bytes read back as the bytes. -/
theorem decode_encode (bytes : Bytes) : decode (encode bytes) = .ok bytes := by
  have even : ¬ (encode bytes).length % 2 = 1 := by rw [length_encode]; omega
  rw [decode, if_neg even, decodeFrom_encode]

end Hex

namespace Utf8

theorem toNat_ofNat_lt {n : Nat} (h : n < 256) : (UInt8.ofNat n).toNat = n := by
  rw [UInt8.toNat_ofNat', Nat.mod_eq_of_lt h]

theorem scan_lead {byte : UInt8} {state : State} {rest : Bytes} (h : lead byte = ([], state)) :
    scan .start (byte :: rest) = scan state rest := by
  simp [scan, step, h]

/-- A byte in the range that an open character expects. -/
theorem scan_tail {owed low high value tail : Nat} {rest : Bytes}
    (inRange : low ≤ 0x80 + tail ∧ 0x80 + tail ≤ high) (small : tail < 0x40) :
    scan (.within owed low high value) (UInt8.ofNat (0x80 + tail) :: rest) =
      if owed ≤ 1 then some (Char.ofNat (value * 0x40 + tail)) :: scan .start rest
      else scan (.within (owed - 1) 0x80 0xBF (value * 0x40 + tail)) rest := by
  have h : (UInt8.ofNat (0x80 + tail)).toNat = 0x80 + tail := toNat_ofNat_lt (by omega)
  simp only [scan, step, h, inRange, and_self, if_true, Nat.add_sub_cancel_left]
  split <;> simp

/-- The bytes of a character are read as that character, whatever follows them. -/
theorem scan_encodeChar (c : Char) (rest : Bytes) :
    scan .start (encodeChar c ++ rest) = some c :: scan .start rest := by
  have valid : c.toNat < 0xD800 ∨ 0xDFFF < c.toNat ∧ c.toNat < 0x110000 := c.valid
  have back : Char.ofNat c.toNat = c := Char.ofNat_toNat c
  unfold encodeChar
  generalize c.toNat = n at valid back
  simp only
  split
  · have h : (UInt8.ofNat n).toNat = n := toNat_ofNat_lt (by omega)
    simp [scan, step, lead, *]
  split
  · have h : (UInt8.ofNat (0xC0 + n / 0x40)).toNat = 0xC0 + n / 0x40 := toNat_ofNat_lt (by omega)
    have first : lead (UInt8.ofNat (0xC0 + n / 0x40)) = ([], .within 1 0x80 0xBF (n / 0x40)) := by
      simp only [lead, h]
      rw [if_neg (by omega), if_neg (by omega), if_pos (by omega), Nat.add_sub_cancel_left]
    rw [List.cons_append, scan_lead first, List.cons_append, scan_tail (by omega) (by omega)]
    rw [if_pos (by omega), show n / 0x40 * 0x40 + n % 0x40 = n by omega, back, List.nil_append]
  split
  · have h : (UInt8.ofNat (0xE0 + n / 0x1000)).toNat = 0xE0 + n / 0x1000 :=
      toNat_ofNat_lt (by omega)
    have first : ∃ low high, lead (UInt8.ofNat (0xE0 + n / 0x1000)) =
        ([], .within 2 low high (n / 0x1000)) ∧
          low ≤ 0x80 + n / 0x40 % 0x40 ∧ 0x80 + n / 0x40 % 0x40 ≤ high := by
      simp only [lead, h]
      rw [if_neg (by omega), if_neg (by omega), if_neg (by omega)]
      split
      · exact ⟨0xA0, 0xBF, by simp; omega, by omega, by omega⟩
      split
      · exact ⟨0x80, 0x9F, by simp; omega, by omega, by omega⟩
      rw [if_pos (by omega), Nat.add_sub_cancel_left]
      exact ⟨_, _, rfl, by omega, by omega⟩
    obtain ⟨low, high, first, inRange⟩ := first
    rw [List.cons_append, scan_lead first, List.cons_append, scan_tail inRange (by omega),
      if_neg (by omega), List.cons_append, scan_tail (by omega) (by omega), if_pos (by omega)]
    rw [show (n / 0x1000 * 0x40 + n / 0x40 % 0x40) * 0x40 + n % 0x40 = n by omega, back,
      List.nil_append]
  · have h : (UInt8.ofNat (0xF0 + n / 0x40000)).toNat = 0xF0 + n / 0x40000 :=
      toNat_ofNat_lt (by omega)
    have first : ∃ low high, lead (UInt8.ofNat (0xF0 + n / 0x40000)) =
        ([], .within 3 low high (n / 0x40000)) ∧
          low ≤ 0x80 + n / 0x1000 % 0x40 ∧ 0x80 + n / 0x1000 % 0x40 ≤ high := by
      simp only [lead, h]
      rw [if_neg (by omega), if_neg (by omega), if_neg (by omega), if_neg (by omega),
        if_neg (by omega), if_neg (by omega)]
      split
      · exact ⟨0x90, 0xBF, by simp; omega, by omega, by omega⟩
      split
      · rw [Nat.add_sub_cancel_left]
        exact ⟨_, _, rfl, by omega, by omega⟩
      rw [if_pos (by omega)]
      exact ⟨0x80, 0x8F, by simp; omega, by omega, by omega⟩
    obtain ⟨low, high, first, inRange⟩ := first
    rw [List.cons_append, scan_lead first, List.cons_append, scan_tail inRange (by omega),
      if_neg (by omega), List.cons_append, scan_tail (by omega) (by omega), if_neg (by omega),
      List.cons_append, scan_tail (by omega) (by omega), if_pos (by omega)]
    rw [show ((n / 0x40000 * 0x40 + n / 0x1000 % 0x40) * 0x40 + n / 0x40 % 0x40) * 0x40 + n % 0x40
      = n by omega, back, List.nil_append]

theorem scan_encode (text : List Char) :
    scan .start (text.flatMap encodeChar) = text.map some := by
  induction text with
  | nil => rfl
  | cons c rest ih => rw [List.flatMap_cons, scan_encodeChar, ih, List.map_cons]

/-- The bytes of a text read back as the text. -/
theorem decode?_encode (text : String) : decode? (encode text) = some text := by
  simp [decode?, encode, scan_encode]

/-- Text is shown as it is. -/
theorem decodeLossy_encode (text : String) : decodeLossy (encode text) = text := by
  have shown : (fun entry : Option Char => entry.getD replacement) ∘ some = id := rfl
  simp [decodeLossy, encode, scan_encode, shown]
end Utf8

end ColumnTypes
