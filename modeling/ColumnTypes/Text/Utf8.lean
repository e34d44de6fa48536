/-!
# UTF-8

Names are stored as bytes and shown as text. `encode` writes a text as bytes; `scan` reads bytes
one at a time through `State`, and yields one entry for each character and one `none` for each
maximal run of bytes that starts a character but does not complete it. `decode?` accepts the bytes
only when every entry is a character, and `decodeLossy` shows U+FFFD for each entry that is not.

Overlong forms, surrogates and values beyond U+10FFFF are excluded by the range of the byte after
the lead, which `lead` fixes, so no test of the finished value is needed.
-/

namespace ColumnTypes

abbrev Bytes := List UInt8

namespace Utf8

def encodeChar (c : Char) : Bytes :=
  let n := c.toNat
  if n < 0x80 then
    [UInt8.ofNat n]
  else if n < 0x800 then
    [UInt8.ofNat (0xC0 + n / 0x40), UInt8.ofNat (0x80 + n % 0x40)]
  else if n < 0x10000 then
    [UInt8.ofNat (0xE0 + n / 0x1000), UInt8.ofNat (0x80 + n / 0x40 % 0x40),
      UInt8.ofNat (0x80 + n % 0x40)]
  else
    [UInt8.ofNat (0xF0 + n / 0x40000), UInt8.ofNat (0x80 + n / 0x1000 % 0x40),
      UInt8.ofNat (0x80 + n / 0x40 % 0x40), UInt8.ofNat (0x80 + n % 0x40)]

def encode (text : String) : Bytes :=
  text.toList.flatMap encodeChar

/-- Where a reader stands between two bytes. -/
inductive State where
  /-- Between characters. -/
  | start
  /-- Inside a character: `owed` more bytes, of which the next lies from `low` to `high`; the bytes
  so far amount to `value`. -/
  | within (owed low high value : Nat)
  deriving DecidableEq, Repr

/-- A byte between characters: a character of its own, the lead of a longer one, or neither. -/
def lead (byte : UInt8) : List (Option Char) × State :=
  let b := byte.toNat
  if b < 0x80 then ([some (Char.ofNat b)], .start)
  else if b < 0xC2 then ([none], .start)
  else if b < 0xE0 then ([], .within 1 0x80 0xBF (b - 0xC0))
  else if b = 0xE0 then ([], .within 2 0xA0 0xBF 0)
  else if b = 0xED then ([], .within 2 0x80 0x9F 0xD)
  else if b < 0xF0 then ([], .within 2 0x80 0xBF (b - 0xE0))
  else if b = 0xF0 then ([], .within 3 0x90 0xBF 0)
  else if b < 0xF4 then ([], .within 3 0x80 0xBF (b - 0xF0))
  else if b = 0xF4 then ([], .within 3 0x80 0x8F 4)
  else ([none], .start)

/-- Take one byte. A byte that cannot continue an open character ends it and is then read as if it
stood between characters. -/
def step : State → UInt8 → List (Option Char) × State
  | .start, byte => lead byte
  | .within owed low high value, byte =>
    let b := byte.toNat
    if low ≤ b ∧ b ≤ high then
      let total := value * 0x40 + (b - 0x80)
      if owed ≤ 1 then ([some (Char.ofNat total)], .start)
      else ([], .within (owed - 1) 0x80 0xBF total)
    else
      let (entries, state) := lead byte
      (none :: entries, state)

/-- The characters in the bytes, with `none` for every malformed run. -/
def scan : State → Bytes → List (Option Char)
  | .start, [] => []
  | .within .., [] => [none]
  | state, byte :: rest =>
    let (entries, next) := step state byte
    entries ++ scan next rest

def decode? (bytes : Bytes) : Option String :=
  let entries := scan .start bytes
  if entries.all Option.isSome then some (String.ofList (entries.filterMap id)) else none

/-- U+FFFD, which stands for what cannot be read. -/
def replacement : Char := '\uFFFD'

/-- The text of any bytes, with one `replacement` for each malformed run. -/
def decodeLossy (bytes : Bytes) : String :=
  String.ofList ((scan .start bytes).map (·.getD replacement))

end Utf8

end ColumnTypes
