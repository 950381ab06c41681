/-!
# Text of bytes

Bytes are shown as UTF-8. Where they are not well formed, each longest start of a character that
cannot be completed shows as U+FFFD, and a byte that starts no character does too.
-/

namespace SqlRecords.Text.Utf8

/-- What stands in for bytes that are no character. -/
def replacement : Char := Char.ofNat 0xFFFD

/-- Where a decoder stands between two bytes. -/
inductive State where
  /-- Between characters. -/
  | idle
  /-- Inside a character: the bits read, the bytes still owed after the next one, and the range
  that the next byte has to lie in. -/
  | inside (bits owed low high : Nat)

/-- The characters that a first byte completes, and the state it leaves. -/
def first (b : Nat) : List Char × State :=
  if b < 0x80 then ([Char.ofNat b], .idle)
  else if 0xC2 ≤ b ∧ b ≤ 0xDF then ([], .inside (b - 0xC0) 0 0x80 0xBF)
  else if b = 0xE0 then ([], .inside 0 1 0xA0 0xBF)
  else if b = 0xED then ([], .inside 0xD 1 0x80 0x9F)
  else if 0xE1 ≤ b ∧ b ≤ 0xEF then ([], .inside (b - 0xE0) 1 0x80 0xBF)
  else if b = 0xF0 then ([], .inside 0 2 0x90 0xBF)
  else if 0xF1 ≤ b ∧ b ≤ 0xF3 then ([], .inside (b - 0xF0) 2 0x80 0xBF)
  else if b = 0xF4 then ([], .inside 4 2 0x80 0x8F)
  else ([replacement], .idle)

/-- One byte: a byte that cannot continue a character ends it and starts afresh. -/
def step : State → Nat → List Char × State
  | .idle, b => first b
  | .inside bits owed low high, b =>
    if low ≤ b ∧ b ≤ high then
      let bits := bits * 64 + (b - 0x80)
      match owed with
      | 0 => ([Char.ofNat bits], .idle)
      | owed + 1 => ([], .inside bits owed 0x80 0xBF)
    else
      let (chars, state) := first b
      (replacement :: chars, state)

/-- The characters of the remaining bytes. -/
def decodeFrom : State → List UInt8 → List Char
  | .idle, [] => []
  | .inside .., [] => [replacement]
  | state, b :: rest =>
    let (chars, state) := step state b.toNat
    chars ++ decodeFrom state rest

/-- The text of `bytes`. -/
def decode (bytes : List UInt8) : String := String.ofList (decodeFrom .idle bytes)

/-- The bytes of a text. -/
def encode (s : String) : List UInt8 := s.toUTF8.toList

end SqlRecords.Text.Utf8
