/-! # Bytes as text

Bytes are read as UTF-8. A sequence that is no character is replaced by U+FFFD, one for each
longest piece that some character starts with, or for a single byte that none starts with. -/

namespace StyleUsage.Text.Utf8

/-- The bytes that may come second in a character, by its first byte: how many bytes follow the
first, and the least and the greatest second byte. -/
def lead? (first : Nat) : Option (Nat × Nat × Nat) :=
  if 0xC2 ≤ first ∧ first ≤ 0xDF then some (1, 0x80, 0xBF)
  else if first = 0xE0 then some (2, 0xA0, 0xBF)
  else if first = 0xED then some (2, 0x80, 0x9F)
  else if 0xE1 ≤ first ∧ first ≤ 0xEF then some (2, 0x80, 0xBF)
  else if first = 0xF0 then some (3, 0x90, 0xBF)
  else if 0xF1 ≤ first ∧ first ≤ 0xF3 then some (3, 0x80, 0xBF)
  else if first = 0xF4 then some (3, 0x80, 0x8F)
  else none

/-- The bits that the first byte of a character of `following + 1` bytes holds. -/
def leadBits (following first : Nat) : Nat :=
  first % (1 <<< (6 - following))

/-- What the decoder holds between two bytes: nothing, or the bits of an unfinished character,
how many bytes it lacks, and the bounds of the next one. -/
inductive Pending where
  | none
  | partly (bits missing least greatest : Nat)

/-- The decoder meets a byte that does not continue a character. -/
def startWith (b : Nat) : List Char × Pending :=
  if b < 0x80 then ([Char.ofNat b], .none)
  else
    match lead? b with
    | some (following, least, greatest) =>
        ([], .partly (leadBits following b) following least greatest)
    | none => (['\uFFFD'], .none)

/-- One byte: the characters that it completes or gives up, and what is held after it. -/
def step : Pending → Nat → List Char × Pending
  | .none, b => startWith b
  | .partly bits missing least greatest, b =>
      if least ≤ b ∧ b ≤ greatest then
        if missing ≤ 1 then ([Char.ofNat (bits * 64 + b % 64)], .none)
        else ([], .partly (bits * 64 + b % 64) (missing - 1) 0x80 0xBF)
      else
        let (chars, pending) := startWith b
        ('\uFFFD' :: chars, pending)

/-- The text of the bytes that follow what is held. -/
def decodeFrom : Pending → List UInt8 → List Char
  | .none, [] => []
  | .partly .., [] => ['\uFFFD']
  | pending, b :: rest =>
      let (chars, next) := step pending b.toNat
      chars ++ decodeFrom next rest

/-- The text of a sequence of bytes. -/
def decode (bytes : List UInt8) : String :=
  String.ofList (decodeFrom .none bytes)

example : decode [0x41, 0xE2, 0x82, 0x42] = "A\uFFFDB" ∧ decode [0xC0, 0x80] = "\uFFFD\uFFFD" ∧
    decode [0xED, 0xA0, 0x80] = "\uFFFD\uFFFD\uFFFD" ∧ decode [0xE2, 0x82, 0xAC] = "€" := by
  decide +kernel

end StyleUsage.Text.Utf8
