import PathRouting.Unicode.CodeSet
set_option autoImplicit false

/-!
# Encodings

The UTF-8 encodings of texts, and those of the characters of a set, as sequences of byte ranges.  A
sequence stands for all encodings whose first byte lies in its first range, the second in its
second, and so on; the sequences of a set are given in ascending order.
-/

namespace PathRouting.Regex

open Unicode (CodeSet)

/-- A sequence of bytes. -/
abbrev Bytes := List UInt8

/-- The encoding of a text. -/
def utf8 (text : List Char) : Bytes :=
  text.flatMap String.utf8EncodeChar

/-- First and last of some bytes, or of some digits. -/
abbrev ByteRange := Nat × Nat

/-- The runs of code points from `first` to `last` that are one range in each of the six-bit digits
of their encoding, as lists of digit ranges from the leading digit on; `digits` more digits follow
it. -/
def digitRanges : Nat → Nat → Nat → List (List ByteRange)
  | 0, first, last => [[(first, last)]]
  | digits + 1, first, last =>
    let block := 64 ^ (digits + 1)
    let low := first / block
    let high := last / block
    if low = high then
      (digitRanges digits (first % block) (last % block)).map ((low, low) :: ·)
    else
      -- the whole blocks in between, from `least` up to but not including `bound`
      let least := if first % block = 0 then low else low + 1
      let bound := if last % block = block - 1 then high + 1 else high
      let head :=
        if least = low then []
        else (digitRanges digits (first % block) (block - 1)).map ((low, low) :: ·)
      let middle :=
        if least < bound then [(least, bound - 1) :: List.replicate (digits + 1) (0, 63)] else []
      let tail :=
        if bound = high + 1 then []
        else (digitRanges digits 0 (last % block)).map ((high, high) :: ·)
      head ++ middle ++ tail

/-- Code points that are encoded with the same number of bytes. -/
structure EncodingZone where
  /-- the number of bytes after the first -/
  digits : Nat
  /-- what the first byte holds beside the leading digit -/
  lead : Nat
  first : Nat
  last : Nat

/-- The zones of code points.  Surrogates are not encoded. -/
def encodingZones : List EncodingZone :=
  [⟨0, 0x00, 0, 0x7F⟩, ⟨1, 0xC0, 0x80, 0x7FF⟩, ⟨2, 0xE0, 0x800, 0xD7FF⟩,
    ⟨2, 0xE0, 0xE000, 0xFFFF⟩, ⟨3, 0xF0, 0x10000, 0x10FFFF⟩]

/-- The byte ranges that digit ranges stand for; all bytes but the first are marked as such. -/
def EncodingZone.bytes (zone : EncodingZone) : List ByteRange → List ByteRange
  | [] => []
  | (first, last) :: rest =>
    (zone.lead + first, zone.lead + last) :: rest.map fun digit => (0x80 + digit.1, 0x80 + digit.2)

/-- The encodings of the code points of a range. -/
def rangeEncodings (range : Nat × Nat) : List (List ByteRange) :=
  encodingZones.flatMap fun zone =>
    let first := max range.1 zone.first
    let last := min range.2 zone.last
    if first ≤ last then (digitRanges zone.digits first last).map zone.bytes else []

/-- The encodings of the characters of a set. -/
def encodings (set : CodeSet) : List (List ByteRange) :=
  set.ranges.flatMap rangeEncodings

end PathRouting.Regex
