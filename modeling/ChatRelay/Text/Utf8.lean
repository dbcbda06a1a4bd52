import ChatRelay.Text.Basic

/-!
# UTF-8, read as a stream

Bytes arrive in pieces of any size, so the reader is a machine with one step per byte. An ill-formed
sequence is replaced by U+FFFD, once for each maximal part that could have begun a character; a
byte that cannot continue the sequence under way is read again as the beginning of the next one.
`flush` reports a sequence that the end of the input leaves unfinished. One byte order mark at
the very beginning is dropped.

Because the state after a piece depends on its bytes only, reading piece after piece is the same
as reading all bytes at once (`run_append`).
-/

namespace ChatRelay.Utf8

/-- A character under way: how many bytes it still lacks, the range that its next byte has to
lie in, and the bits read so far. -/
structure Sequence where
  missing : Nat
  lower : UInt8
  upper : UInt8
  bits : Nat
  deriving DecidableEq

/-- The state between two bytes: the character under way, and whether the place for a byte order
mark has passed. -/
structure Decoder where
  sequence : Option Sequence
  started : Bool
  deriving DecidableEq

/-- The state before the first byte. -/
def Decoder.fresh : Decoder := ⟨none, false⟩

/-- The code point that stands for an ill-formed sequence. -/
def replacement : Nat := 0xFFFD

/-- What a byte means at the beginning of a character: a finished code point or a sequence. -/
def lead (b : UInt8) : Except Nat Sequence :=
  if b ≤ 0x7F then .error b.toNat
  else if 0xC2 ≤ b && b ≤ 0xDF then .ok ⟨1, 0x80, 0xBF, b.toNat - 0xC0⟩
  else if 0xE0 ≤ b && b ≤ 0xEF then
    .ok ⟨2, if b = 0xE0 then 0xA0 else 0x80, if b = 0xED then 0x9F else 0xBF, b.toNat - 0xE0⟩
  else if 0xF0 ≤ b && b ≤ 0xF4 then
    .ok ⟨3, if b = 0xF0 then 0x90 else 0x80, if b = 0xF4 then 0x8F else 0xBF, b.toNat - 0xF0⟩
  else .error replacement

/-- One byte read where no character is under way. -/
def stepLead (b : UInt8) : Option Sequence × List Nat :=
  match lead b with
  | .ok s => (some s, [])
  | .error p => (none, [p])

/-- One byte, and the code points that it completes. -/
def stepByte (sequence : Option Sequence) (b : UInt8) : Option Sequence × List Nat :=
  match sequence with
  | none => stepLead b
  | some s =>
    if s.lower ≤ b && b ≤ s.upper then
      let bits := s.bits * 64 + (b.toNat - 0x80)
      if s.missing ≤ 1 then (none, [bits]) else (some ⟨s.missing - 1, 0x80, 0xBF, bits⟩, [])
    else
      let (next, points) := stepLead b
      (next, replacement :: points)

/-- The code points that are written: all but a byte order mark in the first place. -/
def emit (started : Bool) (points : List Nat) : Bool × Text :=
  match started, points with
  | started, [] => (started, [])
  | true, points => (true, points.flatMap Text.ofPoint)
  | false, p :: points =>
    (true, (if p = 0xFEFF then points else p :: points).flatMap Text.ofPoint)

/-- One byte, and the text that it completes. -/
def Decoder.step (d : Decoder) (b : UInt8) : Decoder × Text :=
  let (sequence, points) := stepByte d.sequence b
  let (started, text) := emit d.started points
  (⟨sequence, started⟩, text)

/-- A piece of the input, and the text that it completes. -/
def Decoder.run (d : Decoder) : List UInt8 → Decoder × Text
  | [] => (d, [])
  | b :: bytes =>
    let (d, head) := d.step b
    let (d, tail) := d.run bytes
    (d, head ++ tail)

/-- What the end of the input adds: U+FFFD for a character that was under way. -/
def Decoder.flush (d : Decoder) : Text :=
  match d.sequence with
  | none => []
  | some _ => (emit d.started [replacement]).2

/-- The text of a whole byte sequence. -/
def decode (bytes : List UInt8) : Text :=
  let (d, text) := Decoder.fresh.run bytes
  text ++ d.flush

/-- Reading two pieces in turn is reading their concatenation. -/
theorem Decoder.run_append (d : Decoder) (a b : List UInt8) :
    d.run (a ++ b) = (((d.run a).1.run b).1, (d.run a).2 ++ ((d.run a).1.run b).2) := by
  induction a generalizing d with
  | nil => simp [run]
  | cons x a ih => simp [run, ih]

/-- The bytes of a code point; a surrogate is written as U+FFFD. -/
def encodePoint (point : Nat) : List UInt8 :=
  let p := if 0xD800 ≤ point && point ≤ 0xDFFF then replacement else point
  if p < 0x80 then [p.toUInt8]
  else if p < 0x800 then [(0xC0 + p / 64).toUInt8, (0x80 + p % 64).toUInt8]
  else if p < 0x10000 then
    [(0xE0 + p / 4096).toUInt8, (0x80 + p / 64 % 64).toUInt8, (0x80 + p % 64).toUInt8]
  else
    [(0xF0 + p / 262144).toUInt8, (0x80 + p / 4096 % 64).toUInt8, (0x80 + p / 64 % 64).toUInt8,
      (0x80 + p % 64).toUInt8]

/-- The bytes of a text. -/
def encode (t : Text) : List UInt8 := t.points.flatMap encodePoint

end ChatRelay.Utf8
