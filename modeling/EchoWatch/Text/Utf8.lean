/-!
# Bytes of texts

A text arrives as bytes in UTF-8, and not all bytes are a text. `pieces` reads the bytes one after
the other into the characters that they write and the faults between them, each with the place
of the byte by which it becomes known. What a fault leaves behind is read on from there.
-/

namespace EchoWatch.Text.Utf8

/-- A character of which some bytes are still to come. -/
structure Pending where
  /-- The number that the bytes so far write. -/
  value : Nat
  /-- How many bytes are missing. -/
  missing : Nat
  /-- The least value of the next byte. -/
  least : Nat
  /-- The greatest value of the next byte. -/
  most : Nat
  deriving DecidableEq, Repr

/-- What bytes come to. -/
inductive Piece where
  /-- A character, and the place of its last byte. -/
  | char (c : Char) (last : Nat)
  /-- No character, and the place of the byte that rules it out. -/
  | broken (place : Nat)
  /-- A character that the end cuts off. -/
  | cut
  deriving DecidableEq, Repr

/-- The character of a piece. -/
def Piece.char? : Piece → Option Char
  | char c _ => some c
  | broken _ | cut => none

/-- The first byte of a character. The limits of the byte after it keep out longer forms than
needed, halves of pairs, and numbers that are too large. -/
def start (place : Nat) (b : UInt8) : List Piece × Option Pending :=
  let n := b.toNat
  if n < 0x80 then ([.char (Char.ofNat n) place], none)
  else if n < 0xC2 then ([.broken place], none)
  else if n < 0xE0 then ([], some ⟨n - 0xC0, 1, 0x80, 0xBF⟩)
  else if n < 0xF0 then
    let least := if n = 0xE0 then 0xA0 else 0x80
    ([], some ⟨n - 0xE0, 2, least, if n = 0xED then 0x9F else 0xBF⟩)
  else if n < 0xF5 then
    let least := if n = 0xF0 then 0x90 else 0x80
    ([], some ⟨n - 0xF0, 3, least, if n = 0xF4 then 0x8F else 0xBF⟩)
  else ([.broken place], none)

/-- One more byte: the pieces that it completes, and the character that it leaves open. -/
def step (pending : Option Pending) (place : Nat) (b : UInt8) : List Piece × Option Pending :=
  match pending with
  | none => start place b
  | some p =>
    if p.least ≤ b.toNat ∧ b.toNat ≤ p.most then
      let value := 64 * p.value + (b.toNat - 0x80)
      if p.missing = 1 then ([.char (Char.ofNat value) place], none)
      else ([], some ⟨value, p.missing - 1, 0x80, 0xBF⟩)
    else
      let (ps, pending) := start place b
      (.broken place :: ps, pending)

/-- The pieces of bytes that begin at a place, after a character that may be open. -/
def piecesFrom : (pending : Option Pending) → (place : Nat) → List UInt8 → List Piece
  | none, _, [] => []
  | some _, _, [] => [.cut]
  | pending, place, b :: r =>
    let (ps, pending) := step pending place b
    ps ++ piecesFrom pending (place + 1) r

/-- The pieces of bytes. -/
def pieces (bytes : List UInt8) : List Piece :=
  piecesFrom none 0 bytes

/-- The text of bytes, with a mark in place of each fault. -/
def lenient (bytes : List UInt8) : List Char :=
  (pieces bytes).map fun p => p.char?.getD '\ufffd'

end EchoWatch.Text.Utf8
