import PageWiring.Text.Basic

/-!
Texts as bytes, in UTF-8.

A piece of a byte sequence that cannot be the start of a character is given up as soon as that is
known, and the next character may start right there.
-/
namespace PageWiring.Text

def encode (cs : List Char) : List UInt8 := cs.flatMap String.utf8EncodeChar

/-- A character of which some bytes have been read. -/
structure Unfinished where
  value : Nat
  /-- How many bytes are still to come, at least one. -/
  missing : Nat
  /-- The bounds of the next byte. -/
  low : UInt8 := 0x80
  high : UInt8 := 0xBF
  deriving DecidableEq, Repr

/-- What the first byte of a character of several bytes announces. -/
def announced (b : UInt8) : Option Unfinished :=
  if 0xC2 ≤ b && b ≤ 0xDF then some { value := b.toNat - 0xC0, missing := 1 }
  else if b == 0xE0 then some { value := 0, missing := 2, low := 0xA0 }
  else if b == 0xED then some { value := 0x0D, missing := 2, high := 0x9F }
  else if 0xE1 ≤ b && b ≤ 0xEF then some { value := b.toNat - 0xE0, missing := 2 }
  else if b == 0xF0 then some { value := 0, missing := 3, low := 0x90 }
  else if 0xF1 ≤ b && b ≤ 0xF3 then some { value := b.toNat - 0xF0, missing := 3 }
  else if b == 0xF4 then some { value := 4, missing := 3, high := 0x8F }
  else none

/-- The characters of a byte sequence; `none` stands for a malformed piece. -/
def decodePieces : Option Unfinished → List UInt8 → List (Option Char)
  | none, [] => []
  | some _, [] => [none]
  | pending, b :: bs =>
    let afresh : List (Option Char) :=
      if b < 0x80 then some (Char.ofNat b.toNat) :: decodePieces none bs
      else
        match announced b with
        | some u => decodePieces (some u) bs
        | none => none :: decodePieces none bs
    match pending with
    | none => afresh
    | some u =>
      if u.low ≤ b && b ≤ u.high then
        let value := u.value * 64 + (b.toNat - 0x80)
        if u.missing ≤ 1 then some (Char.ofNat value) :: decodePieces none bs
        else decodePieces (some { value := value, missing := u.missing - 1 }) bs
      else none :: afresh

/-- The text of a byte sequence, if it is well-formed. -/
def decode? (bs : List UInt8) : Option (List Char) := (decodePieces none bs).mapM id

/-- The text of a byte sequence, with U+FFFD for every malformed piece. -/
def decodeLossy (bs : List UInt8) : List Char := (decodePieces none bs).map (·.getD '�')

end PageWiring.Text
