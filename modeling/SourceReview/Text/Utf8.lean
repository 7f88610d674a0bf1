/-!
# Text from bytes

Bytes are read as UTF-8. A sequence of bytes that cannot be continued to a character is one
ill-formed piece, as long as it is, and reading goes on after it.
-/

namespace SourceReview.Text.Utf8

/-- A character whose first bytes have been read: how many bytes it still lacks, the least and the
greatest value the next of them may have, and the code point so far. -/
structure Pending where
  owed : Nat
  low : Nat
  high : Nat
  code : Nat

/-- What the first byte of a character says: a whole character, the beginning of one, or neither. -/
inductive Lead where
  | whole (c : Char)
  | partly (p : Pending)
  | never

/-- Reads the first byte of a character. -/
def lead (byte : UInt8) : Lead :=
  let b := byte.toNat
  if b < 0x80 then .whole (Char.ofNat b)
  else if 0xC2 ≤ b && b ≤ 0xDF then .partly ⟨1, 0x80, 0xBF, b % 32⟩
  else if b == 0xE0 then .partly ⟨2, 0xA0, 0xBF, 0⟩
  else if b == 0xED then .partly ⟨2, 0x80, 0x9F, 13⟩
  else if 0xE1 ≤ b && b ≤ 0xEF then .partly ⟨2, 0x80, 0xBF, b % 16⟩
  else if b == 0xF0 then .partly ⟨3, 0x90, 0xBF, 0⟩
  else if b == 0xF4 then .partly ⟨3, 0x80, 0x8F, 4⟩
  else if 0xF1 ≤ b && b ≤ 0xF3 then .partly ⟨3, 0x80, 0xBF, b % 8⟩
  else .never

/-- The pieces of a byte sequence: its characters, with `none` for each ill-formed piece. -/
def pieces : Option Pending → List UInt8 → List (Option Char)
  | none, [] => []
  | some _, [] => [none]
  | none, b :: bs =>
    match lead b with
    | .whole c => some c :: pieces none bs
    | .partly p => pieces (some p) bs
    | .never => none :: pieces none bs
  | some p, b :: bs =>
    if p.low ≤ b.toNat && b.toNat ≤ p.high then
      let code := p.code * 64 + b.toNat % 64
      if p.owed ≤ 1 then some (Char.ofNat code) :: pieces none bs
      else pieces (some ⟨p.owed - 1, 0x80, 0xBF, code⟩) bs
    else
      none ::
        match lead b with
        | .whole c => some c :: pieces none bs
        | .partly q => pieces (some q) bs
        | .never => none :: pieces none bs

/-- The text of a byte sequence, with a replacement character for each ill-formed piece. -/
def decodeLossy (bytes : List UInt8) : String :=
  String.ofList ((pieces none bytes).map (·.getD '\uFFFD'))

/-- The text of a byte sequence, if it is well-formed. -/
def decode? (bytes : List UInt8) : Option String :=
  ((pieces none bytes).mapM id).map String.ofList

end SourceReview.Text.Utf8
