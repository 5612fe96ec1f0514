import SocksRouter.Text.Quoted

/-!
# Strict UTF-8

Decoding of bytes as text. A text is refused at its first ill-formed sequence, and the refusal names
the bytes of that sequence: its first byte alone when that byte can start no character or the byte
after it cannot follow, and otherwise all bytes that could still have belonged to one character.
-/

namespace SocksRouter.Text

/-- Why a sequence of bytes is no character. -/
inductive Utf8Cause
  /-- The first byte starts no character. -/
  | badStart
  /-- A byte follows that cannot continue the character. -/
  | badContinuation
  /-- The bytes end inside the character. -/
  | cutShort
  deriving DecidableEq, Repr

/-- The refusal of ill-formed bytes: the cause, where the sequence starts, how many bytes it has and
what its first byte is. -/
structure Utf8Error where
  /-- What is wrong. -/
  cause : Utf8Cause
  /-- The number of bytes before the sequence. -/
  start : Nat
  /-- The number of bytes in the sequence. -/
  length : Nat
  /-- The first byte of the sequence. -/
  first : UInt8
  deriving DecidableEq, Repr

/-- The wording of a cause. -/
def Utf8Cause.message : Utf8Cause → String
  | .badStart => "invalid start byte"
  | .badContinuation => "invalid continuation byte"
  | .cutShort => "unexpected end of data"

/-- The wording of a refusal. -/
def Utf8Error.message (e : Utf8Error) : String :=
  let last := e.start + e.length - 1
  if e.length = 1 then
    let digits := String.ofList (hexDigits 2 e.first.toNat)
    s!"'utf-8' codec can't decode byte 0x{digits} in position {e.start}: {e.cause.message}"
  else
    s!"'utf-8' codec can't decode bytes in position {e.start}-{last}: {e.cause.message}"

/-- How many bytes follow a first byte, and the least and greatest value of the one after it. -/
def utf8Lead (b : UInt8) : Option (Nat × UInt8 × UInt8) :=
  if b < 0xC2 then none
  else if b < 0xE0 then some (1, 0x80, 0xBF)
  else if b = 0xE0 then some (2, 0xA0, 0xBF)
  else if b = 0xED then some (2, 0x80, 0x9F)
  else if b < 0xF0 then some (2, 0x80, 0xBF)
  else if b = 0xF0 then some (3, 0x90, 0xBF)
  else if b < 0xF4 then some (3, 0x80, 0xBF)
  else if b = 0xF4 then some (3, 0x80, 0x8F)
  else none

/-- Takes `count` continuation bytes, the first of them between the two bounds. Gives the code point
built on `acc`; a refusal tells how many of the bytes were good. -/
def utf8Tail : Nat → UInt8 → UInt8 → Nat → List UInt8 → Except (Utf8Cause × Nat) Nat
  | 0, _, _, acc, _ => .ok acc
  | _ + 1, _, _, _, [] => .error (.cutShort, 0)
  | count + 1, lo, hi, acc, b :: rest =>
    if lo ≤ b ∧ b ≤ hi then
      match utf8Tail count 0x80 0xBF (64 * acc + (b.toNat - 0x80)) rest with
      | .ok n => .ok n
      | .error (cause, good) => .error (cause, good + 1)
    else .error (.badContinuation, 0)

/-- What a first byte contributes to the code point. -/
def utf8LeadBits (count : Nat) (b : UInt8) : Nat :=
  b.toNat % Nat.pow 2 (6 - count)

/-- Decodes the bytes from position `start` on; `skip` bytes at the front belong to a character that
has been decoded. -/
def decodeFrom (start skip : Nat) : List UInt8 → Except Utf8Error (List Char)
  | [] => .ok []
  | b :: rest =>
    match skip with
    | skip + 1 => decodeFrom (start + 1) skip rest
    | 0 =>
      if b < 0x80 then (decodeFrom (start + 1) 0 rest).map (Char.ofNat b.toNat :: ·)
      else match utf8Lead b with
        | none => .error ⟨.badStart, start, 1, b⟩
        | some (count, lo, hi) =>
          match utf8Tail count lo hi (utf8LeadBits count b) rest with
          | .error (cause, good) => .error ⟨cause, start, good + 1, b⟩
          | .ok n => (decodeFrom (start + 1) count rest).map (Char.ofNat n :: ·)

/-- Decodes bytes as text, strictly. -/
def decodeUtf8 (bytes : List UInt8) : Except Utf8Error (List Char) :=
  decodeFrom 0 0 bytes

/-- The bytes of a text. -/
def encodeUtf8 (s : List Char) : List UInt8 :=
  s.flatMap String.utf8EncodeChar

end SocksRouter.Text
