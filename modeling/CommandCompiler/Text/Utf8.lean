import CommandCompiler.Text.CodePoint
import CommandCompiler.Text.Hex
/-!
# CommandCompiler.Text.Utf8

UTF-8, decoded strictly: no overlong form, no surrogate, nothing above U+10FFFF.

* `decode` : bytes to characters, or the first place where they are not UTF-8;
* `DecodeError.message` : the report on such a place;
* `spellingFault?`, `EncodeError.message` : the first place in a text that UTF-8
  cannot spell, and the report on it.

A character's first byte fixes how many bytes follow and the range of the first
of these, which is where overlong forms and surrogates are ruled out. The error
covers the longest sequence of bytes that could still have become a character.
-/

namespace CommandCompiler.Text.Utf8

/-- What is wrong at a place that is not UTF-8. -/
inductive Reason
  /-- The byte can start no character. -/
  | invalidStart
  /-- A byte that would have to continue the character does not. -/
  | invalidContinuation
  /-- The text ends inside a character. -/
  | unexpectedEnd
  deriving Repr, DecidableEq

/-- A run of bytes that is not UTF-8: the `length` bytes from `position` on, of which
`byte` is the first. -/
structure DecodeError where
  reason : Reason
  byte : UInt8
  position : Nat
  length : Nat
  deriving Repr, DecidableEq

/-- The wording of a reason. -/
def Reason.text : Reason → String
  | .invalidStart => "invalid start byte"
  | .invalidContinuation => "invalid continuation byte"
  | .unexpectedEnd => "unexpected end of data"

/-- The report on a place that is not UTF-8: a single byte is shown, a longer run is given by its
first and last position. -/
def DecodeError.message (e : DecodeError) : String :=
  let shown := String.ofList (Hex.fixed 2 e.byte.toNat)
  if e.length ≤ 1 then
    s!"'utf-8' codec can't decode byte 0x{shown} in position {e.position}: {e.reason.text}"
  else
    let last := e.position + e.length - 1
    s!"'utf-8' codec can't decode bytes in position {e.position}-{last}: {e.reason.text}"

/-- What a first byte promises: the bits it contributes, how many bytes follow, and the range of
the first of these. -/
structure Lead where
  bits : Nat
  more : Nat
  least : Nat
  greatest : Nat

/-- The first bytes of characters of two, three and four bytes. -/
def lead? (b : Nat) : Option Lead :=
  if 0xC2 ≤ b ∧ b ≤ 0xDF then some ⟨b - 0xC0, 1, 0x80, 0xBF⟩
  else if b = 0xE0 then some ⟨0, 2, 0xA0, 0xBF⟩
  else if b = 0xED then some ⟨0xD, 2, 0x80, 0x9F⟩
  else if 0xE1 ≤ b ∧ b ≤ 0xEF then some ⟨b - 0xE0, 2, 0x80, 0xBF⟩
  else if b = 0xF0 then some ⟨0, 3, 0x90, 0xBF⟩
  else if 0xF1 ≤ b ∧ b ≤ 0xF3 then some ⟨b - 0xF0, 3, 0x80, 0xBF⟩
  else if b = 0xF4 then some ⟨4, 3, 0x80, 0x8F⟩
  else none

/-- Whether `b` may follow where a byte between the bounds is due. -/
def continues (least greatest : Nat) (b : UInt8) : Bool :=
  least ≤ b.toNat && b.toNat ≤ greatest

/-- Adds the six bits of a continuation byte. -/
def pushBits (n : Nat) (b : UInt8) : Nat := 64 * n + b.toNat % 64

/-- Reads the bytes that continue a character: the code point and how many bytes were left unread
among `more`, or the reason why they do not, with the number of bytes that still fit. -/
def continuation (code least greatest : Nat) :
    (more : Nat) → List UInt8 → Except (Reason × Nat) (Nat × List UInt8)
  | 0, rest => .ok (code, rest)
  | _ + 1, [] => .error (.unexpectedEnd, 0)
  | more + 1, b :: rest =>
    if continues least greatest b then
      match continuation (pushBits code b) 0x80 0xBF more rest with
      | .ok r => .ok r
      | .error (reason, fitting) => .error (reason, fitting + 1)
    else .error (.invalidContinuation, 0)

/-- Decodes bytes of which the first stands at `position`. The fuel bounds the number of
characters. -/
def decodeFrom : (fuel position : Nat) → List UInt8 → Except DecodeError (List Char)
  | 0, _, _ => .ok []
  | _ + 1, _, [] => .ok []
  | fuel + 1, position, b :: rest =>
    if b.toNat < 0x80 then (Char.ofNat b.toNat :: ·) <$> decodeFrom fuel (position + 1) rest
    else match lead? b.toNat with
      | none => .error ⟨.invalidStart, b, position, 1⟩
      | some l =>
        match continuation l.bits l.least l.greatest l.more rest with
        | .ok (code, rest') =>
          (Char.ofNat code :: ·) <$> decodeFrom fuel (position + 1 + l.more) rest'
        | .error (reason, fitting) => .error ⟨reason, b, position, fitting + 1⟩

/-- The text that bytes spell in UTF-8. Every character takes at least one byte, so the number of
bytes is fuel enough. -/
def decode (bs : List UInt8) : Except DecodeError String :=
  String.ofList <$> decodeFrom bs.length 0 bs

/-- A run of code points that UTF-8 cannot spell: the `length` halves of surrogate pairs from
`position` on, of which `half` is the first. -/
structure EncodeError where
  half : Nat
  position : Nat
  length : Nat
  deriving Repr, DecidableEq

/-- The report on such a run: a single half is shown, a longer run is given by its first and last
position. -/
def EncodeError.message (e : EncodeError) : String :=
  if e.length ≤ 1 then
    let shown := String.ofList (Hex.fixed 4 e.half)
    s!"'utf-8' codec can't encode character '\\u{shown}' in position {e.position}: " ++
    "surrogates not allowed"
  else
    let last := e.position + e.length - 1
    s!"'utf-8' codec can't encode characters in position {e.position}-{last}: " ++
    "surrogates not allowed"

/-- The first run of halves among code points of which the first stands at `position`. A run does
not start with a half that is `excused`. -/
def firstFault (excused : Nat → Bool) (position : Nat) : List Nat → Option EncodeError
  | [] => none
  | n :: rest =>
    if isHalf n && !excused n then some ⟨n, position, (rest.takeWhile isHalf).length + 1⟩
    else firstFault excused (position + 1) rest

/-- The first place in a text that UTF-8 cannot spell. -/
def spellingFault? (s : String) : Option EncodeError :=
  firstFault (fun _ => false) 0 (codePoints s.toList)

end CommandCompiler.Text.Utf8
