import Propositional.Text.Basic

/-!
# Strict UTF-8

`decode` reads bytes as UTF-8 and accepts only the shortest form of each code point that is no
surrogate. The first byte of a character tells how many bytes follow and in which range the first
of them lies; the others are always `80` to `bf`.

A failure names the longest run of bytes that could have been the front of a character, or the one
byte that cannot start any.
-/

namespace Propositional.Text.Utf8

/-! ## Failures -/

/-- Why bytes are no text. -/
inductive Reason where
  | start
  | continuation
  | truncation
  deriving DecidableEq

def Reason.text : Reason → String
  | .start => "invalid start byte"
  | .continuation => "invalid continuation byte"
  | .truncation => "unexpected end of data"

/-- The bytes that cannot be decoded: the first of them, its position, their number, and why. -/
structure Failure where
  first : UInt8
  position : Nat
  length : Nat
  reason : Reason
  deriving DecidableEq

def Failure.message (f : Failure) : String :=
  let place :=
    if f.length ≤ 1 then
      let digits := Nat.toDigits 16 f.first.toNat
      let byte := String.ofList (List.replicate (2 - digits.length) '0' ++ digits)
      s!"byte 0x{byte} in position {f.position}"
    else
      s!"bytes in position {f.position}-{f.position + f.length - 1}"
  s!"'utf-8' codec can't decode {place}: {f.reason.text}"

/-! ## First bytes -/

/-- What a first byte announces: the bits it holds, the number of bytes that follow, and the range
of the first of them. -/
structure Lead where
  bits : Nat
  following : Nat
  low : UInt8
  high : UInt8

/-- What a byte announces as the first one of a character, if it can be that. -/
def Lead.ofByte? (b : UInt8) : Option Lead :=
  if b < 0x80 then some ⟨b.toNat, 0, 0x80, 0xbf⟩
  else if b < 0xc2 then none
  else if b < 0xe0 then some ⟨b.toNat - 0xc0, 1, 0x80, 0xbf⟩
  else if b = 0xe0 then some ⟨0x0, 2, 0xa0, 0xbf⟩
  else if b = 0xed then some ⟨0xd, 2, 0x80, 0x9f⟩
  else if b < 0xf0 then some ⟨b.toNat - 0xe0, 2, 0x80, 0xbf⟩
  else if b = 0xf0 then some ⟨0x0, 3, 0x90, 0xbf⟩
  else if b < 0xf4 then some ⟨b.toNat - 0xf0, 3, 0x80, 0xbf⟩
  else if b = 0xf4 then some ⟨0x4, 3, 0x80, 0x8f⟩
  else none

/-! ## Decoding -/

/-- A character that has been read in part: its first byte and the position of that, the number of
bytes read, the bits of these, the number of bytes to come, and the range of the next one. -/
structure Part where
  first : UInt8
  position : Nat
  taken : Nat
  bits : Nat
  missing : Nat
  low : UInt8
  high : UInt8

/-- The failure of a character that has been read in part. -/
def Part.failure (p : Part) (reason : Reason) : Failure := ⟨p.first, p.position, p.taken, reason⟩

/-- Decodes the bytes from a position on, after a part of a character if there is one. The
characters read so far are given reversed. -/
def decodeFrom (position : Nat) (part : Option Part) (done : Text) :
    List UInt8 → Except Failure Text
  | [] =>
    match part with
    | none => .ok done.reverse
    | some p => .error (p.failure .truncation)
  | b :: rest =>
    match part with
    | none =>
      match Lead.ofByte? b with
      | none => .error ⟨b, position, 1, .start⟩
      | some ⟨bits, 0, _, _⟩ => decodeFrom (position + 1) none (Char.ofNat bits :: done) rest
      | some ⟨bits, n + 1, low, high⟩ =>
        decodeFrom (position + 1) (some ⟨b, position, 1, bits, n + 1, low, high⟩) done rest
    | some p =>
      if p.low ≤ b ∧ b ≤ p.high then
        let bits := p.bits * 64 + (b.toNat - 0x80)
        if p.missing ≤ 1 then decodeFrom (position + 1) none (Char.ofNat bits :: done) rest
        else
          decodeFrom (position + 1)
            (some { p with taken := p.taken + 1, bits := bits, missing := p.missing - 1,
                           low := 0x80, high := 0xbf }) done rest
      else .error (p.failure .continuation)

/-- The text that bytes encode, or the first failure. -/
def decode (bytes : List UInt8) : Except Failure Text := decodeFrom 0 none [] bytes

end Propositional.Text.Utf8
