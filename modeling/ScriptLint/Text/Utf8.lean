import ScriptLint.Text.Quoted

/-!
# UTF-8

`Utf8.decode` turns bytes into characters. The first byte of a character fixes how many follow and,
for some, narrows the range of the second, so that there is one form for each character and none for
surrogates. Bytes that do not fit are a `Utf8.Fault`: it covers the part of the character that was
still well formed.
-/

namespace ScriptLint

namespace Utf8

/-- Why bytes are not UTF-8. -/
inductive Reason where
  | invalidStart
  | invalidContinuation
  | unexpectedEnd
deriving Repr, DecidableEq

/-- The wording of a reason. -/
def Reason.message : Reason → String
  | .invalidStart => "invalid start byte"
  | .invalidContinuation => "invalid continuation byte"
  | .unexpectedEnd => "unexpected end of data"

/-- The place where bytes stop being UTF-8: the position and the value of the first byte concerned,
and the number of bytes. -/
structure Fault where
  position : Nat
  byte : UInt8
  extent : Nat
  reason : Reason
deriving Repr, DecidableEq

/-- The wording of a fault. -/
def Fault.message (f : Fault) : String :=
  let place :=
    if f.extent = 1 then
      "byte 0x" ++ String.ofList (hexText 2 f.byte.toNat) ++ " in position " ++ showNat f.position
    else
      "bytes in position " ++ showNat f.position ++ "-" ++ showNat (f.position + f.extent - 1)
  "'utf-8' codec can't decode " ++ place ++ ": " ++ f.reason.message

/-- What the first byte of a character says: how many bytes follow, the bits it carries, and the
range of the second byte. -/
structure Lead where
  tail : Nat
  bits : Nat
  low : Nat
  high : Nat
deriving Repr, DecidableEq

/-- The meaning of a first byte. -/
def lead? (b : UInt8) : Option Lead :=
  let n := b.toNat
  if n < 0x80 then some ⟨0, n, 0x80, 0xbf⟩
  else if n < 0xc2 then none
  else if n < 0xe0 then some ⟨1, n - 0xc0, 0x80, 0xbf⟩
  else if n < 0xf0 then
    some ⟨2, n - 0xe0, if n = 0xe0 then 0xa0 else 0x80, if n = 0xed then 0x9f else 0xbf⟩
  else if n < 0xf5 then
    some ⟨3, n - 0xf0, if n = 0xf0 then 0x90 else 0x80, if n = 0xf4 then 0x8f else 0xbf⟩
  else none

/-- Adds `tail` bytes to the bits of a character; the next byte must lie between `low` and `high`.
On failure, how many bytes fitted, `seen` before them. -/
def readTail (tail bits low high seen : Nat) : List UInt8 → Except (Nat × Reason) Nat
  | [] => if tail = 0 then .ok bits else .error (seen, .unexpectedEnd)
  | b :: bs =>
    match tail with
    | 0 => .ok bits
    | k + 1 =>
      if low ≤ b.toNat && b.toNat ≤ high then
        readTail k (bits * 64 + (b.toNat - 0x80)) 0x80 0xbf (seen + 1) bs
      else .error (seen, .invalidContinuation)

/-- Decodes the bytes from a position on. The next `busy` bytes belong to the character before. -/
def decodeFrom (position busy : Nat) : List UInt8 → Except Fault (List Char)
  | [] => .ok []
  | b :: bs =>
    match busy with
    | k + 1 => decodeFrom (position + 1) k bs
    | 0 =>
      match lead? b with
      | none => .error ⟨position, b, 1, .invalidStart⟩
      | some l =>
        match readTail l.tail l.bits l.low l.high 1 bs with
        | .error (extent, reason) => .error ⟨position, b, extent, reason⟩
        | .ok code => (decodeFrom (position + 1) l.tail bs).map (Char.ofNat code :: ·)

/-- The characters of a sequence of bytes. -/
def decode (bytes : List UInt8) : Except Fault (List Char) := decodeFrom 0 0 bytes

end Utf8

end ScriptLint
