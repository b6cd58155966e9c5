
-- Bytes and the characters they encode in UTF-8.
-- Decoding never fails: bytes that belong to no well-formed sequence come out as `none`, one for each
-- longest start of a sequence that is cut off. The strict and the lenient reading are both views of it.
namespace Entitlement

abbrev Bytes := List UInt8

namespace Text

def encode (s : String) : Bytes := s.toList.flatMap String.utf8EncodeChar

-- A sequence that has begun: its bits so far, how many bytes are missing, and the range in which
-- the next byte must lie.
structure Unfinished where
  bits : Nat
  missing : Nat
  low : Nat
  high : Nat

inductive Opening where
  | complete (c : Char)
  | unfinished (u : Unfinished)
  | invalid

-- The narrower ranges of the second byte exclude overlong forms, surrogates and too large values.
def opening (b : Nat) : Opening :=
  if b < 0x80 then .complete (Char.ofNat b)
  else if b < 0xC2 then .invalid
  else if b < 0xE0 then .unfinished ⟨b - 0xC0, 1, 0x80, 0xBF⟩
  else if b = 0xE0 then .unfinished ⟨0, 2, 0xA0, 0xBF⟩
  else if b = 0xED then .unfinished ⟨0xD, 2, 0x80, 0x9F⟩
  else if b < 0xF0 then .unfinished ⟨b - 0xE0, 2, 0x80, 0xBF⟩
  else if b = 0xF0 then .unfinished ⟨0, 3, 0x90, 0xBF⟩
  else if b < 0xF4 then .unfinished ⟨b - 0xF0, 3, 0x80, 0xBF⟩
  else if b = 0xF4 then .unfinished ⟨4, 3, 0x80, 0x8F⟩
  else .invalid

def decodeFrom : Option Unfinished → Bytes → List (Option Char)
  | none, [] => []
  | some _, [] => [none]
  | none, b :: rest => match opening b.toNat with
    | .complete c => some c :: decodeFrom none rest
    | .unfinished u => decodeFrom (some u) rest
    | .invalid => none :: decodeFrom none rest
  | some u, b :: rest =>
    if u.low ≤ b.toNat ∧ b.toNat ≤ u.high then
      let bits := u.bits * 64 + (b.toNat - 0x80)
      if u.missing ≤ 1 then some (Char.ofNat bits) :: decodeFrom none rest
      else decodeFrom (some ⟨bits, u.missing - 1, 0x80, 0xBF⟩) rest
    else match opening b.toNat with
      | .complete c => none :: some c :: decodeFrom none rest
      | .unfinished v => none :: decodeFrom (some v) rest
      | .invalid => none :: none :: decodeFrom none rest

def decode (bytes : Bytes) : List (Option Char) := decodeFrom none bytes

def decode? (bytes : Bytes) : Option String := ((decode bytes).mapM id).map String.ofList

def decodeLenient (bytes : Bytes) : String :=
  String.ofList ((decode bytes).map fun c => c.getD '\uFFFD')

end Text
end Entitlement
