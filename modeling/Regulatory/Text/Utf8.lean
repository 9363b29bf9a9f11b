/-!
Decoding UTF-8 with the place of the first fault. The bytes of one character are taken one at a
time; between two of them a `Pending` says which byte may come next.
-/

namespace Regulatory.Text.Utf8

/-- Where decoding stopped: all bytes before `validUpTo` are whole characters. `badLength` is the
number of bytes that no continuation can mend, and is absent when the bytes end inside a
character. -/
structure Fault where
  validUpTo : Nat
  badLength : Option Nat
deriving DecidableEq, Repr

def Fault.message (f : Fault) : String :=
  match f.badLength with
  | some n => s!"invalid utf-8 sequence of {n} bytes from index {f.validUpTo}"
  | none => s!"incomplete utf-8 byte sequence from index {f.validUpTo}"

/-- A character of which some bytes have been read. -/
structure Pending where
  /-- The bits read so far. -/
  code : Nat
  /-- The number of bytes read so far. -/
  seen : Nat
  /-- The number of bytes still to come. -/
  owed : Nat
  /-- The bounds of the next byte. -/
  lo : Nat
  hi : Nat
deriving DecidableEq, Repr

/-- What the first byte of a longer character promises. The tighter bounds after E0 and F0 keep out
overlong forms, those after ED surrogates, and those after F4 what lies beyond U+10FFFF. -/
def lead? (b : Nat) : Option Pending :=
  if 0xC2 ≤ b && b ≤ 0xDF then some ⟨b - 0xC0, 1, 1, 0x80, 0xBF⟩
  else if b == 0xE0 then some ⟨0, 1, 2, 0xA0, 0xBF⟩
  else if b == 0xED then some ⟨0xD, 1, 2, 0x80, 0x9F⟩
  else if 0xE1 ≤ b && b ≤ 0xEF then some ⟨b - 0xE0, 1, 2, 0x80, 0xBF⟩
  else if b == 0xF0 then some ⟨0, 1, 3, 0x90, 0xBF⟩
  else if 0xF1 ≤ b && b ≤ 0xF3 then some ⟨b - 0xF0, 1, 3, 0x80, 0xBF⟩
  else if b == 0xF4 then some ⟨4, 1, 3, 0x80, 0x8F⟩
  else none

def Pending.push (p : Pending) (b : Nat) : Pending :=
  ⟨p.code * 64 + (b - 0x80), p.seen + 1, p.owed - 1, 0x80, 0xBF⟩

/-- Decodes from position `pos`, at which the unfinished character starts if there is one. -/
def decodeFrom (pos : Nat) : Option Pending → List UInt8 → Except Fault (List Char)
  | none, [] => .ok []
  | some _, [] => .error ⟨pos, none⟩
  | none, b :: rest =>
    if b < 0x80 then (decodeFrom (pos + 1) none rest).map (Char.ofNat b.toNat :: ·)
    else
      match lead? b.toNat with
      | some p => decodeFrom pos (some p) rest
      | none => .error ⟨pos, some 1⟩
  | some p, b :: rest =>
    if p.lo ≤ b.toNat && b.toNat ≤ p.hi then
      let q := p.push b.toNat
      if q.owed == 0 then (decodeFrom (pos + q.seen) none rest).map (Char.ofNat q.code :: ·)
      else decodeFrom pos (some q) rest
    else .error ⟨pos, some p.seen⟩

/-- The characters that the bytes encode, or the first fault. -/
def decode (bytes : List UInt8) : Except Fault (List Char) :=
  decodeFrom 0 none bytes

end Regulatory.Text.Utf8
