import Stencil.Text.Basic

/-!
# Bytes and characters

`scalars` reads bytes as UTF-8 and gives each character, or nothing for a longest malformed run: a
byte that starts no character, or a started character that the next byte does not continue.
Reading leniently puts U+FFFD in the place of each such run (`decodeLossy`); reading strictly
refuses them (`decode?`).
-/

namespace Stencil

/-- Bytes, in order. -/
abbrev Bytes := List UInt8

namespace Bytes

/-- The shape of a character that a byte starts: the number of bytes that continue it, and the
least and the greatest byte that may come first among them. -/
def lead? (b : UInt8) : Option (Nat × Nat × Nat) :=
  let n := b.toNat
  if n < 0xc2 then none
  else if n < 0xe0 then some (1, 0x80, 0xbf)
  else if n = 0xe0 then some (2, 0xa0, 0xbf)
  else if n = 0xed then some (2, 0x80, 0x9f)
  else if n < 0xf0 then some (2, 0x80, 0xbf)
  else if n = 0xf0 then some (3, 0x90, 0xbf)
  else if n < 0xf4 then some (3, 0x80, 0xbf)
  else if n = 0xf4 then some (3, 0x80, 0x8f)
  else none

/-- Whether a byte lies between two bounds. -/
def within (low high : Nat) (b : UInt8) : Bool := low ≤ b.toNat && b.toNat ≤ high

/-- The six bits that a continuing byte carries. -/
def payload (b : UInt8) : Nat := b.toNat % 64

/-- The characters that the bytes write, with nothing in the place of each malformed run. -/
def scalars : Bytes → List (Option Char)
  | [] => []
  | a :: as =>
    if a.toNat < 0x80 then some (Char.ofNat a.toNat) :: scalars as
    else match lead? a with
    | none => none :: scalars as
    | some (more, low, high) =>
      match as with
      | [] => [none]
      | b :: bs =>
        if within low high b then
          if more = 1 then some (Char.ofNat (a.toNat % 32 * 64 + payload b)) :: scalars bs
          else match bs with
          | [] => [none]
          | c :: cs =>
            if within 0x80 0xbf c then
              if more = 2 then
                some (Char.ofNat ((a.toNat % 16 * 64 + payload b) * 64 + payload c)) :: scalars cs
              else match cs with
              | [] => [none]
              | d :: ds =>
                if within 0x80 0xbf d then
                  some (Char.ofNat
                    (((a.toNat % 8 * 64 + payload b) * 64 + payload c) * 64 + payload d))
                    :: scalars ds
                else none :: scalars (d :: ds)
            else none :: scalars (c :: cs)
        else none :: scalars (b :: bs)

/-- The text that the bytes write, with U+FFFD in the place of each malformed run. -/
def decodeLossy (bytes : Bytes) : Text := (scalars bytes).map (·.getD '\ufffd')

/-- The text that the bytes write, if no run is malformed. -/
def decode? (bytes : Bytes) : Option Text := (scalars bytes).mapM id

end Bytes

/-- The bytes that write a text in UTF-8. -/
def Text.bytes (s : Text) : Bytes := s.flatMap String.utf8EncodeChar

end Stencil
