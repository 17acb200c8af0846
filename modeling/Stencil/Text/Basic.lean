/-!
# Text

`Text` is the list of its characters, so every position and every length counts code points.
This module holds what the rest of the library does with text that needs no character class:
writing numbers, finding a part, cutting at it (`cut?`), and replacing it (`replace`).
-/

namespace Stencil

/-- Text, as the list of its characters. -/
abbrev Text := List Char

/-- A code point, which may also be half of a surrogate pair. -/
abbrev CodePoint := Fin 0x110000

instance : Coe String Text := ⟨String.toList⟩

/-- The code point of a character. -/
def CodePoint.ofChar (c : Char) : CodePoint := Fin.ofNat 0x110000 c.toNat

namespace Text

/-! ## Numbers -/

/-- The decimal digits of a natural number. -/
def ofNat (n : Nat) : Text := Nat.toDigits 10 n

/-- The decimal digits of an integer, after `-` when it is negative. -/
def ofInt : Int → Text
  | .ofNat n => ofNat n
  | .negSucc n => '-' :: ofNat (n + 1)

/-- The lower-case hexadecimal digits of `n`, with zeros in front up to `width`. -/
def hex (width n : Nat) : Text :=
  let digits := Nat.toDigits 16 n
  List.replicate (width - digits.length) '0' ++ digits

/-- The value of a hexadecimal digit. -/
def hexDigit? (c : Char) : Option Nat :=
  if '0' ≤ c ∧ c ≤ '9' then some (c.toNat - 48)
  else if 'a' ≤ c ∧ c ≤ 'f' then some (c.toNat - 87)
  else if 'A' ≤ c ∧ c ≤ 'F' then some (c.toNat - 55)
  else none

/-- The number that hexadecimal digits write, if all of them are. -/
def hexValue? (s : Text) : Option Nat :=
  s.foldl (fun n c => do return 16 * (← n) + (← hexDigit? c)) (some 0)

/-- The number that ASCII digits write. -/
def digitsValue (s : Text) : Nat :=
  s.foldl (fun n c => 10 * n + (c.toNat - 48)) 0

/-- Whether a character is an ASCII digit. -/
def isDigit (c : Char) : Bool := '0' ≤ c && c ≤ '9'

/-! ## Parts -/

/-- The rest of `s` after `start`, when `s` starts with it. -/
def after? (start s : Text) : Option Text :=
  if start.isPrefixOf s then some (s.drop start.length) else none

/-- What stands before and after the first place where `s` has `part`. -/
def cut? (part : Text) : Text → Option (Text × Text)
  | [] => if part.isEmpty then some ([], []) else none
  | c :: s =>
    if part.isPrefixOf (c :: s) then some ([], (c :: s).drop part.length)
    else (cut? part s).map fun (before, after) => (c :: before, after)

/-- What stands before and after the last place where `s` has `part`. -/
def cutLast? (part s : Text) : Option (Text × Text) :=
  (cut? part.reverse s.reverse).map fun (after, before) => (before.reverse, after.reverse)

/-- The first position at which `s` has `part`. -/
def position? (part s : Text) : Option Nat := (cut? part s).map (·.1.length)

/-- The number of places, apart from one another, at which `s` has `part`, which is not empty:
`skip` characters of the last one found are still to pass. -/
def countFrom (part : Text) : Nat → Text → Nat
  | _, [] => 0
  | skip + 1, _ :: s => countFrom part skip s
  | 0, c :: s =>
    if part.isPrefixOf (c :: s) then countFrom part (part.length - 1) s + 1 else countFrom part 0 s

/-- Replaces `old`, which is not empty, from left to right, at most `limit` times: `skip`
characters of the last one found are still to pass. -/
def replaceFrom (old new : Text) : Nat → Option Nat → Text → Text
  | _, _, [] => []
  | skip + 1, limit, _ :: s => replaceFrom old new skip limit s
  | 0, limit, c :: s =>
    if limit ≠ some 0 ∧ old.isPrefixOf (c :: s) then
      new ++ replaceFrom old new (old.length - 1) (limit.map (· - 1)) s
    else c :: replaceFrom old new 0 limit s

/-- Puts `new` before each character and at the end, at most `limit` times. -/
def interleave (new : Text) : Option Nat → Text → Text
  | some 0, s => s
  | _, [] => new
  | limit, c :: s => new ++ c :: interleave new (limit.map (· - 1)) s

/-- Replaces every `old`, from left to right and at most `limit` times. Nothing stands before each
character and at the end. -/
def replace (old new : Text) (limit : Option Nat) (s : Text) : Text :=
  if old.isEmpty then interleave new limit s else replaceFrom old new 0 limit s

/-- The pieces of `s` between the places where it has `sep`, which is not empty, at most `limit`
cuts: `done` is the current piece, last character first. -/
def splitFrom (sep : Text) : Nat → Option Nat → Text → Text → List Text
  | _, _, done, [] => [done.reverse]
  | skip + 1, limit, done, _ :: s => splitFrom sep skip limit done s
  | 0, limit, done, c :: s =>
    if limit ≠ some 0 ∧ sep.isPrefixOf (c :: s) then
      done.reverse :: splitFrom sep (sep.length - 1) (limit.map (· - 1)) [] s
    else splitFrom sep 0 limit (c :: done) s

/-- The pieces of `s` between the places where it has `sep`, which is not empty. -/
def splitOn (sep : Text) (limit : Option Nat) (s : Text) : List Text :=
  splitFrom sep 0 limit [] s

/-- The parts, with `sep` between them. -/
def joined (sep : Text) : List Text → Text
  | [] => []
  | [s] => s
  | s :: t :: rest => s ++ sep ++ joined sep (t :: rest)

/-- Code point order. -/
def less : Text → Text → Bool
  | _, [] => false
  | [], _ :: _ => true
  | a :: s, b :: t => a < b || (a == b && less s t)

end Text

end Stencil
