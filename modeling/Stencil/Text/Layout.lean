import Stencil.Text.Basic

/-!
# Text of a given width

A text is filled up to a width at its start (`padStart`), at its end (`padEnd`) or on both sides
(`center`). `zeroFill` puts zeros between the sign of a number and its digits. `expandTabs` turns
each tab into spaces up to the next stop.
-/

namespace Stencil.Text

/-- The text with characters before it, up to a width. -/
def padStart (fill : Char) (width : Int) (s : Text) : Text :=
  List.replicate (width - s.length).toNat fill ++ s

/-- The text with characters behind it, up to a width. -/
def padEnd (fill : Char) (width : Int) (s : Text) : Text :=
  s ++ List.replicate (width - s.length).toNat fill

/-- The text with characters around it, up to a width. An odd one goes before the text when the
width is odd and behind it otherwise. -/
def center (fill : Char) (width : Int) (s : Text) : Text :=
  let room := (width - s.length).toNat
  let before := room / 2 + (if room % 2 = 1 ∧ width % 2 = 1 then 1 else 0)
  List.replicate before fill ++ s ++ List.replicate (room - before) fill

/-- A number with zeros behind its sign, up to a width. -/
def zeroFill (width : Int) (s : Text) : Text :=
  match s with
  | '-' :: digits => '-' :: padStart '0' (width - 1) digits
  | '+' :: digits => '+' :: padStart '0' (width - 1) digits
  | digits => padStart '0' width digits

/-- The text with each tab as spaces up to the next multiple of `stop`. -/
def expandTabsFrom (stop : Nat) : Nat → Text → Text
  | _, [] => []
  | column, c :: s =>
    if c = '\t' then
      let n := if stop = 0 then 0 else stop - column % stop
      List.replicate n ' ' ++ expandTabsFrom stop (column + n) s
    else c :: expandTabsFrom stop (if c = '\n' ∨ c = '\r' then 0 else column + 1) s

/-- The text with each tab as spaces up to the next multiple of `stop`. -/
def expandTabs (stop : Int) (s : Text) : Text := expandTabsFrom stop.toNat 0 s

end Stencil.Text
