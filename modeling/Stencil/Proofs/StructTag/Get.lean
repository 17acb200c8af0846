import Stencil.Proofs.Literal.Agreement
import Stencil.Proofs.StructTag.Scan

/-!
# The documented result of a lookup

`Gets key tag v` says what a lookup is documented to give : the first literal with the
name, reached through well-formed pairs only, read by the rules of the language. The
lookup reads the literal with `Escape.literal?`, whose rules differ. `gets_lookup_iff` :
it gives the documented result exactly when the literal, if any is reached, is one of
those on which the two readings agree (`Agrees`). An escaped apostrophe is enough to
part them (`lookup_escaped_apostrophe`).

An escape of two hexadecimal or three octal digits is read as the character with that
number, which is what the language has below U+0080; above, it has a byte there.
-/

namespace Stencil.StructTag

open GoString (Reads unquote? unquote?_eq_some_iff)

/-- The documented result : the text of the literal that is reached, and nothing if the
literal is refused or none is reached. -/
inductive Gets (key tag : Text) : Text → Prop
  | read {body v : Text} (h : Reaches key tag body)
    (hv : unquote? ('"' :: (body ++ ['"'])) = some v) : Gets key tag v
  | refused {body : Text} (h : Reaches key tag body)
    (hv : unquote? ('"' :: (body ++ ['"'])) = none) : Gets key tag []
  | absent (h : ∀ body, ¬Reaches key tag body) : Gets key tag []

theorem gets_iff_of_reaches {key tag body v : Text} (h : Reaches key tag body) :
    Gets key tag v ↔ v = (unquote? ('"' :: (body ++ ['"']))).getD [] := by
  constructor
  · intro hv
    cases hv with
    | read h' hv =>
      obtain rfl := h.unique h'
      rw [hv, Option.getD_some]
    | refused h' hv =>
      obtain rfl := h.unique h'
      rw [hv, Option.getD_none]
    | absent h' => exact absurd h (h' body)
  · rintro rfl
    cases hv : unquote? ('"' :: (body ++ ['"'])) with
    | none => exact .refused h hv
    | some v => exact .read h hv

/-- A body that `Escape.literal?` reads : no null character, no line end without a backslash
before it, and no incomplete escape. -/
def Decodable (body : Text) : Prop :=
  '\x00' ∉ body ∧ Escape.breaksLine (Text.unifyLineEnds body) = false ∧
    Escape.Complete (Text.unifyLineEnds body)

theorem literal?_eq_some_iff {body v : Text} :
    Escape.literal? body = some v ↔
      Decodable body ∧ Escape.decode? (Text.unifyLineEnds body) = some v := by
  rw [Escape.literal?_eq]
  split
  · next h =>
    simp only [reduceCtorEq, false_iff]
    rintro ⟨⟨h0, hline, -⟩, -⟩
    exact h.elim h0 (by simp [hline])
  · next h =>
    simp only [not_or, Bool.not_eq_true] at h
    refine ⟨fun hv => ⟨⟨h.1, h.2, ?_⟩, hv⟩, And.right⟩
    exact Escape.decode?_isSome_iff.mp (Option.isSome_of_eq_some hv)

/-- The bodies on which the two readings agree : both give the same text, or the language
refuses the body and the lookup refuses it too or finds nothing but escaped line ends. -/
inductive Agrees (body : Text) : Prop
  | read {v : Text} (h : Reads body v) (h0 : '\x00' ∉ body) (hr : '\r' ∉ body)
  | refused (h : ∀ v, ¬Reads body v) (hd : ¬Decodable body)
  | blank (h : ∀ v, ¬Reads body v) (n : Nat)
    (hn : Text.unifyLineEnds body = Escape.lineFeeds n)

theorem agrees_iff_of_reads {body v : Text} (h : Reads body v) :
    Agrees body ↔ '\x00' ∉ body ∧ '\r' ∉ body := by
  constructor
  · intro ha
    cases ha with
    | read _ h0 hr => exact ⟨h0, hr⟩
    | refused h' _ => exact absurd h (h' v)
    | blank h' => exact absurd h (h' v)
  · rintro ⟨h0, hr⟩
    exact .read h h0 hr

theorem agrees_iff_of_not_reads {body : Text} (h : ∀ v, ¬Reads body v) :
    Agrees body ↔
      ¬Decodable body ∨ ∃ n, Text.unifyLineEnds body = Escape.lineFeeds n := by
  constructor
  · intro ha
    cases ha with
    | read h' => exact absurd h' (h _)
    | refused _ hd => exact .inl hd
    | blank _ n hn => exact .inr ⟨n, hn⟩
  · rintro (hd | ⟨n, hn⟩)
    · exact .refused h hd
    · exact .blank h n hn

/-- A body is read as no text, or not at all, if it is malformed or has escaped line ends
only. -/
theorem literal?_getD_eq_nil_iff {body : Text} :
    (Escape.literal? body).getD [] = [] ↔
      ¬Decodable body ∨ ∃ n, Text.unifyLineEnds body = Escape.lineFeeds n := by
  rw [← Escape.decode?_eq_nil_iff]
  cases hl : Escape.literal? body with
  | none =>
    have hd : ¬Decodable body := fun hd => by
      obtain ⟨v, hv⟩ := Option.isSome_iff_exists.mp (Escape.decode?_isSome_iff.mpr hd.2.2)
      rw [literal?_eq_some_iff.mpr ⟨hd, hv⟩] at hl
      cases hl
    simp [hd]
  | some v =>
    obtain ⟨hd, hv⟩ := literal?_eq_some_iff.mp hl
    simp [hd, hv]

theorem literal?_getD_eq_iff {body : Text} :
    (Escape.literal? body).getD [] = (unquote? ('"' :: (body ++ ['"']))).getD [] ↔
      Agrees body := by
  cases hv : unquote? ('"' :: (body ++ ['"'])) with
  | some v =>
    have h := unquote?_eq_some_iff.mp hv
    rw [agrees_iff_of_reads h, GoString.literal?_of_reads h, Option.getD_some, ← not_or]
    split
    · next hc =>
      -- The text is not empty, for the body is not.
      refine iff_of_false (fun he => ?_) (not_not_intro hc)
      obtain rfl : v = [] := he.symm
      obtain rfl := h.eq_nil
      simp at hc
    · next hc => exact iff_of_true rfl hc
  | none =>
    have h : ∀ v, ¬Reads body v := fun v h => by
      rw [unquote?_eq_some_iff.mpr h] at hv
      cases hv
    rw [agrees_iff_of_not_reads h, Option.getD_none, literal?_getD_eq_nil_iff]

/-- The lookup gives the documented result exactly when the readings agree on the literal
that it reaches, if it reaches one. -/
theorem gets_lookup_iff (tag key : Text) :
    Gets key tag (lookup tag key) ↔ ∀ body, Reaches key tag body → Agrees body := by
  cases hbody : (pairs tag).lookup key with
  | some body =>
    have h := lookup_pairs_iff.mp hbody
    have huniq : (∀ other, Reaches key tag other → Agrees other) ↔ Agrees body := by
      refine ⟨fun hall => hall body h, fun ha other ho => ?_⟩
      exact h.unique ho ▸ ha
    rw [gets_iff_of_reaches h, huniq, ← literal?_getD_eq_iff, lookup, hbody, Option.bind_some]
  | none =>
    have habsent : ∀ body, ¬Reaches key tag body := fun body h => by
      rw [lookup_pairs_iff.mpr h] at hbody
      cases hbody
    have hlookup : lookup tag key = [] := by rw [lookup, hbody, Option.bind_none, Option.getD_none]
    rw [hlookup]
    exact ⟨fun _ body h => absurd h (habsent body), fun _ => .absent habsent⟩

/-- An escaped apostrophe is refused by the rules of the language, and the lookup finds it. -/
theorem lookup_escaped_apostrophe :
    Gets ['k'] ['k', ':', '"', '\\', '\x27', '"'] [] ∧
      lookup ['k', ':', '"', '\\', '\x27', '"'] ['k'] = ['\x27'] ∧
      ¬Gets ['k'] ['k', ':', '"', '\\', '\x27', '"']
        (lookup ['k', ':', '"', '\\', '\x27', '"'] ['k']) := by
  have h : Reaches ['k'] ['k', ':', '"', '\\', '\x27', '"'] ['\\', '\x27'] :=
    .here 0 [] (by decide) (.escape '\x27' .nil)
  have hv : unquote? ['"', '\\', '\x27', '"'] = none := by decide
  have hlookup : lookup ['k', ':', '"', '\\', '\x27', '"'] ['k'] = ['\x27'] := by decide
  refine ⟨.refused h hv, hlookup, fun hget => ?_⟩
  have := (gets_iff_of_reaches h).mp hget
  simp [hlookup, hv] at this

end Stencil.StructTag
