import Stencil.Text.Basic

/-!
# The longest part of a kind

A list is cut at the first element that is not of a kind : `exists_span` gives the two
parts, and `span_inj` says that there is only one such cut. The scanners of this library
are loops over such parts.
-/

namespace Stencil

variable {α : Type} {p : α → Bool}

/-- What follows a longest part : nothing, or an element not of the kind. -/
def Stops (p : α → Bool) (rest : List α) : Prop :=
  ∀ x ∈ rest.head?, p x = false

@[simp] theorem stops_nil : Stops p [] := by
  simp [Stops]

@[simp] theorem stops_cons {x : α} {rest : List α} : Stops p (x :: rest) ↔ p x = false := by
  simp [Stops]

theorem stops_append {a r : List α} (hne : a ≠ []) (ha : ∀ x ∈ a, p x = false) :
    Stops p (a ++ r) := by
  obtain ⟨x, a, rfl⟩ := List.exists_cons_of_ne_nil hne
  exact stops_cons.mpr (ha x List.mem_cons_self)

theorem stops_dropWhile (p : α → Bool) (xs : List α) : Stops p (xs.dropWhile p) := by
  intro x hx
  have h := List.head?_dropWhile_not p xs
  rw [hx] at h
  exact h

theorem Stops.takeWhile {xs : List α} (h : Stops p xs) (q : α → Bool) :
    Stops p (xs.takeWhile q) := by
  cases xs with
  | nil => exact stops_nil
  | cons x xs =>
    rw [List.takeWhile_cons]
    split
    · exact stops_cons.mpr (stops_cons.mp h)
    · exact stops_nil

theorem takeWhile_span {a r : List α} (ha : ∀ x ∈ a, p x) (hr : Stops p r) :
    (a ++ r).takeWhile p = a := by
  rw [List.takeWhile_append_of_pos ha]
  cases r with
  | nil => simp
  | cons x r => simp [stops_cons.mp hr]

theorem dropWhile_span {a r : List α} (ha : ∀ x ∈ a, p x) (hr : Stops p r) :
    (a ++ r).dropWhile p = r := by
  rw [List.dropWhile_append_of_pos ha]
  cases r with
  | nil => simp
  | cons x r => simp [stops_cons.mp hr]

theorem span_inj {a r a' r' : List α} (ha : ∀ x ∈ a, p x) (hr : Stops p r)
    (ha' : ∀ x ∈ a', p x) (hr' : Stops p r') (h : a ++ r = a' ++ r') : a = a' ∧ r = r' := by
  constructor
  · rw [← takeWhile_span ha hr, h, takeWhile_span ha' hr']
  · rw [← dropWhile_span ha hr, h, dropWhile_span ha' hr']

theorem exists_span (p : α → Bool) (xs : List α) :
    ∃ a r, xs = a ++ r ∧ (∀ x ∈ a, p x) ∧ Stops p r := by
  exact ⟨xs.takeWhile p, xs.dropWhile p, List.takeWhile_append_dropWhile.symm,
    fun x hx => List.all_eq_true.mp List.all_takeWhile x hx, stops_dropWhile p xs⟩

end Stencil
