import Stencil.Proofs.StructTag.Scan

/-!
# Tags as pairs and a rest

A `Segment` is a well-formed pair with the spaces before it. A tag that begins with a given
number of segments does so in one way only (`Segment.flatMap_append_inj`), for each ends
where its literal does. `Splits key tag before found rest` cuts a tag behind the first
segment named `key`, whatever the rest is. `lookup_eq_iff` : a text is looked up exactly
where there is such a cut, and the literal behind the name stands for it.
-/

namespace Stencil.StructTag

/-- A pair as it stands in a tag : spaces, a name, and what stands between the quotes of its
literal. -/
structure Segment where
  spaces : Nat
  name : Text
  body : Text
  isName : IsName name
  isBody : IsBody body

namespace Segment

/-- The characters of a pair, with the spaces before it. -/
def text (p : Segment) : Text :=
  pairText p.spaces p.name p.body

theorem text_append_inj {p q : Segment} {rest rest' : Text}
    (h : p.text ++ rest = q.text ++ rest') : p = q ∧ rest = rest' := by
  obtain ⟨spaces, name, body, hname, hbody⟩ := p
  obtain ⟨spaces', name', body', hname', hbody'⟩ := q
  have hnext := congrArg next? h
  simp only [text] at hnext
  rw [next?_append hname hbody, next?_append hname' hbody'] at hnext
  simp only [Option.some.injEq, Prod.mk.injEq] at hnext
  obtain ⟨⟨rfl, rfl⟩, rfl⟩ := hnext
  have hspaces : spaces = spaces' := by
    have hlength := congrArg List.length h
    simp only [text, pairText, List.length_append, List.length_replicate] at hlength
    omega
  subst hspaces
  exact ⟨rfl, rfl⟩

/-- Segments of a given number, and the rest, are determined by the tag. -/
theorem flatMap_append_inj :
    ∀ {ps qs : List Segment} {rest rest' : Text}, ps.length = qs.length →
      ps.flatMap text ++ rest = qs.flatMap text ++ rest' → ps = qs ∧ rest = rest'
  | [], [], _, _, _, h => ⟨rfl, h⟩
  | p :: ps, q :: qs, rest, rest', hlength, h => by
    rw [List.flatMap_cons, List.flatMap_cons, List.append_assoc, List.append_assoc] at h
    obtain ⟨rfl, hrest⟩ := text_append_inj h
    obtain ⟨rfl, rfl⟩ := flatMap_append_inj (Nat.succ.inj hlength) hrest
    exact ⟨rfl, rfl⟩

end Segment

/-- The tag begins with segments of which the last, `found`, is the first one named `key`. -/
structure Splits (key tag : Text) (before : List Segment) (found : Segment) (rest : Text) :
    Prop where
  tag_eq : tag = before.flatMap Segment.text ++ (found.text ++ rest)
  before_ne : ∀ p ∈ before, p.name ≠ key
  found_eq : found.name = key

theorem Splits.cons {key tag rest : Text} {before : List Segment} {found p : Segment}
    (h : Splits key tag before found rest) (hp : p.name ≠ key) :
    Splits key (p.text ++ tag) (p :: before) found rest where
  tag_eq := by rw [h.tag_eq, List.flatMap_cons, List.append_assoc]
  before_ne := List.forall_mem_cons.mpr ⟨hp, h.before_ne⟩
  found_eq := h.found_eq

theorem Splits.reaches {key tag rest : Text} {before : List Segment} {found : Segment}
    (h : Splits key tag before found rest) : Reaches key tag found.body := by
  obtain ⟨rfl, hne, rfl⟩ := h
  induction before with
  | nil => exact .here found.spaces rest found.isName found.isBody
  | cons p before ih =>
    obtain ⟨hp, hbefore⟩ := List.forall_mem_cons.mp hne
    rw [List.flatMap_cons, List.append_assoc]
    exact .behind p.spaces p.isName hp p.isBody (ih hbefore)

/-- A literal is reached exactly where a tag is cut behind the first segment with the name. -/
theorem reaches_iff_exists_splits {key tag body : Text} :
    Reaches key tag body ↔
      ∃ before found rest, Splits key tag before found rest ∧ found.body = body := by
  constructor
  · intro h
    induction h with
    | here spaces rest hname hbody =>
      exact ⟨[], ⟨spaces, key, _, hname, hbody⟩, rest, ⟨rfl, by simp, rfl⟩, rfl⟩
    | behind spaces hname hne hother _ ih =>
      obtain ⟨before, found, rest, hsplits, hbody⟩ := ih
      exact ⟨_, found, rest, hsplits.cons (p := ⟨spaces, _, _, hname, hother⟩) hne, hbody⟩
  · rintro ⟨before, found, rest, h, rfl⟩
    exact h.reaches

/-- A text that is not empty is looked up where a literal that is reached stands for it. -/
theorem lookup_eq_iff_reaches {tag key v : Text} (hv : v ≠ []) :
    lookup tag key = v ↔ ∃ body, Reaches key tag body ∧ Escape.literal? body = some v := by
  have hsome : ∀ x : Option Text, x.getD [] = v ↔ x = some v := fun x => by
    cases x <;> simp [hv.symm]
  rw [lookup, hsome, Option.bind_eq_some_iff]
  exact exists_congr fun body => and_congr_left fun _ => lookup_pairs_iff

/-- A text that is not empty is looked up exactly in the tags that begin with segments with other
names and one named `key` whose literal stands for it. There is one way to cut a given number of
segments from a tag. -/
theorem lookup_eq_iff (tag key v : Text) (hv : v ≠ []) :
    (lookup tag key = v ↔ ∃ before found rest,
      Splits key tag before found rest ∧ Escape.literal? found.body = some v) ∧
    ∀ (ps qs : List Segment) (rest rest' : Text), ps.length = qs.length →
      tag = ps.flatMap Segment.text ++ rest → tag = qs.flatMap Segment.text ++ rest' →
      ps = qs ∧ rest = rest' := by
  constructor
  · rw [lookup_eq_iff_reaches hv]
    simp only [reaches_iff_exists_splits]
    constructor
    · rintro ⟨body, ⟨before, found, rest, hsplits, rfl⟩, hbody⟩
      exact ⟨before, found, rest, hsplits, hbody⟩
    · rintro ⟨before, found, rest, hsplits, hbody⟩
      exact ⟨found.body, ⟨before, found, rest, hsplits, rfl⟩, hbody⟩
  · intro ps qs rest rest' hlength hps hqs
    exact Segment.flatMap_append_inj hlength (hps.symm.trans hqs)

/-- The first of two pairs with no space between them has a quote in its literal, and something
malformed stands behind the second. -/
theorem lookup_eq_behind_quote :
    ['x'] ≠ [] ∧
      lookup [' ', 'a', ':', '"', '\\', '"', '"', 'b', ':', '"', 'x', '"', '?'] ['b'] = ['x'] ∧
      ∀ p rest, [' ', 'a', ':', '"', '\\', '"', '"', 'b', ':', '"', 'x', '"', '?'] =
        [p].flatMap Segment.text ++ rest → p.name = ['a'] := by
  let first : Segment := ⟨1, ['a'], ['\\', '"'], by decide, .escape '"' .nil⟩
  let second : Segment := ⟨0, ['b'], ['x'], by decide, .char (by decide) (by decide) .nil⟩
  have hiff := lookup_eq_iff [' ', 'a', ':', '"', '\\', '"', '"', 'b', ':', '"', 'x', '"', '?']
    ['b'] ['x'] (by decide)
  have hsplits : Splits ['b'] [' ', 'a', ':', '"', '\\', '"', '"', 'b', ':', '"', 'x', '"', '?']
      [first] second ['?'] := ⟨rfl, by simp [first], rfl⟩
  refine ⟨by decide, hiff.1.mpr ⟨[first], second, ['?'], hsplits, by decide⟩, fun p rest h => ?_⟩
  obtain ⟨hp, -⟩ := hiff.2 [p] [first] rest (second.text ++ ['?']) rfl h hsplits.tag_eq
  rw [List.singleton_inj.mp hp]

end Stencil.StructTag
