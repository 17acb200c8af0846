import Mathlib.Data.List.Nodup
import Stencil.Proofs.Declaration.Decoding

/-!
# Members that are null

A member of a declaration's document that may be missing (`Place.optional`) may be null as well.
`AddsNull` says that a document becomes another one when such a member is added, at any depth : the
parts of a document are reached through the members that hold them (`Place.members`).

`decode_addsNull` : the declaration stays the same, unless the member is a name or a path of a
package or of an import. There a missing member is an empty text, and null is the text `None`.
-/

namespace Stencil

namespace Document

/-- An object is given a member that it does not have, with the value null. -/
inductive GainsNull (name : Text) : Document → Document → Prop
  | intro (before after : List (Text × Document)) (habsent : (before ++ after).lookup name = none) :
    GainsNull name (.object (before ++ after)) (.object (before ++ (name, .null) :: after))

/-- The member of an object with a name is given another value. -/
inductive Changes (name : Text) (v v' : Document) : Document → Document → Prop
  | intro (before after : List (Text × Document)) (hfirst : before.lookup name = none) :
    Changes name v v' (.object (before ++ (name, v) :: after))
      (.object (before ++ (name, v') :: after))

variable {name other : Text} {d d' v v' : Document}

theorem lookup_append_cons_self {before after : List (Text × Document)}
    (hfirst : before.lookup name = none) : (before ++ (name, v) :: after).lookup name = some v := by
  rw [List.lookup_append, hfirst, Option.none_or, List.lookup_cons_self]

theorem lookup_append_cons_of_ne (hne : other ≠ name) (before after : List (Text × Document)) :
    (before ++ (name, v) :: after).lookup other = (before ++ after).lookup other := by
  rw [List.lookup_append, List.lookup_cons, beq_false_of_ne hne, List.lookup_append]

theorem GainsNull.member? (h : GainsNull name d d') :
    d.member? name = none ∧ d'.member? name = some .null := by
  obtain ⟨before, after, habsent⟩ := h
  have hfirst := habsent
  rw [List.lookup_append, Option.or_eq_none_iff] at hfirst
  exact ⟨habsent, lookup_append_cons_self hfirst.1⟩

theorem GainsNull.member?_of_ne (h : GainsNull name d d') (hne : other ≠ name) :
    d'.member? other = d.member? other := by
  obtain ⟨before, after, -⟩ := h
  exact lookup_append_cons_of_ne hne _ _

theorem Changes.member? (h : Changes name v v' d d') :
    d.member? name = some v ∧ d'.member? name = some v' := by
  obtain ⟨before, after, hfirst⟩ := h
  exact ⟨lookup_append_cons_self hfirst, lookup_append_cons_self hfirst⟩

theorem Changes.member?_of_ne (h : Changes name v v' d d') (hne : other ≠ name) :
    d'.member? other = d.member? other := by
  obtain ⟨before, after, -⟩ := h
  have hother := lookup_append_cons_of_ne (v := v) hne
  have hother' := lookup_append_cons_of_ne (v := v') hne
  exact (hother' _ _).trans (hother _ _).symm

end Document

namespace Declaration

open Document (GainsNull Changes)

/-! ## Places -/

/-- The parts of a declaration's document. -/
inductive Place where
  | document
  | package
  | importEntry
  | definition
  | method
  | variable
  | reference
  | field
  deriving DecidableEq

/-- What a member holds : one part, or a list of parts. -/
inductive Held where
  | one (p : Place)
  | many (p : Place)
  deriving DecidableEq

/-- The part, or the kind of the parts, that a member holds. -/
def Held.place : Held → Place
  | .one p | .many p => p

namespace Place

/-- The members of a part that may be missing. -/
def optional : Place → List Text
  | .document => ["imports"]
  | .package | .importEntry => ["name", "path"]
  | .definition => ["methods", "fields"]
  | .method => ["params", "results", "variadic"]
  | .variable => ["name"]
  | .reference => ["repr", "kind", "short"]
  | .field => ["tag", "embedded"]

/-- The members of a part that hold other parts. -/
def members : Place → List (Text × Held)
  | .document =>
    [("package", .one .package), ("imports", .many .importEntry), ("type", .one .definition)]
  | .definition => [("methods", .many .method), ("fields", .many .field)]
  | .method => [("params", .many .variable), ("results", .many .variable)]
  | .variable | .field => [("type", .one .reference)]
  | .package | .importEntry | .reference => []

theorem nodup_members (p : Place) : (p.members.map Prod.fst).Nodup := by
  cases p <;> decide

theorem members_inj {p : Place} {name : Text} {a b : Held} (ha : (name, a) ∈ p.members)
    (hb : (name, b) ∈ p.members) : a = b :=
  congrArg Prod.snd (List.inj_on_of_nodup_map p.nodup_members ha hb rfl)

end Place

/-- One member that may be missing in a part `r`, which is reached from a part `p`, is added with
the value null. -/
inductive AddsNull : Place → Place → Document → Document → Prop
  | here {p : Place} (name : Text) {d d' : Document} (hname : name ∈ p.optional)
    (h : GainsNull name d d') : AddsNull p p d d'
  | one {p q r : Place} (name : Text) {v v' d d' : Document} (hq : (name, .one q) ∈ p.members)
    (hv : AddsNull q r v v') (h : Changes name v v' d d') : AddsNull p r d d'
  | many {p q r : Place} (name : Text) (before after : List Document) {v v' d d' : Document}
    (hq : (name, .many q) ∈ p.members) (hv : AddsNull q r v v')
    (h : Changes name (.list (before ++ v :: after)) (.list (before ++ v' :: after)) d d') :
    AddsNull p r d d'

variable {p q r : Place} {name : Text} {d d' : Document}

/-! ## What the members become -/

theorem memberOf_of_member? {v : Document} (h : d.member? name = some v) : memberOf name d = v := by
  rw [memberOf, h]
  rfl

theorem memberOf_eq_text_iff {s : Text} :
    memberOf name d = .text s ↔ d.member? name = some (.text s) := by
  rw [memberOf]
  cases d.member? name <;> simp

/-- A null counts as a missing member. -/
theorem memberOf_of_gainsNull {gained : Text} (h : GainsNull gained d d') (name : Text) :
    memberOf name d' = memberOf name d := by
  by_cases hne : name = gained
  · subst hne
    obtain ⟨hnone, hnull⟩ := h.member?
    rw [memberOf, memberOf, hnone, hnull]
    rfl
  · rw [memberOf, memberOf, h.member?_of_ne hne]

theorem memberOf_of_changes {v v' : Document} (h : Changes name v v' d d') :
    memberOf name d = v ∧ memberOf name d' = v' :=
  ⟨memberOf_of_member? h.member?.1, memberOf_of_member? h.member?.2⟩

theorem memberOf_of_changes_of_ne {changed : Text} {v v' : Document}
    (h : Changes changed v v' d d') (hne : name ≠ changed) :
    memberOf name d' = memberOf name d := by
  rw [memberOf, memberOf, h.member?_of_ne hne]

namespace AddsNull

theorem isObject (h : AddsNull p r d d') : d'.isObject := by
  cases h with
  | here _ _ h => cases h; rfl
  | one _ _ _ h => cases h; rfl
  | many _ _ _ _ _ h => cases h; rfl

/-- A member is read as before, or it holds one part or a list of parts that gained the null. -/
theorem cases_memberOf (h : AddsNull p r d d') (name : Text) :
    memberOf name d' = memberOf name d ∨
      (∃ q, (name, .one q) ∈ p.members ∧ AddsNull q r (memberOf name d) (memberOf name d')) ∨
      ∃ q before v v' after, (name, .many q) ∈ p.members ∧ AddsNull q r v v' ∧
        memberOf name d = .list (before ++ v :: after) ∧
          memberOf name d' = .list (before ++ v' :: after) := by
  cases h with
  | here _ _ h => exact .inl (memberOf_of_gainsNull h name)
  | one other hq hv h =>
    by_cases hne : name = other
    · subst hne
      obtain ⟨hold, hnew⟩ := memberOf_of_changes h
      exact .inr (.inl ⟨_, hq, by rwa [hold, hnew]⟩)
    · exact .inl (memberOf_of_changes_of_ne h hne)
  | many other _ _ hq hv h =>
    by_cases hne : name = other
    · subst hne
      exact .inr (.inr ⟨_, _, _, _, _, hq, hv, memberOf_of_changes h⟩)
    · exact .inl (memberOf_of_changes_of_ne h hne)

/-- A member that holds no parts is read as before. -/
theorem memberOf_eq (h : AddsNull p r d d') (hname : name ∉ p.members.map Prod.fst) :
    memberOf name d' = memberOf name d := by
  rcases h.cases_memberOf name with heq | ⟨q, hq, -⟩ | ⟨q, _, _, _, _, hq, -⟩
  · exact heq
  · exact absurd (List.mem_map_of_mem hq) hname
  · exact absurd (List.mem_map_of_mem hq) hname

theorem textOrEmpty_eq (h : AddsNull p r d d') (hname : name ∉ p.members.map Prod.fst) :
    textOrEmpty name d' = textOrEmpty name d := by
  rw [textOrEmpty, h.memberOf_eq hname, textOrEmpty]

theorem member?_text (h : AddsNull p r d d') (hname : name ∉ p.members.map Prod.fst) {s : Text}
    (hs : d.member? name = some (.text s)) : d'.member? name = some (.text s) := by
  rw [← memberOf_eq_text_iff] at hs ⊢
  rw [h.memberOf_eq hname, hs]

section

variable {α : Type} {f : Document → Except DecodeFault α}
  (hf : ∀ v v' a, AddsNull q r v v' → f v = .ok a → f v' = .ok a)

include hf

/-- What is decoded from a part stays, if the null in it does not matter. -/
theorem decode_one (h : AddsNull p r d d') (hq : (name, .one q) ∈ p.members) {a : α}
    (ha : f (memberOf name d) = .ok a) :
    f (memberOf name d') = .ok a := by
  rcases h.cases_memberOf name with heq | ⟨q', hq', hv⟩ | ⟨q', _, _, _, _, hq', -⟩
  · rw [heq, ha]
  · obtain rfl : q = q' := Held.one.inj (Place.members_inj hq hq')
    exact hf _ _ a hv ha
  · cases Place.members_inj hq hq'

/-- What is decoded from a list of parts stays, if the null in one of them does not matter. -/
theorem decode_many (h : AddsNull p r d d') (hq : (name, .many q) ∈ p.members)
    {g : Document → Except DecodeFault (List α)} (hg : ∀ items, g (.list items) = items.mapM f)
    {as : List α} (has : g (memberOf name d) = .ok as) :
    g (memberOf name d') = .ok as := by
  rcases h.cases_memberOf name with heq | ⟨q', hq', -⟩ |
    ⟨q', before, v, v', after, hq', hv, hold, hnew⟩
  · rw [heq, has]
  · cases Place.members_inj hq hq'
  · obtain rfl : q = q' := Held.many.inj (Place.members_inj hq hq')
    rw [hold, hg] at has
    rw [hnew, hg]
    obtain ⟨a, ha, hmap⟩ := mapM_append_cons has
    exact (hmap v').mpr (hf v v' a hv ha)

end

end AddsNull

/-! ## What is decoded -/

theorem decodeItems_list {α : Type} (f : Document → Except DecodeFault α) (items : List Document) :
    decodeItems f (.list items) = items.mapM f := by
  rw [decodeItems, itemsOf_eq_ok_of_hasItems (.inl rfl)]
  rfl

theorem decodeType_of_addsNull (d d' : Document) (t : TypeRef) (h : AddsNull .reference r d d')
    (ht : decodeType d = .ok t) : decodeType d' = .ok t := by
  obtain ⟨full, kind, short⟩ := t
  obtain ⟨-, rfl, rfl, rfl⟩ := decodeType_eq_ok_iff.mp ht
  exact decodeType_eq_ok_iff.mpr ⟨h.isObject, h.textOrEmpty_eq (by decide),
    h.textOrEmpty_eq (by decide), h.textOrEmpty_eq (by decide)⟩

theorem decodeVariable_of_addsNull (d d' : Document) (v : Variable) (h : AddsNull .variable r d d')
    (hv : decodeVariable d = .ok v) : decodeVariable d' = .ok v := by
  obtain ⟨name, type⟩ := v
  obtain ⟨-, rfl, htype⟩ := decodeVariable_eq_ok_iff.mp hv
  exact decodeVariable_eq_ok_iff.mpr ⟨h.isObject, h.textOrEmpty_eq (by decide),
    h.decode_one decodeType_of_addsNull (by decide) htype⟩

theorem decodeMethod_of_addsNull (d d' : Document) (m : Method) (h : AddsNull .method r d d')
    (hm : decodeMethod d = .ok m) : decodeMethod d' = .ok m := by
  obtain ⟨name, params, results, variadic⟩ := m
  obtain ⟨hname, hparams, hresults, rfl⟩ := decodeMethod_eq_ok_iff.mp hm
  have hlist (items : List Document) :
    decodeVariables (.list items) = items.mapM decodeVariable := rfl
  refine decodeMethod_eq_ok_iff.mpr ⟨h.member?_text (by decide) hname, ?_, ?_, ?_⟩
  · exact h.decode_many decodeVariable_of_addsNull (by decide) hlist hparams
  · exact h.decode_many decodeVariable_of_addsNull (by decide) hlist hresults
  · rw [h.memberOf_eq (by decide)]

theorem decodeField_of_addsNull (d d' : Document) (f : Field) (h : AddsNull .field r d d')
    (hf : decodeField d = .ok f) : decodeField d' = .ok f := by
  obtain ⟨name, type, tag, embedded⟩ := f
  obtain ⟨hname, htype, rfl, rfl⟩ := decodeField_eq_ok_iff.mp hf
  refine decodeField_eq_ok_iff.mpr ⟨h.member?_text (by decide) hname, ?_,
    h.textOrEmpty_eq (by decide), ?_⟩
  · exact h.decode_one decodeType_of_addsNull (by decide) htype
  · rw [h.memberOf_eq (by decide)]

theorem decodeDefinition_of_addsNull (d d' : Document) (t : Definition)
    (h : AddsNull .definition r d d') (ht : decodeDefinition d = .ok t) :
    decodeDefinition d' = .ok t := by
  obtain ⟨kind, hkind⟩ : ∃ kind, d.member? "kind" = some (.text kind) := by
    by_contra hno
    rw [decodeDefinition_malformed (not_exists.mp hno)] at ht
    exact malformed_ne_ok ht
  have hkind' := h.member?_text (by decide) hkind
  by_cases hi : kind = "interface"
  · subst hi
    rw [decodeDefinition_interface hkind] at ht
    rw [decodeDefinition_interface hkind']
    obtain ⟨methods, hmethods, rfl⟩ := map_eq_ok_iff.mp ht
    exact map_eq_ok_iff.mpr ⟨methods, h.decode_many decodeMethod_of_addsNull (by decide)
      (decodeItems_list _) hmethods, rfl⟩
  by_cases hs : kind = "struct"
  · subst hs
    rw [decodeDefinition_struct hkind] at ht
    rw [decodeDefinition_struct hkind']
    obtain ⟨fields, hfields, rfl⟩ := map_eq_ok_iff.mp ht
    exact map_eq_ok_iff.mpr ⟨fields, h.decode_many decodeField_of_addsNull (by decide)
      (decodeItems_list _) hfields, rfl⟩
  · rw [decodeDefinition_other hkind hi hs] at ht
    rw [decodeDefinition_other hkind' hi hs, ht]

/-! ## Packages and imports -/

theorem textOf_of_gainsNull (h : GainsNull name d d') :
    textOf name d = [] ∧ textOf name d' = "None" := by
  obtain ⟨hnone, hnull⟩ := h.member?
  rw [textOf, textOf, hnone, hnull]
  exact ⟨rfl, rfl⟩

/-- A package with a null in it has another name or another path. -/
theorem textOf_ne_of_gainsNull (hname : name ∈ ["name".toList, "path".toList])
    (h : GainsNull name d d') :
    textOf "name" d' ≠ textOf "name" d ∨ textOf "path" d' ≠ textOf "path" d := by
  obtain ⟨hold, hnew⟩ := textOf_of_gainsNull h
  have hne : textOf name d' ≠ textOf name d := by
    rw [hold, hnew]
    decide
  rcases List.mem_pair.mp hname with rfl | rfl
  · exact .inl hne
  · exact .inr hne

theorem AddsNull.of_leaf (h : AddsNull p r d d') (hp : p.members = []) :
    r = p ∧ ∃ name ∈ p.optional, GainsNull name d d' := by
  cases h with
  | here name hname h => exact ⟨rfl, name, hname, h⟩
  | one _ hq => simp [hp] at hq
  | many _ _ _ hq => simp [hp] at hq

theorem decodeImport_of_addsNull {i : Import} (h : AddsNull .importEntry r d d')
    (hi : decodeImport d = .ok i) : ∃ i', decodeImport d' = .ok i' ∧ i' ≠ i := by
  obtain ⟨-, gained, hname, hgains⟩ := h.of_leaf rfl
  obtain ⟨name, path⟩ := i
  obtain ⟨-, rfl, rfl⟩ := decodeImport_eq_ok_iff.mp hi
  refine ⟨⟨_, _⟩, decodeImport_eq_ok_iff.mpr ⟨h.isObject, rfl, rfl⟩, fun heq => ?_⟩
  obtain ⟨hn, hp⟩ := Import.mk.inj heq
  rcases textOf_ne_of_gainsNull hname hgains with hne | hne
  · exact hne hn
  · exact hne hp

/-! ## Whole declarations -/

/-- The parts that are reached from a definition. -/
def Place.IsInner (p : Place) : Prop := p ≠ .document ∧ p ≠ .package ∧ p ≠ .importEntry

instance (p : Place) : Decidable p.IsInner := inferInstanceAs (Decidable (_ ∧ _))

theorem Place.IsInner.of_mem {held : Held} (hp : p.IsInner) (hheld : (name, held) ∈ p.members) :
    held.place.IsInner := by
  have hall : p.IsInner → ∀ m ∈ p.members, m.2.place.IsInner := by
    cases p <;> decide
  exact hall hp _ hheld

theorem AddsNull.isInner (h : AddsNull p r d d') (hp : p.IsInner) : r.IsInner := by
  induction h with
  | here => exact hp
  | one _ hq _ _ ih => exact ih (hp.of_mem hq)
  | many _ _ _ hq _ _ ih => exact ih (hp.of_mem hq)

theorem decode_congr (h : ∀ member, memberOf member d' = memberOf member d) :
    decode name d' = decode name d := by
  simp only [decode, h]

section

variable {x : Declaration} (hx : decode name d = .ok x) {v v' : Document}

include hx

theorem decode_of_package (hv : AddsNull .package r v v') (h : Changes "package" v v' d d') :
    ∃ x', decode name d' = .ok x' ∧ x' ≠ x := by
  obtain ⟨-, gained, hname, hgains⟩ := hv.of_leaf rfl
  obtain ⟨hold, hnew⟩ := memberOf_of_changes h
  obtain ⟨_, type, path, package, imports⟩ := x
  obtain ⟨-, rfl, rfl, rfl, himports, htype⟩ := decode_eq_ok_iff.mp hx
  refine ⟨⟨name, type, textOf "path" v', textOf "name" v', imports⟩,
    decode_eq_ok_iff.mpr ⟨?_, rfl, ?_, ?_, ?_, ?_⟩, fun heq => ?_⟩
  · rw [hnew, hv.isObject]
  · rw [hnew]
  · rw [hnew]
  · rw [memberOf_of_changes_of_ne h (by decide), himports]
  · rw [memberOf_of_changes_of_ne h (by decide), htype]
  · rw [hold] at heq
    obtain ⟨-, -, hpath, hpackage, -⟩ := Declaration.mk.inj heq
    rcases textOf_ne_of_gainsNull hname hgains with hne | hne
    · exact hne hpackage
    · exact hne hpath

/-- Where the package stays, so do its name and its path. -/
theorem decode_of_package_eq (hsame : memberOf "package" d' = memberOf "package" d)
    {type : Definition} {imports : List Import}
    (himports : decodeItems decodeImport (memberOf "imports" d') = .ok imports)
    (htype : decodeDefinition (memberOf "type" d') = .ok type) :
    decode name d' = .ok { x with type, imports } := by
  obtain ⟨_, _, path, package, _⟩ := x
  obtain ⟨hpackage, rfl, rfl, rfl, -, -⟩ := decode_eq_ok_iff.mp hx
  exact decode_eq_ok_iff.mpr ⟨by rw [hsame, hpackage], rfl, by rw [hsame], by rw [hsame], himports,
    htype⟩

theorem decode_of_definition (hv : AddsNull .definition r v v') (h : Changes "type" v v' d d') :
    decode name d' = .ok x := by
  obtain ⟨hold, hnew⟩ := memberOf_of_changes h
  obtain ⟨_, type, path, package, imports⟩ := x
  obtain ⟨-, -, -, -, himports, htype⟩ := decode_eq_ok_iff.mp hx
  refine decode_of_package_eq hx (memberOf_of_changes_of_ne h (by decide)) ?_ ?_
  · rw [memberOf_of_changes_of_ne h (by decide), himports]
  · rw [hold] at htype
    rw [hnew, decodeDefinition_of_addsNull v v' type hv htype]

theorem decode_of_importEntry {before after : List Document} (hv : AddsNull .importEntry r v v')
    (h : Changes "imports" (.list (before ++ v :: after)) (.list (before ++ v' :: after)) d d') :
    ∃ x', decode name d' = .ok x' ∧ x' ≠ x := by
  obtain ⟨hold, hnew⟩ := memberOf_of_changes h
  obtain ⟨_, type, path, package, imports⟩ := x
  obtain ⟨-, -, -, -, himports, htype⟩ := decode_eq_ok_iff.mp hx
  rw [hold, decodeItems_list] at himports
  obtain ⟨i, hi, hothers⟩ := mapM_append_cons himports
  obtain ⟨i', hi', hne⟩ := decodeImport_of_addsNull hv hi
  obtain ⟨imports', himports'⟩ :
      ∃ imports', (before ++ v' :: after).mapM decodeImport = .ok imports' :=
    exists_mapM_append_cons ⟨imports, himports⟩ ⟨i', hi'⟩
  have hnext : decodeItems decodeImport (memberOf "imports" d') = .ok imports' := by
    rw [hnew, decodeItems_list, himports']
  have hsame : decodeDefinition (memberOf "type" d') = .ok type := by
    rw [memberOf_of_changes_of_ne h (by decide), htype]
  refine ⟨_, decode_of_package_eq hx (memberOf_of_changes_of_ne h (by decide)) hnext hsame,
    fun heq => ?_⟩
  obtain ⟨-, -, -, -, rfl⟩ := Declaration.mk.inj heq
  have hagain : decodeImport v' = .ok i := (hothers v').mp himports'
  exact hne (Except.ok.inj (hi'.symm.trans hagain))

/-- A declaration is decoded from a document that gains a null, and it is the same one unless the
null is in the package or in an import. -/
theorem decode_addsNull (h : AddsNull .document r d d') :
    ∃ x', decode name d' = .ok x' ∧ (x' = x ↔ r ≠ .package ∧ r ≠ .importEntry) := by
  cases h with
  | here _ _ h =>
    refine ⟨x, ?_, by simp⟩
    rw [decode_congr (memberOf_of_gainsNull h), hx]
  | @one _ q _ member _ _ _ _ hq hv h =>
    have hmember : member = "package" ∧ q = .package ∨ member = "type" ∧ q = .definition := by
      simpa [Place.members] using hq
    rcases hmember with ⟨rfl, rfl⟩ | ⟨rfl, rfl⟩
    · obtain ⟨rfl, -⟩ := hv.of_leaf rfl
      obtain ⟨x', hx', hne⟩ := decode_of_package hx hv h
      exact ⟨x', hx', by simpa using hne⟩
    · have hinner := hv.isInner (by decide)
      exact ⟨x, decode_of_definition hx hv h, iff_of_true rfl hinner.2⟩
  | @many _ q _ member _ _ _ _ _ _ hq hv h =>
    obtain ⟨rfl, rfl⟩ : member = "imports" ∧ q = .importEntry := by
      simpa [Place.members] using hq
    obtain ⟨rfl, -⟩ := hv.of_leaf rfl
    obtain ⟨x', hx', hne⟩ := decode_of_importEntry hx hv h
    exact ⟨x', hx', by simpa using hne⟩

end

/-- A document of a struct with one field, whose type has the given members. -/
def documentOfField (type : List (Text × Document)) : Document :=
  .object [("package", .object []),
    ("type", .object [("kind", .text "struct"),
      ("fields", .list [.object [("name", .text "A"), ("type", .object type)]])])]

/-- A null in the type of a field, which stands before the other members. -/
theorem decode_addsNull_in_field :
    let d := documentOfField [("repr", .text "int")]
    let d' := documentOfField [("short", .null), ("repr", .text "int")]
    let x : Declaration := ⟨"T", .struct [⟨"A", ⟨"int", [], []⟩, [], false⟩], [], [], []⟩
    decode "T" d = .ok x ∧ AddsNull .document .reference d d' ∧ decode "T" d' = .ok x := by
  intro d d' x
  have hx : decode "T" d = .ok x := by decide +kernel
  have hgains : GainsNull "short" (.object [("repr", .text "int")])
      (.object [("short", .null), ("repr", .text "int")]) := .intro [] _ rfl
  have htype : AddsNull .reference .reference _ _ := .here "short" (by decide) hgains
  have hfield : AddsNull .field .reference _ _ :=
    .one "type" (by decide) htype (.intro [("name", .text "A")] [] rfl)
  have hdefinition : AddsNull .definition .reference _ _ :=
    .many "fields" [] [] (by decide) hfield (.intro [("kind", .text "struct")] [] rfl)
  have hadds : AddsNull .document .reference d d' :=
    .one "type" (by decide) hdefinition (.intro [("package", .object [])] [] rfl)
  obtain ⟨x', hx', hsame⟩ := decode_addsNull hx hadds
  obtain rfl : x' = x := hsame.mpr (by decide)
  exact ⟨hx, hadds, hx'⟩

/-- A package whose name is null is called `None`. -/
theorem decode_shows_null :
    ¬∀ (name : Text) (d d' : Document) (r : Place) (x : Declaration), decode name d = .ok x →
      AddsNull .document r d d' → decode name d' = .ok x := by
  intro hclaim
  let other : Text × Document := ("type", .object [("kind", .text "other")])
  let d : Document := .object [("package", .object [("path", .text "m/p")]), other]
  let d' : Document :=
    .object [("package", .object [("path", .text "m/p"), ("name", .null)]), other]
  have hx : decode "T" d = .ok ⟨"T", .other "other", "m/p", [], []⟩ := by decide +kernel
  have hgains : GainsNull "name" (.object [("path", .text "m/p")])
      (.object [("path", .text "m/p"), ("name", .null)]) := .intro [("path", .text "m/p")] [] rfl
  have hpackage : AddsNull .package .package _ _ := .here "name" (by decide) hgains
  have hadds : AddsNull .document .package d d' :=
    .one "package" (by decide) hpackage (.intro [] [other] rfl)
  have hx' : decode "T" d' = .ok ⟨"T", .other "other", "m/p", "None", []⟩ := by decide +kernel
  cases (hclaim "T" d d' .package _ hx hadds).symm.trans hx'

end Declaration

end Stencil
