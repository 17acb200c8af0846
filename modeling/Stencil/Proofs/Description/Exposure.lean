import Stencil.Proofs.Template.Keeping
import Stencil.Template.Render

/-!
# What templates find in a description

A description is put into a store piece by piece, and nothing that is in the store is changed by
that (`Builds`). So what a value stands for (`ListOf`, `Method.Shown`, `Field.Shown`) stays when
more is added, and as long as what is there is kept (`Persists`).

`exists_context` : the template of a description is given its name, its package, its imports, its
methods and its fields, all of them in order; there are no methods and no fields where the shape is
of the other kind or is not known.
-/

namespace Stencil.Description

open Template (Store Keeps Bindings Eval)

variable {α β : Type}

/-! ## What values stand for -/

/-- What is said of a value stays as long as a store is kept. -/
def Persists (P : Store → α → Prop) : Prop :=
  ∀ ⦃store store' : Store⦄ ⦃a : α⦄, Keeps store store' → P store a → P store' a

/-- A list in the store, whose values stand for `xs` one by one. -/
def ListOf (R : α → Store → Value → Prop) (xs : List α) (store : Store) (v : Value) : Prop :=
  ∃ p vs, v = .list p ∧ store[p]? = some (.list vs) ∧ List.Forall₂ (R · store) xs vs

/-- A value that needs no store. -/
def Just (value : α → Value) (x : α) (_ : Store) (v : Value) : Prop := v = value x

/-- An object that stands for a method. -/
def Method.Shown (m : Method) (store : Store) (v : Value) : Prop :=
  ∃ params results, v = .record .method [("name", .text m.name), ("params", params),
      ("results", results), ("variadic", .bool m.variadic)] ∧
    ListOf (Just Var.value) m.params store params ∧ ListOf (Just Var.value) m.results store results

/-- The entries of a table of texts. -/
def entryValues (entries : List (Text × Text)) : List (Value × Value) :=
  entries.map fun (k, v) => (.text k, .text v)

/-- An object that stands for a field. -/
def Field.Shown (f : Field) (store : Store) (v : Value) : Prop :=
  ∃ p, v = .record .field [("name", .text f.name), ("type", f.type.value), ("tags", .dict p),
      ("embedded", .bool f.embedded)] ∧
    store[p]? = some (.dict ((entryValues f.tags).map some))

/-- An object that stands for the methods or the fields. -/
def Shape.Shown : Option Shape → Store → Value → Prop
  | none, _, v => v = .none
  | some (.interface methods), store, v =>
    ∃ list, v = .record .interfaceShape [("methods", list)] ∧
      ListOf Method.Shown methods store list
  | some (.struct fields), store, v =>
    ∃ list, v = .record .structShape [("fields", list)] ∧ ListOf Field.Shown fields store list

theorem persists_just (value : α → Value) (x : α) : Persists (Just value x) :=
  fun _ _ _ _ h => h

theorem persists_listOf {R : α → Store → Value → Prop} (hR : ∀ x, Persists (R x)) (xs : List α) :
    Persists (ListOf R xs) := by
  rintro store store' _ hk ⟨p, vs, rfl, hp, hvs⟩
  exact ⟨p, vs, rfl, hk.list hp, hvs.imp fun x _ h => hR x hk h⟩

theorem Method.persists_shown (m : Method) : Persists m.Shown := by
  rintro store store' _ hk ⟨params, results, rfl, hparams, hresults⟩
  have hvars := persists_listOf (persists_just Var.value)
  exact ⟨params, results, rfl, hvars _ hk hparams, hvars _ hk hresults⟩

theorem Field.persists_shown (f : Field) : Persists f.Shown := by
  rintro store store' _ hk ⟨p, rfl, hp⟩
  exact ⟨p, rfl, hk.dict hp⟩

/-! ## Putting values into the store -/

/-- What a computation makes of every store, which it keeps. -/
def Builds (b : Build α) (P : Store → α → Prop) : Prop :=
  ∀ store, Keeps store (b store).2 ∧ P (b store).2 (b store).1

theorem builds_pure {P : Store → α → Prop} {a : α} (h : ∀ store, P store a) :
    Builds (pure a) P :=
  fun store => ⟨.refl store, h store⟩

theorem Builds.bind {b : Build α} {f : α → Build β} {P : Store → α → Prop}
    {Q : Store → β → Prop} (hb : Builds b P) (hP : Persists P)
    (hf : ∀ a, Builds (f a) fun store c => P store a → Q store c) : Builds (b >>= f) Q := by
  intro store
  obtain ⟨hk, ha⟩ := hb store
  obtain ⟨hk', hc⟩ := hf (b store).1 (b store).2
  exact ⟨hk.trans hk', hc (hP hk' ha)⟩

theorem builds_mapM {R : α → Store → β → Prop} (hR : ∀ x, Persists (R x)) {f : α → Build β}
    (hf : ∀ x, Builds (f x) (R x)) :
    ∀ xs : List α, Builds (xs.mapM f) fun store ys => List.Forall₂ (R · store) xs ys
  | [] => builds_pure fun _ => .nil
  | x :: xs => by
    have hpersists : Persists fun store ys => List.Forall₂ (R · store) xs ys :=
      fun _ _ _ hk h => h.imp fun x _ hx => hR x hk hx
    rw [List.mapM_cons]
    refine (hf x).bind (hR x) fun y => (builds_mapM hR hf xs).bind hpersists fun ys => ?_
    exact builds_pure fun _ hys hy => .cons hy hys

theorem builds_listed (vs : List Value) :
    Builds (listed vs) fun store v => ∃ p, v = .list p ∧ store[p]? = some (.list vs) :=
  fun store => ⟨Keeps.append store _, store.length, rfl, List.getElem?_concat_length⟩

theorem builds_listOf {R : α → Store → Value → Prop} (hR : ∀ x, Persists (R x))
    {f : α → Build Value} (hf : ∀ x, Builds (f x) (R x)) (xs : List α) :
    Builds (do listed (← xs.mapM f)) (ListOf R xs) := by
  have hpersists : Persists fun store vs => List.Forall₂ (R · store) xs vs :=
    fun _ _ _ hk h => h.imp fun x _ hx => hR x hk hx
  refine (builds_mapM hR hf xs).bind hpersists fun vs store => ?_
  obtain ⟨hk, p, hp, hlist⟩ := builds_listed vs store
  exact ⟨hk, fun hvs => ⟨p, vs, hp, hlist, hvs⟩⟩

theorem builds_listOf_just (value : α → Value) (xs : List α) :
    Builds (listed (xs.map value)) (ListOf (Just value) xs) := by
  intro store
  obtain ⟨hk, p, hp, hlist⟩ := builds_listed (xs.map value) store
  refine ⟨hk, p, xs.map value, hp, hlist, ?_⟩
  rw [List.forall₂_map_right_iff, List.forall₂_same]
  exact fun _ _ => rfl

theorem Method.builds_value (m : Method) : Builds m.value m.Shown := by
  have hvars := persists_listOf (persists_just Var.value)
  refine (builds_listOf_just Var.value m.params).bind (hvars _) fun params => ?_
  refine (builds_listOf_just Var.value m.results).bind (hvars _) fun results => ?_
  exact builds_pure fun _ hresults hparams => ⟨params, results, rfl, hparams, hresults⟩

theorem Field.builds_value (f : Field) : Builds f.value f.Shown := by
  intro store
  have hslots : (entryValues f.tags).map some =
      f.tags.map fun (k, v) => some (.text k, .text v) := by
    rw [entryValues, List.map_map]
    rfl
  refine ⟨Keeps.append store _, store.length, rfl, ?_⟩
  rw [hslots]
  exact List.getElem?_concat_length

theorem Shape.builds_value : ∀ shape : Option Shape, Builds (Shape.value shape) (Shape.Shown shape)
  | none => builds_pure fun _ => rfl
  | some (.interface methods) => by
    have hlist := builds_listOf Method.persists_shown Method.builds_value methods
    intro store
    obtain ⟨hk, hmethods⟩ := hlist store
    exact ⟨hk, _, rfl, hmethods⟩
  | some (.struct fields) => by
    have hlist := builds_listOf Field.persists_shown Field.builds_value fields
    intro store
    obtain ⟨hk, hfields⟩ := hlist store
    exact ⟨hk, _, rfl, hfields⟩

/-- The fields of the object that stands for a description. -/
def rootFields (d : Description) (imports shape : Value) : Bindings :=
  [("name", .text d.name), ("package", (d.package.map Package.value).getD .none),
    ("imports", imports), ("shape", shape)]

/-- The object that stands for a description. -/
theorem exists_expose (d : Description) : ∃ imports shape,
    d.expose.root = .record .description (rootFields d imports shape) ∧
    ListOf (Just Package.value) d.imports d.expose.store imports ∧
    Shape.Shown d.shape d.expose.store shape := by
  obtain ⟨-, himports⟩ := builds_listOf_just Package.value d.imports []
  obtain ⟨hk, hshape⟩ := Shape.builds_value d.shape (listed (d.imports.map Package.value) []).2
  exact ⟨_, _, rfl, persists_listOf (persists_just _) _ hk himports, hshape⟩

/-! ## The names that a template is given -/

/-- What a template is given. -/
structure Context (d : Description) (given : Bindings) (store : Store) : Prop where
  name : given.lookup "name".toList = some (.text d.name)
  package : given.lookup "package".toList = some ((d.package.map Package.value).getD .none)
  imports : ∃ v, given.lookup "imports".toList = some v ∧
    ListOf (Just Package.value) d.imports store v
  methods : ∃ v, given.lookup "methods".toList = some v ∧ ListOf Method.Shown d.methods store v
  fields : ∃ v, given.lookup "fields".toList = some v ∧ ListOf Field.Shown d.fields store v
  quote : given.lookup "quote".toList = none

section

open Template

variable {d : Description} {fields : Bindings} {shape : Value} {store : Store}
  {R : α → Store → Value → Prop} {xs : List α} {resume : Resume}

/-- The list of a shape is there, or it is a new and empty one. -/
theorem exists_of_pure_or_newList {r : Eval Value}
    (h : (∃ v, r = pure v ∧ ListOf R xs store v) ∨ (r = newList [] ∧ xs = [])) :
    ∃ v store', r resume store = (.ok v, store') ∧ Keeps store store' ∧ ListOf R xs store' v := by
  obtain ⟨v, rfl, hlist⟩ | ⟨rfl, rfl⟩ := h
  · exact ⟨v, store, rfl, .refl store, hlist⟩
  · refine ⟨.list store.length, store ++ [.list []], rfl, .append store _, ?_⟩
    exact ⟨store.length, [], rfl, List.getElem?_concat_length, .nil⟩

theorem exists_methods (hfind : fields.find? "shape" = some shape)
    (h : Shape.Shown d.shape store shape) :
    ∃ v store', shapeList .interfaceShape "methods" fields resume store = (.ok v, store') ∧
      Keeps store store' ∧ ListOf Method.Shown d.methods store' v := by
  refine exists_of_pure_or_newList ?_
  rw [shapeList, hfind, Description.methods]
  rcases hd : d.shape with _ | methods | own <;> rw [hd] at h
  · obtain rfl := h
    exact .inr ⟨rfl, rfl⟩
  · obtain ⟨list, rfl, hlist⟩ := h
    exact .inl ⟨list, rfl, hlist⟩
  · obtain ⟨list, rfl, -⟩ := h
    exact .inr ⟨rfl, rfl⟩

theorem exists_fields (hfind : fields.find? "shape" = some shape)
    (h : Shape.Shown d.shape store shape) :
    ∃ v store', shapeList .structShape "fields" fields resume store = (.ok v, store') ∧
      Keeps store store' ∧ ListOf Field.Shown d.fields store' v := by
  refine exists_of_pure_or_newList ?_
  rw [shapeList, hfind, Description.fields]
  rcases hd : d.shape with _ | methods | own <;> rw [hd] at h
  · obtain rfl := h
    exact .inr ⟨rfl, rfl⟩
  · obtain ⟨list, rfl, -⟩ := h
    exact .inr ⟨rfl, rfl⟩
  · obtain ⟨list, rfl, hlist⟩ := h
    exact .inl ⟨list, rfl, hlist⟩

end

theorem Shape.persists_shown : ∀ shape : Option Shape, Persists (Shape.Shown shape)
  | none => fun _ _ _ _ h => h
  | some (.interface methods) => by
    rintro store store' _ hk ⟨list, rfl, hlist⟩
    exact ⟨list, rfl, persists_listOf Method.persists_shown _ hk hlist⟩
  | some (.struct fields) => by
    rintro store store' _ hk ⟨list, rfl, hlist⟩
    exact ⟨list, rfl, persists_listOf Field.persists_shown _ hk hlist⟩

/-- The template of a description is given what stands for its parts. -/
theorem exists_context (d : Description) : ∃ fields given store,
    d.expose.root = .record .description fields ∧
    Template.contextOf fields Template.unanswered d.expose.store = (.ok given, store) ∧ Context d given store := by
  obtain ⟨imports, shape, hroot, himports, hshape⟩ := d.exists_expose
  have hfind : (rootFields d imports shape).find? "shape" = some shape := rfl
  obtain ⟨methods, store₁, hmethods, hk₁, hlist₁⟩ := exists_methods hfind hshape
  obtain ⟨own, store₂, hown, hk₂, hlist₂⟩ :=
    exists_fields hfind (Shape.persists_shown _ hk₁ hshape)
  let fields := rootFields d imports shape
  have hgiven : Template.contextOf fields Template.unanswered d.expose.store =
      (.ok [("description", .record .description fields), ("name", .text d.name),
        ("package", (d.package.map Package.value).getD .none), ("imports", imports),
        ("is_interface", .bool (Template.isShaped .interfaceShape fields)),
        ("is_struct", .bool (Template.isShaped .structShape fields)), ("methods", methods),
        ("fields", own)], store₂) := by
    rw [Template.contextOf, given_bind_apply_of_ok hmethods, given_bind_apply_of_ok hown]
    rfl
  refine ⟨fields, _, store₂, hroot, hgiven, ?_⟩
  refine ⟨rfl, rfl, ⟨imports, rfl, ?_⟩, ⟨methods, rfl, ?_⟩, ⟨own, rfl, hlist₂⟩, rfl⟩
  · exact persists_listOf (persists_just _) _ (hk₁.trans hk₂) himports
  · exact persists_listOf Method.persists_shown _ hk₂ hlist₁

end Stencil.Description
