import Stencil.Proofs.Outcome
import Stencil.Template.Render

/-!
# What a rendering asks of values

A rendering comes to demands on values, one after the other : to show one, to add two, to call one,
to go on with a loop (`Demand`). Only demands can end it with a crash, which has no wording
(`Crashes`).

What is absent can be asked about but not used. A demand that takes it for a value
(`Demand.UsesAbsent`) fails with a fault of the template, and never with a crash
(`Demand.calm_of_usesAbsent`). Nor does a question for the truth of a value, or for a part of it by
name, crash for most values (`Demand.calm_of_asks`); only a loop may have to go on for its answer.
-/

namespace Stencil.Template

/-! ## Demands -/

/-- What an evaluation can ask of values. -/
inductive Demand where
  /-- The text of a value. -/
  | shown (v : Value)
  /-- Whether a value counts as true. -/
  | truth (v : Value)
  /-- A value with its sign changed, or with a plus sign before it. -/
  | signed (minus : Bool) (v : Value)
  | binary (op : BinaryOp) (a b : Value)
  | compare (op : Comparison) (a b : Value)
  /-- The part of a value that an attribute names. -/
  | member (v : Value) (name : Text)
  | subscript (v key : Value)
  | slice (v start stop step : Value)
  /-- A new table of entries. -/
  | table (entries : List (Value × Value))
  /-- All that a loop over a value goes through. -/
  | iterate (v : Value)
  /-- Arguments by name with those of a further table. -/
  | spread (named : Bindings) (others : Value)
  /-- A call of anything but a routine of the template. -/
  | call (f : Value) (a : Args)
  | filter (f : Filter) (v : Value) (a : Args)
  | test (t : Test) (v : Value) (a : Args)
  /-- The beginning of a loop over a value. -/
  | start (v : Value)
  /-- The next value of the source of a loop. -/
  | take (loop : Place)
  /-- The names that a value gives to a target. -/
  | unpack (target : Target) (v : Value)
  /-- The text of what statements print. -/
  | text (printed : Printed)
  /-- The names that the arguments of a call give to a routine. -/
  | arguments (params : List Text) (body : List Node) (a : Args)
  /-- What the host refuses : one more call of a routine inside of others, one more round of a loop
  than there is room for, a condition that is tested while it is tested. -/
  | refused (c : Crash)

namespace Demand

/-- A machine that has helpers and nothing else. -/
def bare (helpers : List Helper) : Machine := ⟨helpers, [], fun _ _ _ => return .none⟩

/-- Whether a filter with a name is there, as a test can ask. -/
def isFilter (helpers : List Helper) (name : Text) : Bool := (Filter.named? helpers name).isSome

/-- What is done about a demand. -/
def run (helpers : List Helper) : Demand → Eval Unit
  | shown v => discard (Template.shown v)
  | truth v => discard (Template.truth v)
  | signed minus v => discard (if minus then negated v else plus v)
  | binary op a b => discard (Template.binary op a b)
  | compare op a b => discard (Test.compareBy op a b)
  | member v name => discard (Template.member v name)
  | subscript v key => discard (Template.subscript v key)
  | slice v first last by' => discard (Template.slice v first last by')
  | table entries => discard (tableOf entries)
  | iterate v => discard (Template.iterate v)
  | spread named others => discard (Template.spread named others)
  | call f a => discard (Template.call (bare helpers) default f a)
  | filter f v a => discard (f.apply v a)
  | test t v a => discard (t.run (isFilter helpers) v a)
  | start v => discard (Source.of v)
  | take p => discard (Loop.take p)
  | unpack target v => discard (Template.bind target v)
  | text printed => discard printed.text
  | arguments params body a => discard (givenTo params body a)
  | refused c => crash c

end Demand

/-! ## Crashes -/

variable {α β : Type}

/-- A computation crashes from a store. -/
def Crashes (x : Eval α) (resume : Resume) (store : Store) (c : Crash) : Prop :=
  (x resume store).1 = .error (.crash c)

/-- A computation does not crash. -/
def Calm (x : Eval α) : Prop := ∀ resume store c, ¬Crashes x resume store c

variable {resume : Resume} {store : Store} {c : Crash}

theorem crashes_bind {x : Eval α} {f : α → Eval β} :
    Crashes (x >>= f) resume store c ↔ Crashes x resume store c ∨
      ∃ a store₁, x resume store = (.ok a, store₁) ∧ Crashes (f a) resume store₁ c := by
  unfold Crashes
  rw [given_bind_apply, bind_apply]
  rcases hx : x resume store with ⟨_ | a, store₁⟩
  · refine ⟨fun h => .inl ?_, ?_⟩
    · exact congrArg Except.error (Except.error.inj h)
    · rintro (h | ⟨_, _, ⟨⟩, _⟩)
      exact congrArg Except.error (Except.error.inj h)
  · refine ⟨fun h => .inr ⟨a, store₁, rfl, h⟩, ?_⟩
    rintro (⟨⟨⟩⟩ | ⟨_, _, ⟨⟩, h⟩)
    exact h

theorem crashes_map {x : Eval α} {f : α → β} :
    Crashes (f <$> x) resume store c ↔ Crashes x resume store c := by
  rw [map_eq_pure_bind, crashes_bind]
  refine or_iff_left ?_
  rintro ⟨_, _, _, h⟩
  cases h

theorem crashes_discard {x : Eval α} :
    Crashes (discard x) resume store c ↔ Crashes x resume store c :=
  crashes_map (f := fun _ => ())

theorem calm_pure (a : α) : Calm (pure a : Eval α) := by
  rintro _ _ _ ⟨⟩

theorem calm_fault (f : Fault) : Calm (fault f : Eval α) := by
  rintro _ _ _ ⟨⟩

theorem calm_look (f : Store → α) : Calm (look f) := by
  rintro _ _ _ ⟨⟩

theorem calm_allocate (o : Object) : Calm (allocate o) := by
  rintro _ _ _ ⟨⟩

theorem calm_write (p : Place) (o : Object) : Calm (write p o) := by
  rintro _ _ _ ⟨⟩

theorem Calm.bind {x : Eval α} {f : α → Eval β} (hx : Calm x) (hf : ∀ a, Calm (f a)) :
    Calm (x >>= f) := fun resume store c h => by
  rcases crashes_bind.mp h with h | ⟨a, store₁, _, h⟩
  · exact hx resume store c h
  · exact hf a resume store₁ c h

theorem Calm.map {x : Eval α} (hx : Calm x) (f : α → β) : Calm (f <$> x) :=
  fun resume store c h => hx resume store c (crashes_map.mp h)

theorem calm_discard {x : Eval α} (hx : Calm x) : Calm (discard x) :=
  hx.map fun _ => ()

theorem calm_changeLoop (p : Place) (f : Loop → Loop) : Calm (changeLoop p f) :=
  (calm_look _).bind fun _ => calm_write _ _

theorem calm_steps (source : Source) : Calm source.steps :=
  (calm_look _).bind fun _ => calm_pure _

theorem calm_set (names : Bindings) (s : Scope) : Calm (s.set names) := by
  unfold Scope.set
  split
  · exact calm_pure _
  · exact calm_pure _
  · exact (calm_write _ _).bind fun _ => calm_pure _

theorem calm_share (s : Scope) : Calm s.share := by
  unfold Scope.share
  split
  · exact calm_pure _
  · exact calm_pure _
  · exact (calm_allocate _).bind fun _ => calm_pure _

theorem calm_namesAt : ∀ around : Option Place, Calm (namesAt around)
  | none => calm_pure _
  | some _ => calm_look _

theorem calm_shapeList (kind : RecordKind) (name : Text) (fields : Bindings) :
    Calm (shapeList kind name fields) := by
  have hnew : Calm (newList []) := (calm_allocate _).map _
  unfold shapeList
  split
  · split
    · exact calm_pure _
    · exact hnew
  · exact hnew

theorem calm_contextOf (fields : Bindings) : Calm (contextOf fields) :=
  (calm_shapeList _ _ _).bind fun _ => (calm_shapeList _ _ _).bind fun _ => calm_pure _

/-! ## Questions -/

namespace Demand

/-- A question for the truth of a value or for a part of it by name, where the value has not to go
on for the answer : it is no loop, and no table in which a name could be looked for. -/
inductive Asks : Demand → Prop
  | truth (v : Value) (hloop : ∀ p, v ≠ .loop p)
      (habsent : ∀ missing key, v ≠ .absent false missing (some key)) : Asks (.truth v)
  | member (v : Value) (name : Text) (hloop : ∀ p, v ≠ .loop p) (hdict : ∀ p, v ≠ .dict p)
      (habsent : ∀ lenient missing key, v ≠ .absent lenient missing (some key)) :
    Asks (.member v name)

end Demand

theorem calm_truth {v : Value} (hloop : ∀ p, v ≠ .loop p)
    (habsent : ∀ missing key, v ≠ .absent false missing (some key)) : Calm (truth v) := by
  cases v with
  | loop p => exact absurd rfl (hloop p)
  | absent lenient missing key =>
    cases lenient with
    | true => exact calm_pure _
    | false =>
      cases key with
      | none => exact calm_fault _
      | some key => exact absurd rfl (habsent missing key)
  | list | dict | view => exact (calm_look _).bind fun _ => calm_pure _
  | _ => exact calm_pure _

theorem calm_attribute? {v : Value} (name : Text) (hloop : ∀ p, v ≠ .loop p)
    (habsent : ∀ lenient missing key, v ≠ .absent lenient missing (some key)) :
    Calm (attribute? v name) := by
  unfold attribute?
  split
  case h_1 lenient missing key =>
    cases key with
    | none => exact calm_fault _
    | some key => exact absurd rfl (habsent lenient missing key)
  case h_5 =>
    split
    · exact calm_pure _
    · split
      · unfold descriptionAttribute?
        split_ifs
        · exact (calm_shapeList _ _ _).bind fun _ => calm_pure _
        · exact (calm_shapeList _ _ _).bind fun _ => calm_pure _
        all_goals exact calm_pure _
      all_goals exact calm_pure _
  case h_6 p => exact absurd rfl (hloop p)
  all_goals exact calm_pure _

theorem calm_item?_text {v : Value} (name : Text) (hdict : ∀ p, v ≠ .dict p)
    (habsent : ∀ lenient missing key, v ≠ .absent lenient missing (some key)) :
    Calm (item? v (.text name)) := by
  cases v with
  | dict p => exact absurd rfl (hdict p)
  | absent lenient missing key =>
    cases key with
    | none => exact calm_fault _
    | some key => exact absurd rfl (habsent lenient missing key)
  | list => exact (calm_look _).bind fun _ => calm_pure _
  | _ => exact calm_pure _

theorem calm_lacking_text (v : Value) (name : Text) : Calm (lacking v (.text name)) :=
  (calm_look _).bind fun _ => calm_pure _

/-- The part that an attribute names is found without a crash. -/
theorem calm_member {v : Value} (name : Text) (hloop : ∀ p, v ≠ .loop p)
    (hdict : ∀ p, v ≠ .dict p)
    (habsent : ∀ lenient missing key, v ≠ .absent lenient missing (some key)) :
    Calm (member v name) := by
  refine (calm_attribute? name hloop habsent).bind fun w => ?_
  cases w with
  | some _ => exact calm_pure _
  | none =>
    refine (calm_item?_text name hdict habsent).bind fun w => ?_
    cases w with
    | some _ => exact calm_pure _
    | none => exact calm_lacking_text v name

theorem Demand.calm_of_asks (helpers : List Helper) {d : Demand} (h : d.Asks) :
    Calm (d.run helpers) := by
  cases h with
  | truth v hloop habsent => exact calm_discard (calm_truth hloop habsent)
  | member v name hloop hdict habsent => exact calm_discard (calm_member name hloop hdict habsent)

/-! ## What is absent -/

namespace Demand

/-- A demand that takes what is absent for a value. A text with marks may be filled in with it, and
a text may be searched for it, so these are left out; so is what is missing under a key, since the
key has to be shown. -/
inductive UsesAbsent : Demand → Prop
  | shown (missing : Text) : UsesAbsent (.shown (.absent false missing none))
  | truth (missing : Text) : UsesAbsent (.truth (.absent false missing none))
  | signed (minus lenient : Bool) (missing : Text) :
    UsesAbsent (.signed minus (.absent lenient missing none))
  | left (op : BinaryOp) (lenient : Bool) (missing : Text) (b : Value) :
    UsesAbsent (.binary op (.absent lenient missing none) b)
  | right (op : BinaryOp) (a : Value) (lenient : Bool) (missing : Text)
      (hmark : ∀ s, op = .mod → a ≠ .text s)
      (ha : ∀ lenient missing key, a ≠ .absent lenient missing (some key)) :
    UsesAbsent (.binary op a (.absent lenient missing none))
  | compared (op : Comparison) (missing : Text) (b : Value) (h : op ≠ .in ∧ op ≠ .notin) :
    UsesAbsent (.compare op (.absent false missing none) b)
  | comparedWith (op : Comparison) (a : Value) (missing : Text)
      (ha : ∀ lenient missing key, a ≠ .absent lenient missing (some key)) :
    UsesAbsent (.compare op a (.absent false missing none))
  | member (lenient : Bool) (missing name : Text) :
    UsesAbsent (.member (.absent lenient missing none) name)
  | subscript (lenient : Bool) (missing : Text) (key : Value) :
    UsesAbsent (.subscript (.absent lenient missing none) key)
  | slice (lenient : Bool) (missing : Text) (start stop step : Value) :
    UsesAbsent (.slice (.absent lenient missing none) start stop step)
  | call (lenient : Bool) (missing : Text) (a : Args) :
    UsesAbsent (.call (.absent lenient missing none) a)
  | start (missing : Text) : UsesAbsent (.start (.absent false missing none))
  | iterate (missing : Text) : UsesAbsent (.iterate (.absent false missing none))
  | spread (named : Bindings) (lenient : Bool) (missing : Text) :
    UsesAbsent (.spread named (.absent lenient missing none))

end Demand

section

variable {a : Value} {missing : Text}

theorem calm_refuse (key : Option Value) (h : ∀ k, key ≠ some k) :
    Calm (refuse missing key : Eval α) := by
  cases key with
  | none => exact calm_fault _
  | some k => exact absurd rfl (h k)

theorem calm_binary_absent {op : BinaryOp} {lenient : Bool}
    (hmark : ∀ s, op = .mod → a ≠ .text s)
    (ha : ∀ lenient missing key, a ≠ .absent lenient missing (some key)) :
    Calm (binary op a (.absent lenient missing none)) := by
  cases a with
  | text s =>
    cases op with
    | mod => exact absurd rfl (hmark s rfl)
    | _ => exact calm_fault _
  | absent lenient' missing' key =>
    have hkey : ∀ k, key ≠ some k := fun k h => ha lenient' missing' k (by rw [h])
    cases op <;> exact calm_refuse key hkey
  | _ => cases op <;> exact calm_fault _

theorem calm_equal_absent (b : Value) : Calm (equal (.absent false missing none) b) := by
  cases b <;> exact calm_fault _

theorem calm_equal_with_absent (ha : ∀ lenient missing key, a ≠ .absent lenient missing (some key)) :
    Calm (equal a (.absent false missing none)) := by
  cases a with
  | absent lenient' missing' key =>
    have hkey : ∀ k, key ≠ some k := fun k h => ha lenient' missing' k (by rw [h])
    cases lenient' with
    | true => exact calm_fault _
    | false => exact calm_refuse key hkey
  | _ => exact calm_fault _

theorem calm_ordered_absent (op : Comparison) (b : Value) :
    Calm (ordered op (.absent false missing none) b) :=
  calm_fault _

theorem calm_ordered_with_absent (op : Comparison)
    (ha : ∀ lenient missing key, a ≠ .absent lenient missing (some key)) :
    Calm (ordered op a (.absent false missing none)) := by
  cases a with
  | absent lenient' missing' key =>
    have hkey : ∀ k, key ≠ some k := fun k h => ha lenient' missing' k (by rw [h])
    cases lenient' with
    | true => exact calm_fault _
    | false => exact calm_refuse key hkey
  | _ => exact calm_fault _

theorem calm_compareBy_absent {op : Comparison} (b : Value) (h : op ≠ .in ∧ op ≠ .notin) :
    Calm (Test.compareBy op (.absent false missing none) b) := by
  cases op with
  | eq => exact calm_equal_absent b
  | ne => exact (calm_equal_absent b).bind fun _ => calm_pure _
  | «in» => exact absurd rfl h.1
  | notin => exact absurd rfl h.2
  | _ => exact calm_ordered_absent _ b

theorem calm_compareBy_with_absent (op : Comparison)
    (ha : ∀ lenient missing key, a ≠ .absent lenient missing (some key)) :
    Calm (Test.compareBy op a (.absent false missing none)) := by
  -- no source is made of what is absent, so nothing is looked for in it
  have hcontains : Calm (contains a (.absent false missing none)) := by
    have hsource (k : Source → Eval Bool) : Calm (fault (.absent missing) >>= k) :=
      fun _ _ _ h => by cases h
    cases a <;> exact hsource _
  cases op with
  | eq => exact calm_equal_with_absent ha
  | ne => exact (calm_equal_with_absent ha).bind fun _ => calm_pure _
  | «in» => exact hcontains
  | notin => exact hcontains.bind fun _ => calm_pure _
  | _ => exact calm_ordered_with_absent _ ha

/-- What is absent is refused as a fault of the template. -/
theorem Demand.calm_of_usesAbsent (helpers : List Helper) {d : Demand} (h : d.UsesAbsent) :
    Calm (d.run helpers) := by
  cases h with
  | signed minus => cases minus <;> exact calm_discard (calm_fault _)
  | left op => cases op <;> exact calm_discard (calm_fault _)
  | right op a lenient missing hmark ha => exact calm_discard (calm_binary_absent hmark ha)
  | compared op missing b hop => exact calm_discard (calm_compareBy_absent b hop)
  | comparedWith op a missing ha => exact calm_discard (calm_compareBy_with_absent op ha)
  | _ => exact calm_discard (calm_fault _)

end

end Stencil.Template
