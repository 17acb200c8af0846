import Stencil.Example.Templates
import Stencil.Proofs.Description.Fields
import Stencil.Proofs.Entries.Image
import Stencil.Proofs.Template.Interpolation
import Stencil.Proofs.Template.Rounds

/-!
# The accessors of a struct

`Getter.text` says which accessors a struct gets, from its fields and what their annotations say.
`render_getter` : this is what the template makes of the description of every struct that can be
described. Of an annotation the first entry of each key counts : a field is left out when its first
`skip` has no value or says `true`, and its first `alias` names the accessor.
-/

namespace Stencil.Example

open Template
open Template.Reader (word dotted put tag StatesAs ReadsAs)

namespace Getter

/-! ## The text -/

/-- Whether an annotation leaves its field out. -/
def skips (tags : List (Text × Text)) : Bool := tags.lookup "skip".toList == some "true".toList

/-- The name of the accessor of a field with an annotation. -/
def accessorName (field : Text) (tags : List (Text × Text)) : Text :=
  (tags.lookup "alias".toList).getD ("Get" ++ field)

/-- The accessor of a field of this type, in a struct of this name. -/
def accessorText (name field type : Text) (tags : List (Text × Text)) : Text :=
  "\n// " ++ accessorName field tags ++ " returns " ++ field ++ ".\nfunc (e *" ++ name ++ ") " ++
    accessorName field tags ++ "() " ++ type ++ " \x7b\n\treturn e." ++ field ++ "\n\x7d\n"

/-- What the annotation of a field says, each key with one value. -/
def tagsOf (key : Text) (f : Declaration.Field) : List (Text × Text) :=
  (StructTag.entries f.tag key).toOption.getD []

/-- What a field of a declaration gives. A type without a short name is written by its name. -/
def fieldText (key name : Text) (f : Declaration.Field) : Text :=
  if skips (tagsOf key f) then []
  else accessorText name f.name (if f.type.short.isEmpty then f.type.full else f.type.short)
    (tagsOf key f)

/-- The accessors of a struct with fields, in a package. -/
def text (key name package : Text) (fields : List Declaration.Field) : Text :=
  "// Code generated by gogen. DO NOT EDIT.\n\npackage " ++ package ++ "\n" ++
    fields.flatMap (fieldText key name)

/-! ## Reading the template -/

def field (part : Text) : Expr := .attr (.name "f") part

/-- A value of the annotation of the current field. -/
def get (args : List Expr) : Expr := .call (.attr (field "tags") "get") args [] none none

def kept : Expr := .compare (get [.text "skip"]) [(.ne, .text "true")]

def accessor : Expr := get [.text "alias", .concat [.text "Get", field "name"]]

def accessorBody : List Node :=
  [.data "\n// ", .print accessor, .data " returns ", .print (field "name"), .data ".\nfunc (e *",
    .print Slot.name.expr, .data ") ", .print accessor, .data "() ",
    .print (.attr (field "type") "short_name"), .data " \x7b\n\treturn e.", .print (field "name"),
    .data "\n\x7d\n"]

def accessorsNode : Node := .forLoop (.name "f") (.name "fields") (some kept) accessorBody []

/-- The statements of the template. -/
def nodes : List Node :=
  [.data "// Code generated by gogen. DO NOT EDIT.\n\npackage ", .print Slot.packageName.expr,
    .data "\n", accessorsNode]

def getTokens (args : List Token) : List Token :=
  dotted ["f", "tags", "get"] ++ .op .lparen :: args ++ [.op .rparen]

def fieldTokens : List Token := put (dotted ["f", "name"])

def accessorTokens : List Token :=
  put (getTokens ([.text "alias", .op .comma, .text "Get", .op .tilde] ++ dotted ["f", "name"]))

def accessorsTokens : List Token :=
  [word "for", word "f", word "in", word "fields", word "if"] ++ getTokens [.text "skip"] ++
    [.op .ne, .text "true", .blockEnd, .data "\n// "] ++ accessorTokens ++ .data " returns " ::
    fieldTokens ++ .data ".\nfunc (e *" :: put Slot.name.tokens ++ .data ") " :: accessorTokens ++
    .data "() " :: put (dotted ["f", "type", "short_name"]) ++ .data " \x7b\n\treturn e." ::
    fieldTokens ++ [.data "\n\x7d\n", .blockBegin, word "endfor"]

/-- The tokens of the template. -/
def tokens : List Token :=
  .data "// Code generated by gogen. DO NOT EDIT.\n\npackage " :: (put Slot.packageName.tokens ++
    .data "\n" :: (tag accessorsTokens ++ []))

section

-- the template is evaluated character by character and token by token
set_option maxRecDepth 20000

theorem scan_getter : (Token.scan getter).map Token.unlocated = some tokens := by
  unfold getter
  -- evaluation is quick on characters and slow on string literals
  repeat rewrite [String.toList_ofList]
  decide +kernel

theorem statesAs_accessors : StatesAs accessorsTokens accessorsNode :=
  fun _ _ _ => rfl

end

theorem readsAs_tokens : ReadsAs tokens nodes :=
  .text (.put Slot.packageName.printsAs (.text (.tag statesAs_accessors Reader.readsAs_nil) _)) _

theorem compile_getter : compile defaultHelpers getter = .ok nodes := by
  have hcheck : Check.nodes defaultHelpers false nodes = [] := by decide +kernel
  have hlimits : Limits.nodes 0 1 nodes = true := by decide +kernel
  -- the blocks set no names
  have hsettled : Node.settled nodes = nodes := rfl
  rw [compile_of_parse (parse_eq_ok_of_scan scan_getter readsAs_tokens) hcheck hlimits, hsettled]

/-! ## Looking up what an annotation says -/

section

variable {m : Machine} {s : Scope} {store : Store} {f : Description.Field} {v : Value} {p : Place}
  {tags : List (Text × Text)} {k : Text} {rest : List Value}

theorem equalWith_text (inner : Place → Place → Eval Bool) (k k' : Text) :
    equalWith inner (.text k') (.text k) = pure (k' == k) := by
  rw [equalWith]

theorem entryWith?_text (inner : Place → Place → Eval Bool) (k : Text) :
    ∀ tags : List (Text × Text),
      entryWith? inner (.text k) (Description.entryValues tags) =
        pure ((tags.lookup k).map fun t => (.text k, .text t))
  | [] => rfl
  | (k', t) :: tags => by
    have hstep : entryWith? inner (.text k) (Description.entryValues ((k', t) :: tags)) =
        equalWith inner (.text k') (.text k) >>= fun b =>
          if b then pure (some (.text k', .text t))
          else entryWith? inner (.text k) (Description.entryValues tags) := rfl
    rw [hstep, equalWith_text, pure_bind, entryWith?_text inner k tags, List.lookup_cons]
    by_cases hk : k' = k
    · rw [hk, beq_self_eq_true]
      rfl
    · rw [beq_false_of_ne hk, beq_false_of_ne (Ne.symm hk)]
      rfl

theorem find?_text (k : Text) (tags : List (Text × Text)) :
    find? (.text k) (Description.entryValues tags) = pure ((tags.lookup k).map .text) := by
  have hfind : find? (.text k) (Description.entryValues tags) =
      entryWith? (equalAt frames) (.text k) (Description.entryValues tags) >>=
        fun e => pure (e.map Prod.snd) := rfl
  rw [hfind, entryWith?_text, pure_bind]
  cases tags.lookup k <;> rfl

/-- A table of texts gives what is under a key, or else what comes with the key. -/
theorem gives_get (hp : store[p]? = some (.dict ((Description.entryValues tags).map some)))
    (hrest : rest.length ≤ 1) :
    Gives store (callDict .get p ⟨.text k :: rest, []⟩)
      (((tags.lookup k).map .text).getD (rest.head?.getD .none)) := by
  have hargs : Gives store (positional 1 2 ⟨.text k :: rest, []⟩ : Eval (List Value))
      (.text k :: rest) := by
    have hfit : (⟨.text k :: rest, []⟩ : Args).positional? 1 2 = some (.text k :: rest) := by
      simp [Args.positional?, hrest]
    rw [positional, hfit]
    exact gives_pure _
  have hfind : Gives store (find? (.text k) (Description.entryValues tags))
      ((tags.lookup k).map .text) := by
    rw [find?_text]
    exact gives_pure _
  exact hargs.bind ((gives_entriesAt hp).bind (hfind.bind (gives_pure _)))

/-! ## A field -/

variable (hv : s.value m "f" = v) (hf : f.Shown store v)

include hv hf

theorem evaluates_field : Evaluates m s store (field "name") (.text f.name) := by
  obtain ⟨p, rfl, -⟩ := hf
  exact (evaluates_name hv).attr (gives_of_eq fun _ _ => rfl)

theorem evaluates_type :
    Evaluates m s store (.attr (field "type") "short_name") (.text f.type.shortName) := by
  obtain ⟨p, rfl, -⟩ := hf
  exact ((evaluates_name hv).attr (gives_of_eq fun _ _ => rfl)).attr (gives_of_eq fun _ _ => rfl)

theorem evaluates_get {args : List Expr}
    (hargs : EvaluatesAll m s store args (.text k :: rest)) (hrest : rest.length ≤ 1) :
    Evaluates m s store (get args)
      (((f.tags.lookup k).map .text).getD (rest.head?.getD .none)) := by
  obtain ⟨p, rfl, hp⟩ := hf
  have hget : Evaluates m s store (.attr (field "tags") "get") (.method (.dict p) (.dict .get)) :=
    ((evaluates_name hv).attr (gives_of_eq fun _ _ => rfl)).attr (gives_of_eq fun _ _ => rfl)
  exact hget.call hargs (gives_get hp hrest)

theorem evaluates_kept : Evaluates m s store kept (.bool !skips f.tags) := by
  have hget := evaluates_get hv hf (.cons (evaluates_text "skip") evaluatesAll_nil) (Nat.zero_le 1)
  refine .compare (evaluates_text "true") hget ?_
  rw [skips]
  cases f.tags.lookup "skip".toList with
  | none => exact gives_of_eq fun _ _ => rfl
  | some t => exact gives_ne_text t "true"

theorem evaluates_accessor :
    Evaluates m s store accessor (.text (accessorName f.name f.tags)) := by
  have hdefault := (evaluates_text "Get").concat (evaluates_field hv hf)
  have hget := evaluates_get hv hf
    (.cons (evaluates_text "alias") (.cons hdefault evaluatesAll_nil)) (Nat.le_refl 1)
  rw [accessorName]
  cases halias : f.tags.lookup "alias".toList with
  | none =>
    rw [halias] at hget
    exact hget
  | some t =>
    rw [halias] at hget
    exact hget

theorem makes_accessor {name : Text} (hname : Evaluates m s store Slot.name.expr (.text name)) :
    Makes m s store accessorBody (accessorText name f.name f.type.shortName f.tags) := by
  have hfield := evaluates_field hv hf
  have htype := evaluates_type hv hf
  have haccessor := evaluates_accessor hv hf
  have hbody := Makes.data " \x7b\n\treturn e." (.print hfield (.data "\n\x7d\n" makes_nil))
  have hsignature := Makes.data ") " (.print haccessor (.data "() " (.print htype hbody)))
  have hcomment := Makes.data " returns " (.print hfield (.data ".\nfunc (e *"
    (.print hname hsignature)))
  refine .of_eq (.data "\n// " (.print haccessor hcomment)) ?_
  unfold accessorText
  simp only [List.append_assoc, List.append_nil]

end

/-! ## The template -/

/-- The accessors of the fields of a description. -/
def accessorTexts (d : Description) : Text :=
  (d.fields.filter fun f => !skips f.tags).flatMap fun f =>
    accessorText d.name f.name f.type.shortName f.tags

theorem makes_nodes {d : Description} {p : Description.Package} {m : Machine} {s : Scope}
    {store : Store} {q : Place} {values : List Value} (h : Slot.Provided d p m s)
    (hvalue : s.value m "fields" = .list q) (hlist : store[q]? = some (.list values))
    (hfields : List.Forall₂ (fun f w => f.Shown store w) d.fields values) :
    Makes m s store nodes ("// Code generated by gogen. DO NOT EDIT.\n\npackage " ++ p.name ++
      "\n" ++ accessorTexts d) := by
  have hloop : Makes m s store [accessorsNode] (accessorTexts d ++ []) := by
    refine .forLoop_if (evaluates_name hvalue) hlist hfields ?_ ?_ makes_nil
    · exact fun f v hf => evaluates_kept rfl hf
    · intro store₁ place f v hk hf
      have hname : (s.enter [("f", v), ("loop", .loop place)]).value m "name" = .text d.name := by
        rw [Scope.value_enter, h.name]
        rfl
      have hshown : f.Shown store₁ v := f.persists_shown hk hf
      exact makes_accessor rfl hshown (evaluates_name hname)
  have hpackage := Slot.evaluates_expr h .packageName store
  refine .of_eq (.data _ (.print hpackage (.data "\n" hloop))) ?_
  simp only [Slot.value, List.append_assoc, List.append_nil]

theorem render_of_package {d : Description} {p : Description.Package} (hp : d.package = some p) :
    (render defaultHelpers getter d.expose).1 =
      .ok ("// Code generated by gogen. DO NOT EDIT.\n\npackage " ++ p.name ++ "\n" ++
        accessorTexts d) := by
  obtain ⟨fields, given, store, hroot, hgiven, hcontext⟩ := d.exists_context
  obtain ⟨_, hlist, q, values, rfl, hq, hfields⟩ := hcontext.fields
  have hunset : Node.unset nodes = [] := by decide +kernel
  have hprovided : Slot.Provided d p (machine defaultHelpers given callDepth) ⟨[], none, none, []⟩ :=
    Slot.provided_of_context hcontext hp (fun _ _ => rfl) _
  refine render_of_gives (s := ⟨[], none, none, []⟩) compile_getter hroot hgiven ?_
  rw [hunset, List.map_nil]
  exact makes_nodes hprovided (Scope.value_given rfl rfl hlist) hq hfields

/-! ## Extraction -/

variable {key : Text} {f : Declaration.Field} {f' : Description.Field}

theorem tagsOf_of_extractField (h : Description.extractField key f = .ok f') :
    tagsOf key f = f'.tags := by
  obtain ⟨-, -, htags, -⟩ := Description.extractField_eq_ok_iff.mp h
  rw [tagsOf, htags]
  rfl

theorem fieldText_of_extractField (h : Description.extractField key f = .ok f') (name : Text) :
    fieldText key name f =
      if skips f'.tags then [] else accessorText name f'.name f'.type.shortName f'.tags := by
  have htagsOf := tagsOf_of_extractField h
  obtain ⟨hname, htype, -, -⟩ := Description.extractField_eq_ok_iff.mp h
  obtain ⟨-, htype⟩ := Description.extractType_eq_ok_iff.mp htype
  rw [fieldText, htagsOf, hname, htype]
  rfl

theorem accessorTexts_of_extract {fields : List Declaration.Field} {own : List Description.Field}
    (h : List.Forall₂ (fun f f' => Description.extractField key f = .ok f') fields own)
    (name : Text) :
    (own.filter fun f => !skips f.tags).flatMap
        (fun f => accessorText name f.name f.type.shortName f.tags) =
      fields.flatMap (fieldText key name) := by
  induction h with
  | nil => rfl
  | @cons f f' fields own hf _ ih =>
    rw [List.flatMap_cons, fieldText_of_extractField hf, ← ih, List.filter_cons]
    cases skips f'.tags <;> simp

/-- The annotation of a field that can be described is what its entries say. -/
theorem exists_entries (h : Description.extractField key f = .ok f') :
    ∃ entries, Entries.pairs (StructTag.lookup f.tag key) = .ok entries ∧
      StructTag.entries f.tag key = .ok (tagsOf key f) ∧
      ∀ k, (tagsOf key f).lookup k = Entries.said entries k := by
  have htagsOf := tagsOf_of_extractField h
  obtain ⟨-, -, htags, -⟩ := Description.extractField_eq_ok_iff.mp h
  rw [← htagsOf] at htags
  have hentries := Description.entries_eq f.tag key
  rw [htags, Entries.parse] at hentries
  cases hpairs : Entries.pairs (StructTag.lookup f.tag key) with
  | error fault =>
    rw [hpairs] at hentries
    cases hentries
  | ok entries =>
    rw [hpairs] at hentries
    refine ⟨entries, rfl, htags, fun k => ?_⟩
    rw [Except.ok.inj hentries]
    exact Entries.lookup_flatten entries k

end Getter

/-- The template of the tool makes the accessors of every struct that can be described, in the order
of the fields. What it looks up in an annotation is what the first entry of the key says, so a field
is left out exactly when its first `skip` has no value or says `true`. -/
theorem render_getter {key name : Text} {decl : Declaration} {fields : List Declaration.Field}
    {d : Description} (hstruct : decl.type = .struct fields)
    (h : Description.extract key name (some decl) = .ok d) :
    (render defaultHelpers getter d.expose).1 =
        .ok (Getter.text key name decl.packageName fields) ∧
      ∀ f ∈ fields, ∃ entries, Entries.pairs (StructTag.lookup f.tag key) = .ok entries ∧
        StructTag.entries f.tag key = .ok (Getter.tagsOf key f) ∧
        (Getter.skips (Getter.tagsOf key f) ↔
          entries.lookup "skip".toList = some [] ∨
            entries.lookup "skip".toList = some "true".toList) ∧
        Getter.accessorName f.name (Getter.tagsOf key f) =
          (Entries.said entries "alias").getD ("Get" ++ f.name) := by
  obtain ⟨hname, hpackage, -, hshape⟩ := Description.extract_some_eq_ok_iff.mp h
  rw [hstruct, Description.extractShape_struct] at hshape
  obtain ⟨own, hown, hd⟩ := map_eq_ok_iff.mp hshape
  have hfields := mapM_eq_ok_iff.mp hown
  refine ⟨?_, fun f hf => ?_⟩
  · have hlist : d.fields = own := by
      rw [Description.fields, ← hd]
      rfl
    have hrender := Getter.render_of_package hpackage
    rwa [Getter.accessorTexts, hlist, hname, Getter.accessorTexts_of_extract hfields] at hrender
  · obtain ⟨f', hf'⟩ := exists_mapM_eq_ok_iff.mp ⟨own, hown⟩ f hf
    obtain ⟨entries, hpairs, hentries, hsaid⟩ := Getter.exists_entries hf'
    refine ⟨entries, hpairs, hentries, ?_, ?_⟩
    · rw [Getter.skips, beq_iff_eq, hsaid, Entries.said_eq_true_iff]
    · rw [Getter.accessorName, hsaid]

/-- Of two `alias` entries and of two `skip` entries the first ones count; what stands under another
key does not. -/
theorem render_getter_first_entries :
    ∃ d, Description.extract "gogen" "User" (some ⟨"User", .struct [
        ⟨"ID", ⟨"int64", "basic", []⟩, "json:\"skip\" gogen:\"alias=Id,alias=Key\"", false⟩,
        ⟨"Secret", ⟨"string", "basic", []⟩, "gogen:\"skip,skip=no\"", false⟩,
        ⟨"Kept", ⟨"*m/user.Box", "pointer", "*Box"⟩, "gogen:\"skip=no,skip,alias\"", false⟩],
        "m/user", "user", []⟩) = .ok d ∧
      (render defaultHelpers getter d.expose).1 = .ok (
        "// Code generated by gogen. DO NOT EDIT.\n\npackage user\n" ++
        "\n// Id returns ID.\nfunc (e *User) Id() int64 \x7b\n\treturn e.ID\n\x7d\n" ++
        "\n// true returns Kept.\nfunc (e *User) true() *Box \x7b\n\treturn e.Kept\n\x7d\n") := by
  let d : Description := ⟨"User", some ⟨"m/user", "user"⟩, [], some (.struct [
    ⟨"ID", ⟨"int64", false, "int64"⟩, [("alias", "Id")], false⟩,
    ⟨"Secret", ⟨"string", false, "string"⟩, [("skip", "true")], false⟩,
    ⟨"Kept", ⟨"*m/user.Box", true, "*Box"⟩, [("skip", "no"), ("alias", "true")], false⟩])⟩
  refine ⟨d, (and_iff_left_of_imp fun h => ?_).mpr (by decide +kernel)⟩
  refine (render_getter rfl h).1.trans (congrArg Except.ok ?_)
  repeat rewrite [String.toList_ofList]
  decide +kernel

end Stencil.Example
