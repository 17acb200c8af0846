import Stencil.Proofs.Example.Mock.Reading

/-!
# The mock of an interface

`Mock.text` says what the mock of a description is : a struct with a function for each method, and
for each method one that forwards its arguments to that function. `render_mock` : this is what the
template makes of every description with a package.

The template has a routine for each way in which a signature mentions parameters and results. The
field, the forwarding method and the call inside of it all go through these routines, so what is
shown of a routine (`makes_types`, `makes_params`, `makes_args`, `makes_results`) serves all three.
-/

namespace Stencil.Example

open Template

namespace Mock

/-! ## The text -/

open Description (Var Package)

/-- The results of a method as a signature writes them. -/
def resultsText : List Var → Text
  | [] => []
  | [r] => " " ++ r.type.shortName
  | rs => " (" ++ Text.joined ", " (rs.map fun r => r.type.shortName) ++ ")"

/-- The types of parameters. -/
def typesText (ps : List Var) : Text := Text.joined ", " (ps.map Var.declType)

/-- Parameters, named by their numbers. -/
def paramsText (ps : List Var) : Text :=
  Text.joined ", " (ps.mapIdx fun i p => "p" ++ Text.ofNat i ++ " " ++ p.declType)

/-- The parameters as arguments; those of a variadic one are passed on. -/
def argsText (ps : List Var) : Text :=
  Text.joined ", " (ps.mapIdx fun i p =>
    "p" ++ Text.ofNat i ++ if p.variadic then ("..." : Text) else [])

/-- The line of an import, with the path as a literal. -/
def importText (i : Package) : Text := "\n\t" ++ GoString.ofText i.path

/-- The imports, if there are any. -/
def importsText (is : List Package) : Text :=
  if is.isEmpty then [] else "\nimport (" ++ is.flatMap importText ++ "\n)\n"

/-- The field with the function for a method. -/
def slotText (m : Description.Method) : Text :=
  "\n\t" ++ m.name ++ "Func func(" ++ typesText m.params ++ ")" ++ resultsText m.results

/-- The method that calls the function for it, in the mock of a type of this name. -/
def forwardText (name : Text) (m : Description.Method) : Text :=
  "\n// " ++ m.name ++ " calls " ++ m.name ++ "Func.\nfunc (m *Mock" ++ name ++ ") " ++ m.name ++
    "(" ++ paramsText m.params ++ ")" ++ resultsText m.results ++ " \x7b\n\t" ++
    (if m.results.isEmpty then [] else ("return " : Text)) ++ "m." ++ m.name ++ "Func(" ++
    argsText m.params ++ ")\n\x7d\n"

/-- The mock of a description in a package. -/
def text (d : Description) (p : Package) : Text :=
  "// Code generated by gogen. DO NOT EDIT.\n\npackage " ++ p.name ++ "\n" ++
    importsText d.imports ++ "\n// Mock" ++ d.name ++ " is a mock of " ++ d.name ++
    ".\ntype Mock" ++ d.name ++ " struct \x7b" ++ d.methods.flatMap slotText ++ "\n\x7d\n" ++
    d.methods.flatMap (forwardText d.name)

/-! ## Parts of a method -/

section

variable {x : Description.Method} {m : Machine} {s : Scope} {store : Store} {v : Value}

theorem evaluates_name (hv : s.value m "m" = v) (hx : x.Shown store v) :
    Evaluates m s store name (.text x.name) := by
  obtain ⟨params, results, rfl, -⟩ := hx
  exact (Template.evaluates_name hv).attr (gives_of_eq fun _ _ => rfl)

theorem exists_params (hv : s.value m "m" = v) (hx : x.Shown store v) :
    ∃ p vs, Evaluates m s store params (.list p) ∧ store[p]? = some (.list vs) ∧
      List.Forall₂ (fun a w => w = Var.value a) x.params vs := by
  obtain ⟨_, results, rfl, ⟨p, vs, rfl, hp, hvs⟩, -⟩ := hx
  exact ⟨p, vs, (Template.evaluates_name hv).attr (gives_of_eq fun _ _ => rfl), hp, hvs⟩

theorem exists_results (hv : s.value m "m" = v) (hx : x.Shown store v) :
    ∃ p vs, Evaluates m s store results (.list p) ∧ store[p]? = some (.list vs) ∧
      List.Forall₂ (fun a w => w = Var.value a) x.results vs := by
  obtain ⟨params, _, rfl, -, ⟨p, vs, rfl, hp, hvs⟩⟩ := hx
  exact ⟨p, vs, (Template.evaluates_name hv).attr (gives_of_eq fun _ _ => rfl), hp, hvs⟩

variable {a : Var}

theorem evaluates_declType (h : s.value m "p" = a.value) :
    Evaluates m s store declType (.text a.declType) :=
  (Template.evaluates_name h).attr (gives_of_eq fun _ _ => rfl)

theorem evaluates_shortName {e : Expr} (h : Evaluates m s store e a.value) :
    Evaluates m s store (shortName e) (.text a.type.shortName) :=
  (h.attr (gives_of_eq fun _ _ => rfl)).attr (gives_of_eq fun _ _ => rfl)

theorem makes_index {p q : Place} {vs : List Value} {i : Nat} {ns : List Node} {u : Text}
    (hi : i < Decimal.pow10 4300) (hloop : s.value m "loop" = .loop p)
    (hat : LoopAt store p q vs (i + 1)) (h : Makes m s store ns u) :
    Makes m s store (.print index :: ns) (Text.ofNat i ++ u) := by
  have hindex : Evaluates m s store index (.int i) :=
    (Template.evaluates_name hloop).attr hat.gives_index0
  exact h.print_shown hindex (gives_shown_nat hi)

/-! ## Routines -/

/-- A loop over parameters or results joins the texts of its rounds. -/
theorem makes_listNode {f : Nat → Var → Text} {item : Text} {items : Expr} {q : Place}
    {vs : List Value} {vars : List Var} {piece ns : List Node} {u : Text}
    (hitem : item ≠ "loop".toList) (hitems : Evaluates m s store items (.list q))
    (hlist : store[q]? = some (.list vs))
    (hvs : List.Forall₂ (fun a w => w = Var.value a) vars vs)
    (hpiece : ∀ {store₁ p i a}, LoopAt store₁ p q vs (i + 1) → i < vars.length →
      Makes m (s.enter [(item, a.value), ("loop", .loop p)]) store₁ piece (f i a))
    (h : Makes m s store ns u) :
    Makes m s store (listNode item items piece :: ns) (Text.joined ", " (vars.mapIdx f) ++ u) := by
  refine .listed hitems hlist hvs hitem (fun {store₁ p i a v} _ hat hi ha => ?_) h
  rw [ha]
  exact hpiece hat hi

theorem makes_types (hv : s.value m "m" = v) (hx : x.Shown store v) :
    Makes m s store typesBody (typesText x.params) := by
  obtain ⟨q, vs, hparams, hlist, hvs⟩ := exists_params hv hx
  rw [typesText, ← mapIdx_const, ← List.append_nil (Text.joined _ _)]
  refine makes_listNode (by decide) hparams hlist hvs (fun _ _ => ?_) makes_nil
  exact .of_eq (.print (evaluates_declType rfl) makes_nil) (List.append_nil _)

theorem makes_params (hlen : x.params.length ≤ Decimal.pow10 4300) (hv : s.value m "m" = v)
    (hx : x.Shown store v) : Makes m s store paramsBody (paramsText x.params) := by
  obtain ⟨q, vs, hparams, hlist, hvs⟩ := exists_params hv hx
  rw [paramsText, ← List.append_nil (Text.joined _ _)]
  refine makes_listNode (by decide) hparams hlist hvs (fun {store₁ p i a} hat hi => ?_) makes_nil
  have hi := Nat.lt_of_lt_of_le hi hlen
  have htype : Evaluates m (s.enter [("p", a.value), ("loop", .loop p)]) store₁ declType
      (.text a.declType) := evaluates_declType rfl
  refine .of_eq (.data "p" (makes_index hi rfl hat (.data " " (.print htype makes_nil)))) ?_
  simp only [List.append_assoc, List.append_nil]

theorem makes_args (hlen : x.params.length ≤ Decimal.pow10 4300) (hv : s.value m "m" = v)
    (hx : x.Shown store v) : Makes m s store argsBody (argsText x.params) := by
  obtain ⟨q, vs, hparams, hlist, hvs⟩ := exists_params hv hx
  rw [argsText, ← List.append_nil (Text.joined _ _)]
  refine makes_listNode (by decide) hparams hlist hvs (fun {store₁ p i a} hat hi => ?_) makes_nil
  have hi := Nat.lt_of_lt_of_le hi hlen
  let round : Bindings := [("p", a.value), ("loop", .loop p)]
  have hvariadic : Evaluates m (s.enter round) store₁ (.attr (.name "p") "variadic")
      (.bool a.variadic) := (Template.evaluates_name rfl).attr (gives_of_eq fun _ _ => rfl)
  have hdots : Makes m (s.enter round) store₁ (if a.variadic then [.data "..."] else [])
      (if a.variadic then "..." else []) := by
    cases a.variadic
    · exact makes_nil
    · exact .of_eq (.data _ makes_nil) (List.append_nil _)
  refine .of_eq (.data "p" (makes_index hi rfl hat
    (.branch hvariadic (gives_truth_bool _) hdots makes_nil))) ?_
  simp only [List.append_assoc, List.append_nil]

theorem makes_results (hfilter : Filter.named? m.helpers "length" = some .size)
    (hv : s.value m "m" = v) (hx : x.Shown store v) :
    Makes m s store resultsBody (resultsText x.results) := by
  obtain ⟨q, vs, hresults, hlist, hvs⟩ := exists_results hv hx
  have hlength : Evaluates m s store (.filter results "length" [] [] none none)
      (.int x.results.length) := by
    rw [hvs.length_eq]
    exact hresults.filter hfilter (gives_length_list hlist)
  have hone : Evaluates m s store
      (.compare (.filter results "length" [] [] none none) [(.eq, .int 1)])
      (.bool ((x.results.length : Int) = 1)) :=
    .compare (evaluates_int 1) hlength (gives_eq_int _ _)
  refine .of_eq (.branch hone (gives_truth_bool _) ?_ makes_nil) (List.append_nil _)
  have htruth := gives_truth_list hlist hvs
  rcases hr : x.results with _ | ⟨r, _ | ⟨r', rs⟩⟩ <;> rw [hr] at hvs htruth
  · exact .of_eq (.branch hresults htruth makes_nil makes_nil) (List.append_nil _)
  · obtain ⟨_, rest, rfl, -, rfl⟩ := List.forall₂_cons_left_iff.mp hvs
    have hfirst := evaluates_shortName (hresults.first hlist)
    exact .of_eq (.data _ (.print hfirst makes_nil)) (by rw [List.append_nil, resultsText])
  · have hnode : Makes m s store
        [listNode "r" results [.print (shortName (.name "r"))], .data ")"]
        (Text.joined ", " ((r :: r' :: rs).map fun a => a.type.shortName) ++
          (")".toList ++ [])) := by
      rw [← mapIdx_const]
      refine makes_listNode (by decide) hresults hlist hvs (fun _ _ => ?_) (.data _ makes_nil)
      refine .of_eq (.print ?_ makes_nil) (List.append_nil _)
      exact evaluates_shortName (Template.evaluates_name rfl)
    refine .of_eq (.branch hresults htruth (.data " (" hnode) makes_nil) ?_
    simp only [resultsText, List.append_assoc, List.append_nil]

end

/-! ## Methods -/

section

variable {d : Description} {p : Package} {given : Bindings} {depth : Nat} {m : Machine} {s : Scope}
  {store : Store} {x : Description.Method} {v : Value}

/-- The names of the template stand for what they stand for behind the definitions. -/
structure Ready (d : Description) (p : Package) (given : Bindings) (depth : Nat) (s : Scope) :
    Prop where
  provided : Slot.Provided d p (machine defaultHelpers given (depth + 1)) s
  routines : ∀ r ∈ routines, s.value (machine defaultHelpers given (depth + 1)) r.1 =
    .routine r.1 [("m", none)] r.2 none

/-- The names stay as they are in the rounds of a loop over the methods. -/
theorem Ready.enter (h : Ready d p given depth s) (round : Value) :
    Ready d p given depth (s.enter [("m", v), ("loop", round)]) := by
  have hvalue {n : Text} (hm : n ≠ "m") (hloop : n ≠ "loop") :
      (s.enter [("m", v), ("loop", round)]).value (machine defaultHelpers given (depth + 1)) n =
        s.value (machine defaultHelpers given (depth + 1)) n := by
    rw [Scope.value_enter, List.lookup_cons, beq_false_of_ne hm, List.lookup_cons,
      beq_false_of_ne hloop]
    rfl
  have hroutines : ∀ r ∈ Mock.routines, r.1 ≠ "m" ∧ r.1 ≠ "loop" := by decide
  obtain ⟨⟨hname, hpackage, hquote, hfilter⟩, hvalues⟩ := h
  refine ⟨⟨?_, ?_, ?_, hfilter⟩, fun r hr => ?_⟩
  · rw [hvalue (by decide) (by decide), hname]
  · rw [hvalue (by decide) (by decide), hpackage]
  · rw [hvalue (by decide) (by decide), hquote]
  · rw [hvalue (hroutines r hr).1 (hroutines r hr).2, hvalues r hr]

/-- A call of a routine makes what its body makes of the method. -/
theorem Ready.evaluates_call (h : Ready d p given depth s) {name t : Text} {body : List Node}
    (hmem : (name, body) ∈ Mock.routines)
    (hm : s.value (machine defaultHelpers given (depth + 1)) "m" = v)
    (hbody : ∀ s' : Scope, s'.value (machine defaultHelpers given depth) "m" = v →
      Makes (machine defaultHelpers given depth) s' store body t) :
    Evaluates (machine defaultHelpers given (depth + 1)) s store (call name) (.text t) := by
  have hspare : ∀ r ∈ Mock.routines, Node.spareNames r.2 = [] := by decide +kernel
  exact .routine (Template.evaluates_name (h.routines _ hmem)) (hspare _ hmem)
    (Template.evaluates_name hm) hbody

theorem Ready.evaluates_results (h : Ready d p given depth s)
    (hm : s.value (machine defaultHelpers given (depth + 1)) "m" = v) (hx : x.Shown store v) :
    Evaluates (machine defaultHelpers given (depth + 1)) s store (call "results")
      (.text (resultsText x.results)) := by
  have hmem : ("results".toList, resultsBody) ∈ Mock.routines := by
    simp only [Mock.routines, List.mem_cons, true_or, or_true]
  have hfilter : Filter.named? (machine defaultHelpers given depth).helpers "length" =
      some .size := by
    rw [machine_helpers]
    rfl
  exact h.evaluates_call hmem hm fun s' hs' => makes_results hfilter hs' hx

theorem makes_slot (h : Ready d p given depth s)
    (hm : s.value (machine defaultHelpers given (depth + 1)) "m" = v) (hx : x.Shown store v) :
    Makes (machine defaultHelpers given (depth + 1)) s store slotBody (slotText x) := by
  have hmem : ("param_types".toList, typesBody) ∈ Mock.routines := List.mem_cons_self
  have hname := evaluates_name hm hx
  have htypes := h.evaluates_call hmem hm fun s' hs' => makes_types hs' hx
  have hresults := h.evaluates_results hm hx
  refine .of_eq (.data _ (.print hname (.data _ (.print htypes (.data _
    (.print hresults makes_nil)))))) ?_
  simp only [slotText, List.append_assoc, List.append_nil]

theorem makes_forward (h : Ready d p given depth s)
    (hm : s.value (machine defaultHelpers given (depth + 1)) "m" = v) (hx : x.Shown store v)
    (hlen : x.params.length ≤ Decimal.pow10 4300) :
    Makes (machine defaultHelpers given (depth + 1)) s store forwardBody
      (forwardText d.name x) := by
  have hparamsMem : ("params".toList, paramsBody) ∈ Mock.routines := by
    simp only [Mock.routines, List.mem_cons, true_or, or_true]
  have hargsMem : ("args".toList, argsBody) ∈ Mock.routines := by
    simp only [Mock.routines, List.mem_cons, true_or, or_true]
  have hown : Evaluates _ s store Slot.name.expr (.text d.name) :=
    Slot.evaluates_expr h.provided .name store
  have hname := evaluates_name hm hx
  have hparams := h.evaluates_call hparamsMem hm fun s' hs' => makes_params hlen hs' hx
  have hargs := h.evaluates_call hargsMem hm fun s' hs' => makes_args hlen hs' hx
  have hresults := h.evaluates_results hm hx
  obtain ⟨q, vs, hvalue, hlist, hvs⟩ := exists_results hm hx
  have hreturn : Makes (machine defaultHelpers given (depth + 1)) s store
      (if !x.results.isEmpty then [.data "return "] else [])
      (if x.results.isEmpty then [] else "return ") := by
    cases x.results.isEmpty
    · exact .of_eq (.data _ makes_nil) (List.append_nil _)
    · exact makes_nil
  have hcall := Makes.data "m." (.print hname (.data "Func(" (.print hargs
    (.data ")\n\x7d\n" makes_nil))))
  have hbody := Makes.data " \x7b\n\t" (.branch hvalue (gives_truth_list hlist hvs) hreturn hcall)
  have hsignature := Makes.data "(" (.print hparams (.data ")" (.print hresults hbody)))
  have hreceiver := Makes.data "Func.\nfunc (m *Mock" (.print hown (.data ") "
    (.print hname hsignature)))
  have hhead := Makes.data "\n// " (.print hname (.data " calls " (.print hname hreceiver)))
  refine .of_eq hhead ?_
  unfold forwardText
  simp only [List.append_assoc, List.append_nil]

/-! ## Imports -/

theorem makes_import {i : Package} (hquote : s.value m "quote" = .helper .quote)
    (hi : s.value m "imp" = i.value) : Makes m s store importBody (importText i) := by
  have hpath : Evaluates m s store (.attr (.name "imp") "path") (.text i.path) :=
    (Template.evaluates_name hi).attr (gives_of_eq fun _ _ => rfl)
  have hcall := (Template.evaluates_name hquote).call (.cons hpath evaluatesAll_nil)
    (gives_of_eq fun _ _ => rfl)
  exact .of_eq (.data _ (.print hcall makes_nil)) (by rw [List.append_nil, importText])

theorem makes_imports {is : List Package} {q : Place} {vs : List Value}
    (hquote : s.value m "quote" = .helper .quote) (hvalue : s.value m "imports" = .list q)
    (hlist : store[q]? = some (.list vs))
    (hvs : List.Forall₂ (fun i w => w = Package.value i) is vs) :
    Makes m s store [importsNode] (importsText is) := by
  have hlines : Makes m s store
      [.forLoop (.name "imp") (.name "imports") none importBody [], .data "\n)\n"]
      (is.flatMap importText ++ ("\n)\n".toList ++ [])) := by
    rw [List.flatMap_def, ← mapIdx_const]
    refine .forLoop (Template.evaluates_name hvalue) hlist hvs (fun {_ p _ i v} _ _ _ hi => ?_)
      (.data _ makes_nil)
    refine makes_import ?_ hi
    rw [Scope.value_enter, hquote]
    rfl
  refine .of_eq (.branch (Template.evaluates_name hvalue) (gives_truth_list hlist hvs) ?_ makes_nil)
    (List.append_nil _)
  unfold importsText
  cases is.isEmpty
  · refine .of_eq (.data _ hlines) ?_
    simp only [Bool.false_eq_true, if_false, List.append_assoc, List.append_nil]
  · exact makes_nil

/-! ## The template -/

/-- A loop over the methods makes a text of each of them. -/
theorem makes_methodsNode {P : Description.Method → Prop} {f : Description.Method → Text}
    {q : Place} {vs : List Value} {body ns : List Node} {u : Text}
    (hvalue : s.value m "methods" = .list q) (hlist : store[q]? = some (.list vs))
    (hxs : List.Forall₂ (fun x w => x.Shown store w) d.methods vs) (hP : ∀ x ∈ d.methods, P x)
    (hbody : ∀ {store₁ x v} (round : Value), P x → x.Shown store₁ v →
      Makes m (s.enter [("m", v), ("loop", round)]) store₁ body (f x))
    (h : Makes m s store ns u) :
    Makes m s store (methodsNode body :: ns) (d.methods.flatMap f ++ u) := by
  rw [List.flatMap_def, ← mapIdx_const]
  refine .forLoop (Template.evaluates_name hvalue) hlist ((List.forall₂_and_left _ _).mpr ⟨hP, hxs⟩)
    (fun hk _ _ hx => ?_) h
  exact hbody _ hx.1 (Description.Method.persists_shown _ hk hx.2)

/-- The statements behind the definitions make the mock. -/
theorem makes_main {is xs : Place} {isValues xsValues : List Value} (h : Ready d p given depth s)
    (his : s.value (machine defaultHelpers given (depth + 1)) "imports" = .list is)
    (hxs : s.value (machine defaultHelpers given (depth + 1)) "methods" = .list xs)
    (hisAt : store[is]? = some (.list isValues)) (hxsAt : store[xs]? = some (.list xsValues))
    (himports : List.Forall₂ (fun i w => w = Package.value i) d.imports isValues)
    (hmethods : List.Forall₂ (fun x w => x.Shown store w) d.methods xsValues)
    (hlen : ∀ x ∈ d.methods, x.params.length ≤ Decimal.pow10 4300) :
    Makes (machine defaultHelpers given (depth + 1)) s store mainNodes (text d p) := by
  have hname := Slot.evaluates_expr h.provided .name store
  have hpackage := Slot.evaluates_expr h.provided .packageName store
  have hforwards := makes_methodsNode hxs hxsAt hmethods hlen
    (fun round hlen hx => makes_forward (h.enter round) rfl hx hlen) makes_nil
  have hslots := makes_methodsNode hxs hxsAt hmethods (P := fun _ => True) (fun _ _ => trivial)
    (fun round _ hx => makes_slot (h.enter round) rfl hx) (.data "\n\x7d\n" hforwards)
  have htype := Makes.data "\n// Mock" (.print hname (.data " is a mock of " (.print hname
    (.data ".\ntype Mock" (.print hname (.data " struct \x7b" hslots))))))
  have himports :=
    gives_execAll_append (makes_imports h.provided.quote his hisAt himports) htype
  have hhead := Makes.data "// Code generated by gogen. DO NOT EDIT.\n\npackage "
    (.print hpackage (.data "\n" himports))
  refine .of_eq hhead ?_
  unfold text
  simp only [Slot.value, List.append_assoc, List.append_nil]

end

/-- What the definition of a routine sets. -/
def routineBinding (r : Text × List Node) : Text × Value :=
  (r.1, .routine r.1 [("m", none)] r.2 none)

/-- The definitions make no text. -/
theorem execAll_routines (m : Machine) (rs : List (Text × List Node)) (top : Bindings) :
    execAll m (rs.map routineNode) ⟨top, none, none, []⟩ =
      pure (some [], ⟨(rs.map routineBinding).reverse ++ top, none, none, []⟩) := by
  induction rs generalizing top with
  | nil =>
    rw [List.map_nil, execAll]
    rfl
  | cons r rs ih =>
    have hdefine : exec m (routineNode r) ⟨top, none, none, []⟩ =
        pure (some [], ⟨routineBinding r :: top, none, none, []⟩) := by
      rw [routineNode, exec]
      rfl
    rw [List.map_cons, execAll, hdefine]
    simp only [pure_bind, ih]
    rw [List.map_cons, List.reverse_cons, List.append_assoc]
    rfl

end Mock

open Mock in
/-- The template of the tool makes a mock that forwards every method, of every description with a
package. A parameter is named by its number, which can be written up to 4300 digits : no list in a
memory comes near that. -/
theorem render_mock {d : Description} {p : Description.Package} (hp : d.package = some p)
    (hlen : ∀ x ∈ d.methods, x.params.length ≤ Decimal.pow10 4300) :
    (render defaultHelpers mock d.expose).1 = .ok (Mock.text d p) := by
  obtain ⟨fields, given, store, hroot, hgiven, hcontext⟩ := d.exists_context
  obtain ⟨_, his, is, isValues, rfl, hisAt, himports⟩ := hcontext.imports
  obtain ⟨_, hxs, xs, xsValues, rfl, hxsAt, hmethods⟩ := hcontext.methods
  have hunset : Node.unset nodes = routines.map Prod.fst := by decide +kernel
  let unset : Bindings := (routines.map Prod.fst).map fun n => (n, .unset n)
  let top : Bindings := (routines.map routineBinding).reverse ++ unset
  have hready : Ready d p given 245 ⟨top, none, none, []⟩ := by
    have hwords : ∀ n ∈ Slot.words, top.lookup n = none := by
      simp only [Slot.words, List.forall_mem_cons, List.not_mem_nil, false_imp_iff, implies_true,
        and_true]
      exact ⟨rfl, rfl, rfl, rfl⟩
    refine ⟨Slot.provided_of_context hcontext hp hwords _, ?_⟩
    simp only [routines, List.forall_mem_cons, List.not_mem_nil, false_imp_iff, implies_true,
      and_true]
    exact ⟨rfl, rfl, rfl, rfl⟩
  have hmain := makes_main hready (Scope.value_given rfl rfl his) (Scope.value_given rfl rfl hxs)
    hisAt hxsAt himports hmethods hlen
  have hroutines : Gives store (execAll (machine defaultHelpers given callDepth)
      (routines.map routineNode) ⟨unset, none, none, []⟩) (some [], ⟨top, none, none, []⟩) := by
    rw [execAll_routines]
    exact gives_pure _
  refine render_of_gives (s := ⟨top, none, none, []⟩) compile_mock hroot hgiven ?_
  rw [hunset]
  have htext := gives_execAll_append hroutines hmain
  rwa [List.nil_append] at htext

/-- An import, a method without a result, and one with two results that passes the arguments of a
variadic parameter on. -/
theorem render_mock_variadic :
    (render defaultHelpers mock (Description.expose ⟨"Store", some ⟨"m/store", "store"⟩,
      [⟨"context", "context"⟩], some (.interface [⟨"Close", [], [], false⟩,
        ⟨"Find", [⟨"ctx", ⟨"context.Context", false, "context.Context"⟩, false⟩,
            ⟨"keys", ⟨"[]string", false, "[]string"⟩, true⟩],
          [⟨[], ⟨"int", false, "int"⟩, false⟩, ⟨[], ⟨"error", false, "error"⟩, false⟩],
          true⟩])⟩)).1 =
      .ok ("// Code generated by gogen. DO NOT EDIT.\n\npackage store\n" ++
        "\nimport (\n\t\"context\"\n)\n" ++
        "\n// MockStore is a mock of Store.\ntype MockStore struct \x7b" ++
        "\n\tCloseFunc func()\n\tFindFunc func(context.Context, ...string) (int, error)\n\x7d\n" ++
        "\n// Close calls CloseFunc.\nfunc (m *MockStore) Close() \x7b\n\tm.CloseFunc()\n\x7d\n" ++
        "\n// Find calls FindFunc.\nfunc (m *MockStore) Find(p0 context.Context, p1 ...string) " ++
        "(int, error) \x7b\n\treturn m.FindFunc(p0, p1...)\n\x7d\n") := by
  refine (render_mock rfl ?_).trans (congrArg Except.ok ?_)
  · decide +kernel
  · repeat rewrite [String.toList_ofList]
    decide +kernel

end Stencil.Example
