import Stencil.Proofs.Description.Exposure
import Stencil.Proofs.Template.Evaluation
import Stencil.Proofs.Template.Reading

/-!
# Interpolation

A slot is a tag that prints the name of a description, the name or the path of its package, or its
name as a literal (`Slot`). It is followed here through scanning (`Slot.scansTag`), reading
(`Slot.printsAs`) and evaluation (`Slot.evaluates_expr`).

`render_fill` : a template of plain texts with slots between them gives these texts, with their line
ends unified, and what the slots stand for. The latter goes into the output as it is : what looks
like a tag in it is no tag.
-/

namespace Stencil.Template

open Token (IsPlain Scans ScansTag unlocated)

/-- A tag that prints something of a description. -/
inductive Slot where
  | name | packageName | packagePath
  /-- The name as a literal, by a call. -/
  | quoteCall
  /-- The name as a literal, by a filter. -/
  | quoteFilter
  deriving DecidableEq, Repr

namespace Slot

/-- What is written in the tag. -/
def inside : Slot → Text
  | name => "name"
  | packageName => "package.name"
  | packagePath => "package.path"
  | quoteCall => "quote(name)"
  | quoteFilter => "name | quote"

/-- The tag. -/
def text (x : Slot) : Text := "\x7b\x7b " ++ x.inside ++ " \x7d\x7d"

/-- What the tag stands for in the template of a description with a package. -/
def value (d : Description) (p : Description.Package) : Slot → Text
  | name => d.name
  | packageName => p.name
  | packagePath => p.path
  | quoteCall | quoteFilter => GoString.ofText d.name

/-! ## Scanning a slot -/

/-- The tokens in the tag. -/
def tokens : Slot → List Token
  | name => [.name "name"]
  | packageName => [.name "package", .op .dot, .name "name"]
  | packagePath => [.name "package", .op .dot, .name "path"]
  | quoteCall => [.name "quote", .op .lparen, .name "name", .op .rparen]
  | quoteFilter => [.name "name", .op .pipe, .name "quote"]

/-- The words that slots are made of. -/
def words : List Text := ["name", "package", "path", "quote"]

/-- The operators that slots are made of. -/
def marks : List (Text × Op) := [(".", .dot), ("(", .lparen), (")", .rparen), ("|", .pipe)]

section

variable {closers behind : List Op} {c : Char} {s rest : Text} {ts : List Token}

theorem scansTag_space (h : ScansTag false closers (c :: s) ts rest) (hc : Text.isBlank c = false) :
    ScansTag false closers (' ' :: c :: s) ts rest := by
  refine .blank rfl ?_
  rwa [Token.dropBlank, List.dropWhile_cons_of_neg (by simp [hc])]

theorem scansTag_word (n : Text) (hn : n ∈ words) (h : ScansTag false closers (c :: s) ts rest)
    (hc : Text.isNamePart c = false) :
    ScansTag false closers (n ++ c :: s) (.name n :: ts) rest := by
  have hwords : ∀ n ∈ words, Text.isName n ∧ n.all Text.isNamePart := by decide
  obtain ⟨hname, hparts⟩ := hwords n hn
  refine .name hname (List.all_eq_true.mp hparts) ?_ h
  rintro _ ⟨⟩
  exact hc

theorem scansTag_mark (written : Text) (o : Op) (ho : (written, o) ∈ marks)
    (hawaits : Token.Awaits closers o behind) (h : ScansTag false behind s ts rest) :
    ScansTag false closers (written ++ s) (.op o :: ts) rest := by
  have hread : (written, o) ∈ Op.table ∧ Token.op? (written ++ s) = some (o, s) ∧
      Token.tagEnd? false (written ++ s) = none := by
    simp only [marks, List.mem_cons, Prod.mk.injEq, List.not_mem_nil, or_false] at ho
    rcases ho with ⟨rfl, rfl⟩ | ⟨rfl, rfl⟩ | ⟨rfl, rfl⟩ | ⟨rfl, rfl⟩ <;>
      exact ⟨by decide, rfl, Token.tagEnd?_eq_none (by decide) s⟩
  obtain ⟨hmem, hop, hend⟩ := hread
  exact .op hmem hop (fun _ => hend) hawaits h

end

/-- The inside of a slot is scanned up to the end of its tag, whatever stands behind it. -/
theorem scansTag (x : Slot) (rest : Text) :
    ScansTag false [] (' ' :: (x.inside ++ ' ' :: '\x7d' :: '\x7d' :: rest))
      (x.tokens ++ [.printEnd]) rest := by
  have hend : ScansTag false [] (' ' :: '\x7d' :: '\x7d' :: rest) [.printEnd] rest :=
    scansTag_space (.ends rfl) rfl
  cases x with
  | name => exact scansTag_space (scansTag_word "name" (by decide) hend rfl) rfl
  | packageName =>
    have hname := scansTag_word "name" (by decide) hend rfl
    have hattr := scansTag_mark "." .dot (by decide) (.between rfl rfl) hname
    exact scansTag_space (scansTag_word "package" (by decide) hattr rfl) rfl
  | packagePath =>
    have hpath := scansTag_word "path" (by decide) hend rfl
    have hattr := scansTag_mark "." .dot (by decide) (.between rfl rfl) hpath
    exact scansTag_space (scansTag_word "package" (by decide) hattr rfl) rfl
  | quoteCall =>
    have hclose := scansTag_mark ")" .rparen (by decide) (.closes rfl) hend
    have hname := scansTag_word "name" (by decide) hclose rfl
    have hopen := scansTag_mark "(" .lparen (by decide) (.opens rfl) hname
    exact scansTag_space (scansTag_word "quote" (by decide) hopen rfl) rfl
  | quoteFilter =>
    have hquote := scansTag_space (scansTag_word "quote" (by decide) hend rfl) rfl
    have hbar := scansTag_mark "|" .pipe (by decide) (.between rfl rfl) hquote
    have hname := scansTag_word "name" (by decide) (scansTag_space hbar rfl) rfl
    exact scansTag_space hname rfl

/-! ## Reading a slot -/

/-- The expression in the tag. -/
def expr : Slot → Expr
  | name => .name "name"
  | packageName => .attr (.name "package") "name"
  | packagePath => .attr (.name "package") "path"
  | quoteCall => .call (.name "quote") [.name "name"] [] none none
  | quoteFilter => .filter (.name "name") "quote" [] [] none none

open Reader in
theorem printsAs (x : Slot) : PrintsAs x.tokens x.expr := by
  intro ts after h
  cases x with
  | name =>
    simp only [tokens, List.singleton_append, Token.unlocated_eq_cons_iff] at h
    obtain ⟨l₁, _, rfl, l₂, rest, rfl, h⟩ := h
    refine ⟨l₂, rest, run_expressions (by decide) ?_, h⟩
    exact run_operand (by decide) (by decide) (fun _ => run_trailers_stop (.inl rfl))
      fun _ => run_filters_stop rfl
  | packageName | packagePath =>
    simp only [tokens, List.cons_append, List.nil_append, Token.unlocated_eq_cons_iff] at h
    obtain ⟨l₁, _, rfl, l₂, _, rfl, l₃, _, rfl, l₄, rest, rfl, h⟩ := h
    refine ⟨l₄, rest, run_expressions (by decide) ?_, h⟩
    exact run_operand (by decide) (by decide)
      (fun _ => run_trailers_attr (run_trailers_stop (.inl rfl))) fun _ => run_filters_stop rfl
  | quoteCall =>
    simp only [tokens, List.cons_append, List.nil_append, Token.unlocated_eq_cons_iff] at h
    obtain ⟨l₁, _, rfl, l₂, _, rfl, l₃, _, rfl, l₄, _, rfl, l₅, rest, rfl, h⟩ := h
    refine ⟨l₅, rest, run_expressions (by decide) ?_, h⟩
    have harg (fuel : Nat) : unary (fuel + 1) (frames - 13 - 1)
        (⟨.name "name", l₃⟩ :: ⟨.op .rparen, l₄⟩ :: ⟨.printEnd, l₅⟩ :: rest) =
          .ok (.name "name", ⟨.op .rparen, l₄⟩ :: ⟨.printEnd, l₅⟩ :: rest) :=
      run_unary (by decide) (by decide) (run_trailers_stop (.inl rfl)) (run_filters_stop rfl)
    refine run_operand (by decide) (by decide) (fun fuel => ?_) fun _ => run_filters_stop rfl
    refine run_trailers_call (run_arguments (by decide) (by decide) (harg fuel)) ?_
      (run_trailers_stop (.inl rfl))
    simp
  | quoteFilter =>
    simp only [tokens, List.cons_append, List.nil_append, Token.unlocated_eq_cons_iff] at h
    obtain ⟨l₁, _, rfl, l₂, _, rfl, l₃, _, rfl, l₄, rest, rfl, h⟩ := h
    refine ⟨l₄, rest, run_expressions (by decide) ?_, h⟩
    exact run_operand (by decide) (by decide) (fun _ => run_trailers_stop (.inr rfl))
      fun _ => run_filters_pipe rfl (run_filters_stop rfl)

/-! ## Evaluating a slot -/

/-- The names that slots use stand for what a description provides, and for the quoting helper. -/
structure Provided (d : Description) (p : Description.Package) (m : Machine) (s : Scope) : Prop where
  name : s.value m "name" = .text d.name
  package : s.value m "package" = p.value
  quote : s.value m "quote" = .helper .quote
  filter : Filter.named? m.helpers "quote" = some (.helper .quote)

variable {d : Description} {p : Description.Package} {m : Machine} {s : Scope}

theorem evaluates_expr (h : Provided d p m s) (x : Slot) (store : Store) :
    Evaluates m s store x.expr (.text (x.value d p)) := by
  have hname : Evaluates m s store (.name "name") (.text d.name) := evaluates_name h.name
  cases x with
  | name => exact hname
  | packageName | packagePath =>
    exact (evaluates_name h.package).attr (gives_of_eq fun _ _ => rfl)
  | quoteCall =>
    exact (evaluates_name h.quote).call (.cons hname evaluatesAll_nil) (gives_of_eq fun _ _ => rfl)
  | quoteFilter => exact hname.filter h.filter (gives_of_eq fun _ _ => rfl)

end Slot

/-! ## Templates of texts and slots -/

/-- Texts with a slot behind each of them, for which `f` stands, and a last text. -/
def fill (f : Slot → Text) : List (Text × Slot) → Text → Text
  | [], last => last
  | (t, x) :: pieces, last => t ++ f x ++ fill f pieces last

/-- The tokens of texts and slots. -/
def tokensOf : List (Text × Slot) → Text → List Token
  | [], last => Token.dataOf last
  | (t, x) :: pieces, last =>
    Token.dataOf t ++ .printBegin :: (x.tokens ++ .printEnd :: tokensOf pieces last)

/-- The statements of texts and slots. -/
def nodesOf : List (Text × Slot) → Text → List Node
  | [], last => Reader.beforeNodes last []
  | (t, x) :: pieces, last => Reader.beforeNodes t (.print x.expr :: nodesOf pieces last)

variable {pieces : List (Text × Slot)} {last : Text}

theorem scans_fill (hpieces : ∀ q ∈ pieces, IsPlain (q.1 ++ ['\x7b'])) (hlast : IsPlain last) :
    Scans (fill Slot.text pieces last) (tokensOf pieces last) := by
  induction pieces with
  | nil => exact .text hlast
  | cons q pieces ih =>
    obtain ⟨t, x⟩ := q
    obtain ⟨ht, hpieces⟩ := List.forall_mem_cons.mp hpieces
    have hscans := Scans.print ht rfl (x.scansTag _) (ih hpieces)
    simpa [fill, Slot.text, tokensOf] using hscans

theorem readsAs_tokensOf (pieces : List (Text × Slot)) (last : Text) :
    Reader.ReadsAs (tokensOf pieces last) (nodesOf pieces last) := by
  induction pieces with
  | nil => simpa [tokensOf, nodesOf] using Reader.readsAs_nil.data last
  | cons q pieces ih =>
    obtain ⟨t, x⟩ := q
    exact (ih.print x.printsAs).data t

/-- The line ends of a template are those of its texts. -/
theorem unifyLineEnds_fill (pieces : List (Text × Slot)) (last : Text) :
    Text.unifyLineEnds (fill Slot.text pieces last) =
      fill Slot.text (pieces.map (Prod.map Text.unifyLineEnds id)) (Text.unifyLineEnds last) := by
  induction pieces with
  | nil => rfl
  | cons q pieces ih =>
    obtain ⟨t, x⟩ := q
    have hx : '\r' ∉ x.text := by cases x <;> decide
    have hcons : x.text ++ fill Slot.text pieces last =
        '\x7b' :: (x.text.tail ++ fill Slot.text pieces last) := rfl
    calc Text.unifyLineEnds (t ++ x.text ++ fill Slot.text pieces last)
      _ = Text.unifyLineEnds t ++ Text.unifyLineEnds (x.text ++ fill Slot.text pieces last) := by
        rw [List.append_assoc, hcons, Text.unifyLineEnds_append_cons (by decide)]
      _ = Text.unifyLineEnds t ++ x.text ++ Text.unifyLineEnds (fill Slot.text pieces last) := by
        rw [Text.unifyLineEnds_append hx, List.append_assoc]
      _ = _ := by
        rw [ih]
        rfl

/-! ## Rendering -/

theorem check_nodesOf (pieces : List (Text × Slot)) (last : Text) :
    Check.nodes defaultHelpers false (nodesOf pieces last) = [] := by
  have hdata := Reader.apply_beforeNodes (f := Check.nodes defaultHelpers false) fun _ _ => rfl
  induction pieces with
  | nil => exact hdata last []
  | cons q pieces ih =>
    obtain ⟨t, x⟩ := q
    have hx : Check.node defaultHelpers false (.print x.expr) = [] := by cases x <;> rfl
    rw [nodesOf, hdata]
    exact List.append_eq_nil_iff.mpr ⟨hx, ih⟩

theorem limits_nodesOf (pieces : List (Text × Slot)) (last : Text) :
    Limits.nodes 0 1 (nodesOf pieces last) = true := by
  have hdata := Reader.apply_beforeNodes (f := Limits.nodes 0 1) fun _ _ => rfl
  induction pieces with
  | nil => exact hdata last []
  | cons q pieces ih =>
    obtain ⟨t, x⟩ := q
    have hx : Limits.node 0 1 (.print x.expr) = true := by cases x <;> decide
    rw [nodesOf, hdata, Limits.nodes, hx, ih]
    rfl

/-- Names that are only read are not among those that a template sets first. -/
theorem unset_go_eq_nil {ms : List (Text × Bool)} (h : ∀ q ∈ ms, q.2 = false) (seen : List Text) :
    Node.unset.go seen ms = [] := by
  induction ms generalizing seen with
  | nil => rfl
  | cons q ms ih =>
    obtain ⟨n, first⟩ := q
    obtain ⟨hfirst, hms⟩ := List.forall_mem_cons.mp h
    obtain rfl : first = false := hfirst
    rw [Node.unset.go, ih hms, ih hms]
    simp

theorem unset_nodesOf (pieces : List (Text × Slot)) (last : Text) :
    Node.unset (nodesOf pieces last) = [] := by
  have hdata := Reader.apply_beforeNodes (f := Node.mentionsAll) fun _ _ => rfl
  refine unset_go_eq_nil ?_ []
  induction pieces with
  | nil =>
    rw [nodesOf, hdata]
    exact List.forall_mem_nil _
  | cons q pieces ih =>
    obtain ⟨t, x⟩ := q
    rw [nodesOf, hdata, Node.mentionsAll, Node.mentions, List.forall_mem_append]
    refine ⟨fun q hq => ?_, ih⟩
    obtain ⟨n, -, rfl⟩ := List.mem_map.mp hq
    rfl

/-- There is no block in which a name could stand for nothing. -/
theorem settled_nodesOf (pieces : List (Text × Slot)) (last : Text) :
    Node.settled (nodesOf pieces last) = nodesOf pieces last := by
  have hdata (known : List Text) (t : Text) (ns : List Node) :
      Node.settleAll known (Reader.beforeNodes t ns) =
        Reader.beforeNodes t (Node.settleAll known ns) := by
    unfold Reader.beforeNodes
    cases t <;> rfl
  have hall (known : List Text) :
      Node.settleAll known (nodesOf pieces last) = nodesOf pieces last := by
    induction pieces with
    | nil => rw [nodesOf, hdata, Node.settleAll]
    | cons q pieces ih =>
      obtain ⟨t, x⟩ := q
      have hprint : Node.settle known (.print x.expr) = .print x.expr := rfl
      rw [nodesOf, hdata, Node.settleAll, hprint, ih]
  exact hall _

variable {d : Description} {p : Description.Package} {m : Machine} {s : Scope}

theorem Makes.beforeNodes {ns : List Node} {u : Text} {store : Store} (t : Text)
    (hns : Makes m s store ns u) : Makes m s store (Reader.beforeNodes t ns) (t ++ u) := by
  unfold Reader.beforeNodes
  split
  · next ht =>
    obtain rfl := List.isEmpty_iff.mp ht
    exact hns
  · exact hns.data t

theorem makes_nodesOf (h : Slot.Provided d p m s) (pieces : List (Text × Slot)) (last : Text)
    (store : Store) :
    Makes m s store (nodesOf pieces last) (fill (Slot.value d p) pieces last) := by
  induction pieces with
  | nil =>
    have hlast : Makes m s store (Reader.beforeNodes last []) (last ++ []) :=
      makes_nil.beforeNodes last
    rwa [List.append_nil] at hlast
  | cons q pieces ih =>
    obtain ⟨t, x⟩ := q
    rw [nodesOf, fill, List.append_assoc]
    exact (ih.print (Slot.evaluates_expr h x store)).beforeNodes t

/-- The names that slots use stand for what a description provides, unless they are set. -/
theorem Slot.provided_of_context {given top : Bindings} {store : Store}
    (h : d.Context given store) (hp : d.package = some p)
    (htop : ∀ n ∈ Slot.words, top.lookup n = none) (depth : Nat) :
    Slot.Provided d p (machine defaultHelpers given depth) ⟨top, none, none, []⟩ := by
  constructor
  · exact Scope.value_given rfl (htop _ (by decide)) h.name
  · have hpackage := h.package
    rw [hp] at hpackage
    exact Scope.value_given rfl (htop _ (by decide)) hpackage
  · rw [Scope.value_of_lookup_eq_none rfl (htop _ (by decide)), Machine.value, machine_given,
      machine_helpers, h.quote]
    rfl
  · rw [machine_helpers]
    rfl

/-- A template of plain texts and slots gives the texts with their line ends unified, and what the
slots stand for, as it is. A text before a slot does not end in a brace. -/
theorem render_fill (hp : d.package = some p)
    (hpieces : ∀ q ∈ pieces, IsPlain q.1 ∧ q.1.getLast? ≠ some '\x7b') (hlast : IsPlain last) :
    (render defaultHelpers (fill Slot.text pieces last) d.expose).1 =
      .ok (fill (Slot.value d p) (pieces.map (Prod.map Text.unifyLineEnds id))
        (Text.unifyLineEnds last)) := by
  have hplain : ∀ q ∈ pieces.map (Prod.map Text.unifyLineEnds id), IsPlain (q.1 ++ ['\x7b']) := by
    intro q hq
    obtain ⟨⟨t, x⟩, hmem, rfl⟩ := List.mem_map.mp hq
    obtain ⟨ht, hend⟩ := hpieces _ hmem
    have hunified := (ht.append_brace hend).unifyLineEnds
    rwa [Text.unifyLineEnds_append_cons (by decide)] at hunified
  have hparse : parse (fill Slot.text pieces last) = .ok (nodesOf
      (pieces.map (Prod.map Text.unifyLineEnds id)) (Text.unifyLineEnds last)) := by
    refine parse_eq_ok ?_ (readsAs_tokensOf _ _)
    rw [unifyLineEnds_fill]
    exact scans_fill hplain hlast.unifyLineEnds
  obtain ⟨fields, given, store, hroot, hgiven, hcontext⟩ := d.exists_context
  have hprovided : Slot.Provided d p (machine defaultHelpers given callDepth) ⟨[], none, none, []⟩ :=
    Slot.provided_of_context hcontext hp (fun _ _ => rfl) callDepth
  have hcompile : compile defaultHelpers (fill Slot.text pieces last) = .ok (nodesOf
      (pieces.map (Prod.map Text.unifyLineEnds id)) (Text.unifyLineEnds last)) := by
    rw [compile_of_parse hparse (check_nodesOf _ _) (limits_nodesOf _ _), settled_nodesOf]
  refine render_of_gives (s := ⟨[], none, none, []⟩) hcompile hroot hgiven ?_
  rw [unset_nodesOf, List.map_nil]
  exact makes_nodesOf hprovided _ _ store

/-- Braces in the texts, and values that look like tags or markup. -/
theorem render_fill_lookalikes :
    (render defaultHelpers
      (fill Slot.text [("\x7d\x7d %\x7d\r\n", .name), ("", .packageName), ("#\x7d\r", .packagePath),
        (" \x7b ", .quoteCall), ("\n", .quoteFilter)] "\x7b\r\n\x7b")
      (Description.expose ⟨"\x7b\x7b name \x7d\x7d\r", some ⟨"<b>/\x7b# p #\x7d", "\x7b% p %\x7d"⟩, [],
        none⟩)).1 =
      .ok ("\x7d\x7d %\x7d\n\x7b\x7b name \x7d\x7d\r\x7b% p %\x7d#\x7d\n<b>/\x7b# p #\x7d \x7b " ++
        "\"\x7b\x7b name \x7d\x7d\\r\"\n\"\x7b\x7b name \x7d\x7d\\r\"\x7b\n\x7b" : String).toList := by
  refine (render_fill rfl ?_ ?_).trans (congrArg Except.ok ?_)
  · simp [Token.isPlain_cons]
  · simp [Token.isPlain_cons]
  · decide +kernel

end Stencil.Template
