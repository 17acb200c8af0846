import Mathlib.Data.Bool.AllAny
import Stencil.Proofs.Source.Declared

/-!
# The directive of a module file

A module file has lines, the directive that gives the path of the module, and what stands behind it
(`ModuleFile`).

`readModulePath_directive_iff` : that path is read exactly when a space follows the word `module`,
white space follows the path, and no part of the lines before declares a path, chance apart
(`ModuleFile.Reads`).
-/

namespace Stencil.SourceDirectory

open Text (isBlank isLineEnd)

/-! ## The directive -/

/-- The line that declares the path of a module : white space, the word `module`, spaces and tabs,
the path, bare or in quotes, and white space and a comment, each of them or none. -/
structure Directive where
  indent : Text
  gap : Text
  path : Text
  quoted : Bool
  space : Text
  comment : Text
  indent_blank : ∀ c ∈ indent, isBlank c
  gap_ne_nil : gap ≠ []
  gap_blank : ∀ c ∈ gap, c = ' ' ∨ c = '\t'
  path_ne_nil : path ≠ []
  path_plain : ∀ c ∈ path, isBlank c = false ∧ c ≠ '"'
  space_blank : ∀ c ∈ space, isBlank c
  comment_slashes : comment = [] ∨ "//".toList <+: comment
  line : '\n' ∉ indent ++ space ++ comment

/-- A module file : lines, the directive, and what stands behind its line. -/
structure ModuleFile where
  before : Text
  directive : Directive
  after : Text
  before_lines : ∀ c ∈ before.getLast?, c = '\n'
  after_lines : after = [] ∨ "\n".toList <+: after ∨ "\r\n".toList <+: after

namespace Directive

variable (d : Directive)

/-- The quotes on each side of the path, if there are any. -/
def quotes : Text := if d.quoted then ['"'] else []

theorem quotes_eq : ∀ c ∈ d.quotes, c = '"' := by
  intro c hc
  unfold quotes at hc
  split at hc
  · exact List.mem_singleton.mp hc
  · cases hc

theorem isBlank_gap : ∀ c ∈ d.gap, isBlank c := by
  intro c hc
  rcases d.gap_blank c hc with rfl | rfl <;> rfl

theorem not_isBlank_quotes : ∀ c ∈ d.quotes, isBlank c = false := by
  intro c hc
  rw [d.quotes_eq c hc]
  rfl

/-- What stands from the word `module` to the path. -/
def stem : Text := "module".toList ++ (d.gap ++ (d.quotes ++ (d.path ++ d.quotes)))

theorem stem_eq :
    d.stem = "module".toList ++ (d.gap ++ (d.quotes ++ (d.path ++ d.quotes))) := rfl

/-- What stands behind the path. -/
def tail : Text := d.space ++ d.comment

def text : Text := d.indent ++ (d.stem ++ d.tail)

/-- Nothing, or white space, stands between the path and what follows it. -/
def Apart : Prop := d.comment = [] ∨ d.space ≠ []

end Directive

namespace ModuleFile

variable (f : ModuleFile)

def text : Text := f.before ++ (f.directive.text ++ f.after)

/-- What stands behind the path. -/
def rest : Text := f.directive.tail ++ f.after

/-- What stands behind the path from the first line end on. -/
def below : Text := f.rest.dropWhile (!isLineEnd ·)

/-- How the path of the directive is read. A path that is declared before it is read in its place,
and so is one below, where the directive is passed over; both may be the same by chance. -/
inductive Reads : Prop
  | directive (hbefore : Silent f.before) (hgap : f.directive.gap.head? = some ' ')
      (hapart : f.directive.Apart)
  | before (hpath : (declarations f.before).head? = some f.directive.path)
  | below (hbefore : Silent f.before) (hgap : f.directive.gap.head? ≠ some ' ')
      (hpath : (declarations f.below).head? = some f.directive.path)

end ModuleFile

namespace ModuleFile

variable (f : ModuleFile)

theorem declarations_before (s : Text) :
    declarations (f.before ++ s) = declarations f.before ++ declarations s := by
  have hlines := f.before_lines
  rcases List.eq_nil_or_concat f.before with hbefore | ⟨b, c, hbefore⟩
  · rw [hbefore]
    rfl
  · rw [hbefore, List.concat_eq_append] at hlines ⊢
    obtain rfl : c = '\n' := hlines c (by simp)
    rw [declarations_append_cons (by decide) b [], List.append_assoc, List.singleton_append,
      declarations_append_cons (by decide), declarations_nil, List.append_nil]

/-- There is no line end from the word `module` to the path. -/
theorem not_isLineEnd_stem (d : Directive) : ∀ c ∈ d.stem, isLineEnd c = false := by
  intro c hc
  simp only [d.stem_eq, List.mem_append] at hc
  rcases hc with hc | hc | hc | hc | hc
  · have hmodule : ∀ c ∈ "module".toList, isLineEnd c = false :=
      List.all_iff_forall_prop.mp (by decide)
    exact hmodule c hc
  · rcases d.gap_blank c hc with rfl | rfl <;> rfl
  · rw [d.quotes_eq c hc]
    rfl
  · exact Text.not_isLineEnd_of_not_isBlank (d.path_plain c hc).1
  · rw [d.quotes_eq c hc]
    rfl

/-- The part of a file from the word `module` to the next line end. -/
def own : Text := f.directive.stem ++ f.rest.takeWhile (!isLineEnd ·)

/-- What declares paths in a file : what stands before, the directive, and what stands below. -/
theorem declarations_text :
    declarations f.text =
      declarations f.before ++ ((declared? f.own).toList ++ declarations f.below) := by
  have hbelow : Stops (!isLineEnd ·) f.below := stops_dropWhile _ f.rest
  have hown : ∀ c ∈ f.own, isLineEnd c = false := by
    intro c hc
    rcases List.mem_append.mp hc with hc | hc
    · exact not_isLineEnd_stem f.directive c hc
    · simpa using List.mem_takeWhile_imp hc
  have htext : f.text = f.before ++ (f.directive.indent ++ (f.own ++ f.below)) := by
    simp only [text, Directive.text, own, below, rest, List.append_assoc,
      List.takeWhile_append_dropWhile]
  rw [htext, f.declarations_before, declarations_blank_append f.directive.indent_blank,
    declarations_append hbelow, declarations_of_forall hown]

/-- What follows the path without white space in between. -/
def glued : Text := f.rest.takeWhile (!isBlank ·)

theorem glued_of_apart (hapart : f.directive.Apart) : f.glued = [] := by
  have hstops : Stops (!isBlank ·) f.rest := by
    unfold rest Directive.tail
    cases hspace : f.directive.space with
    | cons c space =>
      have hc : isBlank c := f.directive.space_blank c (by simp [hspace])
      simpa using hc
    | nil =>
      have hcomment : f.directive.comment = [] := hapart.resolve_right (by simp [hspace])
      rw [hcomment]
      rcases f.after_lines with hafter | ⟨below, hafter⟩ | ⟨below, hafter⟩
      · simp [hafter]
      · rw [← hafter]
        exact stops_cons.mpr rfl
      · rw [← hafter]
        exact stops_cons.mpr rfl
  exact takeWhile_span (a := []) (List.forall_mem_nil _) hstops

theorem slash_mem_glued (hapart : ¬f.directive.Apart) : '/' ∈ f.glued := by
  obtain ⟨hcomment, hspace⟩ := not_or.mp hapart
  obtain ⟨comment, hslashes⟩ := f.directive.comment_slashes.resolve_left hcomment
  have hrest : f.rest = '/' :: '/' :: (comment ++ f.after) := by
    rw [rest, Directive.tail, not_not.mp hspace, ← hslashes]
    rfl
  rw [glued, hrest]
  exact List.mem_cons_self

/-- The second word of the directive : the path in its quotes, and what is glued to it. -/
def word : Text := f.directive.quotes ++ (f.directive.path ++ (f.directive.quotes ++ f.glued))

theorem word_ne_nil : f.word ≠ [] := by
  simp [word, f.directive.path_ne_nil]

theorem not_isBlank_word : ∀ c ∈ f.word, isBlank c = false := by
  have hquotes := f.directive.not_isBlank_quotes
  simp only [word, List.forall_mem_append]
  refine ⟨hquotes, fun c hc => (f.directive.path_plain c hc).1, hquotes, fun c hc => ?_⟩
  simpa using List.mem_takeWhile_imp hc

/-- Quotes are stripped from the word at its front and at its end, where glued text may follow. -/
theorem strip_word :
    Text.strip (· = '"') f.word =
      f.directive.path ++ Text.stripEnd (· = '"') (f.directive.quotes ++ f.glued) := by
  refine Text.strip_append f.directive.path_ne_nil ?_ (fun c hc => ?_) _
  · simpa using f.directive.quotes_eq
  · simpa using (f.directive.path_plain c hc).2

theorem exists_own :
    ∃ others, f.own = "module".toList ++ (f.directive.gap ++ (f.word ++ others)) ∧
      Stops (!isBlank ·) others := by
  obtain ⟨others, hline, hothers⟩ := Text.exists_takeWhile_lineEnd f.rest
  refine ⟨others, ?_, hothers⟩
  simp only [own, Directive.stem_eq, hline, word, glued, List.append_assoc]

/-- The directive is read as the path with what is glued to it, but for quotes at the end. -/
theorem declared?_own :
    declared? f.own =
      if f.directive.gap.head? = some ' ' then
        some (f.directive.path ++ Text.stripEnd (· = '"') (f.directive.quotes ++ f.glued))
      else none := by
  obtain ⟨others, hown, hothers⟩ := f.exists_own
  rw [hown, declared?_module f.directive.isBlank_gap f.directive.gap_ne_nil f.not_isBlank_word
    f.word_ne_nil hothers, strip_word]

/-- The directive is read as the path exactly when nothing is glued to it. -/
theorem declared?_own_eq_iff :
    declared? f.own = some f.directive.path ↔
      f.directive.gap.head? = some ' ' ∧ f.directive.Apart := by
  rw [declared?_own]
  split
  · next hgap =>
    rw [Option.some.injEq, List.append_right_eq_self, Text.stripEnd_eq_nil_iff, and_iff_right hgap]
    constructor
    · intro hall
      by_contra hapart
      have hslash := hall '/' (List.mem_append_right _ (f.slash_mem_glued hapart))
      cases hslash
    · intro hapart
      rw [f.glued_of_apart hapart, List.append_nil]
      simpa using f.directive.quotes_eq
  · next hgap => simp [hgap]

theorem declared?_own_eq_none_iff : declared? f.own = none ↔ f.directive.gap.head? ≠ some ' ' := by
  rw [declared?_own]
  split <;> simp_all

theorem reads_iff : (declarations f.text).head? = some f.directive.path ↔ f.Reads := by
  have hsilent : (declarations f.before).head? = none ↔ Silent f.before := by
    rw [List.head?_eq_none_iff, declarations_eq_nil_iff]
  -- the first path is the one before the directive, else its own, else the one below
  rw [declarations_text, List.head?_append, List.head?_append, Option.head?_toList,
    Option.or_eq_some_iff, Option.or_eq_some_iff, hsilent, declared?_own_eq_iff,
    declared?_own_eq_none_iff]
  constructor
  · rintro (hpath | ⟨hbefore, ⟨hgap, hapart⟩ | ⟨hgap, hpath⟩⟩)
    · exact .before hpath
    · exact .directive hbefore hgap hapart
    · exact .below hbefore hgap hpath
  · rintro (⟨hbefore, hgap, hapart⟩ | hpath | ⟨hbefore, hgap, hpath⟩)
    · exact .inr ⟨hbefore, .inl ⟨hgap, hapart⟩⟩
    · exact .inl hpath
    · exact .inr ⟨hbefore, .inr ⟨hgap, hpath⟩⟩

end ModuleFile

/-- The path of the directive of a module file is read exactly when a space follows the word
`module`, white space or nothing follows the path, and nothing before declares a path, unless what
is read in its place is the same path. -/
theorem readModulePath_directive_iff {h : Host} {root : Path} {f : ModuleFile}
    (hfile : HoldsText h root f.text) :
    readModulePath h root = .ok f.directive.path ↔ f.Reads := by
  rw [readModulePath_eq_ok_iff hfile, f.reads_iff]

/-- A file with a directive behind other lines : line ends of two kinds, a path in quotes, and a
comment that looks like a directive. -/
def quotedFile : ModuleFile where
  before := "// module a\r\n\r\ngo 1.22\n"
  directive :=
    { indent := "\t "
      gap := " \t"
      path := "example.com/m"
      quoted := true
      space := " "
      comment := "// module b"
      indent_blank := List.all_iff_forall_prop.mp (by decide)
      gap_ne_nil := by decide
      gap_blank := List.all_iff_forall_prop.mp (by decide)
      path_ne_nil := by decide
      path_plain := List.all_iff_forall_prop.mp (by decide)
      space_blank := List.all_iff_forall_prop.mp (by decide)
      comment_slashes := .inr ⟨" module b".toList, rfl⟩
      line := by decide }
  after := "\r\nmodule c\n"
  before_lines := fun _ hc => (Option.some.inj hc).symm
  after_lines := .inr (.inr ⟨"module c\n".toList, rfl⟩)

theorem readModulePath_directive_quoted :
    let h := hostOfText quotedFile.text
    HoldsText h (Path.ofLocation []) quotedFile.text ∧ quotedFile.Reads ∧
      readModulePath h (Path.ofLocation []) = .ok "example.com/m" := by
  intro h
  have hfile : HoldsText h (Path.ofLocation []) quotedFile.text :=
    ⟨["go.mod"], Text.bytes quotedFile.text, by decide, rfl, by decide +kernel⟩
  have hreads : quotedFile.Reads := .directive (by decide) rfl (.inr (by decide))
  exact ⟨hfile, hreads, (readModulePath_directive_iff hfile).mpr hreads⟩

/-- A file with nothing but a directive that has a tab behind the word `module`. -/
def tabFile : ModuleFile where
  before := []
  directive :=
    { indent := []
      gap := "\t"
      path := "example.com/m"
      quoted := false
      space := []
      comment := []
      indent_blank := List.all_iff_forall_prop.mp (by decide)
      gap_ne_nil := by decide
      gap_blank := List.all_iff_forall_prop.mp (by decide)
      path_ne_nil := by decide
      path_plain := List.all_iff_forall_prop.mp (by decide)
      space_blank := List.all_iff_forall_prop.mp (by decide)
      comment_slashes := .inl rfl
      line := by decide }
  after := "\n"
  before_lines := by simp
  after_lines := .inr (.inl ⟨[], rfl⟩)

/-- A directive that has a tab behind the word `module` is passed over, even when it is the whole
file. -/
theorem readModulePath_passes_over_tab :
    ¬∀ (h : Host) (root : Path) (f : ModuleFile), f.before = [] → f.after = "\n" →
      f.directive.comment = [] → HoldsText h root f.text →
        readModulePath h root = .ok f.directive.path := by
  intro hclaim
  have hfile : HoldsText (hostOfText tabFile.text) (Path.ofLocation []) tabFile.text :=
    ⟨["go.mod"], Text.bytes tabFile.text, by decide, rfl, by decide +kernel⟩
  have hread := hclaim _ _ tabFile rfl rfl rfl hfile
  have herror : readModulePath (hostOfText tabFile.text) (Path.ofLocation []) =
      .error (Failure.resolution (.noModulePath "/go.mod")) := by decide +kernel
  cases hread.symm.trans herror

end Stencil.SourceDirectory
