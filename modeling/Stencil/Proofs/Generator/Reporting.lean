import Stencil.Proofs.Generator.Operation
import Stencil.Proofs.Generator.Sink
import Stencil.Proofs.Host.Path

/-!
# Failures outside of the tool

Three stages meet what the tool has no hand in : the file of the template, the answer of the
formatter, and the file for the output. `Loads`, `Formats` and `Writes` say how these stages end
when they report every failure by an error of their own.

`reports_iff` : they end so exactly when bytes that they decode are text, paths have no null
character and the formatter can be called, and otherwise in a crash. `stages_crash` has one input for
each stage.
-/

namespace Stencil

/-! ## Paths with a null character -/

namespace FileTree

variable (t : FileTree) (current : Location) (given : Text) (content : Bytes)

theorem locate_ofText_eq_nullCharacter_iff :
    t.locate current (Path.ofText given) = .error .nullCharacter ↔ '\x00' ∈ given := by
  rw [locate_eq_nullCharacter_iff, Path.mem_text_ofText_iff (by decide) (by decide)]

theorem read_eq_nullCharacter_iff :
    t.read current (Path.ofText given) = .error .nullCharacter ↔ '\x00' ∈ given := by
  rw [← locate_ofText_eq_nullCharacter_iff t current]
  cases hlocate : t.locate current (Path.ofText given) with
  | error f =>
    rw [read, hlocate]
    simp only [bind, Except.bind, Except.error.injEq]
  | ok l =>
    rw [read_of_locate hlocate]
    rcases t.entry? l with _ | _ | content <;> simp

theorem write_eq_nullCharacter_iff :
    t.write current (Path.ofText given) content = .error .nullCharacter ↔ '\x00' ∈ given := by
  rw [← locate_ofText_eq_nullCharacter_iff t current, write]
  cases hlocate : t.locate current (Path.ofText given) with
  | error f => simp only [bind, Except.bind, Except.error.injEq]
  | ok l =>
    refine iff_of_false ?_ (by simp)
    simp only [bind, Except.bind]
    split <;> simp

end FileTree

namespace Stage

variable {s : Session}

/-! ## The template -/

/-- How loading the template ends when it reports its failures. -/
inductive Loads (s : Session) : Except Failure Unit × Session → Prop
  | given {template : Text} (htemplate : s.generator.template = some template) :
    Loads s (.ok (), s)
  | decoded {file text : Text} {bytes : Bytes} (htemplate : s.generator.template = none)
    (hfile : s.generator.templateFile = some file)
    (hread : s.host.read (Path.ofText file) = .ok bytes) (htext : bytes.decode? = some text) :
    Loads s (.ok (), { s with
      generator := { s.generator with template := some (Text.unifyLineEnds text) } })
  | missing (htemplate : s.generator.template = none) (hfile : s.generator.templateFile = none) :
    Loads s (.error (.error .noTemplate), s)
  | unreadable {file : Text} {fault : FileFault} (htemplate : s.generator.template = none)
    (hfile : s.generator.templateFile = some file)
    (hread : s.host.read (Path.ofText file) = .error fault) :
    Loads s (.error (.error (.unreadable file fault)), s)

/-- The file of the template, if it is wanted, has a path without a null character, and what is read
from it is text. -/
def TemplateLegible (s : Session) : Prop :=
  ∀ file, s.generator.template = none → s.generator.templateFile = some file →
    '\x00' ∉ file ∧
      ∀ bytes, s.host.read (Path.ofText file) = .ok bytes → ∃ text, bytes.decode? = some text

theorem loads_or_crashes (s : Session) :
    Loads s (loadTemplate s) ∧ TemplateLegible s ∨
      (∃ c, loadTemplate s = (.error (.crash c), s)) ∧ ¬TemplateLegible s := by
  rw [loadTemplate_apply, Generator.templateText]
  cases htemplate : s.generator.template with
  | some template =>
    have hs : { s with generator := { s.generator with template := some template } } = s := by
      rw [← htemplate]
    refine .inl ⟨?_, fun file hnone => ?_⟩
    · simpa only [hs] using Loads.given htemplate
    · cases htemplate.symm.trans hnone
  | none =>
    cases hfile : s.generator.templateFile with
    | none =>
      refine .inl ⟨.missing htemplate hfile, fun file _ hsome => ?_⟩
      cases hfile.symm.trans hsome
    | some file =>
      have hlegible : TemplateLegible s ↔ '\x00' ∉ file ∧ ∀ bytes,
          s.host.read (Path.ofText file) = .ok bytes → ∃ text, bytes.decode? = some text := by
        simp only [TemplateLegible, htemplate, hfile, forall_const, Option.some.injEq, forall_eq']
      rw [hlegible, ← FileTree.read_eq_nullCharacter_iff s.host.tree s.host.current, ← Host.read]
      dsimp only
      rw [templateAt]
      cases hread : s.host.read (Path.ofText file) with
      | error fault =>
        cases hfault : fault with
        | nullCharacter => exact .inr ⟨⟨_, rfl⟩, by simp⟩
        | _ =>
          refine .inl ⟨?_, by simp⟩
          exact .unreadable htemplate hfile (hfault ▸ hread)
      | ok bytes =>
        cases htext : bytes.decode? with
        | some text =>
          simp only [htext]
          exact .inl ⟨.decoded htemplate hfile hread htext, by simp [htext]⟩
        | none =>
          simp only [htext]
          exact .inr ⟨⟨_, rfl⟩, by simp [htext]⟩

/-! ## The formatter -/

/-- How formatting ends when it reports its failures. -/
inductive Formats (s : Session) : Except Failure Unit × Session → Prop
  | off (hformat : s.generator.format = false) : Formats s (.ok (), s)
  | decoded {a : Answer} {text : Text} {h : Host} (hformat : s.generator.format = true)
    (hanswer : s.host.answers.head?.join = some a) (hcode : a.code = 0)
    (htext : a.output.decode? = some text) (hh : s.host.Unwritten h) :
    Formats s (.ok (), ⟨{ s.generator with text }, h⟩)
  | noFormatter {h : Host} (hformat : s.generator.format = true)
    (hanswer : s.host.answers.head?.join = none) (hh : s.host.Unwritten h) :
    Formats s
      (.error (.error (.format (.noFormatter s.generator.settings.formatter))), ⟨s.generator, h⟩)
  | failed {a : Answer} {name : Text} {h : Host} (hformat : s.generator.format = true)
    (hanswer : s.host.answers.head?.join = some a) (hcode : a.code ≠ 0)
    (hname : name = Formatter.outputName s.generator.output) (hh : s.host.Unwritten h) :
    Formats s (.error (.error (.format (.failed name
      (Text.replace "<standard input>" name none a.errors.decodeLossy)))), ⟨s.generator, h⟩)

/-- If it is wanted, the formatter can be called, and what it prints when it ends well is text. -/
def AnswerLegible (s : Session) : Prop :=
  s.generator.format = true →
    (Formatter.callFor s.generator.settings s.generator.text).Possible
        s.host.answers.head?.join.isSome ∧
      ∀ a, s.host.answers.head?.join = some a → a.code = 0 → ∃ text, a.output.decode? = some text

theorem formats_or_crashes (s : Session) :
    Formats s (formatSource s) ∧ AnswerLegible s ∨
      (∃ c h, formatSource s = (.error (.crash c), ⟨s.generator, h⟩)) ∧ ¬AnswerLegible s := by
  rw [formatSource_apply]
  by_cases hformat : s.generator.format = true
  case neg =>
    rw [if_neg hformat]
    exact .inl ⟨.off (Bool.eq_false_iff.mpr hformat), fun htrue => absurd htrue hformat⟩
  case pos =>
    rw [if_pos hformat]
    have hfst := Formatter.format_fst s.generator.settings s.generator.output s.generator.text
      s.host
    have hh := Formatter.format_unwritten s.generator.settings s.generator.output s.generator.text
      s.host
    generalize Formatter.format s.generator.settings s.generator.output s.generator.text s.host = r
      at hfst hh ⊢
    obtain ⟨outcome, h⟩ := r
    have hlegible : AnswerLegible s ↔
        (Formatter.callFor s.generator.settings s.generator.text).Possible
            s.host.answers.head?.join.isSome ∧
          ∀ a, s.host.answers.head?.join = some a → a.code = 0 →
            ∃ text, a.output.decode? = some text := by
      simp only [AnswerLegible, hformat, forall_const]
    rw [hlegible]
    obtain ⟨hok, hpossible⟩ | ⟨⟨crash, hcrash⟩, hnot⟩ :=
      (Formatter.callFor s.generator.settings s.generator.text).answered_cases
        s.host.answers.head?.join
    case inr =>
      rw [hcrash] at hfst
      obtain rfl := hfst
      exact .inr ⟨⟨crash, h, rfl⟩, fun h => hnot h.1⟩
    rw [hok] at hfst
    rw [and_iff_right hpossible]
    cases hanswer : s.host.answers.head?.join with
    | none =>
      rw [hanswer] at hfst
      obtain rfl := hfst
      exact .inl ⟨.noFormatter hformat hanswer hh, by simp⟩
    | some a =>
      rw [hanswer] at hfst
      simp only [Except.mapError, bind, Except.bind, Formatter.formatted] at hfst
      simp only [Option.some.injEq, forall_eq']
      by_cases hcode : a.code = 0
      · cases htext : a.output.decode? with
        | some text =>
          simp only [hcode, htext, ne_eq, not_true_eq_false, if_false] at hfst
          obtain rfl := hfst
          exact .inl ⟨.decoded hformat hanswer hcode htext hh, fun _ => ⟨text, rfl⟩⟩
        | none =>
          simp only [hcode, htext, ne_eq, not_true_eq_false, if_false] at hfst
          obtain rfl := hfst
          exact .inr ⟨⟨_, h, rfl⟩, by simp [hcode]⟩
      · simp only [hcode, ne_eq, not_false_eq_true, if_true] at hfst
        obtain rfl := hfst
        exact .inl ⟨.failed hformat hanswer hcode rfl hh, by simp [hcode]⟩

/-! ## The output -/

/-- How writing the output ends when it reports its failures. -/
inductive Writes (s : Session) : Except Failure Unit × Session → Prop
  | received {k : Sink} {s' : Session} (hk : s.generator.sink? s.host = some k)
    (hreceives : k.Receives s.generator.text s.host s'.host)
    (hgenerator : s'.generator = s.generator) : Writes s (.ok (), s')
  | unwritable {fault : SinkFault} {s' : Session} (hk : s.generator.sink? s.host = none)
    (hh : s.host.Unwritten s'.host) (hgenerator : s'.generator = s.generator) :
    Writes s
      (.error (.error (.unwritable (Formatter.outputName s.generator.output) fault)), s')

/-- The path of the output, if one is wanted, has no null character. -/
def OutputNameable (s : Session) : Prop :=
  ∀ file, s.generator.writer = none → s.generator.output = some file → '\x00' ∉ file

/-- A file that is no sink is reported, unless its path has a null character. -/
theorem writeFile_or_crashes {file : Text} {h : Host} (text : Text)
    (hk : Generator.fileSink? file h = none) :
    (∃ fault, writeFile file text h =
        (.error (.error (.unwritable file (.file fault))), announced file h)) ∧ '\x00' ∉ file ∨
      writeFile file text h = (.error (.crash .badValue), announced file h) ∧ '\x00' ∈ file := by
  obtain ⟨fault, hfault⟩ := exists_write_eq_error hk text.bytes
  rw [writeFile_apply, ← FileTree.write_eq_nullCharacter_iff h.tree h.current file text.bytes,
    hfault]
  cases fault with
  | nullCharacter => exact .inr ⟨rfl, rfl⟩
  | _ => exact .inl ⟨⟨_, rfl⟩, by simp⟩

theorem writes_or_crashes (s : Session) :
    Writes s (writeOutput s) ∧ OutputNameable s ∨
      (∃ c h, writeOutput s = (.error (.crash c), ⟨s.generator, h⟩)) ∧ ¬OutputNameable s := by
  have hgenerator := generator_writeOutput s
  cases hk : s.generator.sink? s.host with
  | some k =>
    obtain ⟨hok, hreceives, -⟩ := writeOutput_of_sink hk
    refine .inl ⟨?_, fun file hwriter houtput hnull => ?_⟩
    · rw [← Prod.eta (writeOutput s), hok]
      exact .received hk hreceives hgenerator
    · have hnone : Generator.fileSink? file s.host = none := by
        rw [Generator.fileSink?, (FileTree.locate_ofText_eq_nullCharacter_iff _ _ _).mpr hnull]
      obtain ⟨c, rest, rfl⟩ := List.exists_cons_of_ne_nil (List.ne_nil_of_mem hnull)
      rw [Generator.sink?, hwriter, houtput] at hk
      cases hnone.symm.trans hk
  | none =>
    obtain ⟨-, hh, -⟩ := writeOutput_of_no_sink hk
    have hunwritable (fault : SinkFault) (h : (writeOutput s).1 =
        .error (.error (.unwritable (Formatter.outputName s.generator.output) fault))) :
        Writes s (writeOutput s) := by
      rw [← Prod.eta (writeOutput s), h]
      exact .unwritable hk hh hgenerator
    have hsink := hk
    unfold Generator.sink? at hsink
    split at hsink
    · cases hsink
    · next hwriter =>
      refine .inl ⟨hunwritable (.writer "disk full") ?_, fun file hnone => ?_⟩
      · rw [writeOutput, generator_bind_apply, hwriter]
        rfl
      · cases hwriter.symm.trans hnone
    · cases hsink
    · cases hsink
    · next file hfile hwriter houtput =>
      obtain ⟨c, rest, rfl⟩ : ∃ c rest, file = c :: rest :=
        List.exists_cons_of_ne_nil hfile
      have hwrite : writeOutput s = onHost (writeFile (c :: rest) s.generator.text) s := by
        rw [writeOutput, generator_bind_apply, hwriter, houtput]
      have hnameable : OutputNameable s ↔ '\x00' ∉ c :: rest := by
        simp only [OutputNameable, hwriter, houtput, forall_const, Option.some.injEq, forall_eq']
      rw [hnameable, not_not]
      refine (writeFile_or_crashes s.generator.text hsink).imp ?_ ?_
      · rintro ⟨⟨fault, hfault⟩, hnull⟩
        refine ⟨hunwritable (.file fault) ?_, hnull⟩
        rw [hwrite, onHost, hfault, houtput]
        rfl
      · rintro ⟨hcrash, hnull⟩
        refine ⟨⟨.badValue, announced (c :: rest) s.host, ?_⟩, hnull⟩
        rw [hwrite, onHost, hcrash]

/-! ## All three stages -/

/-- Of two ways to end, told apart by a condition, the first one is the only one that reports. -/
theorem iff_of_reports_or_crashes {reports legible crashes : Prop}
    (h : reports ∧ legible ∨ crashes ∧ ¬legible) (hcrash : crashes → ¬reports) :
    (reports ↔ legible) ∧ (¬legible → crashes) := by
  tauto

/-- The stages that meet what is outside of the tool report every failure, exactly when the bytes
that they decode are text, the paths have no null character and the formatter can be called.
Otherwise they end in a crash and the generator stays as it was. -/
theorem reports_iff (s : Session) :
    ((Loads s (loadTemplate s) ↔ TemplateLegible s) ∧
        (¬TemplateLegible s → ∃ c, loadTemplate s = (.error (.crash c), s))) ∧
      ((Formats s (formatSource s) ↔ AnswerLegible s) ∧
        (¬AnswerLegible s → ∃ c h, formatSource s = (.error (.crash c), ⟨s.generator, h⟩))) ∧
      (Writes s (writeOutput s) ↔ OutputNameable s) ∧
        (¬OutputNameable s → ∃ c h, writeOutput s = (.error (.crash c), ⟨s.generator, h⟩)) := by
  refine ⟨iff_of_reports_or_crashes (loads_or_crashes s) ?_,
    iff_of_reports_or_crashes (formats_or_crashes s) ?_,
    iff_of_reports_or_crashes (writes_or_crashes s) ?_⟩
  · rintro ⟨c, hc⟩ h
    rw [hc] at h
    cases h
  · rintro ⟨c, host, hc⟩ h
    rw [hc] at h
    cases h
  · rintro ⟨c, host, hc⟩ h
    rw [hc] at h
    cases h

/-- A template and an answer that are one byte which is no text, and a path that is one null
character. -/
theorem stages_crash :
    let h := Host.inModule [some ⟨0, [255], []⟩]
    let s : Session :=
      ⟨{ Generator.ofName "T" Settings.default with
          templateFile := some "t.tmpl", format := true, output := some "\x00" },
        { h with tree := h.tree.put ["m", "t.tmpl"] [255] }⟩
    ¬Loads s (loadTemplate s) ∧ ¬Formats s (formatSource s) ∧ ¬Writes s (writeOutput s) := by
  intro h s
  have hload : (loadTemplate s).1 = .error (.crash .undecodable) := by decide +kernel
  have hformat : (formatSource s).1 = .error (.crash .undecodable) := by decide +kernel
  have hwrite : (writeOutput s).1 = .error (.crash .badValue) := by decide +kernel
  refine ⟨fun hends => ?_, fun hends => ?_, fun hends => ?_⟩
  · generalize loadTemplate s = r at hload hends
    cases hends <;> cases hload
  · generalize formatSource s = r at hformat hends
    cases hends <;> cases hformat
  · generalize writeOutput s = r at hwrite hends
    cases hends <;> cases hwrite

end Stage

end Stencil
