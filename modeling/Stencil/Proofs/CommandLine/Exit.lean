import Stencil.CommandLine.Command
import Stencil.Proofs.CommandLine.Reading
import Stencil.Proofs.Generator.Delivery

/-!
# Exit codes

The command generates code in one run of a new generator, unless the level of the log has a name
that stands for none (`Starts`). How the run ends decides the exit code, and the host behind the
command is the one behind the run (`generate_of_starts`).

`exit_tells` : zero means that the text was made and that it is the whole of what was written; one
means that the generation failed with an error, whose message is on the standard error output; and
with anything else than zero nothing was written.
-/

namespace Stencil

/-- What a generator makes on a host is this text : rendered, and formatted if that is wanted. -/
def Generator.Makes (g : Generator) (h : Host) (text : Text) : Prop :=
  ∃ r : g.Rendering h, g.finishedText h r.text = .ok text

namespace CommandLine.Command

/-- The generator of a command on a host. -/
def generatorOn (a : Arguments) (h : Host) : Generator :=
  generator a (Settings.load h.environment h.programs)

/-- The rank from which on a command shows the records of the log. -/
def rank? (a : Arguments) (h : Host) : Option Nat :=
  if a.debug then some Level.debug.rank
  else threshold? (Settings.load h.environment h.programs).logLevel

/-- A command starts to generate : all records of the log are asked for, or those of a level that is
known. -/
def Starts (a : Arguments) (h : Host) : Prop := (rank? a h).isSome

/-- Between two states of a host a command wrote a text and nothing else : to the standard output
when there is no output file, else as the whole content of that. -/
def Wrote (a : Arguments) (text : Text) (h h' : Host) : Prop :=
  match a.output with
  | none | some [] => Sink.output.Receives text h h'
  | some given => ∃ l, h.tree.locate h.current (Path.ofText given) = .ok l ∧
      (Sink.file l).Receives text h h' ∧ h'.read (Path.ofText given) = .ok text.bytes

/-- The exit code by how a run ends. A crash has none. -/
def codeOf : Except Failure Unit → Except Crash Nat
  | .ok () => .ok 0
  | .error (.error _) => .ok 1
  | .error (.crash c) => .error c

theorem codeOf_eq_zero_iff {r : Except Failure Unit} : codeOf r = .ok 0 ↔ r = .ok () := by
  rcases r with (e | c) | _ <;> simp [codeOf]

theorem codeOf_eq_one_iff {r : Except Failure Unit} :
    codeOf r = .ok 1 ↔ ∃ e, r = .error (.error e) := by
  rcases r with (e | c) | _ <;> simp [codeOf]

/-! ## The generation of a command -/

variable {a : Arguments} {h : Host} {time : Text}

theorem run_generatorOn (a : Arguments) (h : Host) :
    (Stage.run ⟨generatorOn a h, h⟩).1 = ((generatorOn a h).composed h).1 ∧
      (Stage.run ⟨generatorOn a h, h⟩).2.host = ((generatorOn a h).composed h).2 :=
  Prod.mk.inj (congrFun (Stage.onlyHost_run (g := generatorOn a h) nofun) h)

theorem generate_apply (time : Text) (a : Arguments) (h : Host) :
    generate time a h =
      match rank? a h with
      | none => (⟨.error .badValue, []⟩, h)
      | some threshold =>
        match Stage.run ⟨generatorOn a h, h⟩ with
        | (outcome, s) =>
          let lines := logLines time threshold (s.host.log.drop h.log.length)
          match outcome with
          | .ok () => (⟨.ok 0, lines⟩, s.host)
          | .error (.error e) => (⟨.ok 1, lines ++ "gogen: " ++ e.message ++ ['\n']⟩, s.host)
          | .error (.crash c) => (⟨.error c, lines⟩, s.host) :=
  rfl

theorem generate_of_not_starts (hs : ¬Starts a h) :
    generate time a h = (⟨.error .badValue, []⟩, h) := by
  have hnone : rank? a h = none := by simpa [Starts] using hs
  rw [generate_apply, hnone]

/-- A command that starts ends as its run does. -/
theorem generate_of_starts (hs : Starts a h) (time : Text) :
    (generate time a h).1.exit = codeOf ((generatorOn a h).composed h).1 ∧
      (generate time a h).2 = ((generatorOn a h).composed h).2 ∧
      ∀ e, ((generatorOn a h).composed h).1 = .error (.error e) →
        ∃ lines, (generate time a h).1.errors = lines ++ "gogen: " ++ e.message ++ ['\n'] := by
  obtain ⟨threshold, hthreshold⟩ := Option.isSome_iff_exists.mp hs
  obtain ⟨houtcome, hhost⟩ := run_generatorOn a h
  rw [← houtcome, ← hhost, generate_apply, hthreshold]
  dsimp only
  rcases Stage.run ⟨generatorOn a h, h⟩ with ⟨(e | c) | _, s⟩
  · refine ⟨rfl, rfl, ?_⟩
    rintro _ ⟨⟩
    exact ⟨_, rfl⟩
  · exact ⟨rfl, rfl, nofun⟩
  · exact ⟨rfl, rfl, nofun⟩

/-- A generation that fails writes nothing. -/
theorem composed_unwritten {f : Failure} (hf : ((generatorOn a h).composed h).1 = .error f) :
    h.Unwritten ((generatorOn a h).composed h).2 := by
  obtain ⟨houtcome, hhost⟩ := run_generatorOn a h
  rw [← houtcome] at hf
  rw [← hhost]
  exact (Stage.exists_stage_of_run_error hf).1

/-- The sink of a command is where it is asked to write. -/
theorem wrote_of_receives {k : Sink} {text : Text} {h' : Host}
    (hk : (generatorOn a h).sink? h = some k) (hreceives : k.Receives text h h') :
    Wrote a text h h' := by
  unfold Generator.sink? at hk
  split at hk
  · next hwriter => cases hwriter
  · next hwriter => cases hwriter
  · next houtput =>
    cases hk
    rw [Wrote, show a.output = none from houtput]
    exact hreceives
  · next houtput =>
    cases hk
    rw [Wrote, show a.output = some [] from houtput]
    exact hreceives
  · next given hgiven _ houtput =>
    obtain ⟨l, hlocate, -, rfl⟩ := Generator.fileSink?_eq_some_iff.mp hk
    rw [Wrote, show a.output = some given from houtput]
    cases given with
    | nil => exact absurd rfl hgiven
    | cons c given => exact ⟨l, hlocate, hreceives, hreceives.read hlocate⟩

/-! ## What the exit code tells -/

/-- What the exit code of a command tells about the generation and about what is left on the
host. -/
structure Tells (a : Arguments) (h : Host) (o : Outcome) (h' : Host) : Prop where
  /-- Zero stands for a generation that was begun and completed. -/
  zero : o.exit = .ok 0 ↔
    Starts a h ∧ (∃ text, (generatorOn a h).Makes h text) ∧ ((generatorOn a h).sink? h).isSome
  /-- With zero, the text that was made is the whole of what was written. -/
  wrote : o.exit = .ok 0 → ∃ text, (generatorOn a h).Makes h text ∧ Wrote a text h h'
  /-- One stands for a generation that failed with an error of the tool. -/
  one : o.exit = .ok 1 ↔
    Starts a h ∧ ∃ e, ((generatorOn a h).composed h).1 = .error (.error e)
  /-- With one, the message of the error ends the standard error output. -/
  message : ∀ e, o.exit = .ok 1 → ((generatorOn a h).composed h).1 = .error (.error e) →
    ∃ lines, o.errors = lines ++ "gogen: " ++ e.message ++ ['\n']
  /-- Without zero nothing is written, also when the command crashes. -/
  untouched : o.exit ≠ .ok 0 → h.Unwritten h'

theorem tells_of_not_starts (hs : ¬Starts a h) :
    Tells a h (generate time a h).1 (generate time a h).2 := by
  rw [generate_of_not_starts hs]
  exact ⟨iff_of_false nofun fun h => hs h.1, nofun, iff_of_false nofun fun h => hs h.1, nofun,
    fun _ => .refl h⟩

theorem completes_iff :
    ((generatorOn a h).composed h).1 = .ok () ↔
      (∃ text, (generatorOn a h).Makes h text) ∧ ((generatorOn a h).sink? h).isSome := by
  constructor
  · intro hok
    obtain ⟨r, text, k, htext, hk⟩ := Stage.rendering_of_composed hok
    exact ⟨⟨text, r, htext⟩, Option.isSome_iff_exists.mpr ⟨k, hk⟩⟩
  · rintro ⟨⟨text, r, htext⟩, hsink⟩
    obtain ⟨k, hk⟩ := Option.isSome_iff_exists.mp hsink
    exact (Stage.composed_of_sink htext hk).1

theorem tells_of_starts (hs : Starts a h) :
    Tells a h (generate time a h).1 (generate time a h).2 := by
  obtain ⟨hexit, hhost, hmessage⟩ := generate_of_starts hs time
  have hzero : (generate time a h).1.exit = .ok 0 ↔ ((generatorOn a h).composed h).1 = .ok () := by
    rw [hexit, codeOf_eq_zero_iff]
  constructor
  case zero => rw [hzero, completes_iff, and_iff_right hs]
  case wrote =>
    intro hcode
    obtain ⟨r, text, k, htext, hk⟩ := Stage.rendering_of_composed (hzero.mp hcode)
    rw [hhost]
    exact ⟨text, ⟨r, htext⟩, wrote_of_receives hk (Stage.composed_of_sink htext hk).2⟩
  case one => rw [hexit, codeOf_eq_one_iff, and_iff_right hs]
  case message => exact fun e _ he => hmessage e he
  case untouched =>
    intro hcode
    rw [hhost]
    cases hcomposed : ((generatorOn a h).composed h).1 with
    | ok _ => exact absurd (hzero.mpr hcomposed) hcode
    | error f => exact composed_unwritten hcomposed

/-- The exit code of a command line that asks for code tells the truth about it. The arguments are
those that the words of the line say. Zero : the declaration was resolved and described, the
template was read and rendered, the text was formatted if that is wanted, and it is the whole of
what was written. One : an error of the tool, with its message. Anything but zero, a crash
included : nothing was written. -/
theorem exit_tells {line : List Text} {a : Arguments} (hline : Request.read line = .generate a)
    (version time : Text) (h : Host) :
    (∃ words, Word.readAll line = .ok words ∧ a.OfParts (Word.parts words)) ∧
      Tells a h (run version time line h).1 (run version time line h).2 := by
  refine ⟨Request.read_ofParts hline, ?_⟩
  have hrun : run version time line h = generate time a h := by
    unfold run
    rw [hline]
  rw [hrun]
  by_cases hs : Starts a h
  · exact tells_of_starts hs
  · exact tells_of_not_starts hs

/-- A host with a template and the answer of the type checker about a type. -/
def hostOfTemplate : Host :=
  let answer : Text :=
    "\x7b\"found\":true,\"package\":\x7b\"name\":\"p\",\"path\":\"m/p\"\x7d," ++
    "\"type\":\x7b\"kind\":\"other\"\x7d\x7d"
  let h := Host.inModule [some ⟨0, answer.bytes, []⟩]
  { h with tree :=
      h.tree.put ["m", "t.tmpl"] (Text.bytes "package \x7b\x7b package.name \x7d\x7d") }

/-- A command line with a template and an output file : the exit code is zero, and the file holds
what was made. -/
theorem exit_zero_wrote :
    let line : List Text := ["T", "-t", "t.tmpl", "-ogen.go"]
    let a : Arguments := ⟨"T", "t.tmpl", some "gen.go", ".", false, false⟩
    Request.read line = .generate a ∧ (run "0.1.0" [] line hostOfTemplate).1.exit = .ok 0 ∧
      ∃ text, (generatorOn a hostOfTemplate).Makes hostOfTemplate text ∧
        Wrote a text hostOfTemplate (run "0.1.0" [] line hostOfTemplate).2 := by
  intro line a
  have hline : Request.read line = .generate a := by decide +kernel
  have hexit : (run "0.1.0" [] line hostOfTemplate).1.exit = .ok 0 := by decide +kernel
  obtain ⟨-, htells⟩ := exit_tells hline "0.1.0" [] hostOfTemplate
  generalize run "0.1.0" [] line hostOfTemplate = r at *
  exact ⟨hline, hexit, htells.wrote hexit⟩

end CommandLine.Command

end Stencil
