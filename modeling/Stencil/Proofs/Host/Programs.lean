import Stencil.Formatter
import Stencil.Proofs.Checker.Noise
import Stencil.Proofs.Host.Writing

/-!
# What programs leave on the host

Resolving a declaration calls the program that checks types when the source directory is found, and
only then (`resolve_snd`). Formatting a text always calls the formatter, once (`format_snd`). Beyond
the call, with the answer that is used up, there are only messages : nothing is written.
-/

namespace Stencil

namespace Checker

variable (settings : Settings) (given name : Text) (h : Host)

/-- The calls that resolving a declaration makes : one if the source directory is found. -/
def callsFor : List Call :=
  match SourceDirectory.find h given with
  | .ok source => [callFor settings.go source.package.text name]
  | .error _ => []

/-- Resolving a declaration leaves the host as it is, or with one call more and messages. -/
theorem resolve_snd :
    (∃ f, SourceDirectory.find h given = .error f ∧ (resolve settings given name h).2 = h) ∨
      ∃ source first second, SourceDirectory.find h given = .ok source ∧
        (resolve settings given name h).2 =
          (((h.note .info logger first).note .debug logger second).call
            (callFor settings.go source.package.text name)).2 := by
  rw [resolve, bind_apply]
  cases hfind : SourceDirectory.find h given with
  | error f =>
    refine .inl ⟨f, rfl, ?_⟩
    simp only [Run.look, hfind]
  | ok source =>
    refine .inr ⟨source,
      "Parsing " ++ source.package.text ++ " (module " ++ source.modulePath ++ ")",
      "running " ++ Text.joined [' '] (callFor settings.go source.package.text name).command,
      rfl, ?_⟩
    simp only [Run.look, hfind, bind_apply, Run.note, Run.change, Run.call, Host.note, Host.call]
    rcases (callFor settings.go source.package.text name).answered h.answers.head?.join
      with c | (_ | a) <;> rfl

theorem resolve_unwritten : h.Unwritten (resolve settings given name h).2 := by
  obtain ⟨f, -, hsnd⟩ | ⟨source, first, second, -, hsnd⟩ := resolve_snd settings given name h <;>
    rw [hsnd]
  · exact .refl h
  · exact ⟨rfl, rfl, rfl, rfl⟩

theorem calls_resolve :
    (resolve settings given name h).2.calls = h.calls ++ callsFor settings given name h := by
  obtain ⟨f, hfind, hsnd⟩ | ⟨source, first, second, hfind, hsnd⟩ :=
    resolve_snd settings given name h <;> rw [hsnd, callsFor, hfind]
  · exact (List.append_nil _).symm
  · rfl

/-- Where the source directory is found, resolving uses up an answer. -/
theorem answers_resolve :
    (resolve settings given name h).2.answers =
      match SourceDirectory.find h given with
      | .ok _ => h.answers.drop 1
      | .error _ => h.answers := by
  obtain ⟨f, hfind, hsnd⟩ | ⟨source, first, second, hfind, hsnd⟩ :=
    resolve_snd settings given name h <;> rw [hsnd, hfind]
  rfl

/-- Messages do not change what is resolved. -/
theorem resolve_note_fst (level : Level) (from' message : Text) :
    (resolve settings given name (h.note level from' message)).1 =
      (resolve settings given name h).1 := by
  rw [resolve_fst, resolve_fst]
  rfl

end Checker

namespace Formatter

variable (settings : Settings) (output : Option Text) (text : Text) (h : Host)

/-- The call by which a text is formatted. -/
def callFor : Call := ⟨[settings.formatter], some text, []⟩

/-- How formatting ends is decided by the next answer. -/
theorem format_fst :
    (format settings output text h).1 =
      (((callFor settings text).answered h.answers.head?.join).mapError .crash >>= fun
      | none => .error (.error (.format (.noFormatter settings.formatter)))
      | some a => formatted (outputName output) a) := by
  simp only [format, bind_apply, Run.note, Run.change, Run.call, Host.note, Host.call, callFor]
  rcases Call.answered _ h.answers.head?.join with c | (_ | a) <;> rfl

theorem format_snd :
    (format settings output text h).2 =
      ((h.note .debug "gogen.fmt"
        ("formatting " ++ outputName output ++ " with " ++ settings.formatter)).call
          (callFor settings text)).2 := by
  simp only [format, bind_apply, Run.note, Run.change, Run.call, Host.note, Host.call, callFor]
  rcases Call.answered _ h.answers.head?.join with c | (_ | a) <;> rfl

theorem format_unwritten : h.Unwritten (format settings output text h).2 := by
  rw [format_snd]
  exact ⟨rfl, rfl, rfl, rfl⟩

theorem calls_format :
    (format settings output text h).2.calls = h.calls ++ [callFor settings text] := by
  rw [format_snd]
  rfl

end Formatter

end Stencil
