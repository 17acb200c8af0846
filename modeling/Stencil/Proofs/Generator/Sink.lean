import Stencil.Proofs.Generator.Stages

/-!
# Where a text goes

A generator has at most one sink on a host (`Generator.sink?`) : the writer if there is one, else
the file to which the output path leads, else the standard output. There is none where the writer
fails or no file can be written. `Sink.Receives` : one sink gets a text and everything else stays.

The last stage succeeds exactly when there is a sink, which then receives the text of the generator
(`writeOutput_of_sink`, `writeOutput_of_no_sink`).
-/

namespace Stencil

/-- Where a text can go. -/
inductive Sink where
  /-- The buffer of the caller. -/
  | buffer
  /-- The standard output. -/
  | output
  | file (l : Location)
  deriving DecidableEq, Repr

/-- Between two states of a host one sink received a text : the buffer or the standard output behind
what was there, a file as its whole content. Every path leads where it led. -/
structure Sink.Receives (k : Sink) (text : Text) (h h' : Host) : Prop where
  buffer : h'.buffer = if k = .buffer then h.buffer ++ text else h.buffer
  output : h'.output = if k = .output then h.output ++ text else h.output
  entry : ∀ l, h'.tree.entry? l = if k = .file l then some (.file text.bytes) else h.tree.entry? l
  current : h'.current = h.current
  paths : ∀ p l, h'.tree.locate h.current p = .ok l ↔ h.tree.locate h.current p = .ok l

namespace Sink.Receives

variable {k : Sink} {text : Text} {h h' h'' : Host}

theorem of_unwritten (first : h.Unwritten h') (second : k.Receives text h' h'') :
    k.Receives text h h'' where
  buffer := by rw [second.buffer, first.buffer]
  output := by rw [second.output, first.output]
  entry l := by rw [second.entry, first.tree]
  current := second.current.trans first.current
  paths p l := by
    have hpaths := second.paths p l
    rwa [first.current, first.tree] at hpaths

theorem toBuffer : Receives .buffer text h { h with buffer := h.buffer ++ text } :=
  ⟨rfl, rfl, fun _ => rfl, rfl, fun _ _ => Iff.rfl⟩

theorem toOutput : Receives .output text h { h with output := h.output ++ text } :=
  ⟨rfl, rfl, fun _ => rfl, rfl, fun _ _ => Iff.rfl⟩

theorem put {l : Location} (hl : h.tree.isDirectory l = false) :
    Receives (.file l) text h { h with tree := h.tree.put l text.bytes } where
  buffer := rfl
  output := rfl
  entry l' := by simp [FileTree.entry?_put hl, eq_comm]
  current := rfl
  paths p l' := FileTree.locate_put_eq_ok_iff hl

/-- A path to the file that received a text gives the text. -/
theorem read {l : Location} {given : Text} (hk : Receives (.file l) text h h')
    (hl : h.tree.locate h.current (Path.ofText given) = .ok l) :
    h'.read (Path.ofText given) = .ok text.bytes := by
  have hlocate := (hk.paths _ _).mpr hl
  rw [← hk.current] at hlocate
  exact FileTree.read_of_file hlocate (by rw [hk.entry, if_pos rfl])

end Sink.Receives

namespace Generator

/-- The file to which a path leads, if it can be written. -/
def fileSink? (given : Text) (h : Host) : Option Sink :=
  match h.tree.locate h.current (Path.ofText given) with
  | .ok l => if h.tree.isDirectory l then none else some (.file l)
  | .error _ => none

/-- The sink of a generator on a host. -/
def sink? (g : Generator) (h : Host) : Option Sink :=
  match g.writer, g.output with
  | some .buffer, _ => some .buffer
  | some .broken, _ => none
  | none, none | none, some [] => some .output
  | none, some given => fileSink? given h

theorem fileSink?_eq_some_iff {given : Text} {h : Host} {k : Sink} :
    fileSink? given h = some k ↔
      ∃ l, h.tree.locate h.current (Path.ofText given) = .ok l ∧ h.tree.isDirectory l = false ∧
        .file l = k := by
  unfold fileSink?
  cases h.tree.locate h.current (Path.ofText given) with
  | error f => simp
  | ok l => cases hl : h.tree.isDirectory l <;> simp [hl]

end Generator

/-! ## The last stage -/

namespace Stage

open Generator (fileSink?)

section

variable {h : Host} {given text : Text}

/-- The host after the message about a file that is to be written. -/
def announced (given : Text) (h : Host) : Host := h.note .info logger ("Writing " ++ given)

theorem writeFile_apply (given text : Text) (h : Host) :
    writeFile given text h =
      match h.tree.write h.current (Path.ofText given) text.bytes with
      | .ok tree => (.ok (), { announced given h with tree })
      | .error .nullCharacter => (.error (.crash .badValue), announced given h)
      | .error f => (.error (.error (.unwritable given (.file f))), announced given h) := by
  rw [writeFile, bind_apply]
  simp only [Run.note, Run.change, get_bind_apply, Host.note]
  rcases h.tree.write h.current (Path.ofText given) text.bytes with f | tree
  · cases f <;> rfl
  · rfl

theorem writeFile_of_sink {k : Sink} (hk : fileSink? given h = some k) :
    (writeFile given text h).1 = .ok () ∧ k.Receives text h (writeFile given text h).2 ∧
      (writeFile given text h).2.calls = h.calls := by
  obtain ⟨l, hlocate, hl, rfl⟩ := Generator.fileSink?_eq_some_iff.mp hk
  rw [writeFile_apply, FileTree.write_eq_ok_iff.mpr ⟨l, hlocate, hl, rfl⟩]
  refine ⟨rfl, ?_, rfl⟩
  exact (Sink.Receives.put (h := announced given h) hl).of_unwritten (.note _ _ _ h)

theorem exists_write_eq_error (hk : fileSink? given h = none) (content : Bytes) :
    ∃ f, h.tree.write h.current (Path.ofText given) content = .error f := by
  cases hwrite : h.tree.write h.current (Path.ofText given) content with
  | error f => exact ⟨f, rfl⟩
  | ok tree =>
    obtain ⟨l, hlocate, hl, -⟩ := FileTree.write_eq_ok_iff.mp hwrite
    rw [Generator.fileSink?_eq_some_iff.mpr ⟨l, hlocate, hl, rfl⟩] at hk
    cases hk

theorem writeFile_of_no_sink (hk : fileSink? given h = none) :
    ∃ e, writeFile given text h = (.error e, announced given h) := by
  obtain ⟨f, hf⟩ := exists_write_eq_error hk text.bytes
  rw [writeFile_apply, hf]
  cases f <;> exact ⟨_, rfl⟩

end

variable {s : Session}

/-- The last stage works on the host only. -/
theorem generator_writeOutput (s : Session) : (writeOutput s).2.generator = s.generator := by
  rw [writeOutput, generator_bind_apply]
  rcases s.generator.writer with _ | _ | _
  · rcases s.generator.output with _ | _ | _ <;> rfl
  · rfl
  · rfl

/-- With a sink the last stage succeeds, and the sink receives the text of the generator. -/
theorem writeOutput_of_sink {k : Sink} (hk : s.generator.sink? s.host = some k) :
    (writeOutput s).1 = .ok () ∧ k.Receives s.generator.text s.host (writeOutput s).2.host ∧
      (writeOutput s).2.host.calls = s.host.calls := by
  rw [writeOutput, generator_bind_apply]
  unfold Generator.sink? at hk
  split at hk
  · next hwriter =>
    cases hk
    simp only [hwriter]
    exact ⟨rfl, .toBuffer, rfl⟩
  · cases hk
  · next hwriter houtput =>
    cases hk
    simp only [hwriter, houtput]
    exact ⟨rfl, .toOutput, rfl⟩
  · next hwriter houtput =>
    cases hk
    simp only [hwriter, houtput]
    exact ⟨rfl, .toOutput, rfl⟩
  · next given hgiven hwriter houtput =>
    simp only [hwriter, houtput]
    exact writeFile_of_sink hk

/-- Without a sink the last stage fails, and nothing is written. -/
theorem writeOutput_of_no_sink (hk : s.generator.sink? s.host = none) :
    (∃ e, (writeOutput s).1 = .error e) ∧ s.host.Unwritten (writeOutput s).2.host ∧
      (writeOutput s).2.host.calls = s.host.calls := by
  rw [writeOutput, generator_bind_apply]
  unfold Generator.sink? at hk
  split at hk
  · cases hk
  · next hwriter =>
    simp only [hwriter]
    exact ⟨⟨_, rfl⟩, .refl _, rfl⟩
  · cases hk
  · cases hk
  · next given hgiven hwriter houtput =>
    simp only [hwriter, houtput]
    obtain ⟨e, he⟩ : ∃ e, writeFile given s.generator.text s.host =
        (.error e, announced given s.host) := writeFile_of_no_sink hk
    simp only [onHost, he]
    exact ⟨⟨e, rfl⟩, .note _ _ _ _, rfl⟩

end Stage

end Stencil
