import Stencil.Proofs.Generator.Operation

/-!
# What was written in a history

`deliveries` keeps, beside a history of operations, the texts that the last stage sent off when it
succeeded, each with its sink. Nothing else is written : the buffer and the standard output grew by
the texts that they were sent, a file holds the last one, and every path leads where it led
(`Host.Received`). `Operation.received_deliveries` is one operation, `Session.received_deliveries` a
history.
-/

namespace Stencil

open Pairs (values)

/-- Between two states of a host the sinks received texts, in this order : the buffer and the
standard output all of theirs behind what was there, a file the last one as its whole content. -/
structure Host.Received (ds : List (Sink × Text)) (h h' : Host) : Prop where
  buffer : h'.buffer = h.buffer ++ (values .buffer ds).flatten
  output : h'.output = h.output ++ (values .output ds).flatten
  entry : ∀ l, h'.tree.entry? l =
    match (values (.file l) ds).getLast? with
    | some text => some (.file text.bytes)
    | none => h.tree.entry? l
  current : h'.current = h.current
  paths : ∀ p l, h'.tree.locate h.current p = .ok l ↔ h.tree.locate h.current p = .ok l

namespace Host.Received

variable {h h' h'' : Host} {ds ds' : List (Sink × Text)}

theorem of_unwritten (hh : h.Unwritten h') : h.Received [] h' where
  buffer := by rw [hh.buffer, Pairs.values_nil, List.flatten_nil, List.append_nil]
  output := by rw [hh.output, Pairs.values_nil, List.flatten_nil, List.append_nil]
  entry l := by rw [hh.tree, Pairs.values_nil, List.getLast?_nil]
  current := hh.current
  paths p l := by rw [hh.tree]

theorem of_receives {k : Sink} {text : Text} (hk : k.Receives text h h') :
    h.Received [(k, text)] h' where
  buffer := by
    rw [hk.buffer]
    by_cases hbuffer : k = .buffer
    · subst hbuffer
      simp [Pairs.values_cons_self]
    · simp [hbuffer, Pairs.values_cons_of_ne]
  output := by
    rw [hk.output]
    by_cases houtput : k = .output
    · subst houtput
      simp [Pairs.values_cons_self]
    · simp [houtput, Pairs.values_cons_of_ne]
  entry l := by
    rw [hk.entry]
    by_cases hl : k = .file l
    · subst hl
      simp [Pairs.values_cons_self]
    · simp [hl, Pairs.values_cons_of_ne]
  current := hk.current
  paths := hk.paths

theorem append (first : h.Received ds h') (second : h'.Received ds' h'') :
    h.Received (ds ++ ds') h'' where
  buffer := by
    rw [second.buffer, first.buffer, Pairs.values_append, List.flatten_append, List.append_assoc]
  output := by
    rw [second.output, first.output, Pairs.values_append, List.flatten_append, List.append_assoc]
  entry l := by
    rw [second.entry, first.entry, Pairs.values_append, List.getLast?_append]
    cases (values (.file l) ds').getLast? <;> rfl
  current := second.current.trans first.current
  paths p l := by
    have hpaths := second.paths p l
    rw [first.current] at hpaths
    exact hpaths.trans (first.paths p l)

/-- A path to a file gives the text that the file received last. -/
theorem read (hh : h.Received ds h') {given text : Text} {l : Location}
    (hl : h.tree.locate h.current (Path.ofText given) = .ok l)
    (htext : (values (.file l) ds).getLast? = some text) :
    h'.read (Path.ofText given) = .ok text.bytes := by
  have hentry := hh.entry l
  rw [htext] at hentry
  have hlocate := (hh.paths _ _).mpr hl
  rw [← hh.current] at hlocate
  exact FileTree.read_of_file hlocate hentry

end Host.Received

/-! ## Deliveries -/

/-- The text that the last stage sends off in a session, with its sink, if it succeeds. -/
def Session.sent (s : Session) : List (Sink × Text) :=
  match Stage.writeOutput s, s.generator.sink? s.host with
  | (.ok _, _), some k => [(k, s.generator.text)]
  | _, _ => []

/-- What an operation sends off : the last stage when it is called, also as the end of a run. -/
def Operation.deliveries (s : Session) : Operation → List (Sink × Text)
  | call .writeOutput => s.sent
  | run =>
    match Stage.through Stage.Name.all.dropLast (Stage.begun s) with
    | (.ok _, s') => s'.sent
    | (.error _, _) => []
  | call _ | assign _ => []

/-- What a history of operations sends off. -/
def Session.deliveries : List Operation → Session → List (Sink × Text)
  | [], _ => []
  | o :: os, s => o.deliveries s ++ deliveries os (o.stage s).2

theorem Session.received_sent (s : Session) :
    s.host.Received s.sent (Stage.writeOutput s).2.host := by
  have hends := Stage.ends_writeOutput s
  unfold sent
  generalize Stage.writeOutput s = r at hends
  cases hends with
  | written hk hreceives _ =>
    rw [hk]
    exact .of_receives hreceives
  | unwritten _ hh _ => exact .of_unwritten hh

namespace Operation

theorem deliveries_call_of_ne {n : Stage.Name} (hn : n ≠ .writeOutput) (s : Session) :
    (call n).deliveries s = [] := by
  cases n with
  | writeOutput => exact absurd rfl hn
  | _ => rfl

theorem received_run (s : Session) :
    s.host.Received (run.deliveries s) (run.stage s).2.host := by
  -- the stages in front of the last one write nothing, and its success is a delivery
  have hrun : run.stage s =
      Stage.through (Stage.Name.all.dropLast ++ [.writeOutput]) (Stage.begun s) := rfl
  have hlast : Stage.Name.writeOutput ∉ Stage.Name.all.dropLast := by decide
  have hunwritten := (Host.Unwritten.note _ _ _ _).trans
    (Stage.unwritten_through hlast (Stage.begun s))
  rw [hrun, Stage.through_append, deliveries]
  rcases hfront : Stage.through Stage.Name.all.dropLast (Stage.begun s) with ⟨f | _, s'⟩ <;>
    rw [hfront] at hunwritten
  · exact .of_unwritten hunwritten
  · rw [Stage.through_singleton]
    exact (Host.Received.of_unwritten hunwritten).append s'.received_sent

/-- An operation writes what it sends off and nothing else. -/
theorem received_deliveries (o : Operation) (s : Session) :
    s.host.Received (o.deliveries s) (o.stage s).2.host := by
  cases o with
  | call n =>
    by_cases hn : n = .writeOutput
    · subst hn
      exact s.received_sent
    · rw [deliveries_call_of_ne hn]
      exact .of_unwritten (Stage.unwritten_stage hn s)
  | run => exact received_run s
  | assign a => exact .of_unwritten (.refl _)

end Operation

namespace Session

theorem received_deliveries (os : List Operation) (s : Session) :
    s.host.Received (deliveries os s) (after os s).host := by
  induction os generalizing s with
  | nil => exact .of_unwritten (.refl _)
  | cons o os ih => exact (o.received_deliveries s).append (ih _)

/-- Whatever is done with a generator, what was written is what the last stage sent off, in this
order : the buffer, the standard output and every file hold that and what was there before, and a
path to a file gives the text that the file was sent last. -/
theorem history_exact (os : List Operation) (s : Session) :
    s.host.Received (deliveries os s) (after os s).host ∧
      ∀ given text l, s.host.tree.locate s.host.current (Path.ofText given) = .ok l →
        (values (.file l) (deliveries os s)).getLast? = some text →
          (after os s).host.read (Path.ofText given) = .ok text.bytes :=
  have hreceived := received_deliveries os s
  ⟨hreceived, fun _ _ _ => hreceived.read⟩

/-- A text that goes into a file and into the buffer, and another one that replaces it in the file
and goes to the standard output. -/
theorem history_of_three_sinks :
    let s : Session :=
      ⟨{ Generator.ofName "T" Settings.default with
          template := some "one", output := some "gen.go" }, Host.inModule []⟩
    let os : List Operation :=
      [.run, .assign (.writer (some .buffer)), .call .writeOutput, .assign (.writer none),
        .assign (.template (some "two")), .call .executeTemplate, .call .writeOutput,
        .assign (.output none), .call .writeOutput]
    (after os s).host.buffer = "one" ∧ (after os s).host.output = "two" ∧
      (after os s).host.read (Path.ofText "gen.go") = .ok (Text.bytes "two") := by
  intro s os
  have hdeliveries : deliveries os s =
      ([(.file ["m", "gen.go"], "one"), (.buffer, "one"), (.file ["m", "gen.go"], "two"),
        (.output, "two")] : List (Sink × Text)) := by decide
  obtain ⟨hreceived, hread⟩ := history_exact os s
  rw [hdeliveries] at hreceived hread
  exact ⟨hreceived.buffer, hreceived.output,
    hread "gen.go" "two" ["m", "gen.go"] (by decide) (by decide)⟩

end Session

end Stencil
