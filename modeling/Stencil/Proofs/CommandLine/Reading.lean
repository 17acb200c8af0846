import Mathlib.Data.List.TakeWhile
import Stencil.CommandLine.Arguments
import Stencil.Proofs.Outcome

/-!
# What the arguments of a command line are

A command line says its options, with their values, and an argument (`Part`, `Word.parts`). When it
asks for code, the arguments are read off these parts : the one argument is the name, of the values
given to an option the last one counts, and the directory is the current one unless it is given
(`Request.read_ofParts`).

The reading goes from left to right and keeps what it has read (`Progress.Reads`). A word that
belongs nowhere is kept until the end, where it is a misuse, so a reading that succeeds never meets
one.
-/

namespace Stencil.CommandLine

/-! ## Parts of a command line -/

/-- A part of a command line. -/
inductive Part where
  /-- An option with its value, which is empty when it takes none. -/
  | setting (o : Switch) (value : Text)
  | argument (s : Text)
  deriving DecidableEq, Repr

/-- The parts that words say. The value of an option is joined to it or stands behind it. -/
def Word.parts : List Word → List Part
  | [] => []
  | .option o _ (some j) :: rest => .setting o j.value :: parts rest
  | .option o _ none :: .plain s :: rest =>
    if o.takesValue then .setting o s :: parts rest
    else .setting o [] :: .argument s :: parts rest
  | .option o _ none :: rest => .setting o [] :: parts rest
  | .plain s :: rest => .argument s :: parts rest
  | .dashes :: rest | .unknown _ :: rest => parts rest

namespace Part

/-- The values that are given to an option. -/
def values (o : Switch) (ps : List Part) : List Text :=
  ps.filterMap fun
    | .setting o' value => if o' = o then some value else none
    | .argument _ => none

/-- Whether a part is about an option. -/
def isOf (o : Switch) : Part → Bool
  | .setting o' _ => o' = o
  | .argument _ => false

/-- The arguments among parts. -/
def arguments (ps : List Part) : List Text :=
  ps.filterMap fun
    | .setting _ _ => none
    | .argument s => some s

theorem values_append (o : Switch) (ps qs : List Part) :
    values o (ps ++ qs) = values o ps ++ values o qs :=
  List.filterMap_append

theorem arguments_append (ps qs : List Part) :
    arguments (ps ++ qs) = arguments ps ++ arguments qs :=
  List.filterMap_append

end Part

open CommandLine.Part (values)

/-- The arguments that the parts of a command line say. -/
structure Arguments.OfParts (a : Arguments) (ps : List Part) : Prop where
  name : Part.arguments ps = [a.name]
  templateFile : (values .templateFile ps).getLast? = some a.templateFile
  output : a.output = (values .output ps).getLast?
  directory : a.directory = (values .directory ps).getLast?.getD ['.']
  format : a.format = ps.any (Part.isOf .format)
  debug : a.debug = ps.any (Part.isOf .debug)

namespace Progress

/-- Between two states of a reading some parts were read. -/
structure Reads (ps : List Part) (p p' : Progress) : Prop where
  name : p'.name.toList = p.name.toList ++ Part.arguments ps
  templateFile : p'.templateFile = (values .templateFile ps).getLast?.or p.templateFile
  output : p'.output = (values .output ps).getLast?.or p.output
  directory : p'.directory = (values .directory ps).getLast?.or p.directory
  format : p'.format = (p.format || ps.any (Part.isOf .format))
  debug : p'.debug = (p.debug || ps.any (Part.isOf .debug))
  extras : p'.extras = p.extras

namespace Reads

variable {ps qs : List Part} {p p' p'' : Progress}

theorem refl (p : Progress) : Reads [] p p := by
  constructor <;> simp [values, Part.arguments]

theorem append (first : Reads ps p p') (second : Reads qs p' p'') : Reads (ps ++ qs) p p'' where
  name := by rw [second.name, first.name, Part.arguments_append, List.append_assoc]
  templateFile := by
    rw [second.templateFile, first.templateFile, Part.values_append, List.getLast?_append,
      Option.or_assoc]
  output := by
    rw [second.output, first.output, Part.values_append, List.getLast?_append, Option.or_assoc]
  directory := by
    rw [second.directory, first.directory, Part.values_append, List.getLast?_append,
      Option.or_assoc]
  format := by rw [second.format, first.format, List.any_append, Bool.or_assoc]
  debug := by rw [second.debug, first.debug, List.any_append, Bool.or_assoc]
  extras := second.extras.trans first.extras

theorem take {o : Switch} {value : Text} (h : p.take o value = .ok p') :
    Reads [.setting o value] p p' := by
  cases o <;> cases h <;> constructor <;> simp [values, Part.arguments, Part.isOf]

end Reads

end Progress

/-! ## Spellings -/

/-- An option that a word is has the spelling that goes with the word. -/
def Word.Spelled (w : Word) : Prop :=
  ∀ o spelling joined, w = .option o spelling joined →
    ∃ e ∈ Switch.spellings, e.1.toList = spelling ∧ e.2 = o

theorem Switch.mem_spellings_of_ofText? {s : Text} {o : Switch} (h : ofText? s = some o) :
    ∃ e ∈ spellings, e.1.toList = s ∧ e.2 = o := by
  obtain ⟨e, he, rfl⟩ := Option.map_eq_some_iff.mp h
  exact ⟨e, List.mem_of_find?_eq_some he, by simpa using List.find?_some he, rfl⟩

/-- Of the options with one dash only that for help takes no value. -/
theorem Switch.eq_help_of_short :
    ∀ e ∈ spellings, e.1.toList[1]? ≠ some '-' → e.2.takesValue = false → e.2 = help := by
  decide

theorem Word.mem_spellings_of_longMatches {s spelling : Text} {o : Switch} {joined : Option Joined}
    (h : (spelling, o, joined) ∈ longMatches s) :
    ∃ e ∈ Switch.spellings, e.1.toList = spelling ∧ e.2 = o := by
  obtain ⟨e, he, hmatch⟩ := List.mem_filterMap.mp h
  dsimp only at hmatch
  split_ifs at hmatch
  cases hmatch
  exact ⟨e, he, rfl, rfl⟩

theorem Word.mem_spellings_of_shortMatches {s spelling : Text} {o : Switch}
    {joined : Option Joined} (h : (spelling, o, joined) ∈ shortMatches s) :
    ∃ e ∈ Switch.spellings, e.1.toList = spelling ∧ e.2 = o := by
  obtain ⟨e, he, hmatch⟩ := List.mem_filterMap.mp h
  dsimp only at hmatch
  split_ifs at hmatch
  all_goals
    cases hmatch
    exact ⟨e, he, rfl, rfl⟩

theorem Word.spelled_read {s : Text} {w : Word} (h : read s = .ok w) : w.Spelled := by
  rintro o spelling joined rfl
  unfold read at h
  split at h
  · cases h
  split at h
  · next ho =>
    cases h
    exact Switch.mem_spellings_of_ofText? ho
  dsimp only at h
  split at h
  · next ho =>
    cases h
    exact Switch.mem_spellings_of_ofText? ho
  split at h
  · next hmatches =>
    cases h
    split at hmatches
    · exact mem_spellings_of_longMatches (hmatches ▸ List.mem_singleton_self _)
    · exact mem_spellings_of_shortMatches (hmatches ▸ List.mem_singleton_self _)
  · split at h <;> cases h
  · cases h

theorem Word.spelled_readAll :
    ∀ {line : List Text} {words : List Word}, readAll line = .ok words → ∀ w ∈ words, w.Spelled
  | [], _, h => by
    cases h
    exact nofun
  | s :: rest, words, h => by
    unfold readAll at h
    split at h
    · cases h
      rintro w (_ | ⟨_, hw⟩) _ _ _ hoption
      · cases hoption
      · obtain ⟨_, _, rfl⟩ := List.mem_map.mp hw
        cases hoption
    · obtain ⟨w, hw, h⟩ := bind_eq_ok_iff.mp h
      obtain ⟨ws, hws, h⟩ := bind_eq_ok_iff.mp h
      cases h
      rintro w' (_ | ⟨_, hw'⟩)
      · exact spelled_read hw
      · exact spelled_readAll hws w' hw'

/-! ## The reading -/

namespace Progress

variable {p p' : Progress} {o : Switch} {words rest : List Word}

/-- The option for help ends the reading. -/
theorem takeAll_help : ∀ {os : List Switch} {p : Progress}, .help ∈ os → p.takeAll os ≠ .ok p'
  | [], _, h => nomatch h
  | o :: os, p, h => by
    intro hok
    obtain ⟨p₁, ho, hos⟩ := bind_eq_ok_iff.mp hok
    rcases List.mem_cons.mp h with rfl | h
    · cases ho
    · exact takeAll_help h hos

theorem takeLetters_help {before : List Switch} {equals : Bool} {letters : Text}
    {r : Progress × List Word} (h : .help ∈ before ++ [o]) :
    takeLetters p words before o equals letters ≠ .ok r := by
  fun_induction takeLetters p words before o equals letters
  case case1 | case2 => nofun
  case case3 =>
    intro hok
    obtain ⟨_, hall, _⟩ := bind_eq_ok_iff.mp hok
    exact takeAll_help h hall
  case case4 =>
    intro hok
    obtain ⟨_, _, hok⟩ := bind_eq_ok_iff.mp hok
    obtain ⟨_, hall, _⟩ := bind_eq_ok_iff.mp hok
    exact takeAll_help h hall
  case case5 =>
    intro hok
    obtain ⟨_, hall, _⟩ := bind_eq_ok_iff.mp hok
    exact takeAll_help h hall
  case case6 ih | case7 ih => exact ih (List.mem_append_left _ h)

theorem parts_option {spelling : Text} (ho : o.takesValue = false) (words : List Word) :
    Word.parts (.option o spelling .none :: words) = .setting o [] :: Word.parts words := by
  rcases words with _ | ⟨_ | _ | _ | _, _⟩ <;> simp [Word.parts, ho]

theorem valueAfter_eq_ok {value : Text} (spelling : Text)
    (h : valueAfter o words = .ok (value, rest)) :
    Word.parts (.option o spelling .none :: words) = .setting o value :: Word.parts rest ∧
      ∀ w ∈ rest, w ∈ words := by
  unfold valueAfter at h
  cases ho : o.takesValue with
  | true =>
    rw [if_pos ho] at h
    split at h
    · cases h
      exact ⟨by rw [Word.parts, if_pos ho], fun w hw => List.mem_cons_of_mem _ hw⟩
    · cases h
  | false =>
    rw [if_neg (by simp [ho])] at h
    cases h
    exact ⟨parts_option ho words, fun w hw => hw⟩

theorem reads_takeOption {spelling : Text} {joined : Option Joined}
    (hspelled : (Word.option o spelling joined).Spelled)
    (h : p.takeOption o spelling joined words = .ok (p', rest)) :
    (∃ ps, Word.parts (.option o spelling joined :: words) = ps ++ Word.parts rest ∧
      Reads ps p p') ∧ ∀ w ∈ rest, w ∈ words := by
  unfold takeOption at h
  split at h
  · obtain ⟨⟨value, rest⟩, hvalue, h⟩ := bind_eq_ok_iff.mp h
    obtain ⟨p₁, htake, h⟩ := bind_eq_ok_iff.mp h
    cases h
    obtain ⟨hparts, hrest⟩ := valueAfter_eq_ok spelling hvalue
    exact ⟨⟨_, hparts, .take htake⟩, hrest⟩
  · next equals value =>
    split at h
    · obtain ⟨p₁, htake, h⟩ := bind_eq_ok_iff.mp h
      cases h
      exact ⟨⟨[.setting o value], rfl, .take htake⟩, fun w hw => hw⟩
    · next ho =>
      split at h
      · cases h
      · next hshort =>
        -- letters that are joined to an option without a value begin with that for help
        obtain ⟨e, he, rfl, rfl⟩ := hspelled _ _ _ rfl
        have hhelp := Switch.eq_help_of_short e he hshort (Bool.eq_false_iff.mpr ho)
        exact absurd h (takeLetters_help (by simp [hhelp]))

theorem parts_dropWhile_dashes (words : List Word) :
    Word.parts (words.dropWhile (· = .dashes)) = Word.parts words := by
  induction words with
  | nil => rfl
  | cons w rest ih =>
    cases w with
    | dashes => simpa [Word.parts] using ih
    | _ => rfl

theorem reads_takeName (h : p.takeName words = some (p', rest)) :
    (∃ s, Word.parts words = .argument s :: Word.parts rest ∧ Reads [.argument s] p p') ∧
      ∀ w ∈ rest, w ∈ words := by
  unfold takeName at h
  dsimp only at h
  split at h
  · next s rest' hname hwords =>
    cases h
    refine ⟨⟨s, ?_, ?_⟩, fun w hw => ?_⟩
    · rw [parts_dropWhile_dashes, ← parts_dropWhile_dashes words, hwords, Word.parts]
    · constructor <;> simp [values, Part.arguments, Part.isOf, hname]
    · have hw : w ∈ words.dropWhile (· = .dashes) := by
        rw [hwords]
        exact List.mem_cons_of_mem _ ((List.dropWhile_sublist _).mem hw)
      exact (List.dropWhile_sublist _).mem hw
  · cases h

/-- Words that belong nowhere are never forgotten. -/
theorem addExtras_of_reads {ps : List Part} {ws : List Text} (h : Reads ps (p.addExtras ws) p')
    (hextras : p'.extras = []) : ws = [] ∧ Reads ps p p' := by
  have hws : p.extras ++ ws = [] := h.extras.symm.trans hextras
  obtain ⟨-, rfl⟩ := List.append_eq_nil_iff.mp hws
  rw [addExtras, List.append_nil] at h
  exact ⟨rfl, h⟩

/-- Words that are all left over are none, when no word is. -/
theorem reads_left (hextras : (p.addExtras (words.map Word.text)).extras = []) :
    Reads (Word.parts words) p (p.addExtras (words.map Word.text)) := by
  obtain ⟨hwords, hp⟩ := addExtras_of_reads (.refl _) hextras
  obtain rfl := List.map_eq_nil_iff.mp hwords
  exact hp

/-- The first option behind the words that are none. -/
theorem exists_option (h : words.any Word.isOption) :
    ∃ w rest, words.dropWhile (fun w => !w.isOption) = w :: rest ∧ w.isOption = true := by
  obtain ⟨w, hw, hoption⟩ := List.any_eq_true.mp h
  have hne : words.dropWhile (fun w => !w.isOption) ≠ [] := fun hnil => by
    simpa [hoption] using List.dropWhile_eq_nil_iff.mp hnil w hw
  refine ⟨_, _, (List.cons_head_tail hne).symm, ?_⟩
  simpa using List.head_dropWhile_not (fun w : Word => !w.isOption) hne

/-- What stands in front of the first option would be left over. -/
theorem reads_of_between {ps : List Part} {w : Word}
    (hdrop : words.dropWhile (fun w => !w.isOption) = w :: rest)
    (h : Reads ps (p.addExtras ((words.takeWhile fun w => !w.isOption).map Word.text)) p')
    (hextras : p'.extras = []) : words = w :: rest ∧ Reads ps p p' := by
  obtain ⟨hbetween, hp⟩ := addExtras_of_reads h hextras
  have hwords := List.takeWhile_append_dropWhile (p := fun w => !w.isOption) (l := words)
  rw [List.map_eq_nil_iff.mp hbetween, hdrop, List.nil_append] at hwords
  exact ⟨hwords.symm, hp⟩

/-- A reading that leaves no word over has read the parts that the words say. -/
theorem reads_takeWords :
    ∀ (fuel : Nat) {p p' : Progress} {words : List Word}, (∀ w ∈ words, w.Spelled) →
      takeWords fuel p words = .ok p' → p'.extras = [] → Reads (Word.parts words) p p'
  | 0, p, p', words, _, h, hextras => by
    cases h
    exact reads_left hextras
  | fuel + 1, p, p', words, hspelled, h, hextras => by
    unfold takeWords at h
    split at h
    · next hoption =>
      dsimp only at h
      split at h
      · next p₁ words₁ hname =>
        split_ifs at hname
        obtain ⟨⟨s, hparts, hs⟩, hsub⟩ := reads_takeName hname
        rw [hparts]
        exact hs.append (reads_takeWords fuel (fun w hw => hspelled w (hsub w hw)) h hextras)
      · obtain ⟨w, rest, hdrop, hw⟩ := exists_option hoption
        rw [hdrop] at h
        obtain ⟨hfirst, hbehind⟩ : w.Spelled ∧ ∀ w ∈ rest, w.Spelled :=
          List.forall_mem_cons.mp fun w' hw' =>
            hspelled w' ((List.dropWhile_sublist _).mem (hdrop ▸ hw'))
        cases w with
        | plain | dashes => cases hw
        | unknown s =>
          have hrest := reads_takeWords fuel hbehind h hextras
          exact absurd (addExtras_of_reads hrest hextras).1 nofun
        | option o spelling joined =>
          obtain ⟨⟨p₁, rest₁⟩, htake, h⟩ := bind_eq_ok_iff.mp h
          obtain ⟨⟨ps, hparts, hps⟩, hsub⟩ := reads_takeOption hfirst htake
          have hrest := reads_takeWords fuel (fun w hw => hbehind w (hsub w hw)) h hextras
          obtain ⟨hwords, hp⟩ := reads_of_between hdrop (hps.append hrest) hextras
          rw [hwords, hparts]
          exact hp
    · split at h
      · next p₁ rest hname =>
        cases h
        obtain ⟨⟨s, hparts, hs⟩, -⟩ := reads_takeName hname
        rw [hparts]
        exact hs.append (reads_left hextras)
      · cases h
        exact reads_left hextras

theorem extras_of_finish {a : Arguments} (ha : p.finish = .ok a) : p.extras = [] := by
  unfold finish at ha
  split at ha
  · split_ifs at ha with hextras
    · exact List.isEmpty_iff.mp hextras
    · cases ha
  · cases ha

theorem ofParts_finish {ps : List Part} {a : Arguments} (h : Reads ps .none p)
    (ha : p.finish = .ok a) : a.OfParts ps := by
  unfold finish at ha
  split at ha
  · next name templateFile hname htemplate =>
    split_ifs at ha
    · cases ha
      constructor
      · simpa [hname, Progress.none] using h.name.symm
      · simpa [htemplate, Progress.none] using h.templateFile.symm
      · simpa [Progress.none] using h.output
      · simpa [Progress.none] using congrArg (·.getD ['.']) h.directory
      · simpa [Progress.none] using h.format
      · simpa [Progress.none] using h.debug
    · cases ha
  · cases ha

/-! ### Ends of a reading -/

/-- A request that ends a reading early. It does not ask for code. -/
def Ends (r : Request) : Prop := ∀ a, r ≠ .generate a

theorem ends_misuse (m : Misuse) {α : Type} : FailsOnly Ends (misuse m : Reading α) := nofun

theorem ends_take (p : Progress) (o : Switch) (value : Text) : FailsOnly Ends (p.take o value) := by
  cases o with
  | help | version => exact nofun
  | _ => trivial

theorem ends_takeAll : ∀ (os : List Switch) (p : Progress), FailsOnly Ends (p.takeAll os)
  | [], _ => trivial
  | o :: os, p => failsOnly_bind.mpr ⟨ends_take p o [], fun p _ => ends_takeAll os p⟩

theorem ends_valueAfter (o : Switch) (words : List Word) : FailsOnly Ends (valueAfter o words) := by
  unfold valueAfter
  split
  · split
    · trivial
    · exact ends_misuse _
  · trivial

theorem ends_takeLetters (p : Progress) (words : List Word) (before : List Switch) (o : Switch)
    (equals : Bool) (letters : Text) :
    FailsOnly Ends (takeLetters p words before o equals letters) := by
  fun_induction takeLetters p words before o equals letters
  case case1 | case2 => exact ends_misuse _
  case case3 => exact failsOnly_bind.mpr ⟨ends_takeAll _ _, fun _ _ => trivial⟩
  case case4 =>
    refine failsOnly_bind.mpr ⟨ends_valueAfter _ _, fun _ _ => ?_⟩
    refine failsOnly_bind.mpr ⟨ends_takeAll _ _, fun _ _ => ?_⟩
    exact failsOnly_bind.mpr ⟨ends_take _ _ _, fun _ _ => trivial⟩
  case case5 =>
    refine failsOnly_bind.mpr ⟨ends_takeAll _ _, fun _ _ => ?_⟩
    exact failsOnly_bind.mpr ⟨ends_take _ _ _, fun _ _ => trivial⟩
  case case6 ih | case7 ih => exact ih

theorem ends_takeOption (p : Progress) (o : Switch) (spelling : Text) (joined : Option Joined)
    (words : List Word) : FailsOnly Ends (p.takeOption o spelling joined words) := by
  unfold takeOption
  split
  · refine failsOnly_bind.mpr ⟨ends_valueAfter _ _, fun _ _ => ?_⟩
    exact failsOnly_bind.mpr ⟨ends_take _ _ _, fun _ _ => trivial⟩
  · split
    · exact failsOnly_bind.mpr ⟨ends_take _ _ _, fun _ _ => trivial⟩
    · split
      · exact ends_misuse _
      · exact ends_takeLetters _ _ _ _ _ _

theorem ends_takeWords : ∀ (fuel : Nat) (p : Progress) (words : List Word),
    FailsOnly Ends (takeWords fuel p words)
  | 0, _, _ => trivial
  | fuel + 1, p, words => by
    unfold takeWords
    split
    · dsimp only
      split
      · exact ends_takeWords fuel _ _
      · split
        · refine failsOnly_bind.mpr ⟨ends_takeOption _ _ _ _ _, fun r _ => ?_⟩
          exact ends_takeWords fuel r.1 r.2
        · exact ends_takeWords fuel _ _
        · trivial
    · split <;> trivial

theorem ends_finish (p : Progress) : FailsOnly Ends p.finish := by
  unfold finish
  split
  · split
    · trivial
    · exact ends_misuse _
  · exact ends_misuse _

end Progress

/-- A command line that asks for code consists of words, and its arguments are what the parts of
these words say. -/
theorem Request.read_ofParts {line : List Text} {a : Arguments} (h : read line = .generate a) :
    ∃ words, Word.readAll line = .ok words ∧ a.OfParts (Word.parts words) := by
  unfold read at h
  split at h
  · cases h
  · next words hwords =>
    refine ⟨words, hwords, ?_⟩
    split at h
    · next a' hread =>
      cases h
      obtain ⟨p, hp, ha⟩ := bind_eq_ok_iff.mp hread
      have hreads := Progress.reads_takeWords _ (Word.spelled_readAll hwords) hp
        (Progress.extras_of_finish ha)
      exact Progress.ofParts_finish hreads ha
    · next r hread =>
      have hends : FailsOnly Progress.Ends
          (Progress.takeWords (words.length + 1) .none words >>= Progress.finish) :=
        failsOnly_bind.mpr ⟨Progress.ends_takeWords _ _ _, fun p _ => Progress.ends_finish p⟩
      rw [hread] at hends
      exact absurd h (hends a)

end Stencil.CommandLine
