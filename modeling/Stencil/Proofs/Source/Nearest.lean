import Mathlib.Data.List.Induction
import Mathlib.Data.List.Infix
import Stencil.Proofs.Host.Path
import Stencil.Proofs.Source.Module

/-!
# The nearest module

`Climbs` : the search for a module goes up from a directory, one location after the other. It looks
at each of them before it asks whether that is the root, and it ends with one outcome (`Climbs.eq`),
which is the nearest location with a module file, if there is one (`Nearest`).
-/

namespace Stencil.SourceDirectory

variable {t : FileTree} {l r r' : Location}

/-! ## The search -/

/-- Something is in the place of the module file of a location. -/
def HasModule (t : FileTree) (r : Location) : Prop := (t.entry? (r ++ [moduleFile])).isSome

instance (t : FileTree) (r : Location) : Decidable (HasModule t r) :=
  inferInstanceAs (Decidable ((t.entry? (r ++ [moduleFile])).isSome = true))

/-- The search from a location ends with an outcome. -/
inductive Climbs (t : FileTree) : Location → Option Location → Prop
  | found {l : Location} (h : HasModule t l) : Climbs t l (some l)
  | top (h : ¬HasModule t []) : Climbs t [] none
  | up {l : Location} {name : Text} {outcome : Option Location} (h : ¬HasModule t (l ++ [name]))
    (hup : Climbs t l outcome) : Climbs t (l ++ [name]) outcome

/-- A module is nearest to a location : it is at the location or above, and none is in between. -/
structure Nearest (t : FileTree) (l r : Location) : Prop where
  above : r <+: l
  module : HasModule t r
  least : ∀ r', r <+: r' → r' <+: l → r' ≠ r → ¬HasModule t r'

theorem above_concat (l : Location) (name : Text) :
    FileTree.above (l ++ [name]) = FileTree.above l ++ [l ++ [name]] := by
  have hbelow : (List.range (l.length + 1)).map (fun n => (l ++ [name]).take n) =
      FileTree.above l := by
    refine List.map_congr_left fun n hn => List.take_append_of_le_length ?_
    exact Nat.le_of_lt_succ (List.mem_range.mp hn)
  rw [FileTree.above, List.length_append, List.length_singleton, List.range_succ, List.map_append,
    hbelow, List.map_singleton, List.take_of_length_le (by simp)]

theorem moduleRoot?_nil (t : FileTree) :
    moduleRoot? t [] = if HasModule t [] then some [] else none := by
  rw [moduleRoot?, FileTree.above]
  exact List.find?_singleton ..

/-- The search looks at a location, and else at the one above. -/
theorem moduleRoot?_concat (t : FileTree) (l : Location) (name : Text) :
    moduleRoot? t (l ++ [name]) =
      if HasModule t (l ++ [name]) then some (l ++ [name]) else moduleRoot? t l := by
  rw [moduleRoot?, above_concat, List.reverse_append, List.reverse_singleton,
    List.singleton_append]
  by_cases h : HasModule t (l ++ [name])
  · rw [if_pos h]
    exact List.find?_cons_of_pos h
  · rw [if_neg h]
    exact List.find?_cons_of_neg h

theorem climbs_moduleRoot? (t : FileTree) (l : Location) : Climbs t l (moduleRoot? t l) := by
  induction l using List.reverseRecOn with
  | nil =>
    rw [moduleRoot?_nil]
    split
    · next h => exact .found h
    · next h => exact .top h
  | append_singleton l name ih =>
    rw [moduleRoot?_concat]
    split
    · next h => exact .found h
    · next h => exact .up h ih

theorem Climbs.eq {outcome : Option Location} (h : Climbs t l outcome) :
    moduleRoot? t l = outcome := by
  induction h with
  | @found l h =>
    rcases List.eq_nil_or_concat l with rfl | ⟨l, name, rfl⟩
    · rw [moduleRoot?_nil, if_pos h]
    · rw [List.concat_eq_append] at h ⊢
      rw [moduleRoot?_concat, if_pos h]
  | top h => rw [moduleRoot?_nil, if_neg h]
  | up h _ ih => rw [moduleRoot?_concat, if_neg h, ih]

/-! ## What the search finds -/

theorem nearest_self (h : HasModule t l) : Nearest t l l :=
  ⟨List.prefix_rfl, h, fun _ hbelow habove hne =>
    absurd (habove.eq_of_length_le hbelow.length_le) hne⟩

/-- Where there is no module, the nearest one is that of the location above. -/
theorem Nearest.concat {name : Text} (h : Nearest t l r) (hname : ¬HasModule t (l ++ [name])) :
    Nearest t (l ++ [name]) r := by
  refine ⟨h.above.trans (List.prefix_append _ _), h.module, fun r' hbelow habove hne => ?_⟩
  rcases List.prefix_concat_iff.mp habove with rfl | habove
  · exact hname
  · exact h.least r' hbelow habove hne

theorem Nearest.unique (h : Nearest t l r) (h' : Nearest t l r') : r = r' := by
  by_contra hne
  rcases List.prefix_or_prefix_of_prefix h.above h'.above with hr | hr
  · exact h.least r' hr h'.above (Ne.symm hne) h'.module
  · exact h'.least r hr h.above hne h.module

/-- What the search ends with is the nearest module, or nothing if there is none. -/
theorem Climbs.outcome {outcome : Option Location} (h : Climbs t l outcome) :
    (∀ r, outcome = some r → Nearest t l r) ∧
      (outcome = none → ∀ r, r <+: l → ¬HasModule t r) := by
  induction h with
  | @found l h =>
    refine ⟨?_, nofun⟩
    rintro _ ⟨⟩
    exact nearest_self h
  | top h =>
    refine ⟨nofun, fun _ r hr => ?_⟩
    rwa [List.prefix_nil.mp hr]
  | up h _ ih =>
    refine ⟨fun r hr => (ih.1 r hr).concat h, fun hnone r hr => ?_⟩
    rcases List.prefix_concat_iff.mp hr with rfl | hr
    · exact h
    · exact ih.2 hnone r hr

theorem moduleRoot?_eq_none_iff : moduleRoot? t l = none ↔ ∀ r, r <+: l → ¬HasModule t r := by
  obtain ⟨hsome, hnone⟩ := (climbs_moduleRoot? t l).outcome
  refine ⟨hnone, fun h => ?_⟩
  cases hr : moduleRoot? t l with
  | none => rfl
  | some r => exact absurd (hsome r hr).module (h r (hsome r hr).above)

theorem moduleRoot?_eq_some_iff : moduleRoot? t l = some r ↔ Nearest t l r := by
  obtain ⟨hsome, hnone⟩ := (climbs_moduleRoot? t l).outcome
  refine ⟨hsome r, fun h => ?_⟩
  cases hr : moduleRoot? t l with
  | none => exact absurd h.module (hnone hr r h.above)
  | some r' => rw [h.unique (hsome r' hr)]

/-- A module stays nearest for what is below, as long as there is none on the way. -/
theorem Nearest.below {l' : Location} (h : Nearest t l r) (hl : l <+: l')
    (hway : ∀ r', l <+: r' → r' <+: l' → r' ≠ l → ¬HasModule t r') : Nearest t l' r := by
  refine ⟨h.above.trans hl, h.module, fun r' hbelow habove hne => ?_⟩
  rcases List.prefix_or_prefix_of_prefix habove hl with hr' | hr'
  · exact h.least r' hbelow hr' hne
  · by_cases heq : r' = l
    · exact h.least r' hbelow (heq ▸ List.prefix_rfl) hne
    · exact hway r' hr' habove heq

/-! ## Directories that are named -/

variable {h : Host} {given : Text}

/-- A path names a directory. -/
structure Names (h : Host) (given : Text) (l : Location) : Prop where
  null : '\x00' ∉ given
  leads : h.tree.Leads (FileTree.startOf h.current (Path.ofText given)) (Path.ofText given).names l
  directory : h.tree.isDirectory l

/-- A path is too long, or there is a name on it that is too long in a directory where it is looked
for. -/
structure Overlong (h : Host) (given : Text) : Prop where
  null : '\x00' ∉ given
  long : (Path.ofText given).isTooLong ∨
    ∃ before name behind l, (Path.ofText given).names = before ++ name :: behind ∧
      h.tree.Leads (FileTree.startOf h.current (Path.ofText given)) before l ∧
      h.tree.isDirectory l ∧ 255 < name.bytes.length

theorem null_ofText_iff : '\x00' ∈ (Path.ofText given).text ↔ '\x00' ∈ given :=
  Path.mem_text_ofText_iff (by decide) (by decide)

theorem overlong_iff :
    Overlong h given ↔ h.tree.locate h.current (Path.ofText given) = .error .nameTooLong := by
  rw [FileTree.locate_eq_nameTooLong_iff, null_ofText_iff]
  exact ⟨fun hlong => ⟨hlong.null, hlong.long⟩, fun ⟨hnull, hlong⟩ => ⟨hnull, hlong⟩⟩

theorem names_iff (hshort : ¬Overlong h given) :
    Names h given l ↔
      h.tree.locate h.current (Path.ofText given) = .ok l ∧ h.tree.isDirectory l := by
  rw [FileTree.locate_eq_ok_iff, null_ofText_iff]
  constructor
  · intro hl
    have hpath : (Path.ofText given).isTooLong = false :=
      Bool.eq_false_iff.mpr fun hlong => hshort ⟨hl.null, .inl hlong⟩
    exact ⟨⟨hl.null, hpath, hl.leads⟩, hl.directory⟩
  · rintro ⟨⟨hnull, -, hleads⟩, hl⟩
    exact ⟨hnull, hleads, hl⟩

theorem find_of_overlong (hlong : Overlong h given) : find h given = .error (.crash .system) := by
  have hfind : h.tree.find? h.current (Path.ofText given) = .error .nameTooLong :=
    FileTree.find?_eq_error_iff.mpr ⟨rfl, overlong_iff.mp hlong⟩
  rw [find, hfind]
  rfl

theorem find_of_not_names (hshort : ¬Overlong h given) (hnone : ∀ l, ¬Names h given l) :
    find h given = .error (Failure.resolution (.noDirectory given)) := by
  rw [find]
  split
  · next f hfind =>
    obtain ⟨rfl, hlocate⟩ := FileTree.find?_eq_error_iff.mp hfind
    exact absurd (overlong_iff.mpr hlocate) hshort
  · rfl
  · next l hfind =>
    have hlocate := (FileTree.find?_eq_some_iff.mp hfind).1
    rw [if_neg fun hl => hnone l ((names_iff hshort).mpr ⟨hlocate, hl⟩)]

/-- A path names a directory, and both of them leave room for a look at a module file. -/
structure Searchable (h : Host) (given : Text) (l : Location) : Prop where
  names : Names h given l
  short : ¬Overlong h given
  room : ((Path.ofLocation l).child moduleFile).isTooLong = false

theorem searchable_of_locate (hlocate : h.tree.locate h.current (Path.ofText given) = .ok l)
    (hl : h.tree.isDirectory l) (hroom : ((Path.ofLocation l).child moduleFile).isTooLong = false) :
    Searchable h given l := by
  have hshort : ¬Overlong h given := by
    intro hlong
    rw [overlong_iff.mp hlong] at hlocate
    cases hlocate
  exact ⟨(names_iff hshort).mpr ⟨hlocate, hl⟩, hshort, hroom⟩

theorem find_of_names (hl : Names h given l) (hshort : ¬Overlong h given) :
    find h given =
      if ((Path.ofLocation l).child moduleFile).isTooLong then .error (.crash .system)
      else
        match moduleRoot? h.tree l with
        | none => .error (Failure.resolution (.noModuleAbove l.text))
        | some r => (⟨l, r, ·⟩) <$> readModulePath h (Path.ofLocation r) := by
  have hfind : h.tree.find? h.current (Path.ofText given) = .ok (some l) := by
    obtain ⟨hlocate, hdirectory⟩ := (names_iff hshort).mp hl
    have hentry : h.tree.entry? l = some .directory := by
      simpa [FileTree.isDirectory] using hdirectory
    exact FileTree.find?_eq_some_iff.mpr ⟨hlocate, by rw [hentry]; rfl⟩
  rw [find, hfind]
  dsimp only
  rw [if_pos hl.directory]
  refine if_congr Iff.rfl rfl ?_
  cases moduleRoot? h.tree l with
  | none => rfl
  | some r =>
    dsimp only
    cases readModulePath h (Path.ofLocation r) <;> rfl

/-- The module file is at fault for errors of its own only. -/
theorem readModulePath_ne_error {root : Path} {f : ResolutionFault}
    (hroot : f ≠ .noModule root.text) (hfile : f ≠ .noModulePath (root.child moduleFile).text) :
    readModulePath h root ≠ .error (Failure.resolution f) := by
  have hcrash (g : FileFault) : Failure.ofFile g ≠ Failure.resolution f := by
    cases g <;> simp [Failure.ofFile, Failure.resolution]
  unfold readModulePath
  dsimp only
  split
  · next g _ => simpa using hcrash g
  · simpa [Failure.resolution, eq_comm] using hroot
  · split
    · next g _ => simpa using hcrash g
    · split
      · simp [Failure.resolution]
      · split
        · simp
        · simpa [Failure.resolution, eq_comm] using hfile

theorem find_eq_noDirectory_iff :
    find h given = .error (Failure.resolution (.noDirectory given)) ↔
      (∀ l, ¬Names h given l) ∧ ¬Overlong h given := by
  refine ⟨fun herror => ?_, fun ⟨hnone, hshort⟩ => find_of_not_names hshort hnone⟩
  have hshort : ¬Overlong h given := by
    intro hlong
    rw [find_of_overlong hlong] at herror
    cases herror
  refine ⟨fun l hl => ?_, hshort⟩
  rw [find_of_names hl hshort] at herror
  split at herror
  · cases herror
  · split at herror
    · cases herror
    · rw [map_eq_error_iff] at herror
      exact readModulePath_ne_error (by simp) (by simp) herror

section

variable (hl : Searchable h given l)

include hl

theorem Searchable.find_eq_noModuleAbove_iff :
    find h given = .error (Failure.resolution (.noModuleAbove l.text)) ↔
      ∀ r, r <+: l → ¬HasModule h.tree r := by
  rw [← moduleRoot?_eq_none_iff, find_of_names hl.names hl.short, if_neg (by simp [hl.room])]
  cases moduleRoot? h.tree l with
  | none => exact iff_of_true rfl rfl
  | some r =>
    refine iff_of_false (fun herror => ?_) (by simp)
    exact readModulePath_ne_error (by simp) (by simp) (map_eq_error_iff.mp herror)

theorem Searchable.find_of_nearest (hr : Nearest h.tree l r) :
    find h given = (⟨l, r, ·⟩) <$> readModulePath h (Path.ofLocation r) := by
  rw [find_of_names hl.names hl.short, if_neg (by simp [hl.room]), moduleRoot?_eq_some_iff.mpr hr]

theorem Searchable.of_find {src : SourceDirectory} (hsrc : find h given = .ok src) :
    src.package = l ∧ Nearest h.tree l src.module ∧
      readModulePath h (Path.ofLocation src.module) = .ok src.modulePath := by
  rw [find_of_names hl.names hl.short, if_neg (by simp [hl.room])] at hsrc
  cases hr : moduleRoot? h.tree l with
  | none =>
    rw [hr] at hsrc
    cases hsrc
  | some r =>
    rw [hr] at hsrc
    obtain ⟨path, hpath, rfl⟩ := map_eq_ok_iff.mp hsrc
    exact ⟨rfl, moduleRoot?_eq_some_iff.mp hr, hpath⟩

/-- The text of a directory is a path to it, and one that leaves as much room. -/
theorem Searchable.text (hcurrent : h.tree.Stands h.current) : Searchable h l.text l := by
  have hnames : ∀ n ∈ (Path.ofText given).names, '/' ∉ n ∧ '\x00' ∉ n ∧ n ≠ [] ∧ n ≠ ['.'] := by
    intro n hn
    obtain ⟨hslash, hnonempty, hdot⟩ := Path.ne_of_mem_names hn
    exact ⟨hslash, fun hnull => hl.names.null (Path.mem_of_mem_names hn hnull), hnonempty, hdot⟩
  have hstart : h.tree.Stands (FileTree.startOf h.current (Path.ofText given)) := by
    unfold FileTree.startOf
    split
    · exact hcurrent
    · exact h.tree.stands_nil
  have hstands : h.tree.Stands l := hstart.of_leads hl.names.leads hnames hl.names.directory
  have hroom : (Path.ofLocation l).isTooLong = false :=
    Path.isTooLong_of_isPrefix (List.prefix_append l [moduleFile]) hl.room
  exact searchable_of_locate (hstands.locate_text h.current hroom) hl.names.directory hl.room

/-- Below a directory with a module there is the same module, if there is no other one on the
way. -/
theorem Searchable.find_below {given' : Text} {l' : Location} {src : SourceDirectory}
    (hsrc : find h given = .ok src) (hl' : Searchable h given' l') (hbelow : l <+: l')
    (hway : ∀ r, l <+: r → r <+: l' → r ≠ l → ¬HasModule h.tree r) :
    find h given' = .ok ⟨l', src.module, src.modulePath⟩ := by
  obtain ⟨-, hnearest, hread⟩ := hl.of_find hsrc
  rw [hl'.find_of_nearest (hnearest.below hbelow hway), hread]
  rfl

end

/-- A directory is found where the path names one. Its module is the nearest one, that of a
directory below is the same unless another one is on the way, and the text of the directory is a
path that gives the same again. Otherwise it is reported that there is no directory, or no module;
but what is too long for the host ends in a crash. -/
theorem find_nearest {h : Host} (hcurrent : h.tree.Stands h.current) (given : Text) :
    Names h [] h.current ∧
    (Overlong h given → find h given = .error (.crash .system)) ∧
    (find h given = .error (Failure.resolution (.noDirectory given)) ↔
      (∀ l, ¬Names h given l) ∧ ¬Overlong h given) ∧
    ∀ l, Names h given l → ¬Overlong h given →
      (((Path.ofLocation l).child moduleFile).isTooLong = true →
        find h given = .error (.crash .system)) ∧
      (((Path.ofLocation l).child moduleFile).isTooLong = false →
        (∃! outcome, Climbs h.tree l outcome) ∧
        (find h given = .error (Failure.resolution (.noModuleAbove l.text)) ↔
          ∀ r, r <+: l → ¬HasModule h.tree r) ∧
        (∀ r, Nearest h.tree l r → (∀ r', Nearest h.tree l r' → r' = r) ∧
          find h given = (⟨l, r, ·⟩) <$> readModulePath h (Path.ofLocation r)) ∧
        ∀ src, find h given = .ok src →
          src.package = l ∧ Nearest h.tree l src.module ∧ find h src.package.text = .ok src ∧
          ∀ given' l', Searchable h given' l' → l <+: l' →
            (∀ r, l <+: r → r <+: l' → r ≠ l → ¬HasModule h.tree r) →
              find h given' = .ok ⟨l', src.module, src.modulePath⟩) := by
  refine ⟨⟨List.not_mem_nil, .here _, hcurrent.directory _ List.prefix_rfl⟩, find_of_overlong,
    find_eq_noDirectory_iff, fun l hnames hshort => ⟨fun hroom => ?_, fun hroom => ?_⟩⟩
  · rw [find_of_names hnames hshort, if_pos hroom]
  · have hl : Searchable h given l := ⟨hnames, hshort, hroom⟩
    refine ⟨?_, hl.find_eq_noModuleAbove_iff, fun r hr => ⟨fun r' hr' => hr'.unique hr, ?_⟩, ?_⟩
    · exact ⟨_, climbs_moduleRoot? h.tree l, fun outcome h => h.eq.symm⟩
    · exact hl.find_of_nearest hr
    · intro src hsrc
      obtain ⟨hpackage, hnearest, -⟩ := hl.of_find hsrc
      refine ⟨hpackage, hnearest, ?_, fun given' l' hl' => hl.find_below hsrc hl'⟩
      have hagain := hl.find_below hsrc (hl.text hcurrent) List.prefix_rfl fun r hr hr' hne =>
        absurd (hr'.eq_of_length_le hr.length_le) hne
      rw [hpackage, hagain, ← hpackage]

/-- A host with a module and two directories in it, one below the other. -/
def hostOfModule : Host :=
  { tree := ⟨[(["m"], .directory), (["m", "go.mod"], .file (Text.bytes "module m\n")),
      (["m", "a"], .directory), (["m", "a", "b"], .directory)]⟩
    current := ["m", "a"]
    environment := []
    programs := []
    answers := []
    calls := []
    log := []
    output := []
    buffer := [] }

/-- Two spellings of a directory, and the directory below. -/
theorem find_nearest_below :
    let h := hostOfModule
    h.tree.Stands h.current ∧ Searchable h ".//../a" ["m", "a"] ∧ Searchable h "b" ["m", "a", "b"] ∧
      find h ".//../a" = .ok ⟨["m", "a"], ["m"], "m"⟩ ∧
      find h (Location.text ["m", "a"]) = .ok ⟨["m", "a"], ["m"], "m"⟩ ∧
      find h "b" = .ok ⟨["m", "a", "b"], ["m"], "m"⟩ := by
  intro h
  have hcurrent : h.tree.Stands h.current := by
    refine ⟨fun r hr => ?_, ?_⟩
    · have hdirectories : ∀ r ∈ h.current.inits, h.tree.isDirectory r := by decide
      exact hdirectories r ((List.mem_inits _ _).mpr hr)
    · have hm : Path.IsEntry "m" := by constructor <;> decide
      have ha : Path.IsEntry "a" := by constructor <;> decide
      simp only [h, hostOfModule, List.forall_mem_cons]
      exact ⟨hm, ha, List.forall_mem_nil _⟩
  have hl : Searchable h ".//../a" ["m", "a"] :=
    searchable_of_locate (by decide +kernel) (by decide) (by decide)
  have hl' : Searchable h "b" ["m", "a", "b"] :=
    searchable_of_locate (by decide +kernel) (by decide) (by decide)
  have hsrc : find h ".//../a" = .ok ⟨["m", "a"], ["m"], "m"⟩ := by decide +kernel
  have hway : ∀ r ∈ List.inits ["m".toList, "a", "b"], ["m".toList, "a"] <+: r →
      r ≠ ["m".toList, "a"] → ¬HasModule h.tree r := by decide
  obtain ⟨-, -, -, hfind⟩ := find_nearest hcurrent ".//../a"
  obtain ⟨-, -, -, hfound⟩ := (hfind _ hl.names hl.short).2 hl.room
  obtain ⟨-, -, hagain, hbelow⟩ := hfound _ hsrc
  refine ⟨hcurrent, hl, hl', hsrc, hagain, hbelow "b" _ hl' (by decide) fun r hr hr' => ?_⟩
  exact hway r ((List.mem_inits _ _).mpr hr') hr

/-- A path that is a name of 256 letters names nothing, and the search for it ends in a crash. -/
theorem find_crashes_on_long_name :
    ¬∀ (h : Host) (given : Text), (∀ l, ¬Names h given l) →
      find h given = .error (Failure.resolution (.noDirectory given)) := by
  intro hclaim
  have hnames : (Path.ofText (List.replicate 256 'a')).names = [List.replicate 256 'a'] := by
    decide +kernel
  have hlength : (Text.bytes (List.replicate 256 'a')).length = 256 := by decide +kernel
  have hnone : ∀ l, ¬Names hostOfModule (List.replicate 256 'a') l := by
    intro l hl
    have hleads := hl.leads
    rw [hnames] at hleads
    cases hleads with
    | step _ hshort => omega
  have hcrash : find hostOfModule (List.replicate 256 'a') = .error (.crash .system) := by
    decide +kernel
  cases hcrash.symm.trans (hclaim _ _ hnone)

end Stencil.SourceDirectory
