import Stencil.Proofs.Source.Module

/-!
# What a module file declares

The path of a module is the first one that a part of its file between line ends declares
(`modulePath?_eq_head?`), where a line end is any character that ends lines. What a part declares
that begins with the word `module` depends on the white space behind it (`declared?_module`).

`readModulePath_safe` : wherever the second word of a line is read there is one, and the path that
is read has no white space.
-/

namespace Stencil.SourceDirectory

open Text (isBlank isLineEnd)

/-! ## What a part of a text declares -/

theorem declared?_eq (part : Text) :
    declared? part =
      if "module ".toList <+: Text.strip isBlank part then
        (Text.words part)[1]?.map (Text.strip (· = '"'))
      else none := by
  simp only [declared?, List.isPrefixOf_iff_prefix, Text.words_strip]

theorem declared?_nil : declared? [] = none := rfl

/-- White space in front changes nothing. -/
theorem declared?_cons_blank {c : Char} (hc : isBlank c) (part : Text) :
    declared? (c :: part) = declared? part := by
  have hstrip : Text.strip isBlank (c :: part) = Text.strip isBlank part := by
    simp only [Text.strip, Text.stripStart, List.dropWhile_cons, hc, if_true]
  have hblank : ∀ d ∈ [c], isBlank d := by simpa using hc
  have hwords : Text.words (c :: part) = Text.words part := Text.words_blank_append hblank part
  rw [declared?_eq, declared?_eq, hstrip, hwords]

/-- The second word is read where a space follows the word `module`. -/
theorem declared?_module {gap word rest : Text} (hgap : ∀ c ∈ gap, isBlank c) (hne : gap ≠ [])
    (hword : ∀ c ∈ word, isBlank c = false) (hword_ne : word ≠ [])
    (hrest : Stops (!isBlank ·) rest) :
    declared? ("module".toList ++ (gap ++ (word ++ rest))) =
      if gap.head? = some ' ' then some (Text.strip (· = '"') word) else none := by
  have hkept : ∃ c ∈ gap ++ (word ++ rest), isBlank c = false := by
    obtain ⟨c, hc⟩ := List.exists_mem_of_ne_nil word hword_ne
    exact ⟨c, by simp [hc], hword c hc⟩
  have hword_kept : ∃ c ∈ word ++ rest, isBlank c = false := by
    obtain ⟨c, hc⟩ := List.exists_mem_of_ne_nil word hword_ne
    exact ⟨c, by simp [hc], hword c hc⟩
  have hstrip : Text.strip isBlank ("module".toList ++ (gap ++ (word ++ rest))) =
      "module".toList ++ (gap ++ Text.stripEnd isBlank (word ++ rest)) := by
    rw [← Text.stripEnd_append hword_kept gap, ← Text.stripEnd_append hkept]
    rfl
  have hwords : Text.words ("module".toList ++ (gap ++ (word ++ rest))) =
      "module".toList :: word :: Text.words rest := by
    have hstops : Stops (!isBlank ·) (gap ++ (word ++ rest)) :=
      stops_append hne (by simpa using hgap)
    rw [Text.words_append hstops, Text.words_blank_append hgap, Text.words_append hrest,
      Text.words_of_forall hword_ne hword]
    rfl
  obtain ⟨g, gap, rfl⟩ := List.exists_cons_of_ne_nil hne
  have hspace : "module ".toList <+: "module".toList ++
      (g :: gap ++ Text.stripEnd isBlank (word ++ rest)) ↔ (g :: gap).head? = some ' ' := by
    have hmodule : "module ".toList = "module".toList ++ [' '] := rfl
    rw [hmodule, List.prefix_append_right_inj, List.cons_append, List.cons_prefix_cons,
      List.head?_cons, Option.some.injEq, eq_comm (a := ' ')]
    exact and_iff_left List.nil_prefix
  rw [declared?_eq, hstrip, hwords]
  exact if_congr hspace rfl rfl

/-- Where the index of the second word is used, there is one. -/
theorem two_le_length_words {line : Text} (h : "module ".toList <+: Text.strip isBlank line) :
    2 ≤ (Text.words (Text.strip isBlank line)).length := by
  have hsome : (declared? line).isSome := declared?_isSome_iff.mpr h
  rw [declared?_eq, if_pos h, Option.isSome_map, ← Text.words_strip] at hsome
  exact Nat.succ_le_of_lt (by simpa using hsome)

theorem not_isBlank_of_declared? {part path : Text} (h : declared? part = some path) :
    ∀ c ∈ path, isBlank c = false := by
  rw [declared?_eq] at h
  split at h
  · obtain ⟨word, hword, rfl⟩ := Option.map_eq_some_iff.mp h
    intro c hc
    have hmem : word ∈ Text.words part := List.mem_of_getElem? hword
    exact Text.not_isBlank_of_mem_words hmem c (Text.mem_of_mem_strip hc)
  · cases h

/-! ## What a text declares -/

/-- The paths that the parts of a text between its line ends declare. -/
def declarations (s : Text) : List Text := (s.splitOnP isLineEnd).filterMap declared?

/-- No part of a text begins with the word `module` and a space. -/
def Silent (s : Text) : Prop :=
  ∀ part ∈ s.splitOnP isLineEnd, ¬"module ".toList <+: Text.strip isBlank part

instance (s : Text) : Decidable (Silent s) :=
  inferInstanceAs (Decidable (∀ part ∈ s.splitOnP isLineEnd,
    ¬"module ".toList <+: Text.strip isBlank part))

theorem declarations_eq_nil_iff {s : Text} : declarations s = [] ↔ Silent s := by
  rw [declarations, List.filterMap_eq_nil_iff]
  refine forall₂_congr fun part _ => ?_
  rw [← declared?_isSome_iff, Option.not_isSome_iff_eq_none]

theorem modulePath?_eq_head? (s : Text) : modulePath? s = (declarations s).head? := by
  rw [modulePath?, declarations, ← Text.filterMap_lines declared?_nil, List.head?_filterMap]

/-- A text may be cut at any line end. -/
theorem declarations_append_cons {c : Char} (hc : isLineEnd c) (s t : Text) :
    declarations (s ++ c :: t) = declarations s ++ declarations t := by
  rw [declarations, List.splitOnP_append_cons s t hc, List.filterMap_append]
  rfl

theorem declarations_nil : declarations [] = [] := rfl

/-- A text may be cut where the rest begins with a line end. -/
theorem declarations_append {s rest : Text} (h : Stops (!isLineEnd ·) rest) :
    declarations (s ++ rest) = declarations s ++ declarations rest := by
  cases rest with
  | nil => simp [declarations_nil]
  | cons c rest =>
    have hc : isLineEnd c := by simpa using h
    have hfront : declarations (c :: rest) = declarations rest :=
      declarations_append_cons hc [] rest
    rw [declarations_append_cons hc, hfront]

theorem declarations_of_forall {part : Text} (h : ∀ c ∈ part, isLineEnd c = false) :
    declarations part = (declared? part).toList := by
  rw [declarations, List.splitOnP_eq_singleton h, List.filterMap_cons]
  cases declared? part <;> rfl

/-- White space in front changes nothing, line ends included. -/
theorem declarations_blank_append {blank : Text} (h : ∀ c ∈ blank, isBlank c) (s : Text) :
    declarations (blank ++ s) = declarations s := by
  induction blank with
  | nil => rfl
  | cons c blank ih =>
    obtain ⟨hc, hrest⟩ := List.forall_mem_cons.mp h
    rw [← ih hrest, List.cons_append, declarations, List.splitOnP_cons_eq_if_modifyHead,
      declarations]
    obtain ⟨first, parts, hparts⟩ :=
      List.exists_cons_of_ne_nil (List.splitOnP_ne_nil isLineEnd (blank ++ s))
    split
    · rw [List.filterMap_cons, declared?_nil]
    · rw [hparts, List.modifyHead_cons, List.filterMap_cons, List.filterMap_cons,
        declared?_cons_blank hc]

/-! ## Module files that are read -/

variable {h : Host} {root : Path} {text : Text}

/-- The module file of a root is found and holds a text. -/
def HoldsText (h : Host) (root : Path) (text : Text) : Prop :=
  ∃ l content, h.tree.find? h.current (root.child moduleFile) = .ok (some l) ∧
    h.tree.entry? l = some (.file content) ∧ content.decode? = some text

theorem readModulePath_of_holdsText (htext : HoldsText h root text) :
    readModulePath h root =
      match (declarations text).head? with
      | some path => .ok path
      | none => .error (Failure.resolution (.noModulePath (root.child moduleFile).text)) := by
  obtain ⟨l, content, hfind, hentry, hdecode⟩ := htext
  have hread : h.read (root.child moduleFile) = .ok content := by
    rw [Host.read, FileTree.read_of_locate (FileTree.find?_eq_some_iff.mp hfind).1, hentry]
  rw [readModulePath, hfind]
  cases hpath : (declarations text).head? with
  | none => simp only [hread, hdecode, modulePath?_eq_head?, hpath]
  | some path => simp only [hread, hdecode, modulePath?_eq_head?, hpath]

theorem readModulePath_eq_ok_iff (htext : HoldsText h root text) {path : Text} :
    readModulePath h root = .ok path ↔ (declarations text).head? = some path := by
  rw [readModulePath_of_holdsText htext]
  cases (declarations text).head? <;> simp

/-- A path is read from a file that holds a text. -/
theorem exists_holdsText {path : Text} (hpath : readModulePath h root = .ok path) :
    ∃ text, HoldsText h root text := by
  unfold readModulePath at hpath
  dsimp only at hpath
  split at hpath
  · cases hpath
  · cases hpath
  next l hfind =>
  rw [Host.read] at hpath
  rcases FileTree.read_of_find? hfind with ⟨-, hread⟩ | ⟨content, hentry, hread⟩
  · rw [hread] at hpath
    cases hpath
  · cases hdecode : content.decode? with
    | none =>
      rw [hread] at hpath
      simp [hdecode] at hpath
    | some text => exact ⟨text, l, content, hfind, hentry, hdecode⟩

theorem not_isBlank_of_readModulePath {path : Text} (hpath : readModulePath h root = .ok path) :
    ∀ c ∈ path, isBlank c = false := by
  obtain ⟨text, htext⟩ := exists_holdsText hpath
  have hmem : path ∈ declarations text :=
    List.mem_of_mem_head? ((readModulePath_eq_ok_iff htext).mp hpath)
  obtain ⟨part, -, hpart⟩ := List.mem_filterMap.mp hmem
  exact not_isBlank_of_declared? hpart

/-- Wherever the second word of a line is read, there is one, so that a module file that can be read
gives a path without white space, or an error of resolution. -/
theorem readModulePath_safe (hfile : ModuleFileAccessible h root) :
    (∀ line : Text, "module ".toList <+: Text.strip isBlank line →
      2 ≤ (Text.words (Text.strip isBlank line)).length) ∧
    ((∃ path, readModulePath h root = .ok path ∧ ∀ c ∈ path, isBlank c = false) ∨
      ∃ fault, readModulePath h root = .error (Failure.resolution fault)) := by
  refine ⟨fun line hline => two_le_length_words hline, ?_⟩
  have hends : FailsOnly Failure.IsResolution (readModulePath h root) :=
    (readModulePath_failsOnly_iff h root).mpr hfile
  rcases failsOnly_iff.mp hends with ⟨path, hpath⟩ | ⟨e, he, fault, rfl⟩
  · exact .inl ⟨path, hpath, not_isBlank_of_readModulePath hpath⟩
  · exact .inr ⟨fault, he⟩

/-- A host with a module file at the root of its tree. -/
def hostOfText (text : Text) : Host :=
  { tree := ⟨[(["go.mod"], .file (Text.bytes text))]⟩
    current := []
    environment := []
    programs := []
    answers := []
    calls := []
    log := []
    output := []
    buffer := [] }

/-- White space of other kinds than blanks, around the words and between them. -/
theorem readModulePath_safe_wide_blanks :
    let text : Text := "go 1\x0c\u3000module \u00a0m\x1fx\u2028module y"
    let h := hostOfText text
    ModuleFileAccessible h (Path.ofLocation []) ∧
      readModulePath h (Path.ofLocation []) = .ok "m" ∧
      2 ≤ (Text.words (Text.strip isBlank "\u3000module \u00a0m\x1fx")).length ∧
      ∀ c ∈ "m".toList, isBlank c = false := by
  intro text h
  have hfind : h.tree.find? h.current ((Path.ofLocation []).child moduleFile) =
      .ok (some ["go.mod"]) := by decide
  have hfile : ModuleFileAccessible h (Path.ofLocation []) :=
    (moduleFileAccessible_iff hfind).mpr ⟨Text.bytes text, text, rfl, by decide +kernel⟩
  have hpath : readModulePath h (Path.ofLocation []) = .ok "m" := by decide +kernel
  obtain ⟨hwords, hends⟩ := readModulePath_safe hfile
  refine ⟨hfile, hpath, hwords _ (by decide), ?_⟩
  rcases hends with ⟨path, hread, hblank⟩ | ⟨fault, herror⟩
  · obtain rfl : path = "m".toList := Except.ok.inj (hread.symm.trans hpath)
    exact hblank
  · cases hpath.symm.trans herror

end Stencil.SourceDirectory
