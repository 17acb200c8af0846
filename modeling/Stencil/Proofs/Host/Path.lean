import Mathlib.Data.List.Basic
import Stencil.Host.FileTree
import Stencil.Proofs.Outcome

/-!
# Where paths lead

A path is read as the pieces between its slashes that count as names (`Path.names_ofText`),
and the text of a location as the names of that location (`Path.ofText_text`).

`FileTree.Leads` : names lead from a location to another one, each through a directory. Going to a
location along a path (`FileTree.locate`) follows them, unless the path or a name is too long or
there is a null character (`locate_eq_ok_iff`).
-/

namespace Stencil

/-! ## Pieces -/

namespace Text

theorem splitFrom_singleton (sep : Char) :
    ∀ done s : Text, splitFrom [sep] 0 none done s =
      (List.splitOn sep s).modifyHead (done.reverse ++ ·)
  | done, [] => by simp [splitFrom]
  | done, c :: s => by
    by_cases hc : c = sep
    · have hrest := splitFrom_singleton sep [] s
      have hid : (List.splitOn sep s).modifyHead (fun x => x) = List.splitOn sep s :=
        congrFun List.modifyHead_id _
      simp [splitFrom, hc, hrest, List.splitOn_cons_eq_if_modifyHead, hid]
    · have hrest := splitFrom_singleton sep (c :: done) s
      simp [splitFrom, hc, Ne.symm hc, hrest, List.splitOn_cons_eq_if_modifyHead,
        List.modifyHead_modifyHead, Function.comp_def]

theorem splitOn_singleton (sep : Char) (s : Text) : splitOn [sep] none s = List.splitOn sep s := by
  rw [splitOn, splitFrom_singleton]
  exact congrFun List.modifyHead_id _

theorem joined_eq_intercalate (sep : Text) : ∀ parts, joined sep parts = sep.intercalate parts
  | [] => rfl
  | [s] => by simp [joined]
  | s :: t :: rest => by
    have hrest := joined_eq_intercalate sep (t :: rest)
    simp [joined, hrest]

/-- A character of pieces with a separator between them is in the separator or in a piece. -/
theorem mem_joined {sep : Text} {c : Char} : ∀ {parts : List Text},
    c ∈ joined sep parts → c ∈ sep ∨ ∃ s ∈ parts, c ∈ s
  | [], h => absurd h List.not_mem_nil
  | [s], h => .inr ⟨s, List.mem_singleton_self s, h⟩
  | s :: t :: rest, h => by
    rw [joined, List.mem_append, List.mem_append] at h
    rcases h with (h | h) | h
    · exact .inr ⟨s, List.mem_cons_self, h⟩
    · exact .inl h
    · refine (mem_joined h).imp_right ?_
      rintro ⟨s', hs', hc⟩
      exact ⟨s', List.mem_cons_of_mem _ hs', hc⟩

theorem mem_joined_of_mem {sep s : Text} {c : Char} (hc : c ∈ s) : ∀ {parts : List Text},
    s ∈ parts → c ∈ joined sep parts
  | [_], h => by
    obtain rfl := List.mem_singleton.mp h
    exact hc
  | t :: u :: rest, h => by
    rw [joined, List.mem_append, List.mem_append]
    rcases List.mem_cons.mp h with rfl | h
    · exact .inl (.inl hc)
    · exact .inr (mem_joined_of_mem hc h)

theorem joined_isPrefix (sep : Text) (rest : List Text) :
    ∀ parts, joined sep parts <+: joined sep (parts ++ rest)
  | [] => List.nil_prefix
  | [s] => by
    cases rest with
    | nil => exact List.prefix_rfl
    | cons t rest =>
      rw [List.singleton_append, joined, joined, List.append_assoc]
      exact List.prefix_append _ _
  | s :: t :: parts => by
    rw [List.cons_append, List.cons_append, joined, joined]
    exact (List.prefix_append_right_inj _).mpr (joined_isPrefix sep rest (t :: parts))

theorem joined_splitOn (sep : Char) (s : Text) : joined [sep] (List.splitOn sep s) = s := by
  rw [joined_eq_intercalate, List.intercalate_splitOn]

theorem notMem_of_mem_splitOn {sep : Char} :
    ∀ {s piece : Text}, piece ∈ List.splitOn sep s → sep ∉ piece
  | [], piece, h => by
    obtain rfl := List.mem_singleton.mp h
    exact List.not_mem_nil
  | c :: s, piece, h => by
    have ih {piece : Text} (h : piece ∈ List.splitOn sep s) : sep ∉ piece :=
      notMem_of_mem_splitOn h
    obtain ⟨first, others, hs⟩ := List.exists_cons_of_ne_nil (List.splitOn_ne_nil sep s)
    rw [List.splitOn_cons_eq_if_modifyHead] at h
    split at h
    · rcases List.mem_cons.mp h with rfl | h
      · exact List.not_mem_nil
      · exact ih h
    · next hc =>
      rw [hs, List.modifyHead_cons] at h
      rcases List.mem_cons.mp h with rfl | h
      · rintro (_ | ⟨_, hmem⟩)
        · exact hc (beq_self_eq_true sep)
        · exact ih (hs ▸ List.mem_cons_self) hmem
      · exact ih (hs ▸ List.mem_cons_of_mem _ h)

end Text

namespace Path

variable {s n : Text} {c : Char}

/-! ## Names of a path -/

theorem names_ofText (s : Text) : (ofText s).names = (List.splitOn '/' s).filter isName := by
  rw [ofText, Text.splitOn_singleton]

theorem isName_iff : isName n ↔ n ≠ [] ∧ n ≠ ['.'] := by
  simp [isName]

/-- Names are the pieces between slashes that are not empty and no single dot. -/
theorem ne_of_mem_names (h : n ∈ (ofText s).names) : '/' ∉ n ∧ n ≠ [] ∧ n ≠ ['.'] := by
  rw [names_ofText] at h
  obtain ⟨hpiece, hname⟩ := List.mem_filter.mp h
  exact ⟨Text.notMem_of_mem_splitOn hpiece, isName_iff.mp hname⟩

theorem mem_of_mem_names (hn : n ∈ (ofText s).names) (hc : c ∈ n) : c ∈ s := by
  rw [names_ofText] at hn
  rw [← Text.joined_splitOn '/' s]
  exact Text.mem_joined_of_mem hc (List.mem_filter.mp hn).1

theorem eq_slash_of_mem_rootOf (hc : c ∈ rootOf s) : c = '/' := by
  unfold rootOf at hc
  split at hc <;> simp_all

/-- A character that is no slash and no dot is in a path where it is in the text. -/
theorem mem_text_ofText_iff (hslash : c ≠ '/') (hdot : c ≠ '.') :
    c ∈ (ofText s).text ↔ c ∈ s := by
  have hs : c ∈ s ↔ ∃ n ∈ (ofText s).names, c ∈ n := by
    refine ⟨fun h => ?_, fun ⟨n, hn, hmem⟩ => mem_of_mem_names hn hmem⟩
    rw [← Text.joined_splitOn '/' s] at h
    rcases Text.mem_joined h with h | ⟨n, hn, hmem⟩
    · exact absurd (List.mem_singleton.mp h) hslash
    · rw [names_ofText]
      refine ⟨n, List.mem_filter.mpr ⟨hn, isName_iff.mpr ⟨?_, ?_⟩⟩, hmem⟩
      · rintro rfl
        exact List.not_mem_nil hmem
      · rintro rfl
        exact hdot (List.mem_singleton.mp hmem)
  have hnames : c ∈ Text.joined ['/'] (ofText s).names ↔ ∃ n ∈ (ofText s).names, c ∈ n := by
    refine ⟨fun h => (Text.mem_joined h).resolve_left fun h => ?_, ?_⟩
    · exact hslash (List.mem_singleton.mp h)
    · rintro ⟨n, hn, hmem⟩
      exact Text.mem_joined_of_mem hmem hn
  rw [hs, ← hnames, text]
  split
  · next hempty =>
    rw [List.isEmpty_iff.mp hempty.2]
    simp [Text.joined, hdot]
  · rw [List.mem_append]
    exact or_iff_right fun h => hslash (eq_slash_of_mem_rootOf h)

/-- A name that an entry of a directory can have. -/
structure IsEntry (n : Text) : Prop where
  slash : '/' ∉ n
  null : '\x00' ∉ n
  nonempty : n ≠ []
  dot : n ≠ ['.']
  dots : n ≠ ['.', '.']
  short : n.bytes.length ≤ 255

theorem rootOf_cons_slash (hs : s.head? ≠ some '/') : rootOf ('/' :: s) = ['/'] := by
  cases s with
  | nil => rfl
  | cons c s =>
    have hc : c ≠ '/' := by simpa using hs
    unfold rootOf
    split <;> simp_all

theorem text_ofLocation (l : Location) : (ofLocation l).text = l.text := by
  simp [text, ofLocation, Location.text]

/-- A path is not too long if it leads to a place below that is not. -/
theorem isTooLong_of_isPrefix {l l' : Location} (hl : l <+: l')
    (hshort : (ofLocation l').isTooLong = false) : (ofLocation l).isTooLong = false := by
  obtain ⟨rest, rfl⟩ := hl
  have hbelow : l.text <+: Location.text (l ++ rest) :=
    (List.prefix_cons_inj '/').mpr (Text.joined_isPrefix ['/'] rest l)
  obtain ⟨more, hmore⟩ := hbelow
  simp only [isTooLong, text_ofLocation, decide_eq_false_iff_not] at hshort ⊢
  rw [← hmore, Text.bytes, List.flatMap_append, List.length_append] at hshort
  rw [Text.bytes]
  omega

/-- The text of a location is a path to it. -/
theorem ofText_text {l : Location} (hl : ∀ n ∈ l, IsEntry n) : ofText l.text = ofLocation l := by
  have hnames : ∀ n ∈ l, '/' ∉ n := fun n hn => (hl n hn).slash
  have hkeep : ∀ n ∈ l, isName n := fun n hn => isName_iff.mpr ⟨(hl n hn).nonempty, (hl n hn).dot⟩
  have hhead : (Text.joined ['/'] l).head? ≠ some '/' := by
    rcases l with _ | ⟨n, rest⟩
    · exact Option.some_ne_none _ ∘ Eq.symm
    · obtain ⟨c, n', rfl⟩ := List.exists_cons_of_ne_nil (hl n List.mem_cons_self).nonempty
      have hc : c ≠ '/' := fun hc => hnames _ List.mem_cons_self (hc ▸ List.mem_cons_self)
      cases rest <;> simpa [Text.joined] using hc
  have hsplit : (List.splitOn '/' l.text).filter isName = l := by
    have hslash : List.splitOn '/' l.text = [] :: List.splitOn '/' (Text.joined ['/'] l) := by
      rw [Location.text, List.splitOn_cons_eq_if_modifyHead, if_pos (beq_self_eq_true _)]
    rw [hslash, Text.joined_eq_intercalate]
    by_cases hnil : l = []
    · rw [hnil]
      rfl
    · rw [List.splitOn_intercalate _ hnames hnil, List.filter_cons_of_neg (by decide),
        List.filter_eq_self.mpr hkeep]
  have hroot : rootOf l.text = ['/'] := rootOf_cons_slash hhead
  have hofText : ofText l.text = ⟨rootOf l.text, (ofText l.text).names⟩ := rfl
  rw [hofText, names_ofText, hsplit, hroot, ofLocation]

end Path

/-! ## Names that lead somewhere -/

/-- The location one name further. Two dots lead up, and from the root to the root. -/
def Location.next (l : Location) (name : Text) : Location :=
  if name = "..".toList then l.dropLast else l ++ [name]

namespace FileTree

variable {t : FileTree} {current start l : Location} {name : Text} {names : List Text} {p : Path}

/-- Names lead from one location to another, each of them through a directory. -/
inductive Leads (t : FileTree) : Location → List Text → Location → Prop
  | here (l : Location) : Leads t l [] l
  | step {start l : Location} {name : Text} {names : List Text} (hstart : t.isDirectory start)
    (hshort : name.bytes.length ≤ 255) (h : Leads t (start.next name) names l) :
    Leads t start (name :: names) l

theorem walk_cons_of_directory (hstart : t.isDirectory start) :
    t.walk start (name :: names) =
      if 255 < name.bytes.length then .error .nameTooLong
      else t.walk (start.next name) names := by
  have hentry : t.entry? start = some .directory := by simpa [isDirectory] using hstart
  rw [walk, hentry, Location.next]
  refine if_congr Iff.rfl rfl ?_
  exact (apply_ite (t.walk · names) _ _ _).symm

theorem walk_cons_of_not_directory (hstart : t.isDirectory start = false) :
    t.walk start (name :: names) = .error .notFound ∨
      t.walk start (name :: names) = .error .notDirectory := by
  rw [walk]
  rcases hentry : t.entry? start with _ | _ | content
  · exact .inl rfl
  · simp [isDirectory, hentry] at hstart
  · exact .inr rfl

/-- A walk ends where there is no directory and at a name that is too long, or it goes on. -/
theorem walk_cons_cases (t : FileTree) (start : Location) (name : Text) (names : List Text) :
    t.walk start (name :: names) = .error .notFound ∨
      t.walk start (name :: names) = .error .notDirectory ∨
      (t.isDirectory start ∧ 255 < name.bytes.length ∧
        t.walk start (name :: names) = .error .nameTooLong) ∨
      t.isDirectory start ∧ name.bytes.length ≤ 255 ∧
        t.walk start (name :: names) = t.walk (start.next name) names := by
  cases hstart : t.isDirectory start with
  | false => exact (walk_cons_of_not_directory hstart).imp_right .inl
  | true =>
    rw [walk_cons_of_directory hstart]
    by_cases hlong : 255 < name.bytes.length
    · exact .inr (.inr (.inl ⟨rfl, hlong, if_pos hlong⟩))
    · exact .inr (.inr (.inr ⟨rfl, Nat.le_of_not_lt hlong, if_neg hlong⟩))

theorem walk_eq_ok_iff : t.walk start names = .ok l ↔ t.Leads start names l := by
  constructor
  · intro h
    induction names generalizing start with
    | nil =>
      obtain rfl := Except.ok.inj h
      exact .here start
    | cons name names ih =>
      rcases t.walk_cons_cases start name names with h' | h' | ⟨-, -, h'⟩ | ⟨hstart, hshort, h'⟩ <;>
        rw [h'] at h
      · cases h
      · cases h
      · cases h
      · exact .step hstart hshort (ih h)
  · intro h
    induction h with
    | here l => rfl
    | step hstart hshort _ ih =>
      rwa [walk_cons_of_directory hstart, if_neg (Nat.not_lt.mpr hshort)]

/-- On the way there is a name that is too long. -/
theorem walk_eq_nameTooLong_iff :
    t.walk start names = .error .nameTooLong ↔
      ∃ before name behind l, names = before ++ name :: behind ∧ t.Leads start before l ∧
        t.isDirectory l ∧ 255 < name.bytes.length := by
  constructor
  · intro h
    induction names generalizing start with
    | nil => cases h
    | cons name names ih =>
      rcases t.walk_cons_cases start name names with h' | h' | ⟨hstart, hlong, -⟩ |
        ⟨hstart, hshort, h'⟩
      · cases h.symm.trans h'
      · cases h.symm.trans h'
      · exact ⟨[], name, names, start, rfl, .here start, hstart, hlong⟩
      · obtain ⟨before, name', behind, l, rfl, hleads, hl, hlong⟩ := ih (h'.symm.trans h)
        exact ⟨name :: before, name', behind, l, rfl, .step hstart hshort hleads, hl, hlong⟩
  · rintro ⟨before, name, behind, l, rfl, hleads, hl, hlong⟩
    induction hleads with
    | here l => rw [List.nil_append, walk_cons_of_directory hl, if_pos hlong]
    | step hstart hshort _ ih =>
      rw [List.cons_append, walk_cons_of_directory hstart, if_neg (Nat.not_lt.mpr hshort)]
      exact ih hl

theorem walk_ne_nullCharacter :
    ∀ {names : List Text} {start : Location}, t.walk start names ≠ .error .nullCharacter
  | [], _ => by simp [walk]
  | name :: names, start => by
    rcases t.walk_cons_cases start name names with h | h | ⟨-, -, h⟩ | ⟨-, -, h⟩ <;> rw [h]
    · nofun
    · nofun
    · nofun
    · exact walk_ne_nullCharacter

/-! ## Paths that lead somewhere -/

/-- Where a path begins. -/
def startOf (current : Location) (p : Path) : Location := if p.root.isEmpty then current else []

theorem locate_apply (t : FileTree) (current : Location) (p : Path) :
    t.locate current p =
      if '\x00' ∈ p.text then .error .nullCharacter
      else if p.isTooLong then .error .nameTooLong
      else t.walk (startOf current p) p.names := by
  rw [locate]
  simp only [List.contains_iff_mem]
  rfl

theorem locate_eq_ok_iff :
    t.locate current p = .ok l ↔
      '\x00' ∉ p.text ∧ p.isTooLong = false ∧ t.Leads (startOf current p) p.names l := by
  rw [locate_apply]
  split
  · next hnull => simp [hnull]
  · next hnull =>
    cases p.isTooLong with
    | true => simp
    | false => simpa [hnull] using walk_eq_ok_iff

/-- Only a null character in a path is refused as such. -/
theorem locate_eq_nullCharacter_iff :
    t.locate current p = .error .nullCharacter ↔ '\x00' ∈ p.text := by
  rw [locate_apply]
  split
  · next hnull => simp [hnull]
  · next hnull =>
    refine iff_of_false ?_ hnull
    split
    · simp
    · exact walk_ne_nullCharacter

theorem locate_eq_nameTooLong_iff :
    t.locate current p = .error .nameTooLong ↔
      '\x00' ∉ p.text ∧ (p.isTooLong ∨ ∃ before name behind l, p.names = before ++ name :: behind ∧
        t.Leads (startOf current p) before l ∧ t.isDirectory l ∧ 255 < name.bytes.length) := by
  rw [locate_apply]
  split
  · next hnull => simp [hnull]
  · next hnull =>
    cases p.isTooLong with
    | true => simp [hnull]
    | false => simpa [hnull] using walk_eq_nameTooLong_iff

/-! ## Locations that are there -/

/-- A location is there : it and all locations above it are directories. -/
structure Stands (t : FileTree) (l : Location) : Prop where
  directory : ∀ r, r <+: l → t.isDirectory r
  entry : ∀ n ∈ l, Path.IsEntry n

theorem stands_nil (t : FileTree) : t.Stands [] := by
  refine ⟨fun r hr => ?_, List.forall_mem_nil _⟩
  obtain rfl := List.prefix_nil.mp hr
  rfl

/-- Names lead through directories only. -/
theorem Leads.directory (h : t.Leads start names l) (hl : t.isDirectory l) :
    t.isDirectory start := by
  cases h with
  | here => exact hl
  | step hstart => exact hstart

/-- One name further there is a location again, if there is a directory. -/
theorem Stands.next (h : t.Stands start) (hname : name ≠ "..".toList → Path.IsEntry name)
    (hnext : t.isDirectory (start.next name)) : t.Stands (start.next name) := by
  unfold Location.next at hnext ⊢
  split
  · refine ⟨fun r hr => h.directory r (hr.trans (List.dropLast_prefix start)), fun n hn => ?_⟩
    exact h.entry n ((List.dropLast_prefix start).subset hn)
  · next hdots =>
    rw [if_neg hdots] at hnext
    refine ⟨fun r hr => ?_, fun n hn => ?_⟩
    · rcases List.prefix_concat_iff.mp hr with rfl | hr
      · exact hnext
      · exact h.directory r hr
    · rcases List.mem_append.mp hn with hn | hn
      · exact h.entry n hn
      · obtain rfl := List.mem_singleton.mp hn
        exact hname hdots

/-- The names of a path that is not refused lead from a location that is there to another one. -/
theorem Stands.of_leads (h : t.Leads start names l) (hstart : t.Stands start)
    (hnames : ∀ n ∈ names, '/' ∉ n ∧ '\x00' ∉ n ∧ n ≠ [] ∧ n ≠ ['.']) (hl : t.isDirectory l) :
    t.Stands l := by
  induction h with
  | here l => exact hstart
  | step _ hshort hleads ih =>
    obtain ⟨⟨hslash, hnull, hnonempty, hdot⟩, hnames⟩ := List.forall_mem_cons.mp hnames
    refine ih (hstart.next (fun hdots => ?_) (hleads.directory hl)) hnames hl
    exact ⟨hslash, hnull, hnonempty, hdot, hdots, hshort⟩

theorem Stands.leads_append : ∀ {rest before : Location}, t.Stands (before ++ rest) →
    t.Leads before rest (before ++ rest)
  | [], before, _ => by
    rw [List.append_nil]
    exact .here before
  | name :: rest, before, h => by
    have hname : Path.IsEntry name := h.entry name (by simp)
    have hnext : Location.next before name = before ++ [name] := if_neg hname.dots
    have hbefore : t.isDirectory before := h.directory before (List.prefix_append _ _)
    refine .step hbefore hname.short ?_
    rw [List.append_cons] at h ⊢
    rw [hnext]
    exact h.leads_append

/-- The text of a location that is there leads to it, unless it is too long. -/
theorem Stands.locate_text (h : t.Stands l) (current : Location)
    (hshort : (Path.ofLocation l).isTooLong = false) :
    t.locate current (Path.ofText l.text) = .ok l := by
  rw [Path.ofText_text h.entry]
  refine locate_eq_ok_iff.mpr ⟨fun hnull => ?_, hshort, @Stands.leads_append t l [] h⟩
  rw [Path.text_ofLocation, Location.text, List.mem_cons] at hnull
  rcases Text.mem_joined (hnull.resolve_left (by decide)) with hnull | ⟨n, hn, hnull⟩
  · exact absurd (List.mem_singleton.mp hnull) (by decide)
  · exact (h.entry n hn).null hnull

end FileTree

end Stencil
