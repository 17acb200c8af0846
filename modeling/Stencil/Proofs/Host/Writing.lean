import Stencil.Proofs.Pairs
import Stencil.Proofs.Source.Module

/-!
# Writing files

Writing into a file changes what is at one location (`write_eq_ok_iff`, `entry?_put`) and makes no
directory and removes none, so that every path leads where it led before (`locate_put_eq_ok_iff`).

`Host.Unwritten` : between two states of a host nothing was written.
-/

namespace Stencil

namespace FileTree

variable {t t' : FileTree} {current l l' : Location} {p : Path} {content : Bytes}

/-- The tree with a file at a location. -/
def put (l : Location) (content : Bytes) (t : FileTree) : FileTree :=
  ⟨Pairs.set l (.file content) t.entries⟩

theorem isDirectory_iff : t.isDirectory l ↔ t.entry? l = some .directory := by
  simp [isDirectory]

theorem ne_nil_of_not_isDirectory (h : t.isDirectory l = false) : l ≠ [] := by
  rintro rfl
  simp [isDirectory, entry?] at h

theorem entry?_put (h : t.isDirectory l = false) :
    entry? (t.put l content) l' = if l' = l then some (.file content) else t.entry? l' := by
  have hl := ne_nil_of_not_isDirectory h
  unfold entry? put
  by_cases hl' : l' = l
  · subst hl'
    simp [hl, Pairs.lookup_set_self]
  · simp [hl', Pairs.lookup_set_of_ne hl']

theorem isDirectory_put (h : t.isDirectory l = false) :
    (t.put l content).isDirectory l' = t.isDirectory l' := by
  rw [Bool.eq_iff_iff, isDirectory_iff, isDirectory_iff, entry?_put h]
  by_cases hl : l' = l
  · subst hl
    simpa using mt isDirectory_iff.mpr (by simpa using h)
  · rw [if_neg hl]

theorem write_eq_ok_iff :
    t.write current p content = .ok t' ↔
      ∃ l, t.locate current p = .ok l ∧ t.isDirectory l = false ∧ t.put l content = t' := by
  rw [write, bind_eq_ok_iff]
  refine exists_congr fun l => and_congr_right fun _ => ?_
  cases hl : t.isDirectory l
  · simp [put]
  · simp

/-! ## Paths -/

/-- Names lead through directories, so they lead to the same location where the directories are the
same. -/
theorem walk_eq_ok_iff_of_directories (h : ∀ l, t'.isDirectory l = t.isDirectory l) :
    ∀ (names : List Text) (start : Location),
      t'.walk start names = .ok l ↔ t.walk start names = .ok l
  | [], _ => Iff.rfl
  | name :: names, start => by
    have hstart := Bool.eq_iff_iff.mp (h start)
    rw [isDirectory_iff, isDirectory_iff] at hstart
    by_cases hdirectory : t.entry? start = some .directory
    · simp only [walk, hdirectory, hstart.mpr hdirectory]
      split
      · exact Iff.rfl
      · split <;> exact walk_eq_ok_iff_of_directories h names _
    · have hno : ∀ t : FileTree, t.entry? start ≠ some .directory →
          t.walk start (name :: names) ≠ .ok l := by
        intro t ht hwalk
        rw [walk] at hwalk
        split at hwalk
        · cases hwalk
        · cases hwalk
        · next hentry => exact ht hentry
      exact iff_of_false (hno t' (mt hstart.mp hdirectory)) (hno t hdirectory)

theorem locate_put_eq_ok_iff (h : t.isDirectory l = false) :
    (t.put l content).locate current p = .ok l' ↔ t.locate current p = .ok l' := by
  unfold locate
  split
  · exact Iff.rfl
  · split
    · exact Iff.rfl
    · exact walk_eq_ok_iff_of_directories (fun _ => isDirectory_put h) _ _

/-- A file is read where a path leads to it. -/
theorem read_of_file (hlocate : t.locate current p = .ok l)
    (hfile : t.entry? l = some (.file content)) : t.read current p = .ok content := by
  rw [read_of_locate hlocate, hfile]

end FileTree

/-! ## Hosts on which nothing is written -/

/-- Between two states of a host nothing was written : at most programs were called and messages
logged. -/
structure Host.Unwritten (h h' : Host) : Prop where
  tree : h'.tree = h.tree
  current : h'.current = h.current
  output : h'.output = h.output
  buffer : h'.buffer = h.buffer

namespace Host.Unwritten

variable {h h' h'' : Host}

theorem refl (h : Host) : h.Unwritten h := ⟨rfl, rfl, rfl, rfl⟩

theorem trans (first : h.Unwritten h') (second : h'.Unwritten h'') : h.Unwritten h'' where
  tree := second.tree.trans first.tree
  current := second.current.trans first.current
  output := second.output.trans first.output
  buffer := second.buffer.trans first.buffer

theorem note (level : Level) (logger message : Text) (h : Host) :
    h.Unwritten (h.note level logger message) := ⟨rfl, rfl, rfl, rfl⟩

end Host.Unwritten

end Stencil
