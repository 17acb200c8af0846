import Mathlib.Data.List.TakeWhile
import Stencil.Proofs.Span
import Stencil.Proofs.Text.LineEnds

/-!
# Words, lines and stripped text

`Text.words` are the parts of a text between its white space, without the empty ones
(`words_eq_filter`), so a text may be cut at any white space (`words_append_cons`). `Text.lines` are
the parts between line ends; how many empty ones there are depends on the kind of the line ends, but
the others do not (`filterMap_lines`). What is stripped from a text stands at its two ends
(`exists_strip`).
-/

namespace Stencil.Text

/-! ## Words -/

theorem wordsFrom_eq_filter (done s : Text) :
    wordsFrom done s = (s.splitOnPPrepend isBlank done).filter (!·.isEmpty) := by
  induction s generalizing done with
  | nil => cases done <;> simp [wordsFrom]
  | cons c s ih =>
    cases hc : isBlank c with
    | false => rw [wordsFrom, List.splitOnPPrepend_cons_neg hc, ← ih, if_neg (by simp [hc])]
    | true =>
      rw [wordsFrom, List.splitOnPPrepend_cons_pos hc, ← List.splitOnPPrepend_nil_right,
        List.filter_cons, ← ih, if_pos hc]
      cases done <;> simp

/-- The words of a text are what stands between its white space. -/
theorem words_eq_filter (s : Text) : words s = (s.splitOnP isBlank).filter (!·.isEmpty) :=
  wordsFrom_eq_filter [] s

/-- A text may be cut at any white space. -/
theorem words_append_cons {c : Char} (hc : isBlank c) (s t : Text) :
    words (s ++ c :: t) = words s ++ words t := by
  simp only [words_eq_filter, List.splitOnP_append_cons s t hc, List.filter_append]

theorem wordsFrom_eq_nil_iff :
    ∀ {done s : Text}, wordsFrom done s = [] ↔ done = [] ∧ ∀ c ∈ s, isBlank c
  | [], [] => by simp [wordsFrom]
  | d :: done, [] => by simp [wordsFrom]
  | done, c :: s => by
    cases hc : isBlank c with
    | false => simp [wordsFrom, hc, wordsFrom_eq_nil_iff]
    | true => cases done <;> simp [wordsFrom, hc, wordsFrom_eq_nil_iff]

theorem words_eq_nil_iff {s : Text} : words s = [] ↔ ∀ c ∈ s, isBlank c := by
  simp [words, wordsFrom_eq_nil_iff]

/-- White space in front belongs to no word. -/
theorem words_blank_append {blank : Text} (h : ∀ c ∈ blank, isBlank c) (s : Text) :
    words (blank ++ s) = words s := by
  induction blank with
  | nil => rfl
  | cons c blank ih =>
    obtain ⟨hc, hrest⟩ := List.forall_mem_cons.mp h
    have hcut : words (c :: (blank ++ s)) = words [] ++ words (blank ++ s) :=
      words_append_cons hc [] (blank ++ s)
    rw [List.cons_append, hcut, ih hrest]
    rfl

/-- A text may be cut where the rest begins with white space. -/
theorem words_append {s rest : Text} (h : Stops (!isBlank ·) rest) :
    words (s ++ rest) = words s ++ words rest := by
  cases rest with
  | nil => simp [words_eq_nil_iff.mpr (List.forall_mem_nil _)]
  | cons c rest =>
    have hc : isBlank c := by simpa using h
    have hfront : words (c :: rest) = words rest := words_append_cons hc [] rest
    rw [words_append_cons hc, hfront]

/-- A text without white space is one word. -/
theorem words_of_forall {word : Text} (hne : word ≠ []) (h : ∀ c ∈ word, isBlank c = false) :
    words word = [word] := by
  rw [words_eq_filter, List.splitOnP_eq_singleton h]
  simpa using hne

/-- No part of a text between the places where it is cut has one of those places. -/
theorem not_of_mem_splitOnP {α : Type} {p : α → Bool} :
    ∀ {xs part : List α}, part ∈ xs.splitOnP p → ∀ x ∈ part, p x = false
  | [], part, h => by simp_all
  | x :: xs, part, h => by
    rw [List.splitOnP_cons_eq_if_modifyHead] at h
    obtain ⟨first, parts, hparts⟩ := List.exists_cons_of_ne_nil (List.splitOnP_ne_nil p xs)
    have ih : ∀ part ∈ first :: parts, ∀ y ∈ part, p y = false := fun part hpart =>
      not_of_mem_splitOnP (hparts ▸ hpart)
    rw [hparts, List.modifyHead_cons] at h
    split at h
    · rcases List.mem_cons.mp h with rfl | h
      · exact List.forall_mem_nil _
      · exact ih part h
    · next hx =>
      rcases List.mem_cons.mp h with rfl | h
      · exact List.forall_mem_cons.mpr ⟨by simpa using hx, ih first List.mem_cons_self⟩
      · exact ih part (List.mem_cons_of_mem _ h)

theorem not_isBlank_of_mem_words {s word : Text} (h : word ∈ words s) :
    ∀ c ∈ word, isBlank c = false := by
  rw [words_eq_filter] at h
  exact not_of_mem_splitOnP (List.mem_filter.mp h).1

/-! ## Lines -/

section

variable {α : Type} {f : Text → Option α}

theorem filterMap_cons_lineEnd {c : Char} (hc : isLineEnd c) (done s : Text) :
    ((c :: s).splitOnPPrepend isLineEnd done).filterMap f =
      (f done.reverse).toList ++ (s.splitOnPPrepend isLineEnd []).filterMap f := by
  rw [List.splitOnPPrepend_cons_pos hc, List.filterMap_cons, List.splitOnPPrepend_nil_right]
  cases f done.reverse <;> rfl

theorem filterMap_linesFrom (hf : f [] = none) (done s : Text) :
    (linesFrom false done s).filterMap f = (s.splitOnPPrepend isLineEnd done).filterMap f := by
  fun_induction linesFrom false done s with
  | case1 done hdone => simp_all
  | case2 done hdone => simp
  | case3 done s ih =>
    rw [filterMap_cons_lineEnd (by decide), filterMap_cons_lineEnd (by decide), ← ih,
      List.filterMap_cons]
    cases h : f done.reverse <;> simp [h, hf]
  | case4 done c s _ hc ih =>
    rw [filterMap_cons_lineEnd hc, ← ih, List.filterMap_cons]
    cases h : f done.reverse <;> simp [h]
  | case5 done c s _ hc ih => rw [List.splitOnPPrepend_cons_neg (by simpa using hc), ih]

theorem filterMap_unifyLineEnds (hf : f [] = none) (done s : Text) :
    ((unifyLineEnds s).splitOnPPrepend isLineEnd done).filterMap f =
      (s.splitOnPPrepend isLineEnd done).filterMap f := by
  fun_induction unifyLineEnds s generalizing done with
  | case1 => rfl
  | case2 s ih =>
    -- The part between the two characters of the line end is empty.
    rw [filterMap_cons_lineEnd (by decide), filterMap_cons_lineEnd (by decide),
      filterMap_cons_lineEnd (by decide), ih, List.reverse_nil, hf]
    rfl
  | case3 c s _ ih =>
    by_cases hcr : c = '\r'
    · subst hcr
      rw [if_pos rfl, filterMap_cons_lineEnd (by decide), filterMap_cons_lineEnd (by decide), ih]
    rw [if_neg hcr]
    cases hc : isLineEnd c with
    | true => rw [filterMap_cons_lineEnd hc, filterMap_cons_lineEnd hc, ih]
    | false =>
      rw [List.splitOnPPrepend_cons_neg hc, List.splitOnPPrepend_cons_neg hc, ih]

/-- What the lines of a file give is what its parts between line ends give, if empty ones give
nothing. -/
theorem filterMap_lines (hf : f [] = none) (s : Text) :
    (lines (unifyLineEnds s)).filterMap f = (s.splitOnP isLineEnd).filterMap f := by
  rw [lines, filterMap_linesFrom hf, filterMap_unifyLineEnds hf, List.splitOnPPrepend_nil_right]

end

/-- Every line end is white space. -/
theorem not_isLineEnd_of_not_isBlank {c : Char} (h : isBlank c = false) : isLineEnd c = false := by
  rw [← Bool.not_eq_true] at h ⊢
  refine mt (fun hend => ?_) h
  simp only [isLineEnd, Bool.or_eq_true, Bool.and_eq_true, decide_eq_true_eq, beq_iff_eq] at hend
  simp only [isBlank]
  split <;> simp only [Bool.or_eq_true, Bool.and_eq_true, decide_eq_true_eq, beq_iff_eq] <;> omega

/-- What stands before white space stands before a line end. -/
theorem exists_takeWhile_lineEnd (s : Text) :
    ∃ others, s.takeWhile (!isLineEnd ·) = s.takeWhile (!isBlank ·) ++ others ∧
      Stops (!isBlank ·) others := by
  obtain ⟨word, rest, rfl, hword, hrest⟩ := exists_span (!isBlank ·) s
  have hline : ∀ c ∈ word, !isLineEnd c := fun c hc => by
    simpa using not_isLineEnd_of_not_isBlank (by simpa using hword c hc)
  refine ⟨rest.takeWhile (!isLineEnd ·), ?_, hrest.takeWhile _⟩
  rw [takeWhile_span hword hrest, List.takeWhile_append_of_pos hline]

/-! ## Stripped text -/

variable {drop : Char → Bool}

/-- What is left when the end is stripped ends with a character that stays. -/
theorem stripEnd_append_cons {s t : Text} {c : Char} {rest : Text}
    (h : stripEnd drop s = t ++ c :: rest) : ∃ d ∈ c :: rest, drop d = false := by
  have hlast := List.head?_dropWhile_not drop s.reverse
  have hreverse : s.reverse.dropWhile drop = (c :: rest).reverse ++ t.reverse := by
    rw [← List.reverse_append, ← h, stripEnd, List.reverse_reverse]
  obtain ⟨d, others, hd⟩ := List.exists_cons_of_ne_nil
    (show (c :: rest).reverse ≠ [] by simp)
  rw [hreverse, hd] at hlast
  refine ⟨d, ?_, by simpa using hlast⟩
  rw [← List.mem_reverse, hd]
  exact List.mem_cons_self

theorem stripEnd_append_eq (drop : Char → Bool) (s t : Text) :
    stripEnd drop (s ++ t) =
      if stripEnd drop t = [] then stripEnd drop s else s ++ stripEnd drop t := by
  simp only [stripEnd, List.reverse_append, List.dropWhile_append, List.isEmpty_iff,
    List.reverse_eq_nil_iff]
  split
  · rfl
  · rw [List.reverse_append, List.reverse_reverse]

theorem stripEnd_eq_nil_iff {t : Text} : stripEnd drop t = [] ↔ ∀ c ∈ t, drop c := by
  rw [stripEnd, List.reverse_eq_nil_iff, List.dropWhile_eq_nil_iff]
  simp only [List.mem_reverse]

/-- What stands before a character that stays is not stripped from the end. -/
theorem stripEnd_append {t : Text} (h : ∃ c ∈ t, drop c = false) (s : Text) :
    stripEnd drop (s ++ t) = s ++ stripEnd drop t := by
  rw [stripEnd_append_eq, if_neg]
  intro hnil
  obtain ⟨c, hc, hdrop⟩ := h
  have hstripped : drop c := stripEnd_eq_nil_iff.mp hnil c hc
  rw [hdrop] at hstripped
  cases hstripped

theorem stripStart_append {s rest : Text} (hs : ∀ c ∈ s, drop c) (hrest : Stops drop rest) :
    stripStart drop (s ++ rest) = rest :=
  dropWhile_span hs hrest

/-- What is stripped stands at the two ends. -/
theorem exists_strip (drop : Char → Bool) (s : Text) :
    ∃ before after, s = before ++ strip drop s ++ after ∧ (∀ c ∈ before, drop c) ∧
      ∀ c ∈ after, drop c := by
  obtain ⟨before, rest, rfl, hbefore, hrest⟩ := exists_span drop s
  obtain ⟨after, kept, hkept, hafter, hstops⟩ := exists_span drop rest.reverse
  have hstart : stripStart drop (before ++ rest) = rest := stripStart_append hbefore hrest
  have hend : stripEnd drop rest = kept.reverse := by
    rw [stripEnd, hkept, dropWhile_span hafter hstops]
  refine ⟨before, after.reverse, ?_, hbefore, fun c hc => hafter c (List.mem_reverse.mp hc)⟩
  rw [strip, hstart, hend, List.append_assoc, ← List.reverse_append, ← hkept, List.reverse_reverse]

theorem mem_of_mem_strip {s : Text} {c : Char} (h : c ∈ strip drop s) : c ∈ s := by
  obtain ⟨before, after, hs, -, -⟩ := exists_strip drop s
  rw [hs]
  simp [h]

/-- Characters that stay are kept with all that stands behind them, but for the end. -/
theorem strip_append {before kept : Text} (hne : kept ≠ []) (hbefore : ∀ c ∈ before, drop c)
    (hkept : ∀ c ∈ kept, drop c = false) (rest : Text) :
    strip drop (before ++ (kept ++ rest)) = kept ++ stripEnd drop rest := by
  have hstart : Stops drop (kept ++ rest) := stops_append hne hkept
  have hend : stripEnd drop kept = kept := by
    have hlast : Stops drop kept.reverse := fun d hd =>
      hkept d (List.mem_reverse.mp (List.mem_of_mem_head? hd))
    have hdrop : kept.reverse.dropWhile drop = kept.reverse :=
      dropWhile_span (List.forall_mem_nil _) hlast
    rw [stripEnd, hdrop, List.reverse_reverse]
  rw [strip, stripStart_append hbefore hstart, stripEnd_append_eq]
  split
  · next hnil => rw [hend, hnil, List.append_nil]
  · rfl

/-- Stripping white space takes nothing from the words. -/
theorem words_strip (s : Text) : words (strip isBlank s) = words s := by
  obtain ⟨before, after, hs, hbefore, hafter⟩ := exists_strip isBlank s
  have hstops : Stops (!isBlank ·) after := by
    intro c hc
    simpa using hafter c (List.mem_of_mem_head? hc)
  rw [congrArg words hs, List.append_assoc, words_blank_append hbefore, words_append hstops,
    words_eq_nil_iff.mpr hafter, List.append_nil]

end Stencil.Text
