import Stencil.Proofs.Text.LineEnds
import Stencil.Template.Token

/-!
# How templates are scanned

`ScansTag` says how the inside of a tag is read, one name or operator after the other, and `Scans`
how a template is read whose tags all print. Both leave out the lines, and both say what stands
behind what they read. `scanTag_of_scansTag`, `scan_of_scans` : this is what the scanner reads.

A text without the beginning of a tag (`IsPlain`) is read as it stands. What is plain with a brace
behind it stays plain before a tag, whose own first brace could otherwise be taken for the second
one of another.
-/

namespace Stencil.Token

/-! ## Lines -/

/-- What is read together with its line. -/
def unlocated (ts : List Located) : List Token := ts.map (·.token)

@[simp] theorem unlocated_nil : unlocated [] = [] := rfl

@[simp] theorem unlocated_cons (t : Token) (line : Nat) (ts : List Located) :
    unlocated (⟨t, line⟩ :: ts) = t :: unlocated ts := rfl

@[simp] theorem unlocated_append (ts us : List Located) :
    unlocated (ts ++ us) = unlocated ts ++ unlocated us := List.map_append

theorem unlocated_eq_cons_iff {ts : List Located} {t : Token} {tokens : List Token} :
    unlocated ts = t :: tokens ↔ ∃ line rest, ts = ⟨t, line⟩ :: rest ∧ unlocated rest = tokens := by
  constructor
  · intro h
    obtain ⟨⟨_, line⟩, rest, rfl, rfl, hrest⟩ := List.map_eq_cons_iff.mp h
    exact ⟨line, rest, rfl, hrest⟩
  · rintro ⟨line, rest, rfl, rfl⟩
    rfl

/-! ## Names and operators -/

theorem digits_eq {isDigit : Char → Bool} {c : Char} (h : isDigit c = false) (s : Text) :
    digits isDigit (c :: s) = ([], c :: s) := by
  unfold digits
  split <;> simp_all

theorem float?_eq_none {c : Char} (h : Text.isDigit c = false) (s : Text) :
    float? (c :: s) = none := by
  rw [float?, digits_eq h]

theorem int?_eq_none {c : Char} (h : Text.isDigit c = false) (s : Text) : int? (c :: s) = none := by
  unfold int?
  split
  · next heq =>
    obtain ⟨rfl, -⟩ := List.cons.inj heq
    exact absurd h (by decide)
  · next heq =>
    obtain ⟨rfl, -⟩ := List.cons.inj heq
    simp [h]
  · rfl

/-- What the end of a tag can begin with. -/
def endMarks : List Char := ['-', '+', '%', '\x7d']

/-- The characters of a number, white space, and what can stand at the end of a tag begin no
name. -/
theorem of_isNameStart {c : Char} (h : Text.isNameStart c) :
    Text.isDigit c = false ∧ Text.isBlank c = false ∧ c ∉ endMarks := by
  by_cases hc : c.toNat < 0x80
  · have hascii : ∀ n < 0x80, Text.isNameStart (Char.ofNat n) →
        Text.isDigit (Char.ofNat n) = false ∧ Text.isBlank (Char.ofNat n) = false ∧
          Char.ofNat n ∉ endMarks := by decide +kernel
    rw [← Char.ofNat_toNat c] at h ⊢
    exact hascii c.toNat hc h
  · have hblank : ∀ n ∈ [0x85, 0xa0, 0x1680, 0x2000, 0x2001, 0x2002, 0x2003, 0x2004, 0x2005, 0x2006,
        0x2007, 0x2008, 0x2009, 0x200a, 0x2028, 0x2029, 0x202f, 0x205f, 0x3000],
        Runs.contains Text.nameStartRuns n = false := by decide +kernel
    have hmarks : (endMarks.all fun d => d.toNat < 0x80) = true := by decide
    simp only [Text.isNameStart, if_neg hc] at h
    refine ⟨?_, ?_, fun hd => hc ?_⟩
    · rw [Text.isDigit, Bool.and_eq_false_iff]
      refine .inr (decide_eq_false fun hle => ?_)
      have hle : c.toNat ≤ 57 := hle
      omega
    · rw [Text.isBlank, if_neg hc, Bool.eq_false_iff]
      intro hb
      specialize hblank c.toNat
      simp only [Bool.or_eq_true, beq_iff_eq, Bool.and_eq_true, decide_eq_true_eq] at hb
      rw [hblank (by simp only [List.mem_cons]; omega)] at h
      cases h
    · exact of_decide_eq_true (List.all_eq_true.mp hmarks c hd)

theorem notMem_endMarks_of_isBlank {c : Char} (hc : Text.isBlank c) : c ∉ endMarks := by
  intro hmem
  have hmarks : (endMarks.all fun d => !Text.isBlank d) = true := by decide
  have hnot := List.all_eq_true.mp hmarks c hmem
  rw [hc] at hnot
  cases hnot

/-- A name is read up to the first character that does not belong to it. -/
theorem one?_name {n s : Text} (hn : Text.isName n) (hparts : ∀ c ∈ n, Text.isNamePart c)
    (hs : ∀ c ∈ s.head?, Text.isNamePart c = false) (afterDot : Bool) :
    one? afterDot (n ++ s) = some (.name n, s) := by
  obtain _ | ⟨c, n⟩ := n
  · cases hn
  have hd := (of_isNameStart (Bool.and_eq_true _ _ ▸ hn : _ ∧ _).1).1
  have htake : (c :: n ++ s).takeWhile Text.isNamePart = c :: n := by
    rw [List.takeWhile_append_of_pos hparts]
    cases s with
    | nil => simp
    | cons d s => simp [hs d rfl]
  have hdrop : (c :: n ++ s).dropWhile Text.isNamePart = s := by
    rw [List.dropWhile_append_of_pos hparts]
    cases s with
    | nil => rfl
    | cons d s => simp [hs d rfl]
  have hc : Text.isNamePart c := hparts c List.mem_cons_self
  simp only [List.cons_append] at htake hdrop ⊢
  simp only [one?, float?_eq_none hd, int?_eq_none hd, ite_self, if_pos hc, htake, hdrop, if_pos hn]

/-- Whether a character begins something else than white space, a number, a name or a quoted
text. -/
def beginsOther (c : Char) : Bool :=
  !Text.isBlank c && !Text.isDigit c && !Text.isNamePart c && c != '\x27' && c != '"'

theorem of_beginsOther {c : Char} (h : beginsOther c) : Text.isBlank c = false ∧
    Text.isDigit c = false ∧ Text.isNamePart c = false ∧ c ≠ '\x27' ∧ c ≠ '"' := by
  simpa [beginsOther, and_assoc] using h

/-- All operators are written with something at the beginning that only an operator begins with. -/
theorem exists_eq_cons_of_mem_table {written : Text} {o : Op} (h : (written, o) ∈ Op.table) :
    ∃ c s, written = c :: s ∧ beginsOther c := by
  have hall : ∀ e ∈ Op.table, e.1.head?.any beginsOther = true := by decide +kernel
  have hbegins := hall _ h
  cases written with
  | nil => cases hbegins
  | cons c s => exact ⟨c, s, rfl, hbegins⟩

theorem one?_op {written s : Text} {o : Op} (hmem : (written, o) ∈ Op.table)
    (hop : op? (written ++ s) = some (o, s)) (afterDot : Bool) :
    one? afterDot (written ++ s) = some (.op o, s) := by
  obtain ⟨c, written, rfl, hbegins⟩ := exists_eq_cons_of_mem_table hmem
  obtain ⟨-, hd, hpart, hquote, hquotes⟩ := of_beginsOther hbegins
  rw [List.cons_append] at hop ⊢
  simp only [one?, float?_eq_none hd, int?_eq_none hd, ite_self, hpart, Bool.false_eq_true, hquote,
    hquotes, or_self, if_false, hop, Option.map_some]

/-! ## The inside of a tag -/

/-- The brackets that are to come before and behind an operator. -/
inductive Awaits : List Op → Op → List Op → Prop
  | opens {closers : List Op} {o closer : Op} : o.closer? = some closer →
      Awaits closers o (closer :: closers)
  | closes {closers : List Op} {o : Op} : o.isCloser → Awaits (o :: closers) o closers
  | between {closers : List Op} {o : Op} : o.closer? = none → o.isCloser = false →
      Awaits closers o closers

theorem closer?_of_isCloser {o : Op} (h : o.isCloser) : o.closer? = none := by
  cases o <;> first | rfl | cases h

/-- The inside of a tag up to its end is read as `tokens`, where brackets are to come, and `rest`
stands behind the tag. -/
inductive ScansTag (block : Bool) : List Op → Text → List Token → Text → Prop
  | ends {s rest : Text} : tagEnd? block s = some rest →
      ScansTag block [] s [if block then blockEnd else printEnd] rest
  | blank {closers : List Op} {c : Char} {s rest : Text} {tokens : List Token} : Text.isBlank c →
      ScansTag block closers (dropBlank s) tokens rest → ScansTag block closers (c :: s) tokens rest
  | name {closers : List Op} {n s rest : Text} {tokens : List Token} : Text.isName n →
      (∀ c ∈ n, Text.isNamePart c) → (∀ c ∈ s.head?, Text.isNamePart c = false) →
      ScansTag block closers s tokens rest → ScansTag block closers (n ++ s) (.name n :: tokens) rest
  | op {closers behind : List Op} {written s rest : Text} {o : Op} {tokens : List Token} :
      (written, o) ∈ Op.table → op? (written ++ s) = some (o, s) →
      (closers = [] → tagEnd? block (written ++ s) = none) → Awaits closers o behind →
      ScansTag block behind s tokens rest →
      ScansTag block closers (written ++ s) (.op o :: tokens) rest

variable {block : Bool}

theorem tagEnd?_eq_none {c : Char} (hc : c ∉ endMarks) (s : Text) :
    tagEnd? block (c :: s) = none := by
  simp only [endMarks, List.mem_cons, List.not_mem_nil, or_false, not_or] at hc
  unfold tagEnd?
  split
  · next heq => exact absurd (List.cons.inj heq).1 hc.1
  · next heq => exact absurd (List.cons.inj heq).1 hc.2.1
  · next heq =>
    obtain ⟨rfl, -⟩ := List.cons.inj heq
    cases block <;> simp [hc]
  · rfl

theorem length_dropBlank_le (s : Text) : (dropBlank s).length ≤ s.length :=
  (List.dropWhile_suffix _).length_le

theorem length_lt_of_tagEnd? {s rest : Text} (h : tagEnd? block s = some rest) :
    rest.length < s.length := by
  unfold tagEnd? at h
  split at h
  · next c s =>
    obtain ⟨-, h⟩ := Option.ite_none_right_eq_some.mp h
    obtain rfl := Option.some.inj h
    exact Nat.lt_add_right 2 (Nat.lt_succ_of_le (length_dropBlank_le s))
  · obtain ⟨-, h⟩ := Option.ite_none_right_eq_some.mp h
    obtain rfl := Option.some.inj h
    simp only [List.length_cons]
    omega
  · obtain ⟨-, h⟩ := Option.ite_none_right_eq_some.mp h
    obtain rfl := Option.some.inj h
    simp only [List.length_cons]
    omega
  · cases h

theorem ScansTag.length_lt {closers : List Op} {s rest : Text} {tokens : List Token}
    (h : ScansTag block closers s tokens rest) : rest.length < s.length := by
  induction h with
  | ends h => exact length_lt_of_tagEnd? h
  | blank _ _ ih =>
    exact Nat.lt_succ_of_lt (Nat.lt_of_lt_of_le ih (length_dropBlank_le _))
  | name _ _ _ _ ih | op _ _ _ _ _ ih => exact Nat.lt_of_lt_of_le ih (by simp)

section Step

variable {fuel line line' : Nat} {closers : List Op} {afterDot : Bool} {s rest : Text}
  {ts : List Located}

theorem scanTag_ends (h : tagEnd? block s = some rest) :
    scanTag block (fuel + 1) [] afterDot line s =
      some ([⟨if block then blockEnd else printEnd, line⟩], line + linesBetween s rest, rest) := by
  simp only [scanTag, List.isEmpty_nil, if_true, h]

theorem scanTag_blank {c : Char} (hc : Text.isBlank c) :
    scanTag block (fuel + 1) closers afterDot line (c :: s) =
      scanTag block fuel closers false (line + linesBetween (c :: s) (dropBlank s))
        (dropBlank s) := by
  have hend : tagEnd? block (c :: s) = none := tagEnd?_eq_none (notMem_endMarks_of_isBlank hc) s
  have hdrop : dropBlank (c :: s) = dropBlank s := List.dropWhile_cons_of_pos hc
  simp only [scanTag, hend, ite_self, if_pos hc, hdrop]

theorem scanTag_name {n : Text} (hn : Text.isName n) (hparts : ∀ c ∈ n, Text.isNamePart c)
    (hs : ∀ c ∈ s.head?, Text.isNamePart c = false)
    (h : scanTag block fuel closers false (line + linesBetween (n ++ s) s) s =
      some (ts, line', rest)) :
    scanTag block (fuel + 1) closers afterDot line (n ++ s) =
      some (⟨.name n, line⟩ :: ts, line', rest) := by
  have hone := one?_name hn hparts hs afterDot
  obtain _ | ⟨c, n⟩ := n
  · cases hn
  obtain ⟨-, hblank, hmarks⟩ := of_isNameStart (Bool.and_eq_true _ _ ▸ hn : _ ∧ _).1
  rw [List.cons_append] at hone h ⊢
  simp [scanTag, tagEnd?_eq_none hmarks, hblank, hone, h]

theorem scanTag_op {behind : List Op} {written : Text} {o : Op} (hmem : (written, o) ∈ Op.table)
    (hop : op? (written ++ s) = some (o, s))
    (hend : closers = [] → tagEnd? block (written ++ s) = none) (hawaits : Awaits closers o behind)
    (h : scanTag block fuel behind (o = .dot) (line + linesBetween (written ++ s) s) s =
      some (ts, line', rest)) :
    scanTag block (fuel + 1) closers afterDot line (written ++ s) =
      some (⟨.op o, line⟩ :: ts, line', rest) := by
  have hone := one?_op hmem hop afterDot
  have hend : (if closers.isEmpty then tagEnd? block (written ++ s) else none) = none := by
    cases closers with
    | nil => exact hend rfl
    | cons => rfl
  obtain ⟨c, written, rfl, hbegins⟩ := exists_eq_cons_of_mem_table hmem
  have hblank := (of_beginsOther hbegins).1
  rw [List.cons_append] at hone hend h ⊢
  simp only [scanTag, hend, hblank, hone]
  cases hawaits with
  | opens hcloser => simp [hcloser, h]
  | closes hcloser => simp [closer?_of_isCloser hcloser, hcloser, h]
  | between hcloser hnot => simp [hcloser, hnot, h]

end Step

/-- Where a tag can be read as tokens, it is read as these. Each step leaves less of the text, so
there is fuel for all of them. -/
theorem scanTag_of_scansTag {closers : List Op} {s rest : Text} {tokens : List Token}
    (h : ScansTag block closers s tokens rest) :
    ∀ {fuel : Nat} (afterDot : Bool) (line : Nat), s.length < fuel →
      ∃ ts line', scanTag block fuel closers afterDot line s = some (ts, line', rest) ∧
        unlocated ts = tokens := by
  induction h with
  | ends h =>
    rintro (_ | fuel) afterDot line hfuel
    · exact absurd hfuel (Nat.not_lt_zero _)
    · exact ⟨_, _, scanTag_ends h, by simp⟩
  | @blank closers c s rest tokens hc _ ih =>
    rintro (_ | fuel) afterDot line hfuel
    · exact absurd hfuel (Nat.not_lt_zero _)
    · have hlen := Nat.lt_of_le_of_lt (length_dropBlank_le s) (Nat.lt_of_succ_lt_succ hfuel)
      rw [scanTag_blank hc]
      exact ih false _ hlen
  | @name closers n s rest tokens hn hparts hs _ ih =>
    rintro (_ | fuel) afterDot line hfuel
    · exact absurd hfuel (Nat.not_lt_zero _)
    · have hpos : 0 < n.length := List.length_pos_iff.mpr (by rintro rfl; cases hn)
      rw [List.length_append] at hfuel
      obtain ⟨ts, line', hts, htokens⟩ := @ih fuel false _ (by omega)
      exact ⟨_, line', scanTag_name hn hparts hs hts, congrArg _ htokens⟩
  | @op closers behind written s rest o tokens hmem hop hend hawaits _ ih =>
    rintro (_ | fuel) afterDot line hfuel
    · exact absurd hfuel (Nat.not_lt_zero _)
    · obtain ⟨c, _, hwritten, -⟩ := exists_eq_cons_of_mem_table hmem
      have hpos : 0 < written.length := hwritten ▸ Nat.zero_lt_succ _
      rw [List.length_append] at hfuel
      obtain ⟨ts, line', hts, htokens⟩ := @ih fuel (o = .dot) _ (by omega)
      exact ⟨_, line', scanTag_op hmem hop hend hawaits hts, congrArg _ htokens⟩

/-! ## Text around tags -/

/-- The text has the beginning of no tag and of no comment. -/
def IsPlain (s : Text) : Prop := ∀ c ∈ ['\x7b', '%', '#'], ¬['\x7b', c] <:+: s

@[simp] theorem isPlain_nil : IsPlain [] := by
  simp [IsPlain]

theorem isPlain_cons {c : Char} {s : Text} :
    IsPlain (c :: s) ↔ (c = '\x7b' → ∀ d ∈ s.head?, d ∉ ['\x7b', '%', '#']) ∧ IsPlain s := by
  have hprefix : ∀ d, ['\x7b', d] <+: c :: s ↔ c = '\x7b' ∧ d ∈ s.head? := fun d => by
    cases s <;> simp [List.cons_prefix_cons, eq_comm]
  simp only [IsPlain, List.infix_cons_iff, hprefix, not_or, not_and]
  constructor
  · intro h
    exact ⟨fun hc d hd hmem => (h d hmem).1 hc hd, fun d hmem => (h d hmem).2⟩
  · rintro ⟨hc, h⟩ d hmem
    exact ⟨fun hbrace hd => hc hbrace d hd hmem, h d hmem⟩

/-- What ends in no brace may stand before one. -/
theorem IsPlain.append_brace {s : Text} (h : IsPlain s) (hs : s.getLast? ≠ some '\x7b') :
    IsPlain (s ++ ['\x7b']) := by
  have hbrace : IsPlain ['\x7b'] := isPlain_cons.mpr ⟨by simp, isPlain_nil⟩
  induction s with
  | nil => exact hbrace
  | cons c s ih =>
    obtain ⟨hc, h⟩ := isPlain_cons.mp h
    rw [List.cons_append, isPlain_cons]
    cases s with
    | nil => exact ⟨fun hc => absurd (congrArg some hc) hs, hbrace⟩
    | cons d s => exact ⟨hc, ih h hs⟩

/-- No tag begins only because line ends become line feeds. -/
theorem IsPlain.unifyLineEnds {s : Text} (h : IsPlain s) : IsPlain (Text.unifyLineEnds s) := by
  fun_induction Text.unifyLineEnds s with
  | case1 => exact h
  | case2 s ih => exact isPlain_cons.mpr ⟨by simp, ih (isPlain_cons.mp (isPlain_cons.mp h).2).2⟩
  | case3 c s _ ih =>
    obtain ⟨hc, h⟩ := isPlain_cons.mp h
    refine isPlain_cons.mpr ⟨fun hbrace d hd hmem => ?_, ih h⟩
    have hline : d ≠ '\n' := by
      rintro rfl
      exact absurd hmem (by decide)
    have hbrace : c = '\x7b' := by
      split at hbrace
      · cases hbrace
      · exact hbrace
    exact hc hbrace d (Text.head?_unifyLineEnds hline hd) hmem

theorem takeData_cons {c : Char} {s : Text}
    (h : c = '\x7b' → ∀ d ∈ s.head?, d ∉ ['\x7b', '%', '#']) :
    takeData (c :: s) = (c :: (takeData s).1, (takeData s).2) := by
  by_cases hc : c = '\x7b'
  · obtain rfl := hc
    cases s with
    | nil => rfl
    | cons d s =>
      have hd : ¬(d = '\x7b' ∨ d = '%' ∨ d = '#') := by simpa using h rfl d rfl
      rw [takeData, if_neg hd]
  · rw [takeData]
    rintro _ _ rfl -
    exact hc rfl

/-- A plain text is read as it stands. -/
theorem takeData_plain {s : Text} (h : IsPlain s) : takeData s = (s, []) := by
  induction s with
  | nil => rfl
  | cons c s ih =>
    obtain ⟨hc, h⟩ := isPlain_cons.mp h
    rw [takeData_cons hc, ih h]

/-- A text that is plain with a brace behind it is read up to the tag. -/
theorem takeData_append {s : Text} (h : IsPlain (s ++ ['\x7b'])) (rest : Text) :
    takeData (s ++ '\x7b' :: '\x7b' :: rest) = (s, '\x7b' :: '\x7b' :: rest) := by
  induction s with
  | nil => rfl
  | cons c s ih =>
    obtain ⟨hc, h⟩ := isPlain_cons.mp h
    have hhead : (s ++ '\x7b' :: '\x7b' :: rest).head? = (s ++ ['\x7b']).head? := by
      cases s <;> rfl
    rw [List.cons_append, takeData_cons (hhead ▸ hc), ih h]

/-! ## Templates whose tags print -/

/-- A text as tokens. -/
def dataOf (s : Text) : List Token := if s.isEmpty then [] else [.data s]

theorem unlocated_ofData (line : Nat) (s : Text) : unlocated (ofData line s) = dataOf s := by
  unfold ofData dataOf
  split <;> rfl

/-- A template with tags that print, and plain text around them, is read as `tokens`. -/
inductive Scans : Text → List Token → Prop
  | text {s : Text} : IsPlain s → Scans s (dataOf s)
  | print {s inner rest : Text} {tokens after : List Token} : IsPlain (s ++ ['\x7b']) →
      sign inner = (false, inner) → ScansTag false [] inner tokens rest → Scans rest after →
      Scans (s ++ '\x7b' :: '\x7b' :: inner) (dataOf s ++ printBegin :: tokens ++ after)

theorem scanFrom_of_scans {s : Text} {tokens : List Token} (h : Scans s tokens) :
    ∀ {fuel : Nat} (line : Nat), s.length < fuel →
      ∃ ts, scanFrom fuel line s = some ts ∧ unlocated ts = tokens := by
  induction h with
  | @text s hs =>
    rintro (_ | fuel) line hfuel
    · exact absurd hfuel (Nat.not_lt_zero _)
    · refine ⟨ofData line s, ?_, unlocated_ofData line s⟩
      rw [scanFrom, takeData_plain hs]
  | @print s inner rest tokens after hs hsign htag _ ih =>
    rintro (_ | fuel) line hfuel
    · exact absurd hfuel (Nat.not_lt_zero _)
    · have hrest := htag.length_lt
      simp only [List.length_append, List.length_cons] at hfuel
      obtain ⟨ts, line', hts, htokens⟩ := scanTag_of_scansTag htag false (line + s.count '\n')
        (Nat.lt_add_one inner.length)
      obtain ⟨us, hus, hafter⟩ := @ih fuel line' (by omega)
      refine ⟨ofData line s ++ ⟨printBegin, line + s.count '\n'⟩ :: ts ++ us, ?_, ?_⟩
      · simp [scanFrom, takeData_append hs, hsign, hts, hus]
      · simp [unlocated_ofData, htokens, hafter]

/-- The tokens of a template, whatever line each of them stands on. -/
theorem scan_of_scans {template : Text} {tokens : List Token}
    (h : Scans (Text.unifyLineEnds template) tokens) :
    ∃ ts, scan template = some ts ∧ unlocated ts = tokens :=
  scanFrom_of_scans h 1 (Nat.lt_succ_self _)

end Stencil.Token
