import Stencil.Document.Reader
import Stencil.Proofs.Pairs
import Stencil.Proofs.Text.Hexadecimal

/-!
# Documents as an encoder writes them

`Document.write` writes a document with no white space. In a text it escapes quotes, backslashes,
control characters and the two Unicode characters that separate lines and paragraphs ; every
other character stands for itself. Encoders differ in what they write for a backspace and for a
form feed, so that is left open.

`read_write` : a document without numbers whose objects have no name twice, and that is not nested
too deep, is read from what was written. The reader spends one of its fuel on each part, and every
part has a character of its own, so as much fuel as there are characters is enough (`IsRead`).
-/

namespace Stencil.Document

/-! ## Writing -/

/-- The letter that is written behind a backslash for a character. With `letters` there is one for
backspace and for form feed. -/
def letter? (letters : Bool) : Char → Option Char
  | '"' => some '"'
  | '\\' => some '\\'
  | '\n' => some 'n'
  | '\r' => some 'r'
  | '\t' => some 't'
  | '\x08' => if letters then some 'b' else none
  | '\x0c' => if letters then some 'f' else none
  | _ => none

/-- Whether a character is written by its number when it has no letter. -/
def isNumbered (c : Char) : Bool := c.toNat < 0x20 || c.toNat = 0x2028 || c.toNat = 0x2029

/-- A character inside a text. -/
def writeChar (letters : Bool) (c : Char) : Text :=
  match letter? letters c with
  | some l => ['\\', l]
  | none => if isNumbered c then '\\' :: 'u' :: Text.hex 4 c.toNat else [c]

/-- A text between quotes. -/
def writeText (letters : Bool) (s : Text) : Text :=
  '"' :: (s.flatMap (writeChar letters) ++ ['"'])

mutual

/-- A document with nothing between its parts. -/
def write (letters : Bool) : Document → Text
  | .null => "null"
  | .bool true => "true"
  | .bool false => "false"
  | .int i => Text.ofInt i
  | .float x => Decimal.text x
  | .text s => writeText letters s
  | .list items => '[' :: (writeItems letters items ++ [']'])
  | .object members => '\x7b' :: (writeMembers letters members ++ ['\x7d'])

/-- Items with commas between them. -/
def writeItems (letters : Bool) : List Document → Text
  | [] => []
  | [d] => write letters d
  | d :: e :: rest => write letters d ++ ',' :: writeItems letters (e :: rest)

/-- Members with commas between them. -/
def writeMembers (letters : Bool) : List (Text × Document) → Text
  | [] => []
  | [(name, d)] => writeText letters name ++ ':' :: write letters d
  | (name, d) :: e :: rest =>
    writeText letters name ++ ':' :: (write letters d ++ ',' :: writeMembers letters (e :: rest))

end

/-- A document without numbers whose objects have no name twice, nested at most so deep. -/
inductive Plain : Nat → Document → Prop where
  | null {n : Nat} : Plain n .null
  | bool {n : Nat} (b : Bool) : Plain n (.bool b)
  | text {n : Nat} (s : Text) : Plain n (.text s)
  | list {n : Nat} {items : List Document} (h : ∀ d ∈ items, Plain n d) : Plain (n + 1) (.list items)
  | object {n : Nat} {members : List (Text × Document)} (names : (members.map Prod.fst).Nodup)
      (h : ∀ m ∈ members, Plain n m.2) : Plain (n + 1) (.object members)

/-! ## Reading a text back -/

section Texts

variable {letters : Bool} {opened : Nat} {s t rest : Text}

theorem escaped?_of_letter? {c l : Char} (h : letter? letters c = some l) :
    escaped? l = some c ∧ l ≠ 'u' := by
  unfold letter? at h
  split at h
  all_goals try split at h
  all_goals first | (obtain rfl := Option.some.inj h; decide) | cases h

theorem readText_letter {l c : Char} (hl : escaped? l = some c) (hu : l ≠ 'u')
    (h : readText opened s = .ok (t, rest)) :
    readText opened ('\\' :: l :: s) = .ok (c :: t, rest) := by
  rw [readText, hl, h]
  · rfl
  · exact hu

theorem readText_number {digits : Text} {n : Nat} (hlen : digits.length = 4)
    (hn : Text.hexValue? digits = some n) (hhigh : isHigh n = false)
    (h : readText opened s = .ok (t, rest)) :
    readText opened ('\\' :: 'u' :: (digits ++ s)) = .ok (scalar n :: t, rest) := by
  obtain ⟨a, b, c, d, rfl⟩ : ∃ a b c d, digits = [a, b, c, d] := by
    match digits, hlen with
    | [a, b, c, d], _ => exact ⟨a, b, c, d, rfl⟩
  have hs : s.isEmpty = false := by
    cases s with
    | nil => cases h
    | cons => rfl
  simp only [List.cons_append, List.nil_append, readText, hs, hn, Bool.false_eq_true, if_false,
    hhigh, h]
  rfl

theorem readText_char {c : Char} (hq : c ≠ '"') (hb : c ≠ '\\') (hc : 0x20 ≤ c.toNat)
    (h : readText opened s = .ok (t, rest)) :
    readText opened (c :: s) = .ok (c :: t, rest) := by
  rw [readText, if_neg (by omega), h]
  · rfl
  · exact hq
  all_goals simp [hb]

theorem readText_writeChar (c : Char) (h : readText opened s = .ok (t, rest)) :
    readText opened (writeChar letters c ++ s) = .ok (c :: t, rest) := by
  unfold writeChar
  split
  · next l hl =>
    obtain ⟨hread, hu⟩ := escaped?_of_letter? hl
    exact readText_letter hread hu h
  next hnone =>
  split
  · next hnum =>
    have hn : c.toNat < 0xd800 := by
      simp only [isNumbered, Bool.or_eq_true, decide_eq_true_eq] at hnum
      omega
    have hhigh : isHigh c.toNat = false := by
      simp only [isHigh, Bool.and_eq_false_iff, decide_eq_false_iff_not]
      omega
    have hlow : isLow c.toNat = false := by
      simp only [isLow, Bool.and_eq_false_iff, decide_eq_false_iff_not]
      omega
    have hscalar : scalar c.toNat = c := by simp [scalar, hhigh, hlow, Char.ofNat_toNat]
    have hread := readText_number (Text.length_hex (by decide) (by omega))
      (Text.hexValue?_hex 4 c.toNat) hhigh h
    rwa [hscalar] at hread
  · next hnum =>
    have hc : 0x20 ≤ c.toNat := by
      simp only [isNumbered, Bool.or_eq_true, decide_eq_true_eq] at hnum
      omega
    refine readText_char ?_ ?_ hc h
    · rintro rfl
      cases hnone
    · rintro rfl
      cases hnone

/-- A text is read from behind its opening quote, whatever follows the closing one. -/
theorem readText_written (opened : Nat) (rest : Text) :
    ∀ s : Text, readText opened (s.flatMap (writeChar letters) ++ '"' :: rest) = .ok (s, rest)
  | [] => rfl
  | c :: s => by
    rw [List.flatMap_cons, List.append_assoc]
    exact readText_writeChar c (readText_written opened rest s)

end Texts

/-! ## Reading a document back -/

section Steps

variable {depth fuel : Nat} {s s' s'' rest name : Text} {d : Document} {items : List Document}
  {members : List (Text × Document)}

theorem readItems_last (h : readValue depth fuel s = .ok (d, ']' :: rest)) :
    readItems depth (fuel + 1) s = .ok ([d], rest) := by
  rw [readItems, h]
  rfl

theorem readItems_cons (h : readValue depth fuel s = .ok (d, ',' :: s')) (hs : skip s' = s')
    (hitems : readItems depth fuel s' = .ok (items, rest)) :
    readItems depth (fuel + 1) s = .ok (d :: items, rest) := by
  have hcomma : skip (',' :: s') = ',' :: s' := rfl
  simp only [readItems, h, bind, Except.bind, hcomma, hs, hitems]
  rfl

theorem readMembers_last (hname : ∀ opened, readText opened s = .ok (name, ':' :: s'))
    (hs : skip s' = s') (h : readValue depth fuel s' = .ok (d, '\x7d' :: rest)) :
    readMembers depth (fuel + 1) ('"' :: s) = .ok ([(name, d)], rest) := by
  have hcolon : skip (':' :: s') = ':' :: s' := rfl
  simp only [readMembers, hname, bind, Except.bind, hcolon, hs, h]
  rfl

theorem readMembers_cons (hname : ∀ opened, readText opened s = .ok (name, ':' :: s'))
    (hs : skip s' = s') (h : readValue depth fuel s' = .ok (d, ',' :: s'')) (hs' : skip s'' = s'')
    (hmembers : readMembers depth fuel s'' = .ok (members, rest)) :
    readMembers depth (fuel + 1) ('"' :: s) = .ok ((name, d) :: members, rest) := by
  have hcolon : skip (':' :: s') = ':' :: s' := rfl
  have hcomma : skip (',' :: s'') = ',' :: s'' := rfl
  simp only [readMembers, hname, bind, Except.bind, hcolon, hs, h, hcomma, hs', hmembers]
  rfl

theorem readValue_list (hs : skip s = s) (hne : s.head? ≠ some ']')
    (h : readItems depth fuel s = .ok (items, rest)) :
    readValue (depth + 1) (fuel + 1) ('[' :: s) = .ok (.list items, rest) := by
  simp only [readValue, Char.reduceEq, if_false, if_true, inside, bind, Except.bind, hs]
  split
  · exact absurd rfl hne
  · rw [h]
    rfl

theorem readValue_object (hs : skip s = s) (hne : s.head? ≠ some '\x7d')
    (h : readMembers depth fuel s = .ok (members, rest)) :
    readValue (depth + 1) (fuel + 1) ('\x7b' :: s) = .ok (.object (Pairs.ofList members), rest) := by
  simp only [readValue, Char.reduceEq, if_false, if_true, inside, bind, Except.bind, hs]
  split
  · exact absurd rfl hne
  · rw [h]
    rfl

end Steps

section Values

variable {letters : Bool} {n : Nat} {d : Document}

/-- A written document begins with a character that is neither white space nor a bracket that
closes. -/
theorem exists_write_eq_cons (letters : Bool) (h : Plain n d) :
    ∃ c s, write letters d = c :: s ∧ c ∈ ['n', 't', 'f', '"', '[', '\x7b'] := by
  cases h with
  | null => exact ⟨'n', _, rfl, by decide⟩
  | bool b => cases b <;> exact ⟨_, _, rfl, by decide⟩
  | text s => exact ⟨'"', _, rfl, by decide⟩
  | list _ => exact ⟨'[', _, by rw [write], by decide⟩
  | object _ _ => exact ⟨'\x7b', _, by rw [write], by decide⟩

theorem skip_cons_of_mem {c : Char} (s : Text) (h : c ∈ ['n', 't', 'f', '"', '[', '\x7b']) :
    skip (c :: s) = c :: s ∧ c ≠ ']' := by
  simp only [List.mem_cons, List.not_mem_nil, or_false] at h
  rcases h with rfl | rfl | rfl | rfl | rfl | rfl <;> exact ⟨rfl, by decide⟩

theorem skip_write_append (h : Plain n d) (rest : Text) :
    skip (write letters d ++ rest) = write letters d ++ rest := by
  obtain ⟨c, s, hw, hc⟩ := exists_write_eq_cons letters h
  rw [hw]
  exact (skip_cons_of_mem _ hc).1

theorem skip_writeItems_append (letters : Bool) (h : Plain n d) (items : List Document)
    (rest : Text) :
    skip (writeItems letters (d :: items) ++ rest) = writeItems letters (d :: items) ++ rest ∧
      (writeItems letters (d :: items) ++ rest).head? ≠ some ']' := by
  obtain ⟨c, s, hw, hc⟩ := exists_write_eq_cons letters h
  cases items with
  | nil =>
    rw [writeItems, hw]
    simpa using skip_cons_of_mem (s ++ rest) hc
  | cons e items =>
    rw [writeItems, hw]
    simpa using skip_cons_of_mem (s ++ ',' :: (writeItems letters (e :: items) ++ rest)) hc

/-- With so much depth, what a document is written as is read as the document, whatever follows
it. -/
def IsRead (letters : Bool) (depth : Nat) (d : Document) : Prop :=
  ∀ fuel rest, (write letters d).length ≤ fuel →
    readValue depth fuel (write letters d ++ rest) = .ok (d, rest)

variable {depth : Nat}

theorem readItems_written (rest : Text) :
    ∀ (items : List Document) (fuel : Nat), items ≠ [] →
      (∀ d ∈ items, Plain n d ∧ IsRead letters depth d) → (writeItems letters items).length < fuel →
      readItems depth fuel (writeItems letters items ++ ']' :: rest) = .ok (items, rest)
  | [d], fuel + 1, _, h, hfuel => by
    rw [writeItems] at hfuel ⊢
    exact readItems_last ((h d (by simp)).2 fuel _ (by omega))
  | d :: e :: items, fuel + 1, _, h, hfuel => by
    simp only [writeItems, List.length_append, List.length_cons] at hfuel
    have hrest : ∀ x ∈ e :: items, Plain n x ∧ IsRead letters depth x :=
      fun x hx => h x (List.mem_cons_of_mem d hx)
    rw [writeItems, List.append_assoc, List.cons_append]
    exact readItems_cons ((h d (by simp)).2 fuel _ (by omega))
      (skip_writeItems_append letters (hrest e (by simp)).1 items _).1
      (readItems_written rest (e :: items) fuel (by simp) hrest (by omega))

theorem readMembers_written (letters : Bool) (rest : Text) :
    ∀ (members : List (Text × Document)) (fuel : Nat), members ≠ [] →
      (∀ m ∈ members, Plain n m.2 ∧ IsRead letters depth m.2) →
      (writeMembers letters members).length < fuel →
      readMembers depth fuel (writeMembers letters members ++ '\x7d' :: rest) = .ok (members, rest)
  | [(name, d)], fuel + 1, _, h, hfuel => by
    simp only [writeMembers, writeText, List.length_append, List.length_cons] at hfuel
    have hd : Plain n d := (h (name, d) (by simp)).1
    have hread : IsRead letters depth d := (h (name, d) (by simp)).2
    simp only [writeMembers, writeText, List.cons_append, List.append_assoc, List.nil_append]
    exact readMembers_last (fun opened => readText_written opened _ name)
      (skip_write_append hd _) (hread fuel _ (by omega))
  | (name, d) :: e :: members, fuel + 1, _, h, hfuel => by
    simp only [writeMembers, writeText, List.length_append, List.length_cons] at hfuel
    have hd : Plain n d := (h (name, d) (by simp)).1
    have hread : IsRead letters depth d := (h (name, d) (by simp)).2
    have ih := readMembers_written letters rest (e :: members) fuel (by simp)
      (fun m hm => h m (List.mem_cons_of_mem _ hm)) (by omega)
    simp only [writeMembers, writeText, List.cons_append, List.append_assoc, List.nil_append]
    refine readMembers_cons (fun opened => readText_written opened _ name)
      (skip_write_append hd _) (hread fuel _ (by omega)) ?_ ih
    cases members <;> rfl

theorem isRead_of_succ (h : Plain n d) (hread : ∀ fuel rest, (write letters d).length ≤ fuel + 1 →
    readValue depth (fuel + 1) (write letters d ++ rest) = .ok (d, rest)) :
    IsRead letters depth d := by
  intro fuel rest hfuel
  obtain ⟨c, s, hw, -⟩ := exists_write_eq_cons letters h
  cases fuel with
  | zero => simp [hw] at hfuel
  | succ fuel => exact hread fuel rest hfuel

/-- Induction on the document : every part is read with as much fuel as it has characters, and with
the depth that is left. -/
theorem isRead_of_plain (h : Plain n d) {depth : Nat} (hdepth : n ≤ depth) :
    IsRead letters depth d := by
  induction h generalizing depth with
  | null => exact isRead_of_succ (n := 0) .null fun fuel rest _ => rfl
  | bool b => exact isRead_of_succ (n := 0) (.bool b) fun fuel rest _ => by cases b <;> rfl
  | text s =>
    refine isRead_of_succ (n := 0) (.text s) fun fuel rest _ => ?_
    simp only [write, writeText, List.cons_append, List.append_assoc, List.nil_append, readValue,
      if_true, readText_written]
    rfl
  | @list n items hplain ih =>
    obtain ⟨depth, rfl⟩ : ∃ k, depth = k + 1 := ⟨depth - 1, by omega⟩
    refine isRead_of_succ (.list hplain) fun fuel rest hfuel => ?_
    simp only [write, List.length_cons, List.length_append, List.length_nil] at hfuel
    rw [write, List.cons_append, List.append_assoc]
    cases items with
    | nil => rfl
    | cons d items =>
      have hskip := skip_writeItems_append letters (hplain d (by simp)) items
      exact readValue_list (hskip _).1 (hskip _).2
        (readItems_written rest (d :: items) fuel (by simp)
          (fun x hx => ⟨hplain x hx, ih x hx (by omega)⟩) (by omega))
  | @object n members hnames hplain ih =>
    obtain ⟨depth, rfl⟩ : ∃ k, depth = k + 1 := ⟨depth - 1, by omega⟩
    refine isRead_of_succ (.object hnames hplain) fun fuel rest hfuel => ?_
    simp only [write, List.length_cons, List.length_append, List.length_nil] at hfuel
    rw [write, List.cons_append, List.append_assoc]
    cases members with
    | nil => rfl
    | cons m members =>
      have hparts : ∀ x ∈ m :: members, Plain n x.2 ∧ IsRead letters depth x.2 :=
        fun x hx => ⟨hplain x hx, ih x hx (by omega)⟩
      have hread := readMembers_written letters rest (m :: members) fuel (by simp) hparts (by omega)
      have hobject := readValue_object (by cases members <;> rfl)
        (by cases members <;> simp [writeMembers, writeText]) hread
      rwa [Pairs.ofList_of_nodup hnames] at hobject

/-- A plain document that is not nested too deep is read from what it is written as, with white
space behind it. -/
theorem read_write (h : Plain n d) (hn : n ≤ nestingLimit) {trailing : Text}
    (htrailing : skip trailing = []) : read (write letters d ++ trailing) = .ok d := by
  have hfuel : (write letters d).length ≤ 2 * (write letters d ++ trailing).length + 2 := by
    rw [List.length_append]
    omega
  rw [read, skip_write_append h, isRead_of_plain h hn _ _ hfuel]
  simp only [bind, Except.bind, htrailing]
  rfl

end Values

end Stencil.Document
