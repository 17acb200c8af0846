import Stencil.Proofs.Entries.Faults

/-!
# Entries joined by a comma

A comma behind entries brings reading back to where it began, so the entries behind it are
read as if they stood alone (`Written.join`), and so is their fault, which is found so much
later (`Faulty.join`). `parse_join` : reading two texts with a comma between them merges
what is read from each.
-/

namespace Stencil.Entries

open Stencil.Symbol

/-- The fault, found `n` characters later. -/
def Fault.shift (n : Nat) : Fault → Fault
  | .unexpected found position => .unexpected found (position + n)
  | .unclosed quote => .unclosed (quote + n)

/-! ## Behind the comma -/

theorem closed_append (es es' : List Entry) : closed (es ++ es') = closed es ++ closed es' := by
  simp [closed]

theorem Written.closed_eq {raw : Text} {es : List Entry} (h : Written raw es) :
    closed es = Symbol.ofText raw ++ [plain ','] := by
  obtain ⟨es, e, rfl⟩ := List.eq_nil_or_concat es |>.resolve_left h.nonempty
  rw [List.concat_eq_append] at h ⊢
  obtain ⟨-, -, hraw⟩ := written_concat_iff.mp h
  rw [closed_append, hraw]
  simp

theorem Written.join {a b : Text} {es es' : List Entry} (ha : Written a es)
    (hb : Written b es') : Written (a ++ ',' :: b) (es ++ es') := by
  obtain ⟨es', e, rfl⟩ := List.eq_nil_or_concat es' |>.resolve_left hb.nonempty
  rw [List.concat_eq_append] at hb ⊢
  obtain ⟨hes', he, hsymbols⟩ := written_concat_iff.mp hb
  rw [← List.append_assoc]
  refine written_concat_iff.mpr ⟨fun x hx => ?_, he, ?_⟩
  · exact (List.mem_append.mp hx).elim (ha.valid x) (hes' x)
  · rw [ofText_append (apart_of_head? (by simp) a), ofText_cons (by decide), hsymbols,
      closed_append, ha.closed_eq]
    simp

theorem Closes.join {a head : Text} {es : List Entry} (ha : Written a es) (h : Closes head) :
    Closes (a ++ ',' :: head) := by
  obtain ⟨es', key, outer, inner, hwritten⟩ := h
  exact ⟨es ++ es', key, outer, inner, by simpa using ha.join hwritten⟩

theorem Opens.join {a head : Text} {es : List Entry} (ha : Written a es) (h : Opens head) :
    Opens (a ++ ',' :: head) := by
  obtain ⟨hlast, es', key, outer, hwritten⟩ := h
  exact ⟨mt (getLast?_append_cons (by decide) a head).mp hlast, es ++ es', key, outer,
    by simpa using ha.join hwritten⟩

/-- A fault behind a comma is the fault of what stands there. -/
theorem Faulty.join {a b : Text} {es : List Entry} {fault : Fault} (ha : Written a es)
    (h : Faulty b fault) : Faulty (a ++ ',' :: b) (fault.shift (a.length + 1)) := by
  have hlength : ∀ head : Text, head.length + (a.length + 1) = (a ++ ',' :: head).length :=
    fun head => by simp; omega
  cases h with
  | @unexpected head c rest hhead hc =>
    rw [Fault.shift, hlength, ← List.cons_append, ← List.append_assoc]
    exact .unexpected rest (hhead.join ha) hc
  | @unclosed head rest hhead hrest =>
    rw [Fault.shift, hlength, ← List.cons_append, ← List.append_assoc]
    exact .unclosed (hhead.join ha) hrest

/-! ## What is read -/

theorem flatten_union (items others : List (Text × List Text)) :
    flatten (Pairs.union items others) = Pairs.union (flatten items) (flatten others) := by
  unfold flatten
  refine Pairs.map_union ?_ items others
  exact fun _ => rfl

/-- The first value of a key is the first one that the first entries have. -/
theorem flatten_merge {items others : List (Text × List Text)}
    (hitems : ∀ item ∈ items, item.2 ≠ []) :
    flatten (Pairs.merge items others) = Pairs.union (flatten items) (flatten others) := by
  rw [Pairs.merge, flatten_union, flatten, List.map_map]
  refine congrArg (Pairs.union · _) (List.map_congr_left fun item hitem => ?_)
  obtain ⟨v, vs, hvs⟩ := List.exists_cons_of_ne_nil (hitems item hitem)
  cases v <;> simp [hvs]

/-- Reading two texts with a comma between them. Entries are merged, and with them what flattening
makes of each. A fault of the second text is found later by the length of the first one and the
comma; what stands behind a closing quote of the first text is found where it was. -/
theorem parse_join (a b : Text) :
    (∀ items others, parse a = .ok items → parse b = .ok others →
      parse (a ++ ',' :: b) = .ok (Pairs.merge items others) ∧
      flatten (Pairs.merge items others) = Pairs.union (flatten items) (flatten others)) ∧
    (∀ items fault, parse a = .ok items → parse b = .error fault →
      parse (a ++ ',' :: b) = .error (fault.shift (a.length + 1))) ∧
    ∀ found position, parse a = .error (.unexpected found position) →
      parse (a ++ ',' :: b) = .error (.unexpected found position) := by
  refine ⟨fun items others ha hb => ?_, fun items fault ha hb => ?_, fun found position ha => ?_⟩
  · obtain ⟨es, hes⟩ := exists_written ha
    obtain ⟨es', hes'⟩ := exists_written hb
    obtain rfl := Except.ok.inj (ha.symm.trans hes.parse)
    obtain rfl := Except.ok.inj (hb.symm.trans hes'.parse)
    refine ⟨?_, flatten_merge fun item hitem => Pairs.ne_nil_of_mem_byKey hitem⟩
    rw [(hes.join hes').parse, List.map_append, Pairs.byKey_append]
  · obtain ⟨es, hes⟩ := exists_written ha
    exact ((parse_eq_error_iff.mp hb).join hes).parse
  · exact ((parse_eq_error_iff.mp ha).append (',' :: b)).parse

/-- The second text has a value for a key that the first one has with no value, or a fault; or the
first one has a fault of its own. -/
theorem parse_join_shared_key :
    (parse ['k', '='] = .ok [(['k'], [[]])] ∧ parse ['k', '=', 'v'] = .ok [(['k'], [['v']])] ∧
      parse ['k', '=', ',', 'k', '=', 'v'] = .ok [(['k'], [[], ['v']])] ∧
      flatten [(['k'], [[], ['v']])] = Pairs.union (flatten [(['k'], [[]])])
        (flatten [(['k'], [['v']])])) ∧
    (parse ['k', '=', '\x27'] = .error (.unclosed 2) ∧
      parse ['k', '=', ',', 'k', '=', '\x27'] = .error (.unclosed 5)) ∧
    parse ['k', '=', '\x27', '\x27', 'x'] = .error (.unexpected 'x' 4) ∧
      parse ['k', '=', '\x27', '\x27', 'x', ',', 'k'] = .error (.unexpected 'x' 4) := by
  have hempty : parse ['k', '='] = .ok [(['k'], [[]])] := by decide
  have hvalue : parse ['k', '=', 'v'] = .ok [(['k'], [['v']])] := by decide
  have hopen : parse ['k', '=', '\x27'] = .error (.unclosed 2) := by decide
  have hfound : parse ['k', '=', '\x27', '\x27', 'x'] = .error (.unexpected 'x' 4) := by decide
  exact ⟨⟨hempty, hvalue, (parse_join _ _).1 _ _ hempty hvalue⟩,
    ⟨hopen, (parse_join _ _).2.1 _ _ hempty hopen⟩,
    hfound, (parse_join _ ['k']).2.2 _ _ hfound⟩

end Stencil.Entries
