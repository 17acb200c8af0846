import Mathlib.Data.List.Basic
import Stencil.Pairs

/-!
# Grouping pairs by key

`Pairs.byKey` says what grouping is for : every key once, in the order of the first
occurrences, with all its values in order. `group_eq_byKey` : `Pairs.group`, which adds
the pairs one after the other, computes it. `byKey_append` : the groups of a concatenation
are those of its parts, merged. `byKey_ungroup` : groups that are taken apart are found
again. `ofList_of_nodup` : pairs of different keys are kept. A new value is found under its
key and under no other one (`lookup_set_self`, `lookup_set_of_ne`).
-/

namespace Stencil.Pairs

variable {α β : Type} [BEq α]

/-- The values of `key`, in order. -/
def values (key : α) (pairs : List (α × β)) : List β :=
  (pairs.filter fun p => p.1 == key).map Prod.snd

/-- Every key once, in the order of the first occurrences, with its values. -/
def byKey (pairs : List (α × β)) : List (α × List β) :=
  (pairs.map Prod.fst).eraseDups.map fun key => (key, values key pairs)

@[simp] theorem values_nil (key : α) : values key ([] : List (α × β)) = [] :=
  rfl

@[simp] theorem values_append (key : α) (pairs others : List (α × β)) :
    values key (pairs ++ others) = values key pairs ++ values key others := by
  simp [values]

variable [LawfulBEq α]

theorem values_cons_self (k : α) (v : β) (pairs : List (α × β)) :
    values k ((k, v) :: pairs) = v :: values k pairs := by
  simp [values]

theorem values_cons_of_ne {k key : α} (h : k ≠ key) (v : β) (pairs : List (α × β)) :
    values key ((k, v) :: pairs) = values key pairs := by
  simp [values, h]

theorem values_erase_of_ne {k key : α} (h : key ≠ k) (pairs : List (α × β)) :
    values key (erase k pairs) = values key pairs := by
  unfold values erase
  rw [List.filter_filter]
  refine congrArg (List.map Prod.snd) (List.filter_congr fun p _ => ?_)
  by_cases hp : p.1 = key
  · simp [hp, h]
  · simp [hp]

/-- Adding pairs to a list that begins with a key gives that key its values and adds
the other pairs to the rest. -/
theorem foldl_add_cons (k : α) :
    ∀ (pairs : List (α × β)) (vs : List β) (acc : List (α × List β)),
      pairs.foldl (fun acc p => add p.1 p.2 acc) ((k, vs) :: acc) =
        (k, vs ++ values k pairs) :: (erase k pairs).foldl (fun acc p => add p.1 p.2 acc) acc
  | [], vs, acc => by simp [erase]
  | (k', v) :: pairs, vs, acc => by
    by_cases h : k' = k
    · subst h
      simp only [List.foldl_cons, add, beq_self_eq_true, if_true, values_cons_self]
      rw [foldl_add_cons k' pairs]
      simp [erase]
    · have hk : ¬k = k' := fun e => h e.symm
      simp only [List.foldl_cons, add, beq_iff_eq, hk, if_false, values_cons_of_ne h]
      rw [foldl_add_cons k pairs]
      simp [erase, h]

theorem group_cons (k : α) (v : β) (pairs : List (α × β)) :
    group ((k, v) :: pairs) = (k, v :: values k pairs) :: group (erase k pairs) :=
  foldl_add_cons k pairs [v] []

theorem byKey_cons (k : α) (v : β) (pairs : List (α × β)) :
    byKey ((k, v) :: pairs) = (k, v :: values k pairs) :: byKey (erase k pairs) := by
  have hkeys : (erase k pairs).map Prod.fst = (pairs.map Prod.fst).filter fun b => !b == k := by
    rw [erase, List.filter_map]
    rfl
  unfold byKey
  rw [List.map_cons, List.eraseDups_cons, List.map_cons, values_cons_self, hkeys]
  refine congrArg _ (List.map_congr_left fun key hkey => ?_)
  have hne : key ≠ k := by
    simpa using (List.mem_filter.mp (List.mem_eraseDups.mp hkey)).2
  rw [values_cons_of_ne hne.symm, values_erase_of_ne hne]

/-- Grouping gives every key its values, the keys in the order of their first
occurrences. -/
theorem group_eq_byKey : ∀ pairs : List (α × β), group pairs = byKey pairs
  | [] => rfl
  | (k, v) :: pairs => by
    rw [group_cons, byKey_cons, group_eq_byKey (erase k pairs)]
termination_by pairs => pairs.length
decreasing_by
  have := List.length_filter_le (fun p : α × β => !(p.1 == k)) pairs
  simp only [erase, List.length_cons]
  omega

/-! ## The keys of a grouping -/

theorem eraseDups_filter (p : α → Bool) :
    ∀ keys : List α, (keys.filter p).eraseDups = keys.eraseDups.filter p
  | [] => rfl
  | k :: keys => by
    have ih := eraseDups_filter p (keys.filter fun b => !b == k)
    rw [List.eraseDups_cons, List.filter_cons (p := p), List.filter_cons (p := p), ← ih,
      List.filter_filter]
    by_cases hk : p k
    · rw [if_pos hk, if_pos hk, List.eraseDups_cons, List.filter_filter]
      simp [Bool.and_comm]
    · have hp : ∀ b ∈ keys, (p b && !b == k) = p b := fun b _ => by
        by_cases hb : b = k
        · simp [hb, hk]
        · simp [hb]
      rw [if_neg hk, if_neg hk, List.filter_congr hp]
termination_by keys => keys.length
decreasing_by
  have := List.length_filter_le (fun b => !b == k) keys
  simp only [List.length_cons]
  omega

theorem nodup_eraseDups : ∀ keys : List α, keys.eraseDups.Nodup
  | [] => List.nodup_nil
  | k :: keys => by
    rw [List.eraseDups_cons, eraseDups_filter]
    exact List.nodup_cons.mpr ⟨by simp, (nodup_eraseDups keys).filter _⟩

theorem contains_eraseDups (key : α) (keys : List α) :
    keys.eraseDups.contains key = keys.contains key := by
  simp [List.contains_eq_mem]

omit [LawfulBEq α] in
@[simp] theorem keys_byKey (pairs : List (α × β)) :
    (byKey pairs).map Prod.fst = (pairs.map Prod.fst).eraseDups := by
  simp [byKey, Function.comp_def]

/-- The groups of some keys are the groups of the pairs with these keys. -/
theorem filter_byKey (p : α → Bool) (pairs : List (α × β)) :
    (byKey pairs).filter (fun g => p g.1) =
      ((pairs.map Prod.fst).filter p).eraseDups.map fun key => (key, values key pairs) := by
  rw [eraseDups_filter, byKey, List.filter_map]
  rfl

theorem mem_byKey {pairs : List (α × β)} {key : α} {vs : List β} :
    (key, vs) ∈ byKey pairs ↔ key ∈ pairs.map Prod.fst ∧ vs = values key pairs := by
  simp only [byKey, List.mem_map, List.mem_eraseDups, Prod.mk.injEq]
  constructor
  · rintro ⟨key, hkey, rfl, rfl⟩
    exact ⟨hkey, rfl⟩
  · rintro ⟨hkey, rfl⟩
    exact ⟨key, hkey, rfl, rfl⟩

theorem mem_values {pairs : List (α × β)} {key : α} {v : β} :
    v ∈ values key pairs ↔ (key, v) ∈ pairs := by
  simp [values]

theorem values_eq_nil_iff {pairs : List (α × β)} {key : α} :
    values key pairs = [] ↔ key ∉ pairs.map Prod.fst := by
  rw [List.eq_nil_iff_forall_not_mem]
  simp [mem_values]

theorem ne_nil_of_mem_byKey {pairs : List (α × β)} {g : α × List β} (h : g ∈ byKey pairs) :
    g.2 ≠ [] := by
  obtain ⟨hkey, hvalues⟩ := mem_byKey.mp h
  rw [hvalues]
  exact fun hnil => values_eq_nil_iff.mp hnil hkey

/-- A key that is not there has no values. -/
theorem getD_lookup_byKey (key : α) (pairs : List (α × β)) :
    ((byKey pairs).lookup key).getD [] = values key pairs := by
  by_cases hkey : key ∈ pairs.map Prod.fst
  · rw [byKey, List.lookup_graph _ (List.mem_eraseDups.mpr hkey), Option.getD_some]
  · have hnone : (byKey pairs).lookup key = none := by
      refine List.lookup_eq_none_iff.mpr fun p hp => bne_iff_ne.mpr ?_
      rintro rfl
      exact hkey (mem_byKey.mp hp).1
    rw [hnone, Option.getD_none, values_eq_nil_iff.mpr hkey]

/-- The first value of a key. -/
theorem head?_values (key : α) :
    ∀ pairs : List (α × β), (values key pairs).head? = pairs.lookup key
  | [] => rfl
  | (k, v) :: pairs => by
    rw [List.lookup_cons]
    by_cases hk : key = k
    · rw [hk, values_cons_self, beq_self_eq_true]
      rfl
    · rw [values_cons_of_ne (Ne.symm hk), beq_false_of_ne hk, head?_values key pairs]

/-- What is made of the values of each key is found under the keys that are there. -/
theorem lookup_map_byKey {γ : Type} (f : List β → γ) (key : α) (pairs : List (α × β)) :
    ((byKey pairs).map fun g => (g.1, f g.2)).lookup key =
      (pairs.lookup key).map fun _ => f (values key pairs) := by
  have hgraph : (byKey pairs).map (fun g => (g.1, f g.2)) =
      (pairs.map Prod.fst).eraseDups.map fun key => (key, f (values key pairs)) := by simp [byKey]
  rw [hgraph, ← head?_values key pairs]
  by_cases hkey : key ∈ pairs.map Prod.fst
  · obtain ⟨v, vs, hvalues⟩ :=
      List.exists_cons_of_ne_nil (mt values_eq_nil_iff.mp (not_not.mpr hkey))
    rw [List.lookup_graph (fun key => f (values key pairs)) (List.mem_eraseDups.mpr hkey), hvalues]
    rfl
  · rw [values_eq_nil_iff.mpr hkey, List.head?_nil, Option.map_none, List.lookup_eq_none_iff]
    intro p hp
    obtain ⟨k, hk, rfl⟩ := List.mem_map.mp hp
    refine bne_iff_ne.mpr ?_
    rintro rfl
    exact hkey (List.mem_eraseDups.mp hk)

/-! ## Merging -/

/-- The pairs, and behind them those of `others` whose keys they lack. -/
def union (pairs others : List (α × β)) : List (α × β) :=
  pairs ++ others.filter fun p => !(pairs.map Prod.fst).contains p.1

omit [LawfulBEq α] in
/-- A change of values that keeps the keys may be made before or after a union. -/
theorem map_union {γ : Type} {f : α × β → α × γ} (hf : ∀ p, (f p).1 = p.1)
    (pairs others : List (α × β)) :
    (union pairs others).map f = union (pairs.map f) (others.map f) := by
  have hkeys : (pairs.map f).map Prod.fst = pairs.map Prod.fst := by simp [hf]
  have hlack : (fun p : α × γ => !(pairs.map Prod.fst).contains p.1) ∘ f =
      fun p => !(pairs.map Prod.fst).contains p.1 := funext fun p => by rw [Function.comp_apply, hf]
  rw [union, union, List.map_append, List.filter_map, hkeys, hlack]

/-- The values of each key with those of `others` behind them, and the keys that only `others`
has behind the rest. -/
def merge (groups others : List (α × List β)) : List (α × List β) :=
  union (groups.map fun g => (g.1, g.2 ++ (others.lookup g.1).getD [])) others

/-- Grouping a concatenation merges the groups of its parts. -/
theorem byKey_append (pairs others : List (α × β)) :
    byKey (pairs ++ others) = merge (byKey pairs) (byKey others) := by
  have hold : (pairs.map Prod.fst).eraseDups.map (fun key => (key, values key (pairs ++ others))) =
      (byKey pairs).map fun g => (g.1, g.2 ++ ((byKey others).lookup g.1).getD []) := by
    simp only [getD_lookup_byKey, values_append]
    simp [byKey]
  have hnew : ((others.map Prod.fst).removeAll (pairs.map Prod.fst)).eraseDups.map
        (fun key => (key, values key (pairs ++ others))) =
      (byKey others).filter fun g => !(pairs.map Prod.fst).contains g.1 := by
    rw [filter_byKey fun key => !(pairs.map Prod.fst).contains key]
    refine List.map_congr_left fun key hkey => ?_
    have hlack : key ∉ pairs.map Prod.fst := by
      simpa using (List.mem_filter.mp (List.mem_eraseDups.mp hkey)).2
    rw [values_append, values_eq_nil_iff.mpr hlack, List.nil_append]
  have hkeys : ((byKey pairs).map fun g => (g.1, g.2 ++ ((byKey others).lookup g.1).getD [])).map
      Prod.fst = (pairs.map Prod.fst).eraseDups := by
    rw [List.map_map, ← keys_byKey]
    rfl
  rw [byKey, List.map_append, List.eraseDups_append, List.map_append, hold, hnew, merge, union,
    hkeys]
  simp only [contains_eraseDups]

/-! ## Taking groups apart -/

/-- The pairs of a key and one of its values, group by group. -/
def ungroup (groups : List (α × List β)) : List (α × β) :=
  groups.flatMap fun g => g.2.map (g.1, ·)

omit [BEq α] [LawfulBEq α] in
theorem mem_ungroup {groups : List (α × List β)} {p : α × β} :
    p ∈ ungroup groups ↔ ∃ vs, (p.1, vs) ∈ groups ∧ p.2 ∈ vs := by
  simp only [ungroup, List.mem_flatMap, List.mem_map]
  constructor
  · rintro ⟨g, hg, v, hv, rfl⟩
    exact ⟨g.2, hg, hv⟩
  · rintro ⟨vs, hg, hv⟩
    exact ⟨(p.1, vs), hg, p.2, hv, rfl⟩

/-- Grouping undoes taking groups apart, if no key has two groups and no group is empty. -/
theorem byKey_ungroup :
    ∀ {groups : List (α × List β)}, (groups.map Prod.fst).Nodup → (∀ g ∈ groups, g.2 ≠ []) →
      byKey (ungroup groups) = groups
  | [], _, _ => rfl
  | (k, vs) :: groups, hkeys, hvalues => by
    obtain ⟨hk, hrest⟩ := List.nodup_cons.mp hkeys
    obtain ⟨v, vs, rfl⟩ := List.exists_cons_of_ne_nil (hvalues (k, vs) (by simp))
    have hne : ∀ p ∈ ungroup groups, p.1 ≠ k := by
      rintro p hp rfl
      obtain ⟨ws, hg, -⟩ := mem_ungroup.mp hp
      exact hk (List.mem_map.mpr ⟨_, hg, rfl⟩)
    have hown : values k (vs.map (k, ·)) = vs := by
      simp [values, List.filter_map, Function.comp_def]
    have hnone : values k (ungroup groups) = [] := by
      refine values_eq_nil_iff.mpr fun hmem => ?_
      obtain ⟨p, hp, rfl⟩ := List.mem_map.mp hmem
      exact hne p hp rfl
    have herase : erase k (vs.map (k, ·) ++ ungroup groups) = ungroup groups := by
      have hself : erase k (vs.map (k, ·)) = [] := by simp [erase]
      have hother : erase k (ungroup groups) = ungroup groups :=
        List.filter_eq_self.mpr fun p hp => by simpa using hne p hp
      rw [erase, List.filter_append, ← erase, ← erase, hself, hother, List.nil_append]
    have hcons : ungroup ((k, v :: vs) :: groups) =
        (k, v) :: (vs.map (k, ·) ++ ungroup groups) := by simp [ungroup]
    rw [hcons, byKey_cons, herase, values_append, hown, hnone, List.append_nil,
      byKey_ungroup hrest fun g hg => hvalues g (by simp [hg])]

/-! ## Keys that occur once -/

theorem set_of_notMem {key : α} (v : β) :
    ∀ {pairs : List (α × β)}, key ∉ pairs.map Prod.fst → set key v pairs = pairs ++ [(key, v)]
  | [], _ => rfl
  | (k, w) :: pairs, h => by
    obtain ⟨hk, hrest⟩ := not_or.mp (mt List.mem_cons.mpr h)
    have hne : ¬k = key := fun e => hk e.symm
    simp [set, hne, set_of_notMem v hrest]

/-- Pairs of different keys are kept as they are. -/
theorem ofList_of_nodup {pairs : List (α × β)} (h : (pairs.map Prod.fst).Nodup) :
    ofList pairs = pairs := by
  suffices ∀ acc : List (α × β), ((acc ++ pairs).map Prod.fst).Nodup →
      pairs.foldl (fun acc p => set p.1 p.2 acc) acc = acc ++ pairs from this [] h
  induction pairs with
  | nil => simp
  | cons p pairs ih =>
    intro acc hacc
    have hp : p.1 ∉ acc.map Prod.fst := by
      rw [List.map_append, List.map_cons] at hacc
      exact fun hmem => (List.nodup_append.mp hacc).2.2 _ hmem _ (by simp) rfl
    rw [List.foldl_cons, set_of_notMem p.2 hp,
      ih (List.nodup_cons.mp h).2 _ (by simpa using hacc), List.append_assoc]
    rfl

/-! ## New values -/

theorem lookup_set_self (key : α) (v : β) :
    ∀ pairs : List (α × β), (set key v pairs).lookup key = some v
  | [] => by simp [set]
  | (k, w) :: pairs => by
    by_cases hk : k = key
    · simp [set, hk]
    · have hne : (key == k) = false := beq_eq_false_iff_ne.mpr fun e => hk e.symm
      simp [set, hk, List.lookup_cons, hne, lookup_set_self key v pairs]

theorem lookup_set_of_ne {key k : α} (h : k ≠ key) (v : β) :
    ∀ pairs : List (α × β), (set key v pairs).lookup k = pairs.lookup k
  | [] => by simp [set, List.lookup_cons, beq_eq_false_iff_ne.mpr h]
  | (k', w) :: pairs => by
    by_cases hk : k' = key
    · simp [set, hk, List.lookup_cons, beq_eq_false_iff_ne.mpr h]
    · simp [set, hk, List.lookup_cons, lookup_set_of_ne h v pairs]

end Stencil.Pairs
