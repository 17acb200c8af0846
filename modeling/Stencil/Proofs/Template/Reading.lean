import Stencil.Proofs.Outcome
import Stencil.Proofs.Template.Scanning
import Stencil.Template.Reader

/-!
# How expressions are read

An expression goes through a level of readers for each binding strength. Where none of their
operators follows, each of them gives what the one below gives, down to the operand
(`run_expression`). What ends an expression here is the end of a tag that prints or a closing round
bracket (`closes`). Below that, a name is read with the attributes, the call and the filter behind
it (`run_operand`), and above it a template is read as texts and printed expressions (`ReadsAs`,
`parse_eq_ok`).

All lemmas say what a reader gives, with the tokens at hand and those that stay; `d` is the number
of frames that are left, and brackets take some of them (`run_deeper`). Lemmas about loops take the
rounds one by one (`run_loop_of_more`, `run_loop_of_stop`), whatever the number of rounds that the
loop is allowed.
-/

namespace Stencil.Template

namespace Reader

variable {α β σ : Type} {d : Nat}

/-! ## Single tokens -/

/-- A reader goes on with what the one before it gives, where that one stops. -/
theorem run_bind {r : Reader α} {f : α → Reader β} {a : α} {ts rest : List Located}
    {out : β × List Located} (h : r d ts = .ok (a, rest)) (hf : f a d rest = .ok out) :
    (r >>= f) d ts = .ok out :=
  bind_eq_ok_iff.mpr ⟨(a, rest), h, hf⟩

@[simp] theorem run_pure (a : α) (ts : List Located) :
    (pure a : Reader α) d ts = .ok (a, ts) := rfl

@[simp] theorem run_bind_eq (r : Reader α) (f : α → Reader β) (ts : List Located) :
    (r >>= f) d ts =
      match r d ts with
      | .ok (a, rest) => f a d rest
      | .error stop => .error stop := by
  have hbind : (r >>= f) d ts = r d ts >>= fun out => f out.1 d out.2 := rfl
  rw [hbind]
  cases r d ts <;> rfl

@[simp] theorem run_map_eq (f : α → β) (r : Reader α) (ts : List Located) :
    (f <$> r) d ts =
      match r d ts with
      | .ok (a, rest) => .ok (f a, rest)
      | .error stop => .error stop := by
  have hmap : (f <$> r) d ts = r d ts >>= fun out => .ok (f out.1, out.2) := rfl
  rw [hmap]
  cases r d ts <;> rfl

/-- What is read inside of more frames is read, where there are enough of them. -/
theorem run_deeper {n : Nat} {r : Reader α} {ts : List Located} {out : α × List Located}
    (hn : n ≤ d) (h : r (d - n) ts = .ok out) : deeper n r d ts = .ok out := by
  rw [deeper, if_neg (Nat.not_lt.mpr hn)]
  exact h

@[simp] theorem run_peek (l : Located) (ts : List Located) :
    peek d (l :: ts) = .ok (some l.token, l :: ts) := rfl

@[simp] theorem run_peekSecond (l : Located) (ts : List Located) :
    peekSecond d (l :: ts) = .ok (ts.head?.map (·.token), l :: ts) := rfl

@[simp] theorem run_line (l : Located) (ts : List Located) :
    line d (l :: ts) = .ok (l.line, l :: ts) := rfl

@[simp] theorem run_next (l : Located) (ts : List Located) :
    next d (l :: ts) = .ok (l.token, ts) := rfl

@[simp] theorem run_discard_next (l : Located) (ts : List Located) :
    (discard next : Reader Unit) d (l :: ts) = .ok ((), ts) := rfl

@[simp] theorem run_accept (t : Token) (l : Located) (ts : List Located) :
    accept t d (l :: ts) =
      if l.token = t then .ok (true, ts) else .ok (false, l :: ts) := by
  have haccept : accept t d (l :: ts) =
      (if l.token = t then do set ts; return true else return false : Reader Bool) d (l :: ts) := rfl
  rw [haccept]
  split <;> rfl

@[simp] theorem run_expect (line : Nat) (t : Token) (ts : List Located) :
    expect t d (⟨t, line⟩ :: ts) = .ok ((), ts) := by
  simp [expect]

/-! ## Loops -/

section Loop

variable {step : σ → Reader (σ × Bool)} {s t : σ} {ts rest : List Located}
  {out : σ × List Located}

theorem run_go_succ (step : σ → Reader (σ × Bool)) (n : Nat) (s : σ) (ts : List Located) :
    loop.go step (n + 1) s d ts = step s d ts >>= fun r =>
      if r.1.2 then loop.go step n r.1.1 d r.2 else .ok (r.1.1, r.2) := by
  rw [loop.go]
  have hround : (step s >>= fun r => if r.2 then loop.go step n r.1 else pure r.1) d ts =
      step s d ts >>= fun r =>
        (if r.1.2 then loop.go step n r.1.1 else pure r.1.1 : Reader σ) d r.2 := rfl
  refine hround.trans (bind_congr fun r => ?_)
  split <;> rfl

/-- A loop ends with a round that stops it. -/
theorem run_loop_of_stop (h : step s d ts = .ok ((t, false), rest)) :
    loop step s d ts = .ok (t, rest) := by
  have hloop : loop step s d ts = loop.go step (ts.length + 1) s d ts := rfl
  rw [hloop, run_go_succ, h]
  rfl

/-- What a loop gives stays when more rounds are allowed. -/
theorem run_go_of_le {n m : Nat} (hnm : n ≤ m) (h : loop.go step n s d ts = .ok out) :
    loop.go step m s d ts = .ok out := by
  induction n generalizing m s ts with
  | zero => cases h
  | succ n ih =>
    obtain _ | m := m
    · exact absurd hnm (Nat.not_succ_le_zero n)
    rw [run_go_succ] at h ⊢
    obtain ⟨⟨⟨s₁, more⟩, rest⟩, hstep, h⟩ := bind_eq_ok_iff.mp h
    rw [hstep]
    cases more with
    | false => exact h
    | true => exact ih (Nat.le_of_succ_le_succ hnm) h

/-- A loop goes on behind a round that does not stop it, when that round takes a token. -/
theorem run_loop_of_more (h : step s d ts = .ok ((t, true), rest))
    (hlen : rest.length < ts.length) (hrest : loop step t d rest = .ok out) :
    loop step s d ts = .ok out := by
  have hloop : loop step s d ts = loop.go step (ts.length + 1) s d ts := rfl
  rw [hloop, run_go_succ, h]
  exact run_go_of_le hlen hrest

end Loop

variable {unary : Reader Expr} {e : Expr} {ts rest : List Located} {l : Located}

/-! ## Levels -/

/-- The tokens that end an expression in a tag that prints or in round brackets. -/
def closes : Token → Bool
  | .printEnd | .op .rparen => true
  | _ => false

theorem eq_of_closes {t : Token} (h : closes t) : t = .printEnd ∨ t = .op .rparen := by
  unfold closes at h
  split at h
  · exact .inl rfl
  · exact .inr rfl
  · cases h

theorem ne_of_closes {t u : Token} (h : closes t) (hu : closes u = false) : t ≠ u := by
  rintro rfl
  rw [h] at hu
  cases hu

theorem run_chain {operator : Token → Option (Expr → Expr → Expr)} (hstop : operator l.token = none)
    (h : unary d ts = .ok (e, l :: rest)) :
    chain unary operator d ts = .ok (e, l :: rest) := by
  refine run_bind h (run_loop_of_stop ?_)
  simp [hstop]

theorem run_powers (hl : closes l.token) (h : unary d ts = .ok (e, l :: rest)) :
    powers unary d ts = .ok (e, l :: rest) := by
  refine run_chain ?_ h
  rcases eq_of_closes hl with hl | hl <;> rw [hl] <;> rfl

theorem run_products (hl : closes l.token) (h : unary d ts = .ok (e, l :: rest)) :
    products unary d ts = .ok (e, l :: rest) := by
  refine run_chain ?_ (run_powers hl h)
  rcases eq_of_closes hl with hl | hl <;> rw [hl]

theorem run_concats (hl : closes l.token) (h : unary d ts = .ok (e, l :: rest)) :
    concats unary d ts = .ok (e, l :: rest) := by
  refine run_bind (run_products hl h) (run_bind (run_loop_of_stop (t := [e]) ?_) rfl)
  simp [ne_of_closes hl (u := .op .tilde) rfl]

theorem run_sums (hl : closes l.token) (h : unary d ts = .ok (e, l :: rest)) :
    sums unary d ts = .ok (e, l :: rest) := by
  refine run_chain ?_ (run_concats hl h)
  rcases eq_of_closes hl with hl | hl <;> rw [hl]

theorem run_comparisons (hl : closes l.token) (h : unary d ts = .ok (e, l :: rest)) :
    comparisons unary d ts = .ok (e, l :: rest) := by
  refine run_bind (run_sums hl h) (run_bind (run_loop_of_stop (t := []) ?_) rfl)
  have hnone : comparison? l.token = none := by
    rcases eq_of_closes hl with hl | hl <;> rw [hl] <;> rfl
  have hword : ∀ w, l.token ≠ word w := fun w => ne_of_closes hl rfl
  simp [hnone, hword]

variable {l₀ : Located}

-- From here on down to the operand a word in front counts, so its first token is fixed.
theorem run_negations (hl : closes l.token) (hnot : l₀.token ≠ word "not")
    (h : unary d (l₀ :: ts) = .ok (e, l :: rest)) :
    negations unary d (l₀ :: ts) = .ok (e, l :: rest) := by
  refine run_bind (run_loop_of_stop (t := 0) ?_) (run_bind (run_comparisons hl h) rfl)
  simp [hnot]

theorem run_conjunctions (hl : closes l.token) (hnot : l₀.token ≠ word "not")
    (h : unary d (l₀ :: ts) = .ok (e, l :: rest)) :
    conjunctions unary d (l₀ :: ts) = .ok (e, l :: rest) := by
  refine run_chain ?_ (run_negations hl hnot h)
  exact if_neg (ne_of_closes hl rfl)

theorem run_disjunctions (hl : closes l.token) (hnot : l₀.token ≠ word "not")
    (h : unary d (l₀ :: ts) = .ok (e, l :: rest)) :
    disjunctions unary d (l₀ :: ts) = .ok (e, l :: rest) := by
  refine run_chain ?_ (run_conjunctions hl hnot h)
  exact if_neg (ne_of_closes hl rfl)

/-- An operand that ends an expression is that expression. -/
theorem run_expression (hl : closes l.token) (hnot : l₀.token ≠ word "not")
    (h : unary d (l₀ :: ts) = .ok (e, l :: rest)) :
    expression unary d (l₀ :: ts) = .ok (e, l :: rest) := by
  refine run_bind (a := l₀ :: ts) rfl ?_
  refine run_bind (run_line l₀ ts) (run_bind (run_disjunctions hl hnot h) ?_)
  refine run_bind (run_loop_of_stop (t := (e, l₀.line)) ?_) rfl
  simp [ne_of_closes hl (u := word "if") rfl]

variable {n : Text}

/-- One expression up to the end of a tag that prints. -/
theorem run_expressions {line₀ line : Nat} (hn : n ≠ "not".toList)
    (h : operand d (⟨.name n, line₀⟩ :: ts) = .ok (e, ⟨.printEnd, line⟩ :: rest)) :
    expressions [] d (⟨.name n, line₀⟩ :: ts) = .ok (e, ⟨.printEnd, line⟩ :: rest) := by
  have hnot : Token.name n ≠ word "not" := fun heq => hn (Token.name.inj heq)
  have hexpr := run_expression (l := ⟨.printEnd, line⟩) rfl hnot h
  refine run_bind (run_loop_of_stop (t := ([e], false)) ?_) rfl
  simp [atTupleEnd, hexpr]

/-! ## Operands -/

/-- A name that stands for no value by itself. -/
theorem run_primary (hn : isConstant n = false) (line : Nat) (ts : List Located) :
    primary unary d (⟨.name n, line⟩ :: ts) = .ok (.name n, ts) := by
  simp only [isConstant, List.contains_cons, Bool.or_eq_false_iff, beq_eq_false_iff_ne] at hn
  obtain ⟨ht, hf, hnone, hT, hF, hN, -⟩ := hn
  refine run_bind (run_next _ _) ?_
  simp only [ht, hf, hnone, hT, hF, hN, or_self, if_false]
  rfl

/-- The arguments of a call with one name in its brackets. -/
theorem run_arguments {line₁ line₂ line₃ : Nat} (hd : 1 ≤ d) (hn : n ≠ "not".toList)
    (h : unary (d - 1) (⟨.name n, line₂⟩ :: ⟨.op .rparen, line₃⟩ :: ts) =
      .ok (e, ⟨.op .rparen, line₃⟩ :: ts)) :
    arguments unary d (⟨.op .lparen, line₁⟩ :: ⟨.name n, line₂⟩ :: ⟨.op .rparen, line₃⟩ :: ts) =
      .ok (⟨[e], [], none, none⟩, ts) := by
  have hnot : Token.name n ≠ word "not" := fun heq => hn (Token.name.inj heq)
  have hexpr := run_expression (l := ⟨.op .rparen, line₃⟩) rfl hnot h
  have hlen : (⟨.op .rparen, line₃⟩ :: ts : List Located).length <
      (⟨.name n, line₂⟩ :: ⟨.op .rparen, line₃⟩ :: ts : List Located).length := Nat.lt_succ_self _
  refine run_deeper hd (run_bind (run_expect line₁ _ _) ?_)
  refine run_bind (a := (⟨[e], [], none, none⟩, false))
    (run_loop_of_more (t := (⟨[e], [], none, none⟩, false)) ?_ hlen (run_loop_of_stop ?_)) rfl
  · simp [argument, hexpr]
  · simp

variable {out : Expr × List Located}

theorem run_trailers_stop (hl : closes l.token ∨ l.token = .op .pipe) :
    trailers unary e d (l :: ts) = .ok (e, l :: ts) := by
  have hl : l.token = .printEnd ∨ l.token = .op .rparen ∨ l.token = .op .pipe := by
    rw [← or_assoc]
    exact hl.imp_left eq_of_closes
  unfold trailers
  refine run_loop_of_stop (run_bind (run_peek l ts) ?_)
  rcases hl with hl | hl | hl <;> rw [hl] <;> rfl

theorem run_trailers_attr {line line' : Nat}
    (h : trailers unary (.attr e n) d ts = .ok out) :
    trailers unary e d (⟨.op .dot, line⟩ :: ⟨.name n, line'⟩ :: ts) = .ok out := by
  unfold trailers at h ⊢
  refine run_loop_of_more ?_ (Nat.lt_add_of_pos_right (k := 2) (by decide)) h
  rfl

theorem run_trailers_call {a : Arguments} {line : Nat}
    (ha : arguments unary d (⟨.op .lparen, line⟩ :: ts) = .ok (a, rest))
    (hlen : rest.length ≤ ts.length)
    (h : trailers unary (.call e a.args a.named a.more a.others) d rest = .ok out) :
    trailers unary e d (⟨.op .lparen, line⟩ :: ts) = .ok out := by
  unfold trailers at h ⊢
  refine run_loop_of_more ?_ (Nat.lt_succ_of_le hlen) h
  exact run_bind (run_peek _ _) (run_bind ha rfl)

theorem run_dottedName {line : Nat} (hdot : l.token ≠ .op .dot) :
    dottedName d (⟨.name n, line⟩ :: l :: ts) = .ok (n, l :: ts) := by
  refine run_bind (a := n) rfl (run_loop_of_stop ?_)
  simp [hdot]

theorem run_filters_stop (hl : closes l.token) :
    filters unary e d (l :: ts) = .ok (e, l :: ts) := by
  unfold filters
  refine run_loop_of_stop (run_bind (run_peek l ts) ?_)
  rcases eq_of_closes hl with hl | hl <;> rw [hl] <;> rfl

/-- A filter without arguments. -/
theorem run_filters_pipe {line line' : Nat} (hl : closes l.token)
    (h : filters unary (.filter e n [] [] none none) d (l :: ts) = .ok out) :
    filters unary e d (⟨.op .pipe, line⟩ :: ⟨.name n, line'⟩ :: l :: ts) = .ok out := by
  have hfilter : filter unary e d (⟨.name n, line'⟩ :: l :: ts) =
      .ok (.filter e n [] [] none none, l :: ts) := by
    refine run_bind (run_dottedName (ne_of_closes hl rfl)) (run_bind (run_peek l ts) ?_)
    rw [if_neg (fun heq => ne_of_closes hl rfl (Option.some.inj heq))]
    rfl
  unfold filters at h ⊢
  refine run_loop_of_more ?_ (Nat.lt_add_of_pos_right (k := 2) (by decide)) h
  exact run_bind (run_peek _ _) (run_bind (run_discard_next _ _) (run_bind hfilter rfl))

/-- A name with everything behind it. -/
theorem run_unary {line fuel : Nat} (hd : 13 ≤ d) (hn : isConstant n = false)
    (ht : trailers (Reader.unary fuel) (.name n) (d - 13) ts = .ok (e, rest))
    (hf : filters (Reader.unary fuel) e (d - 13) rest = .ok out) :
    Reader.unary (fuel + 1) d (⟨.name n, line⟩ :: ts) = .ok out := by
  have hoperand : deeper ([] : List (Expr → Expr)).length
      (do trailers (Reader.unary fuel) (← primary (Reader.unary fuel))) (d - 13)
      (⟨.name n, line⟩ :: ts) = .ok (e, rest) :=
    run_deeper (Nat.zero_le _) (run_bind (run_primary hn line ts) ht)
  rw [Reader.unary]
  refine run_deeper hd (run_bind (run_loop_of_stop (t := []) ?_) (run_bind hoperand hf))
  simp

theorem run_operand {line : Nat} (hd : 13 ≤ d) (hn : isConstant n = false)
    (ht : ∀ fuel, trailers (Reader.unary (fuel + 1)) (.name n) (d - 13) ts = .ok (e, rest))
    (hf : ∀ fuel, filters (Reader.unary (fuel + 1)) e (d - 13) rest = .ok out) :
    operand d (⟨.name n, line⟩ :: ts) = .ok out :=
  run_bind rfl (run_unary hd hn (ht ts.length) (hf ts.length))

/-! ## Templates -/

/-- A text as a statement before others. -/
def beforeNodes (s : Text) (nodes : List Node) : List Node :=
  if s.isEmpty then nodes else .data s :: nodes

/-- What a text adds nothing to stays when one is put before. -/
theorem apply_beforeNodes {f : List Node → α} (hf : ∀ s nodes, f (.data s :: nodes) = f nodes)
    (s : Text) (nodes : List Node) : f (beforeNodes s nodes) = f nodes := by
  unfold beforeNodes
  split
  · rfl
  · exact hf s nodes

/-- What stands between the ends of a tag that prints is read as an expression, outside of other
statements. -/
def PrintsAs (tokens : List Token) (e : Expr) : Prop :=
  ∀ (ts : List Located) (after : List Token), Token.unlocated ts = tokens ++ .printEnd :: after →
    ∃ line rest, expressions [] frames ts = .ok (e, ⟨.printEnd, line⟩ :: rest) ∧
      Token.unlocated rest = after

/-- The tokens of a template are read as statements. -/
def ReadsAs (tokens : List Token) (nodes : List Node) : Prop :=
  ∀ (ts : List Located) (fuel : Nat), Token.unlocated ts = tokens → ts.length < fuel →
    statements fuel [] frames ts = .ok (nodes, [])

variable {tokens : List Token} {nodes : List Node}

theorem readsAs_nil : ReadsAs [] [] := by
  rintro ts (_ | fuel) h hfuel
  · exact absurd hfuel (Nat.not_lt_zero _)
  · obtain rfl := List.map_eq_nil_iff.mp h
    rfl

theorem ReadsAs.text (h : ReadsAs tokens nodes) (s : Text) :
    ReadsAs (.data s :: tokens) (.data s :: nodes) := by
  rintro ts (_ | fuel) hts hfuel
  · exact absurd hfuel (Nat.not_lt_zero _)
  · obtain ⟨line, us, rfl, hus⟩ := Token.unlocated_eq_cons_iff.mp hts
    have hrest := h us fuel hus (Nat.lt_of_succ_lt_succ hfuel)
    rw [statements]
    exact run_bind (run_peek _ us) (run_bind (run_discard_next _ us) (run_bind hrest rfl))

theorem ReadsAs.data (h : ReadsAs tokens nodes) (s : Text) :
    ReadsAs (Token.dataOf s ++ tokens) (beforeNodes s nodes) := by
  unfold Token.dataOf beforeNodes
  split
  · exact h
  · exact h.text s

theorem ReadsAs.print {inner : List Token} (he : PrintsAs inner e) (h : ReadsAs tokens nodes) :
    ReadsAs (.printBegin :: (inner ++ .printEnd :: tokens)) (.print e :: nodes) := by
  rintro ts (_ | fuel) hts hfuel
  · exact absurd hfuel (Nat.not_lt_zero _)
  · obtain ⟨_, us, rfl, hus⟩ := Token.unlocated_eq_cons_iff.mp hts
    obtain ⟨line, rest, hrun, hrest⟩ := he us _ hus
    have hlen := congrArg List.length hus
    rw [List.length_append, List.length_cons, ← hrest] at hlen
    simp only [Token.unlocated, List.length_map, List.length_cons] at hlen hfuel
    have hnodes := h rest fuel hrest (show rest.length < fuel by omega)
    rw [statements]
    refine run_bind (run_peek _ us) (run_bind (run_discard_next _ us) (run_bind hrun ?_))
    exact run_bind (run_expect line _ rest) (run_bind hnodes rfl)

/-! ## Statements in tags -/

/-- A tag of a statement. -/
def tag (inner : List Token) : List Token := .blockBegin :: (inner ++ [.blockEnd])

/-- A tag that prints. -/
def put (inner : List Token) : List Token := .printBegin :: (inner ++ [.printEnd])

/-- Names with points between them. -/
def dotted : List String → List Token
  | [] => []
  | [n] => [word n]
  | n :: m :: rest => word n :: .op .dot :: dotted (m :: rest)

theorem ReadsAs.put {inner : List Token} (he : PrintsAs inner e) (h : ReadsAs tokens nodes) :
    ReadsAs (Reader.put inner ++ tokens) (.print e :: nodes) := by
  rw [Reader.put, List.cons_append, List.append_assoc]
  exact h.print he

/-- Tokens on lines. -/
def locate (line : Nat → Nat) : List Token → List Located
  | [] => []
  | t :: ts => ⟨t, line 0⟩ :: locate (fun n => line (n + 1)) ts

@[simp] theorem length_locate (line : Nat → Nat) (tokens : List Token) :
    (locate line tokens).length = tokens.length := by
  induction tokens generalizing line with
  | nil => rfl
  | cons t tokens ih => rw [locate, List.length_cons, ih, List.length_cons]

theorem exists_locate {ts : List Located} {tokens after : List Token}
    (h : Token.unlocated ts = tokens ++ after) :
    ∃ line rest, ts = locate line tokens ++ rest ∧ Token.unlocated rest = after := by
  induction tokens generalizing ts with
  | nil => exact ⟨id, ts, rfl, h⟩
  | cons t tokens ih =>
    obtain ⟨l, us, rfl, hus⟩ := Token.unlocated_eq_cons_iff.mp h
    obtain ⟨line, rest, rfl, hrest⟩ := ih hus
    exact ⟨fun n => n.casesOn l line, rest, rfl, hrest⟩

/-- What stands in a tag, and up to the last tag of its statement, is read as that statement,
whatever its lines are and whatever follows. -/
def StatesAs (tokens : List Token) (node : Node) : Prop :=
  ∀ (line : Nat → Nat) (ts : List Located) (fuel : Nat),
    statement (fuel + tokens.length) frames (locate line tokens ++ ts) = .ok ([node], ts)

theorem ReadsAs.tag {inner : List Token} {node : Node} (hnode : StatesAs inner node)
    (h : ReadsAs tokens nodes) : ReadsAs (Reader.tag inner ++ tokens) (node :: nodes) := by
  rw [Reader.tag, List.cons_append, List.append_assoc, List.singleton_append]
  rintro ts (_ | fuel) hts hfuel
  · exact absurd hfuel (Nat.not_lt_zero _)
  · obtain ⟨l, us, rfl, hus⟩ := Token.unlocated_eq_cons_iff.mp hts
    obtain ⟨line, rest, rfl, hrest⟩ := exists_locate hus
    obtain ⟨l', rest, rfl, htokens⟩ := Token.unlocated_eq_cons_iff.mp hrest
    simp only [List.length_cons, List.length_append, length_locate] at hfuel
    obtain ⟨k, rfl⟩ : ∃ k, fuel = k + inner.length := ⟨fuel - inner.length, by omega⟩
    have hnodes := h rest (k + inner.length) htokens (by omega)
    have hstatement := hnode line (⟨.blockEnd, l'⟩ :: rest) k
    -- the end of the tag is there when nothing else is in it
    obtain ⟨t, ts, hts⟩ : ∃ t ts, locate line inner ++ ⟨.blockEnd, l'⟩ :: rest = t :: ts :=
      List.exists_cons_of_ne_nil (by simp)
    rw [hts] at hstatement ⊢
    rw [statements]
    refine run_bind (run_peek _ _) (run_bind (run_discard_next _ _) (run_bind (run_peek _ _) ?_))
    simp only [List.not_mem_nil, if_false]
    exact run_bind hstatement (run_bind (run_expect _ _ _) (run_bind hnodes rfl))

end Reader

variable {template : Text} {tokens : List Token} {nodes : List Node}

/-- The statements of a template, from what the scanner gives. -/
theorem parse_eq_ok_of_scan (hscan : (Token.scan template).map Token.unlocated = some tokens)
    (hread : Reader.ReadsAs tokens nodes) : parse template = .ok nodes := by
  obtain ⟨ts, hts, htokens⟩ := Option.map_eq_some_iff.mp hscan
  have hrun := hread ts _ htokens (show ts.length < 3 * ts.length + 3 by omega)
  rw [parse, hts]
  exact bind_eq_ok_iff.mpr ⟨_, hrun, rfl⟩

/-- The statements of a template, from its tokens. -/
theorem parse_eq_ok (hscan : Token.Scans (Text.unifyLineEnds template) tokens)
    (hread : Reader.ReadsAs tokens nodes) : parse template = .ok nodes := by
  obtain ⟨ts, hts, htokens⟩ := Token.scan_of_scans hscan
  exact parse_eq_ok_of_scan (Option.map_eq_some_iff.mpr ⟨ts, hts, htokens⟩) hread

end Stencil.Template
