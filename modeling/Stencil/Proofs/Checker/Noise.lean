import Stencil.Checker.Resolve
import Stencil.Proofs.Declaration.Decoding
import Stencil.Proofs.Text.Utf8

/-!
# Messages in front of a document

The program that checks types is started by a toolchain that may print messages of its own first, in
any encoding. `document_behind_noise` : bytes without a brace do not change what document is found
behind them, also when they end in the middle of a character. How resolving a declaration ends
depends on the source directory, the call (`Call.Possible`) and the next answer alone
(`resolve_fst`), so the messages do not change what is resolved (`resolve_behind_noise`).
-/

namespace Stencil

namespace Bytes

theorem brace_notMem_decodeLossy {noise : Bytes} (h : 0x7b ∉ noise) :
    '\x7b' ∉ noise.decodeLossy := by
  intro hmem
  obtain ⟨b, hb, hbrace⟩ := List.mem_map.mp (mem_of_mem_decodeLossy (by decide) (by decide) hmem)
  obtain rfl : b = 0x7b := UInt8.toNat_inj.mp hbrace
  exact h hb

/-- Bytes without a brace do not change what document is found behind them. -/
theorem document_behind_noise {noise : Bytes} (hnoise : 0x7b ∉ noise) (doc : Bytes)
    (d : Document) :
    Declaration.document (decodeLossy (noise ++ 0x7b :: doc)) = .ok d ↔
      Declaration.document (decodeLossy (0x7b :: doc)) = .ok d := by
  have hbrace : (0x7b : UInt8).toNat < 0x80 := by decide
  have hnone : '\x7b' ∉ decodeLossy [] := by simp [decodeLossy, scalars]
  have hdoc := decodeLossy_append hbrace doc []
  rw [List.nil_append] at hdoc
  rw [decodeLossy_append hbrace, hdoc]
  exact (Declaration.document_append_eq_ok_iff (brace_notMem_decodeLossy hnoise) _).trans
    (Declaration.document_append_eq_ok_iff hnone _).symm

end Bytes

namespace Call

/-- What it takes to call a program, which may be there or missing : no word has a null character,
the name of the program is not too long for a file, and no word is too long for a program that is
there. -/
structure Possible (c : Call) (there : Bool) : Prop where
  null : ∀ word ∈ c.command, '\x00' ∉ word
  named : c.isMisnamed = false
  words : there → ∀ word ∈ c.command, word.bytes.length ≤ wordLimit

/-- A call that is possible has the answer of the program, and any other one ends in a crash. -/
theorem answered_cases (c : Call) (answer : Option Answer) :
    c.answered answer = .ok answer ∧ c.Possible answer.isSome ∨
      (∃ crash, c.answered answer = .error crash) ∧ ¬c.Possible answer.isSome := by
  unfold answered
  split_ifs with hnull hsystem
  · obtain ⟨word, hword, hmem⟩ := List.any_eq_true.mp hnull
    exact .inr ⟨⟨_, rfl⟩, fun h => h.null word hword (List.contains_iff_mem.mp hmem)⟩
  · refine .inr ⟨⟨_, rfl⟩, fun h => ?_⟩
    simp only [h.named, Bool.false_or, Bool.and_eq_true, List.any_eq_true, decide_eq_true_eq]
      at hsystem
    obtain ⟨hthere, word, hword, hlong⟩ := hsystem
    exact absurd (h.words hthere word hword) (Nat.not_le.mpr hlong)
  · simp only [List.any_eq_true, List.contains_iff_mem, not_exists, not_and] at hnull
    simp only [Bool.or_eq_true, Bool.and_eq_true, List.any_eq_true, decide_eq_true_eq, not_or,
      not_and, not_exists, Nat.not_lt, Bool.not_eq_true] at hsystem
    exact .inl ⟨rfl, hnull, hsystem.1, hsystem.2⟩

end Call

/-- The host whose next call of a program has an answer. -/
def Host.answering (h : Host) (a : Answer) : Host := { h with answers := some a :: h.answers }

namespace Checker

variable (settings : Settings) (given name : Text)

/-- How resolving a declaration ends is decided by the source directory and the next answer. -/
theorem resolve_fst (h : Host) :
    (resolve settings given name h).1 =
      (SourceDirectory.find h given >>= fun source =>
        ((callFor settings.go source.package.text name).answered
          h.answers.head?.join).mapError .crash >>= fun
        | none => .error (Failure.resolution (.noToolchain settings.go))
        | some a => declaration name source.package.text a) := by
  rw [resolve, bind_apply]
  cases hfind : SourceDirectory.find h given with
  | error e =>
    simp only [Run.look, hfind]
    rfl
  | ok source =>
    simp only [Run.look, hfind, bind_apply, Run.note, Run.change, Run.call, Host.note, Host.call]
    dsimp only [bind, Except.bind]
    rcases (callFor settings.go source.package.text name).answered h.answers.head?.join
      with c | (_ | a) <;> rfl

/-- What a program that ends well has printed : a document, which says that the type was found. -/
theorem declaration_of_success {directory : Text} {a : Answer} (hcode : a.code = 0) :
    declaration name directory a =
      (Declaration.document a.output.decodeLossy).mapError Failure.ofDecode >>= fun d =>
        if (Declaration.memberOf "found" d).isEmpty then
          .error (Failure.resolution (.notDeclared name directory))
        else (Declaration.decode name d).mapError Failure.ofDecode := by
  simp only [declaration, hcode, ne_eq, not_true_eq_false, if_false]
  cases Declaration.document a.output.decodeLossy with
  | error f => rfl
  | ok d =>
    refine ite_congr rfl (fun _ => rfl) fun _ => ?_
    cases Declaration.decode name d <;> rfl

theorem declaration_of_success_eq_ok_iff {directory : Text} {a : Answer} (hcode : a.code = 0)
    {decl : Declaration} :
    declaration name directory a = .ok decl ↔
      ∃ d, Declaration.document a.output.decodeLossy = .ok d ∧ d.Sets "found" ∧
        Declaration.decode name d = .ok decl := by
  rw [declaration_of_success name hcode, bind_eq_ok_iff]
  refine exists_congr fun d => and_congr mapError_eq_ok_iff ?_
  unfold Document.Sets
  cases (Declaration.memberOf "found" d).isEmpty with
  | true => simp only [if_true, reduceCtorEq, Bool.true_eq_false, false_and]
  | false => simp only [if_false, Bool.false_eq_true, mapError_eq_ok_iff, true_and]

theorem resolve_answering_eq_ok_iff {h : Host} {a : Answer} {decl : Declaration} :
    (resolve settings given name (h.answering a)).1 = .ok decl ↔
      ∃ source, SourceDirectory.find h given = .ok source ∧
        (callFor settings.go source.package.text name).Possible true ∧
          declaration name source.package.text a = .ok decl := by
  rw [resolve_fst, bind_eq_ok_iff]
  refine exists_congr fun source => and_congr_right fun _ => ?_
  obtain ⟨hok, hpossible⟩ | ⟨⟨crash, hcrash⟩, hnot⟩ :=
    (callFor settings.go source.package.text name).answered_cases (some a)
  · rw [show (h.answering a).answers.head?.join = some a from rfl, hok]
    exact (and_iff_right hpossible).symm
  · rw [show (h.answering a).answers.head?.join = some a from rfl, hcrash]
    exact iff_of_false nofun fun h => hnot h.1

/-- With a document that begins with a brace, bytes without one in front of it change neither the
document that is read nor the declaration that is resolved. -/
theorem resolve_behind_noise {noise doc : Bytes} (hnoise : 0x7b ∉ noise)
    (hdoc : doc.head? = some 0x7b) :
    (∀ d, Declaration.document (noise ++ doc).decodeLossy = .ok d ↔
        Declaration.document doc.decodeLossy = .ok d) ∧
      ∀ (settings : Settings) (given name : Text) (h : Host) (errors : Bytes) (decl : Declaration),
        (resolve settings given name (h.answering ⟨0, noise ++ doc, errors⟩)).1 = .ok decl ↔
          (resolve settings given name (h.answering ⟨0, doc, errors⟩)).1 = .ok decl := by
  obtain ⟨rest, rfl⟩ : ∃ rest, doc = 0x7b :: rest := List.head?_eq_some_iff.mp hdoc
  have hdocument := Bytes.document_behind_noise hnoise rest
  refine ⟨hdocument, fun settings given name h errors decl => ?_⟩
  simp only [resolve_answering_eq_ok_iff, declaration_of_success_eq_ok_iff, hdocument]

/-- A byte that begins no character, and two of the three bytes of one, in front of an empty
object. -/
theorem resolve_behind_half_character :
    (∀ d, Declaration.document (Bytes.decodeLossy ([0x88, 0xe2, 0x82] ++ [0x7b, 0x7d])) = .ok d ↔
        Declaration.document (Bytes.decodeLossy [0x7b, 0x7d]) = .ok d) ∧
      ∀ (settings : Settings) (given name : Text) (h : Host) (errors : Bytes) (decl : Declaration),
        (resolve settings given name
            (h.answering ⟨0, [0x88, 0xe2, 0x82] ++ [0x7b, 0x7d], errors⟩)).1 = .ok decl ↔
          (resolve settings given name (h.answering ⟨0, [0x7b, 0x7d], errors⟩)).1 = .ok decl :=
  resolve_behind_noise (by decide) (by decide)

end Checker

end Stencil
