import Http2Headers.Builder

/-!
# Runs of builder steps

What the budget does to a builder, stated once so that later proofs never open `account` again;
the builder after a run of steps (`exec`); and the answers of a run split where the run is split.

The budget is charged before anything else happens: an emit that does not fit is refused with the
builder exactly as it was, and a size check never changes it. Such a step can therefore be deleted
from any run, and the only answer that changes is its own, which disappears
(`inert_step_erasable`).
-/

namespace Http2Headers

namespace Builder

/-- The builder after a run of steps. -/
def exec (b : Builder) (ss : List Step) : Builder :=
  ss.foldl (fun b s => (b.step s).1) b

@[simp] theorem exec_nil (b : Builder) : b.exec [] = b := rfl

@[simp] theorem exec_cons (b : Builder) (s : Step) (ss : List Step) :
    b.exec (s :: ss) = (b.step s).1.exec ss := rfl

theorem exec_append (b : Builder) (ss ts : List Step) :
    b.exec (ss ++ ts) = (b.exec ss).exec ts := by
  simp [exec, List.foldl_append]

@[simp] theorem run_nil (b : Builder) : b.run [] = [] := rfl

@[simp] theorem run_cons (b : Builder) (s : Step) (ss : List Step) :
    b.run (s :: ss) = ((b.step s).2, (b.step s).1.size) :: (b.step s).1.run ss := rfl

@[simp] theorem length_run (b : Builder) (ss : List Step) : (b.run ss).length = ss.length := by
  induction ss generalizing b with
  | nil => rfl
  | cons s ss ih => simp [ih]

/-- The answers of a run are those of its first part, then those of the rest from where the
first part left the builder. -/
theorem run_append (b : Builder) (ss ts : List Step) :
    b.run (ss ++ ts) = b.run ss ++ (b.exec ss).run ts := by
  induction ss generalizing b with
  | nil => rfl
  | cons s ss ih => simp [ih]

/-! ## The budget -/

@[simp] theorem size_new (maxSize : Nat) : (new maxSize).size = 0 := rfl

@[simp] theorem maxSize_new (maxSize : Nat) : (new maxSize).maxSize = maxSize := rfl

theorem account_eq (b : Builder) (amount : Nat) :
    b.account amount =
      if addSat b.size amount > b.maxSize then
        (b, .error (.headerTooLarge (addSat b.size amount) b.maxSize))
      else ({ b with block := { b.block with size := addSat b.size amount } }, .ok ()) := by
  by_cases h : addSat b.size amount > b.maxSize <;> simp [account, charge, h]

/-- `chargeThen` in one piece: refused with the builder untouched, or the size stored and the
effect applied to the block that carries it. -/
theorem chargeThen_eq (b : Builder) (amount : Nat) (effect : Block → Block) :
    b.chargeThen amount effect =
      if addSat b.size amount > b.maxSize then
        (b, .error (.headerTooLarge (addSat b.size amount) b.maxSize))
      else ({ b with block := effect { b.block with size := addSat b.size amount } }, .ok ()) := by
  by_cases h : addSat b.size amount > b.maxSize <;> simp [chargeThen, account_eq, h]

theorem checkSize_eq (b : Builder) (length : Nat) (huffman : Bool) :
    b.checkSize length huffman =
      if addSat b.size (decodedBound length huffman) > b.maxSize then
        .error (.headerTooLarge (addSat b.size (decodedBound length huffman)) b.maxSize)
      else .ok () := by
  by_cases h : addSat b.size (decodedBound length huffman) > b.maxSize <;>
    simp [checkSize, charge, h, Except.map]

/-- A refused charge leaves the builder as it was, whatever the effect would have done. -/
theorem chargeThen_refused {b : Builder} {amount : Nat} {effect : Block → Block}
    {e : SessionError} (h : (b.chargeThen amount effect).2 = .error e) :
    (b.chargeThen amount effect).1 = b := by
  rw [chargeThen_eq] at h ⊢
  split
  · rfl
  · simp_all

@[simp] theorem settle_fst (r : Builder × Except SessionError Unit) : (settle r).1 = r.1 := by
  obtain ⟨b, _ | _⟩ := r <;> rfl

theorem settle_snd_eq_session {r : Builder × Except SessionError Unit} {e : SessionError}
    (h : (settle r).2 = .error (.session e)) : r.2 = .error e := by
  obtain ⟨b, e' | _⟩ := r
  · cases h; rfl
  · cases h

/-- Whatever a size check answers, the builder is the same after it. -/
@[simp] theorem step_checkSize_fst (b : Builder) (length : Nat) (huffman : Bool) :
    (b.step (.checkSize length huffman)).1 = b := by
  simp [step]

@[simp] theorem step_build_fst (b : Builder) : (b.step .build).1 = b.reset := by
  cases h : b.block.finish <;> simp [step, build, h]

@[simp] theorem step_reset_fst (b : Builder) : (b.step .reset).1 = b.reset := rfl

/-- A step answered with a session error leaves the builder as it was: emits are charged before
they act, a size check only reads, and building or resetting never fails so. -/
theorem step_fst_of_session {b : Builder} {s : Step} {e : SessionError}
    (h : (b.step s).2 = .error (.session e)) : (b.step s).1 = b := by
  cases s with
  | emit f =>
    simp only [step, settle_fst] at h ⊢
    exact chargeThen_refused (settle_snd_eq_session h)
  | emitUndecodable name value =>
    simp only [step, settle_fst] at h ⊢
    exact chargeThen_refused (settle_snd_eq_session h)
  | checkSize length huffman => exact step_checkSize_fst b length huffman
  | build =>
    simp only [step] at h
    split at h <;> cases h
  | reset => cases h

/-- A step that leaves the builder as it was can be deleted from a run: the answers before it and
after it are unchanged, and its own answer is the only one that goes. -/
theorem run_erase_of_step_fst {b : Builder} {pre post : List Step} {s : Step}
    (h : ((b.exec pre).step s).1 = b.exec pre) :
    b.run (pre ++ post) = (b.run (pre ++ s :: post)).eraseIdx pre.length := by
  rw [run_append, run_append, run_cons, h,
    List.eraseIdx_append_of_length_le (by simp), length_run, Nat.sub_self, List.eraseIdx_cons_zero]

/-- A refused emit (of either kind) and any size check leave the builder exactly as it was, and
so deleting one from a run of steps changes no other answer of the run. -/
theorem inert_step_erasable (b : Builder) (pre post : List Step) (s : Step)
    (hs : (∃ length huffman, s = .checkSize length huffman) ∨
      ∃ size maxSize, ((b.exec pre).step s).2 = .error (.session (.headerTooLarge size maxSize))) :
    ((b.exec pre).step s).1 = b.exec pre ∧
      b.run (pre ++ post) = (b.run (pre ++ s :: post)).eraseIdx pre.length := by
  have hfst : ((b.exec pre).step s).1 = b.exec pre := by
    rcases hs with ⟨length, huffman, rfl⟩ | ⟨size, maxSize, h⟩
    · exact step_checkSize_fst _ length huffman
    · exact step_fst_of_session h
  exact ⟨hfst, run_erase_of_step_fst hfst⟩

/-- A field of 36 octets does not fit after one of 34 under a bound of 40; deleting it from the
run before a build changes no other answer. -/
theorem inert_step_erasable_refused_emit :
    ((∃ length huffman, Step.emit (.new "cc" "dd") = .checkSize length huffman) ∨
      ∃ size maxSize, (((new 40).exec [.emit (.new "a" "b")]).step (.emit (.new "cc" "dd"))).2 =
        .error (.session (.headerTooLarge size maxSize))) ∧
    (((new 40).exec [.emit (.new "a" "b")]).step (.emit (.new "cc" "dd"))).1 =
        (new 40).exec [.emit (.new "a" "b")] ∧
      (new 40).run ([.emit (.new "a" "b")] ++ [.build]) =
        ((new 40).run ([.emit (.new "a" "b")] ++ .emit (.new "cc" "dd") :: [.build])).eraseIdx
          [Step.emit (.new "a" "b")].length :=
  have hs : (∃ length huffman, Step.emit (.new "cc" "dd") = .checkSize length huffman) ∨
      ∃ size maxSize, (((new 40).exec [.emit (.new "a" "b")]).step (.emit (.new "cc" "dd"))).2 =
        .error (.session (.headerTooLarge size maxSize)) := .inr ⟨70, 40, rfl⟩
  ⟨hs, inert_step_erasable (new 40) [.emit (.new "a" "b")] [.build] (.emit (.new "cc" "dd")) hs⟩

end Builder

end Http2Headers
