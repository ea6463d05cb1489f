import Mathlib.Algebra.GroupWithZero.Nat
import Http2Headers.Proofs.Run

/-!
# The running size of a block

Along every run of steps from a fresh builder, the running size is the sum of what the emits
answered `ok` since the block began were charged, stopped at the greatest machine word, and it
never passes the bound; an emit is refused exactly when the capped sum with its own charge would
pass the bound, and the refusal names that sum.

The charges are read off the history of the run alone, the steps and their answers: what comes
after the last build or reset, kept where the answer was `ok`.
-/

namespace Http2Headers

namespace Block

@[simp] theorem size_record (b : Block) (v : Violation) : (b.record v).size = b.size := rfl

@[simp] theorem size_keep (b : Block) (f : Field) : (b.keep f).size = b.size := rfl

@[simp] theorem size_invalid (b : Block) (k : Field.Kind) (f : Field) :
    (b.invalid k f).size = b.size := rfl

theorem size_claimPseudo {b : Block} {k : Field.Kind} {fill : Block → Block}
    (h : (fill b).size = b.size) : (b.claimPseudo k fill).size = b.size := by
  unfold claimPseudo
  split <;> simp [h]

/-- No field changes the running size by its effect; only the charge before it does. -/
@[simp] theorem size_accept (b : Block) (f : Field) : (b.accept f).size = b.size := by
  unfold accept
  split
  · exact size_claimPseudo (by split <;> rfl)
  · exact size_claimPseudo rfl
  · exact size_claimPseudo rfl
  · exact size_claimPseudo (by split <;> rfl)
  · exact size_claimPseudo rfl
  · -- `host` may fill the authority before it is kept
    simp only [size_keep]
    split
    · split <;> rfl
    · rfl
  · split <;> rfl
  · split <;> rfl
  · rfl
  · split <;> rfl

end Block

namespace Builder

/-- What a step charges to the block: an emitted field its size, an undecodable one its raw
octets and the overhead; the other steps charge nothing. -/
def Step.charge? : Step → Option Nat
  | .emit f => some f.size
  | .emitUndecodable name value => some (name.length + value.length + fieldOverhead)
  | _ => none

/-- Whether a step ends the block: a build or a reset. -/
def Step.endsBlock : Step → Bool
  | .build | .reset => true
  | _ => false

/-- The steps of a history since the last build or reset. -/
def sinceBlockStart (history : List (Step × Reply)) : List (Step × Reply) :=
  (history.reverse.takeWhile fun e => !e.1.endsBlock).reverse

/-- The charges of the steps answered `ok` since the last build or reset, in order. -/
def admittedCharges (history : List (Step × Reply)) : List Nat :=
  (sinceBlockStart history).filterMap fun e => if e.2.isOk then e.1.charge? else none

/-- The history of a run: each step with its answer. -/
def history (b : Builder) (ss : List Step) : List (Step × Reply) :=
  ss.zip ((b.run ss).map Prod.fst)

@[simp] theorem history_nil (b : Builder) : b.history [] = [] := rfl

@[simp] theorem history_cons (b : Builder) (s : Step) (ss : List Step) :
    b.history (s :: ss) = (s, (b.step s).2) :: (b.step s).1.history ss := rfl

/-- What `select` reads off the steps answered `ok` since the last build or reset, in order. -/
def admitted {α : Type} (select : Step → Option α) (history : List (Step × Reply)) : List α :=
  (sinceBlockStart history).filterMap fun e => if e.2.isOk then select e.1 else none

/-- One more step starts the selection afresh if it ends the block, and else adds what it selects
if it was answered `ok`. -/
theorem admitted_append_singleton {α : Type} (select : Step → Option α)
    (history : List (Step × Reply)) (s : Step) (r : Reply) :
    admitted select (history ++ [(s, r)]) =
      if s.endsBlock then []
      else admitted select history ++ (if r.isOk then (select s).toList else []) := by
  unfold admitted sinceBlockStart
  cases hs : s.endsBlock
  · cases r <;> cases hc : select s <;> simp [hs, hc, Except.isOk, Except.toBool]
  · simp [hs]

theorem admittedCharges_append_singleton (history : List (Step × Reply)) (s : Step) (r : Reply) :
    admittedCharges (history ++ [(s, r)]) =
      if s.endsBlock then []
      else admittedCharges history ++ (if r.isOk then s.charge?.toList else []) :=
  admitted_append_singleton Step.charge? history s r

/-- What every step keeps of the history so far and the builder, every run keeps. -/
theorem exec_history {P : List (Step × Reply) → Builder → Prop}
    (hstep : ∀ before b s, P before b → P (before ++ [(s, (b.step s).2)]) (b.step s).1) :
    ∀ (ss : List Step) {b : Builder} {before : List (Step × Reply)},
      P before b → P (before ++ b.history ss) (b.exec ss) := by
  intro ss
  induction ss with
  | nil => intro b before h; simpa using h
  | cons s ss ih =>
    intro b before h
    simpa using ih (hstep before b s h)

/-! ## What one step does to the size -/

theorem maxSize_chargeThen (b : Builder) (amount : Nat) (effect : Block → Block) :
    (b.chargeThen amount effect).1.maxSize = b.maxSize := by
  rw [chargeThen_eq]
  split <;> rfl

theorem size_chargeThen (b : Builder) (amount : Nat) {effect : Block → Block}
    (heffect : ∀ blk, (effect blk).size = blk.size) :
    (b.chargeThen amount effect).1.size =
      if addSat b.size amount > b.maxSize then b.size else addSat b.size amount := by
  rw [chargeThen_eq]
  split
  · rfl
  · exact heffect _

@[simp] theorem maxSize_step (b : Builder) (s : Step) : (b.step s).1.maxSize = b.maxSize := by
  cases s with
  | emit f => simp [step, emit, maxSize_chargeThen]
  | emitUndecodable name value => simp [step, emitUndecodable, maxSize_chargeThen]
  | checkSize length huffman => simp
  | build => simp
  | reset => rfl

/-- A charging step: refused with the capped sum when that passes the bound, else admitted with
the capped sum as the new running size. -/
theorem step_of_charge {b : Builder} {s : Step} {c : Nat} (hc : s.charge? = some c) :
    (b.step s).2 =
        (if addSat b.size c > b.maxSize then
          .error (.session (.headerTooLarge (addSat b.size c) b.maxSize)) else .ok none) ∧
      (b.step s).1.size = if addSat b.size c > b.maxSize then b.size else addSat b.size c := by
  cases s with
  | emit f =>
    cases hc
    refine ⟨?_, ?_⟩
    · simp only [step, emit]
      rw [chargeThen_eq]
      split <;> rfl
    · simp only [step, settle_fst, emit]
      exact size_chargeThen _ _ fun blk => blk.size_accept f
  | emitUndecodable name value =>
    cases hc
    refine ⟨?_, ?_⟩
    · simp only [step, emitUndecodable]
      rw [chargeThen_eq]
      split <;> rfl
    · simp only [step, settle_fst, emitUndecodable]
      exact size_chargeThen _ _ fun blk => blk.size_record _
  | checkSize => cases hc
  | build => cases hc
  | reset => cases hc

/-! ## Along a run -/

/-- The running size is the sum of `charges` stopped at the greatest machine word, and within
the bound. -/
structure SizeTracks (maxSize : Nat) (charges : List Nat) (b : Builder) : Prop where
  maxSize_eq : b.maxSize = maxSize
  size_le : b.size ≤ maxSize
  size_eq : b.size = min charges.sum sizeCeiling

/-- A charging step keeps the size tracked: refused, it keeps size and charges; admitted, the
capped sum takes the new charge, and the bound was checked against exactly that sum. -/
theorem sizeTracks_of_charge {m c : Nat} {charges : List Nat} {b : Builder} {s : Step}
    (h : SizeTracks m charges b) (hc : s.charge? = some c) :
    SizeTracks m (charges ++ if (b.step s).2.isOk then [c] else []) (b.step s).1 := by
  obtain ⟨hreply, hsize⟩ := step_of_charge (b := b) hc
  obtain ⟨hmax, hle, heq⟩ := h
  have hmax' : (b.step s).1.maxSize = m := by rw [maxSize_step, hmax]
  by_cases hfit : addSat b.size c > b.maxSize
  · -- refused: the answer is an error and nothing is added
    rw [if_pos hfit] at hreply hsize
    simp only [hreply, Except.isOk, Except.toBool, Bool.false_eq_true, if_false, List.append_nil]
    exact ⟨hmax', hsize ▸ hle, hsize ▸ heq⟩
  · rw [if_neg hfit] at hreply hsize
    simp only [hreply, Except.isOk, Except.toBool, if_true]
    refine ⟨hmax', by rw [hsize]; omega, ?_⟩
    -- the cap applied twice is the cap of the whole sum
    rw [hsize, heq, List.sum_append_nat, List.sum_singleton]
    simp only [addSat]
    omega

theorem sizeTracks_step {m : Nat} {charges : List Nat} {b : Builder}
    (h : SizeTracks m charges b) (s : Step) :
    SizeTracks m
      (if s.endsBlock then [] else charges ++ if (b.step s).2.isOk then s.charge?.toList else [])
      (b.step s).1 := by
  cases s with
  | emit f => exact sizeTracks_of_charge h rfl
  | emitUndecodable name value => exact sizeTracks_of_charge h rfl
  | checkSize length huffman =>
    simpa [Step.endsBlock, Step.charge?] using h
  | build => exact ⟨by simp [h.maxSize_eq], by simp, by simp [Step.endsBlock]⟩
  | reset => exact ⟨by simp [h.maxSize_eq], by simp, by simp [Step.endsBlock]⟩

/-- A run keeps the size tracked against the charges of everything before it and of its own
history. -/
theorem sizeTracks_exec {m : Nat} (ss : List Step) :
    ∀ {b : Builder} {before : List (Step × Reply)}, SizeTracks m (admittedCharges before) b →
      SizeTracks m (admittedCharges (before ++ b.history ss)) (b.exec ss) := by
  refine exec_history (P := fun before b => SizeTracks m (admittedCharges before) b)
    (fun before b s h => ?_) ss
  rw [admittedCharges_append_singleton]
  exact sizeTracks_step h s

/-- Every state a run from a fresh builder reaches tracks the charges of its history. -/
theorem sizeTracks_run (m : Nat) (ss : List Step) :
    SizeTracks m (admittedCharges ((new m).history ss)) ((new m).exec ss) := by
  have hnew : SizeTracks m (admittedCharges []) (new m) :=
    ⟨rfl, Nat.zero_le m, by simp [admittedCharges, sinceBlockStart]⟩
  simpa using sizeTracks_exec ss hnew

/-- At every state a run of steps from a fresh builder reaches, the bound is the one it was made
with, the running size is within it, and the running size is the sum of the charges of the emits
answered `ok` since the last build or reset, stopped at the greatest machine word. From there,
either kind of emit is refused exactly when the capped sum with its own charge passes the bound,
and the refusal carries that sum and the bound. -/
theorem running_size_eq_admitted_charges (m : Nat) (ss : List Step) :
    let b := (new m).exec ss
    b.maxSize = m ∧ b.size ≤ m ∧
      b.size = min (admittedCharges ((new m).history ss)).sum sizeCeiling ∧
      (∀ f : Field, (b.step (.emit f)).2 =
        if min (b.size + f.size) sizeCeiling > m then
          .error (.session (.headerTooLarge (min (b.size + f.size) sizeCeiling) m))
        else .ok none) ∧
      ∀ name value : List UInt8,
        (b.step (.emitUndecodable name value)).2 =
          if min (b.size + (name.length + value.length + fieldOverhead)) sizeCeiling > m then
            .error (.session (.headerTooLarge
              (min (b.size + (name.length + value.length + fieldOverhead)) sizeCeiling) m))
          else .ok none := by
  intro b
  have h := sizeTracks_run m ss
  refine ⟨h.maxSize_eq, h.size_le, h.size_eq, fun f => ?_, fun name value => ?_⟩
  · rw [(step_of_charge (s := .emit f) rfl).1, h.maxSize_eq]
    rfl
  · rw [(step_of_charge (s := .emitUndecodable name value) rfl).1, h.maxSize_eq]
    rfl

end Builder

end Http2Headers
