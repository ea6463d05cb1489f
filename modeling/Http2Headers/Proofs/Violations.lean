import Http2Headers.Proofs.RunningSize
import Http2Headers.Proofs.Acceptance

/-!
# The violations a block reports

A block keeps its violations in one `StreamError`: the first one recorded, then each later one
behind it (`violations_record`). What taking one field commits is a table over its kind
(`Block.committed?`): a pseudo header after a regular field, else one whose slot is set, else a
`:status` or `:authority` that does not read; a `host` that would supply the authority and does
not read; a `content-length` that does not read; a `te` other than `trailers`; any `connection`;
an unknown pseudo header. Taking the field appends exactly that verdict (`violations_accept`).

The budget comes first: an admitted emit appends its verdict and a refused one appends nothing
(`violations_step`). So along a run the record of a block is the verdicts of its admitted steps in
step order (`violations_exec`), no step ever records a mixed request and response, and `build`
reports exactly the record, or the mixed error alone when the record is empty
(`violations_reported_in_step_order`).
-/

namespace Http2Headers

namespace StreamError

theorem violations_injective : Function.Injective violations := by
  rintro ⟨p, s⟩ ⟨p', s'⟩ h
  simp only [violations, List.cons.injEq] at h
  rw [h.1, h.2]

end StreamError

namespace Block

/-- The violations recorded in the block, the first first. -/
def violations (b : Block) : List Violation :=
  (b.error.map StreamError.violations).getD []

@[simp] theorem violations_empty : ({} : Block).violations = [] := rfl

@[simp] theorem violations_record (b : Block) (v : Violation) :
    (b.record v).violations = b.violations ++ [v] := by
  cases h : b.error <;> simp [violations, record, h]

@[simp] theorem violations_keep (b : Block) (f : Field) : (b.keep f).violations = b.violations :=
  rfl

@[simp] theorem violations_invalid (b : Block) (k : Field.Kind) (f : Field) :
    (b.invalid k f).violations = b.violations ++ [.invalidValue k f.valueText] := by
  simp [invalid]

theorem violations_eq_nil {b : Block} : b.violations = [] ↔ b.error = none := by
  cases h : b.error <;> simp [violations, h, StreamError.violations]

/-- Only the recorded error decides the violations. -/
theorem violations_congr {b b' : Block} (h : b'.error = b.error) :
    b'.violations = b.violations := by
  simp [violations, h]

/-- The violation taking `f` commits in `b`, if any. -/
def committed? (b : Block) (f : Field) : Option Violation :=
  match f.kind with
  | .status =>
    (b.pseudoConflict? .status).or
      (if f.statusValue?.isSome then none else some (.invalidValue .status f.valueText))
  | .method => b.pseudoConflict? .method
  | .scheme => b.pseudoConflict? .scheme
  | .authority =>
    (b.pseudoConflict? .authority).or
      (if f.authorityValue?.isSome then none else some (.invalidValue .authority f.valueText))
  | .path => b.pseudoConflict? .path
  | .host =>
    if b.authority.isNone && f.value.isSome && f.authorityValue?.isNone then
      some (.invalidValue .host f.valueText)
    else none
  | .contentLength =>
    if f.contentLengthValue?.isSome then none
    else some (.invalidValue .contentLength f.valueText)
  | .te =>
    if Text.eqIgnoreAsciiCase f.valueText "trailers" then none
    else some (.unsupportedTe f.valueText)
  | .connection => some (.connectionSpecific f.name)
  | .other =>
    if f.name.toList.head? = some ':' then some (.unknownPseudoHeader f.name) else none

/-- The running size plays no part in a verdict. -/
@[simp] theorem committed?_withSize (b : Block) (f : Field) (size : Nat) :
    ({ b with size } : Block).committed? f = b.committed? f := rfl

/-- A pseudo header claims its slot or records why it may not. -/
theorem violations_claimPseudo (b : Block) (k : Field.Kind) (fill : Block → Block) :
    (b.claimPseudo k fill).violations =
      match b.pseudoConflict? k with
      | some v => b.violations ++ [v]
      | none => (fill b).violations := by
  unfold claimPseudo
  split <;> simp_all

/-- A pseudo header whose filling records nothing appends its slot's conflict, if any. -/
theorem violations_claimPseudo_of_error (b : Block) (k : Field.Kind) {fill : Block → Block}
    (hfill : (fill b).error = b.error) :
    (b.claimPseudo k fill).violations = b.violations ++ (b.pseudoConflict? k).toList := by
  rw [violations_claimPseudo]
  cases b.pseudoConflict? k <;> simp [violations_congr hfill]

/-- Taking a field appends its verdict to the block's violations, and nothing else. -/
theorem violations_accept (b : Block) (f : Field) :
    (b.accept f).violations = b.violations ++ (b.committed? f).toList := by
  cases hk : f.kind with
  | status =>
    simp only [accept, committed?, hk, violations_claimPseudo]
    cases b.pseudoConflict? .status with
    | some v => simp
    | none =>
      cases f.statusValue? with
      | some code =>
        simp
        exact violations_congr rfl
      | none => simp
  | method =>
    simp only [accept, committed?, hk]
    exact violations_claimPseudo_of_error b .method rfl
  | scheme =>
    simp only [accept, committed?, hk]
    exact violations_claimPseudo_of_error b .scheme rfl
  | authority =>
    simp only [accept, committed?, hk, violations_claimPseudo]
    cases b.pseudoConflict? .authority with
    | some v => simp
    | none =>
      cases f.authorityValue? with
      | some a =>
        simp
        exact violations_congr rfl
      | none => simp
  | path =>
    simp only [accept, committed?, hk]
    exact violations_claimPseudo_of_error b .path rfl
  | host =>
    -- `host` is kept whatever it does to the authority
    simp only [accept, committed?, hk, violations_keep]
    by_cases hfill : (b.authority.isNone && f.value.isSome) = true
    · cases f.authorityValue? with
      | some a =>
        simp [hfill]
        exact violations_congr rfl
      | none => simp [hfill]
    · simp [hfill]
  | contentLength =>
    simp only [accept, committed?, hk]
    cases f.contentLengthValue? with
    | some n =>
      simp
      exact violations_congr rfl
    | none => simp
  | te =>
    simp only [accept, committed?, hk]
    split <;> simp_all
  | connection => simp [accept, committed?, hk]
  | other =>
    simp only [accept, committed?, hk]
    split <;> simp_all

/-- The verdict on a pseudo header: after a regular field, else a second one, else a `:status`
or `:authority` that does not read; nothing else. -/
theorem committed?_of_isPseudo (b : Block) {f : Field} (hp : f.kind.isPseudo = true) :
    b.committed? f =
      if b.fields.isEmpty = false then some (.pseudoHeaderAfterFields f.kind)
      else if b.hasPseudo f.kind then some (.duplicatePseudoHeader f.kind)
      else if f.kind = .status ∧ f.statusValue? = none ∨
          f.kind = .authority ∧ f.authorityValue? = none then
        some (.invalidValue f.kind f.valueText)
      else none := by
  cases hk : f.kind
  case status =>
    simp only [committed?, pseudoConflict?, hk]
    cases b.fields.isEmpty <;> cases b.hasPseudo .status <;> cases f.statusValue? <;> simp
  case method =>
    simp only [committed?, pseudoConflict?, hk]
    cases b.fields.isEmpty <;> cases b.hasPseudo .method <;> simp
  case scheme =>
    simp only [committed?, pseudoConflict?, hk]
    cases b.fields.isEmpty <;> cases b.hasPseudo .scheme <;> simp
  case authority =>
    simp only [committed?, pseudoConflict?, hk]
    cases b.fields.isEmpty <;> cases b.hasPseudo .authority <;> cases f.authorityValue? <;> simp
  case path =>
    simp only [committed?, pseudoConflict?, hk]
    cases b.fields.isEmpty <;> cases b.hasPseudo .path <;> simp
  all_goals simp [hk, Field.Kind.isPseudo] at hp

theorem pseudoConflict?_ne_mixed (b : Block) (k : Field.Kind) :
    b.pseudoConflict? k ≠ some .mixedRequestResponse := by
  unfold pseudoConflict?
  cases b.fields.isEmpty <;> cases b.hasPseudo k <;> simp

/-- No field commits a mixed request and response: that is only found when the block is built. -/
theorem committed?_ne_mixed (b : Block) (f : Field) :
    b.committed? f ≠ some .mixedRequestResponse := by
  cases hk : f.kind <;> simp [committed?, hk, pseudoConflict?_ne_mixed, Option.or_eq_some_iff]

/-- A block fails with its violations when it recorded any, and with the mixed error alone when it
recorded none but saw a request pseudo header and a status. -/
theorem finish_eq_error_iff (b : Block) (e : StreamError) :
    b.finish = .error e ↔
      (b.violations ≠ [] ∧ e.violations = b.violations) ∨
        (b.violations = [] ∧ b.request = true ∧ b.response = true ∧
          e = .single .mixedRequestResponse) := by
  unfold finish
  cases he : b.error with
  | some e' =>
    have hv : b.violations = e'.violations := by simp [violations, he]
    simp only [hv, Except.error.injEq, StreamError.violations, ne_eq, reduceCtorEq,
      not_false_eq_true, true_and, false_and, or_false]
    exact ⟨fun h => by rw [h], fun h => (StreamError.violations_injective h).symm⟩
  | none =>
    simp only [violations_eq_nil.2 he, ne_eq, not_true_eq_false, false_and, true_and,
      false_or]
    by_cases hmixed : b.request = true ∧ b.response = true
    · simp [hmixed, eq_comm]
    · have hm : (b.request && b.response) = false := by simpa using hmixed
      simp only [hm, Bool.false_eq_true, if_false]
      -- the block builds, so it fails with nothing
      refine iff_of_false ?_ fun h => hmixed ⟨h.1, h.2.1⟩
      split
      · simp
      · split <;> simp

end Block

namespace Builder

/-- The violation a step records when the budget admits it: an emitted field's verdict, an
undecodable field's encoding; the other steps record none. -/
def Step.verdict? (blk : Block) : Step → Option Violation
  | .emit f => blk.committed? f
  | .emitUndecodable name _ => some (.invalidEncoding (Text.Utf8.decodeLossy name))
  | _ => none

theorem Step.verdict?_ne_mixed (blk : Block) (s : Step) :
    s.verdict? blk ≠ some .mixedRequestResponse := by
  cases s with
  | emit f => exact blk.committed?_ne_mixed f
  | emitUndecodable name value => simp [verdict?]
  | checkSize length huffman => simp [verdict?]
  | build => simp [verdict?]
  | reset => simp [verdict?]

theorem isOk_settle_error (b : Builder) (e : SessionError) :
    (settle (b, .error e)).2.isOk = false := rfl

theorem isOk_settle_ok (b : Builder) : (settle (b, .ok ())).2.isOk = true := rfl

/-- A charge that fits lets the effect append what it appends; one that does not appends
nothing. -/
theorem violations_chargeThen (b : Builder) (amount : Nat) {effect : Block → Block}
    {v? : Option Violation}
    (heffect : ∀ size,
      (effect { b.block with size }).violations = b.block.violations ++ v?.toList) :
    (settle (b.chargeThen amount effect)).1.block.violations =
      b.block.violations ++
        if (settle (b.chargeThen amount effect)).2.isOk then v?.toList else [] := by
  rw [chargeThen_eq]
  split
  · rw [isOk_settle_error]
    simp
  · rw [isOk_settle_ok, if_pos rfl, settle_fst]
    exact heffect _

/-- One step inside a block appends its verdict to the block's violations when the budget admits
it, and nothing when it refuses it: nothing recorded is ever removed or moved. -/
theorem violations_step (b : Builder) {s : Step} (hs : s.endsBlock = false) :
    (b.step s).1.block.violations =
      b.block.violations ++ if (b.step s).2.isOk then (s.verdict? b.block).toList else [] := by
  cases s with
  | emit f =>
    simp only [step, emit]
    exact violations_chargeThen b f.size fun size => by
      rw [Block.violations_accept, Block.committed?_withSize]
      rfl
  | emitUndecodable name value =>
    simp only [step, emitUndecodable]
    exact violations_chargeThen b _ fun size => by
      rw [Block.violations_record]
      rfl
  | checkSize length huffman => simp [Step.verdict?]
  | build => cases hs
  | reset => cases hs

/-- The violations recorded since the last build or reset along a run from `b`, given `log`, those
of the block before the run: each admitted step's verdict in step order; a build or a reset starts
the log afresh. -/
def blockLog (b : Builder) (log : List Violation) : List Step → List Violation
  | [] => log
  | s :: ss =>
    (b.step s).1.blockLog
      (if s.endsBlock then []
        else log ++ if (b.step s).2.isOk then (s.verdict? b.block).toList else [])
      ss

/-- Along a run, the block's violations are the log of its admitted steps' verdicts. -/
theorem violations_exec (ss : List Step) :
    ∀ b : Builder, (b.exec ss).block.violations = b.blockLog b.block.violations ss := by
  induction ss with
  | nil => intro b; rfl
  | cons s ss ih =>
    intro b
    rw [exec_cons, ih, blockLog]
    congr 1
    cases hs : s.endsBlock
    · rw [if_neg Bool.false_ne_true, violations_step b hs]
    · -- a build or a reset leaves an empty block
      rw [if_pos rfl]
      cases s <;> simp_all [Step.endsBlock]

theorem mixed_not_mem_blockLog (ss : List Step) :
    ∀ (b : Builder) (log : List Violation), .mixedRequestResponse ∉ log →
      .mixedRequestResponse ∉ b.blockLog log ss := by
  induction ss with
  | nil => intro b log h; exact h
  | cons s ss ih =>
    intro b log h
    refine ih _ _ ?_
    split
    · simp
    · have hv := s.verdict?_ne_mixed b.block
      split <;> simp_all [Option.mem_toList]

theorem step_build_eq_error_iff (b : Builder) (e : StreamError) :
    (b.step .build).2 = .error (.stream e) ↔ b.block.finish = .error e := by
  simp only [step, build]
  cases b.block.finish <;> simp

/-- Over every run of steps from a fresh builder, in the block then being read: its violations are
the verdicts of the steps the budget admitted since the last build or reset, in step order, and
never the mixed error; one more step appends its verdict if admitted and nothing if refused; the
verdict on a pseudo header is that it comes after a regular field, else that it comes again, else
that a `:status` or `:authority` does not read, else none; and `build` fails with exactly the
recorded violations, or, when there are none, with the mixed error alone exactly when a request
pseudo header and a status were both seen. -/
theorem violations_reported_in_step_order (m : Nat) (ss : List Step) :
    let b := (new m).exec ss
    b.block.violations = (new m).blockLog [] ss ∧
      .mixedRequestResponse ∉ b.block.violations ∧
      (∀ s, s.endsBlock = false → (b.step s).1.block.violations =
        b.block.violations ++ if (b.step s).2.isOk then (s.verdict? b.block).toList else []) ∧
      (∀ f, f.kind.isPseudo = true → (b.step (.emit f)).2.isOk = true →
        (b.step (.emit f)).1.block.violations = b.block.violations ++
          if b.block.fields.isEmpty = false then [.pseudoHeaderAfterFields f.kind]
          else if b.block.hasPseudo f.kind then [.duplicatePseudoHeader f.kind]
          else if f.kind = .status ∧ f.statusValue? = none ∨
              f.kind = .authority ∧ f.authorityValue? = none then
            [.invalidValue f.kind f.valueText]
          else []) ∧
      ∀ e, (b.step .build).2 = .error (.stream e) ↔
        (b.block.violations ≠ [] ∧ e.violations = b.block.violations) ∨
          (b.block.violations = [] ∧ b.block.request = true ∧ b.block.response = true ∧
            e = .single .mixedRequestResponse) := by
  intro b
  have hlog : b.block.violations = (new m).blockLog [] ss := violations_exec ss (new m)
  refine ⟨hlog, ?_, fun s hs => violations_step b hs, fun f hp hok => ?_,
    fun e => (step_build_eq_error_iff b e).trans (b.block.finish_eq_error_iff e)⟩
  · rw [hlog]
    exact mixed_not_mem_blockLog ss _ _ (List.not_mem_nil)
  · rw [violations_step b (s := .emit f) rfl, hok, if_pos rfl]
    simp only [Step.verdict?, Block.committed?_of_isPseudo b.block hp, apply_ite Option.toList,
      Option.toList_some, Option.toList_none]

end Builder

end Http2Headers
