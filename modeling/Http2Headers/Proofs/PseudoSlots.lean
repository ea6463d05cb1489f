import Http2Headers.Proofs.Violations

/-!
# The pseudo header slots of a block

What one field does to each slot and flag of a block, at every state (`status_accept` to
`request_accept`): a pseudo header fills its slot only while no regular field is kept and the slot
is free, and a `host` with a value fills the authority only while it is free. So within a block a
set slot keeps its value, no slot but the authority is filled once a regular field is kept
(`SlotsGrow`), and then the authority only from a `host`.

The flags follow the slots (`FlagsFollow`): `response` is raised exactly when the status is set,
and `request` exactly when a request pseudo header is accepted, that is admitted and committing no
violation. An authority taken from `host` raises neither. The accepted `:authority` fields leave
no trace in the block itself, so a run records them beside it (`authorityAccepted`); with that
record, every reachable state has `request` set exactly when a method, a scheme or a path is set or
an `:authority` was accepted (`pseudo_slots_fill_once`).
-/

namespace Http2Headers

namespace Block

/-! ## One field, slot by slot -/

/-- A pseudo header may fill its slot exactly when no regular field is kept and the slot is
free. -/
theorem pseudoConflict?_eq_none {b : Block} {k : Field.Kind} :
    b.pseudoConflict? k = none ↔ b.fields.isEmpty = true ∧ b.hasPseudo k = false := by
  unfold pseudoConflict?
  cases b.fields.isEmpty <;> cases b.hasPseudo k <;> simp

@[simp] theorem pseudoConflict?_withSize (b : Block) (k : Field.Kind) (size : Nat) :
    ({ b with size } : Block).pseudoConflict? k = b.pseudoConflict? k := rfl

/-- A set slot, or a kept regular field, leaves a pseudo header no way to fill its slot. -/
theorem pseudoConflict?_ne_none {b : Block} {k : Field.Kind}
    (h : b.fields.isEmpty = false ∨ b.hasPseudo k = true) : b.pseudoConflict? k ≠ none := by
  rw [ne_eq, pseudoConflict?_eq_none]
  rcases h with h | h <;> simp [h]

/-- The status slot is filled by a `:status` that may fill it, with the status it reads, if it
reads one. -/
theorem status_accept (b : Block) (f : Field) :
    (b.accept f).status =
      if f.kind = .status ∧ b.pseudoConflict? .status = none then f.statusValue? else b.status := by
  cases hk : f.kind
  case status =>
    cases hc : b.pseudoConflict? .status with
    | some v => simp [accept, hk, claimPseudo, hc, record]
    | none =>
      -- an unreadable status leaves the slot as free as it found it
      have hfree : b.status = none := by
        simpa [hasPseudo] using (pseudoConflict?_eq_none.1 hc).2
      cases hv : f.statusValue? <;> simp [accept, hk, claimPseudo, hc, hv, invalid, record, hfree]
  -- every other kind leaves the slot alone on each of its branches
  all_goals
    simp only [accept, hk, claimPseudo, reduceCtorEq, false_and, if_false]
    repeat' split
    all_goals rfl

theorem method_accept (b : Block) (f : Field) :
    (b.accept f).method =
      if f.kind = .method ∧ b.pseudoConflict? .method = none then some f.valueText
      else b.method := by
  cases hk : f.kind
  case method => cases hc : b.pseudoConflict? .method <;> simp [accept, hk, claimPseudo, hc, record]
  all_goals
    simp only [accept, hk, claimPseudo, reduceCtorEq, false_and, if_false]
    repeat' split
    all_goals rfl

theorem scheme_accept (b : Block) (f : Field) :
    (b.accept f).scheme =
      if f.kind = .scheme ∧ b.pseudoConflict? .scheme = none then some f.schemeValue
      else b.scheme := by
  cases hk : f.kind
  case scheme => cases hc : b.pseudoConflict? .scheme <;> simp [accept, hk, claimPseudo, hc, record]
  all_goals
    simp only [accept, hk, claimPseudo, reduceCtorEq, false_and, if_false]
    repeat' split
    all_goals rfl

theorem path_accept (b : Block) (f : Field) :
    (b.accept f).path =
      if f.kind = .path ∧ b.pseudoConflict? .path = none then some f.valueText
      else b.path := by
  cases hk : f.kind
  case path => cases hc : b.pseudoConflict? .path <;> simp [accept, hk, claimPseudo, hc, record]
  all_goals
    simp only [accept, hk, claimPseudo, reduceCtorEq, false_and, if_false]
    repeat' split
    all_goals rfl

/-- The authority slot is filled by an `:authority` that may fill it, or by a `host` with a value
while the slot is free; either way with the authority it reads, if it reads one. -/
theorem authority_accept (b : Block) (f : Field) :
    (b.accept f).authority =
      if f.kind = .authority ∧ b.pseudoConflict? .authority = none ∨
          f.suppliesHost = true ∧ b.authority = none then f.authorityValue?
      else b.authority := by
  cases hk : f.kind
  case authority =>
    have hsup : f.suppliesHost = false := by simp [Field.suppliesHost, hk]
    cases hc : b.pseudoConflict? .authority with
    | some v => simp [accept, hk, claimPseudo, hc, record, hsup]
    | none =>
      have hfree : b.authority = none := by
        simpa [hasPseudo] using (pseudoConflict?_eq_none.1 hc).2
      cases hv : f.authorityValue? <;>
        simp [accept, hk, claimPseudo, hc, hv, invalid, record, hfree]
  case host =>
    have hsup : f.suppliesHost = f.value.isSome := by simp [Field.suppliesHost, hk]
    by_cases hfill : b.authority = none ∧ f.value.isSome = true
    · cases hv : f.authorityValue? <;>
        simp [accept, hk, hsup, hfill.1, hfill.2, hv, keep, invalid, record]
    · have hb : ¬ (b.authority.isNone && f.value.isSome) = true := by simpa using hfill
      have hnot : ¬ (Field.Kind.host = .authority ∧ b.pseudoConflict? .authority = none ∨
          f.suppliesHost = true ∧ b.authority = none) := by
        rw [hsup]
        rintro (⟨h, -⟩ | ⟨hv, ha⟩)
        · cases h
        · exact hfill ⟨ha, hv⟩
      rw [if_neg hnot]
      simp only [accept, hk, if_neg hb]
      rfl
  all_goals
    have hsup : f.suppliesHost = false := by simp [Field.suppliesHost, hk]
    simp only [accept, hk, claimPseudo, hsup, reduceCtorEq, false_and, or_self, if_false]
    repeat' split
    all_goals rfl

/-- The response flag is raised by a `:status` that commits no violation. -/
theorem response_accept (b : Block) (f : Field) :
    (b.accept f).response = (b.response || f.kind == .status && (b.committed? f).isNone) := by
  by_cases hk : f.kind = .status
  · cases hc : b.pseudoConflict? .status with
    | some v => simp [accept, committed?, hk, claimPseudo, hc, record]
    | none =>
      cases hv : f.statusValue? <;>
        simp [accept, committed?, hk, claimPseudo, hc, hv, invalid, record]
  · have hs : (f.kind == .status) = false := by simpa using hk
    rw [hs, Bool.false_and, Bool.or_false]
    cases hk' : f.kind
    case status => exact absurd hk' hk
    all_goals
      simp only [accept, hk', claimPseudo]
      repeat' split
      all_goals rfl

/-- The request flag is raised by a request pseudo header that commits no violation, and by
nothing else. -/
theorem request_accept (b : Block) (f : Field) :
    (b.accept f).request = (b.request || f.kind.isRequest && (b.committed? f).isNone) := by
  cases hk : f.kind
  case authority =>
    cases hc : b.pseudoConflict? .authority with
    | some v => simp [accept, committed?, hk, claimPseudo, hc, record]
    | none =>
      cases hv : f.authorityValue? <;>
        simp [accept, committed?, hk, claimPseudo, hc, hv, invalid, record, Field.Kind.isRequest]
  case method | scheme | path =>
    cases hc : b.pseudoConflict? f.kind <;> rw [hk] at hc <;>
      simp [accept, committed?, hk, claimPseudo, hc, record, Field.Kind.isRequest]
  all_goals
    simp only [accept, hk, claimPseudo, Field.Kind.isRequest, Bool.false_and, Bool.or_false]
    repeat' split
    all_goals rfl

/-! ## Slots only grow -/

/-- How the pseudo header slots may change from `b` to `b'` within one block: a slot that is set
keeps its value, and once a regular field is kept no slot but the authority is filled. -/
structure SlotsGrow (b b' : Block) : Prop where
  status_keep : ∀ x, b.status = some x → b'.status = some x
  method_keep : ∀ x, b.method = some x → b'.method = some x
  scheme_keep : ∀ x, b.scheme = some x → b'.scheme = some x
  authority_keep : ∀ x, b.authority = some x → b'.authority = some x
  path_keep : ∀ x, b.path = some x → b'.path = some x
  status_closed : b.fields.isEmpty = false → b.status = none → b'.status = none
  method_closed : b.fields.isEmpty = false → b.method = none → b'.method = none
  scheme_closed : b.fields.isEmpty = false → b.scheme = none → b'.scheme = none
  path_closed : b.fields.isEmpty = false → b.path = none → b'.path = none

/-- Taking a field, with whatever running size the charge stored, only grows the slots. -/
theorem slotsGrow_accept (b : Block) (size : Nat) (f : Field) :
    SlotsGrow b ({ b with size }.accept f) := by
  have hset : ∀ k, b.hasPseudo k = true → b.pseudoConflict? k ≠ none :=
    fun k h => pseudoConflict?_ne_none (.inr h)
  have hkept : ∀ k, b.fields.isEmpty = false → b.pseudoConflict? k ≠ none :=
    fun k h => pseudoConflict?_ne_none (.inl h)
  refine ⟨fun x hx => ?_, fun x hx => ?_, fun x hx => ?_, fun x hx => ?_, fun x hx => ?_,
    fun he hx => ?_, fun he hx => ?_, fun he hx => ?_, fun he hx => ?_⟩
  · rw [status_accept, pseudoConflict?_withSize,
      if_neg fun h => hset .status (by simp [hasPseudo, hx]) h.2]
    exact hx
  · rw [method_accept, pseudoConflict?_withSize,
      if_neg fun h => hset .method (by simp [hasPseudo, hx]) h.2]
    exact hx
  · rw [scheme_accept, pseudoConflict?_withSize,
      if_neg fun h => hset .scheme (by simp [hasPseudo, hx]) h.2]
    exact hx
  · rw [authority_accept, pseudoConflict?_withSize,
      if_neg fun h => h.elim (fun h => hset .authority (by simp [hasPseudo, hx]) h.2)
        fun h => by simp [hx] at h]
    exact hx
  · rw [path_accept, pseudoConflict?_withSize,
      if_neg fun h => hset .path (by simp [hasPseudo, hx]) h.2]
    exact hx
  · rw [status_accept, pseudoConflict?_withSize, if_neg fun h => hkept .status he h.2]
    exact hx
  · rw [method_accept, pseudoConflict?_withSize, if_neg fun h => hkept .method he h.2]
    exact hx
  · rw [scheme_accept, pseudoConflict?_withSize, if_neg fun h => hkept .scheme he h.2]
    exact hx
  · rw [path_accept, pseudoConflict?_withSize, if_neg fun h => hkept .path he h.2]
    exact hx

theorem slotsGrow_record (b : Block) (size : Nat) (v : Violation) :
    SlotsGrow b ({ b with size }.record v) :=
  ⟨fun _ => id, fun _ => id, fun _ => id, fun _ => id, fun _ => id, fun _ => id, fun _ => id,
    fun _ => id, fun _ => id⟩

theorem slotsGrow_refl (b : Block) : SlotsGrow b b :=
  ⟨fun _ => id, fun _ => id, fun _ => id, fun _ => id, fun _ => id, fun _ => id, fun _ => id,
    fun _ => id, fun _ => id⟩

/-- Once a regular field is kept, only a `host` can still fill the authority. -/
theorem kind_eq_host_of_authority_accept {b : Block} {size : Nat} {f : Field}
    (he : b.fields.isEmpty = false) (hnone : b.authority = none)
    (hset : ({ b with size }.accept f).authority ≠ none) : f.kind = .host := by
  rw [authority_accept] at hset
  have hconflict := pseudoConflict?_ne_none (k := .authority) (.inl he)
  split at hset
  · next hcond =>
    rcases hcond with ⟨-, hfree⟩ | ⟨hsup, -⟩
    · exact absurd hfree hconflict
    · simp only [Field.suppliesHost, Bool.and_eq_true, beq_iff_eq] at hsup
      exact hsup.1
  · exact absurd hnone hset

/-! ## The flags follow the slots -/

/-- The flags of a block follow its slots: `response` says whether the status is set, and
`request` whether a method, a scheme or a path is set or an `:authority` was accepted, which
`accepted` records. -/
structure FlagsFollow (accepted : Bool) (b : Block) : Prop where
  response_eq : b.response = b.status.isSome
  request_iff : b.request = true ↔
    b.method.isSome = true ∨ b.scheme.isSome = true ∨ b.path.isSome = true ∨ accepted = true

theorem flagsFollow_empty : FlagsFollow false ({} : Block) :=
  ⟨rfl, by simp⟩

/-- Taking a field keeps the flags following the slots, with an `:authority` that commits no
violation recorded as accepted. -/
theorem flagsFollow_accept {accepted : Bool} {b : Block} (h : FlagsFollow accepted b)
    (size : Nat) (f : Field) :
    FlagsFollow (accepted || f.kind == .authority && (b.committed? f).isNone)
      ({ b with size }.accept f) := by
  obtain ⟨hresp, hreq⟩ := h
  constructor
  · rw [response_accept, status_accept, pseudoConflict?_withSize, committed?_withSize]
    by_cases hk : f.kind = .status
    · cases hpc : b.pseudoConflict? .status with
      | some v => simp [hk, hpc, committed?, hresp]
      | none =>
        -- the slot is free, so the block had not answered yet
        have hfree : b.status = none := by
          simpa [hasPseudo] using (pseudoConflict?_eq_none.1 hpc).2
        cases hv : f.statusValue? <;> simp [hk, hpc, hv, committed?, hresp, hfree]
    · have hs : (f.kind == .status) = false := by simpa using hk
      simpa [hk, hs] using hresp
  · rw [request_accept, method_accept, scheme_accept, path_accept, pseudoConflict?_withSize,
      pseudoConflict?_withSize, pseudoConflict?_withSize, committed?_withSize]
    cases hk : f.kind
    case method | scheme | path =>
      cases hpc : b.pseudoConflict? f.kind <;> rw [hk] at hpc <;>
        simp [hk, hpc, committed?, hreq, Field.Kind.isRequest]
    case authority => simp [hreq, or_assoc, Field.Kind.isRequest]
    all_goals simp [hreq, Field.Kind.isRequest]

end Block

namespace Builder

/-- Whether a step is an `:authority` field accepted into its slot: emitted, admitted by the
budget, and committing no violation. -/
def Step.acceptsAuthority (b : Builder) : Step → Bool
  | .emit f => f.kind == .authority && (b.step (.emit f)).2.isOk && (b.block.committed? f).isNone
  | _ => false

/-- Whether an `:authority` field was accepted since the last build or reset, along a run from
`b`, given `accepted` for the block the run starts in. -/
def authorityAccepted (b : Builder) (accepted : Bool) : List Step → Bool
  | [] => accepted
  | s :: ss =>
    (b.step s).1.authorityAccepted (!s.endsBlock && (accepted || s.acceptsAuthority b)) ss

theorem step_emit_eq (b : Builder) (f : Field) :
    b.step (.emit f) =
      if addSat b.size f.size > b.maxSize then
        (b, .error (.session (.headerTooLarge (addSat b.size f.size) b.maxSize)))
      else
        ({ b with block := { b.block with size := addSat b.size f.size }.accept f }, .ok none) := by
  rw [step, emit_eq]
  split <;> rfl

/-- An undecodable field leaves the block as it was or only records a violation in it. -/
theorem step_emitUndecodable_block (b : Builder) (name value : List UInt8) :
    (b.step (.emitUndecodable name value)).1.block = b.block ∨
      ∃ size v,
        (b.step (.emitUndecodable name value)).1.block = { b.block with size }.record v := by
  simp only [step, settle_fst, emitUndecodable]
  rw [chargeThen_eq]
  split
  · exact .inl rfl
  · exact .inr ⟨_, _, rfl⟩

/-- One step inside a block only grows its slots, and once a regular field is kept only a `host`
fills the authority. -/
theorem slotsGrow_step (b : Builder) {s : Step} (hs : s.endsBlock = false) :
    Block.SlotsGrow b.block (b.step s).1.block ∧
      (b.block.fields.isEmpty = false → b.block.authority = none →
        (b.step s).1.block.authority ≠ none → ∃ f, s = .emit f ∧ f.kind = .host) := by
  cases s with
  | emit f =>
    rw [step_emit_eq]
    split
    · exact ⟨Block.slotsGrow_refl _, fun _ hnone hset => absurd hnone hset⟩
    · exact ⟨Block.slotsGrow_accept _ _ f,
        fun he hnone hset => ⟨f, rfl, Block.kind_eq_host_of_authority_accept he hnone hset⟩⟩
  | emitUndecodable name value =>
    rcases step_emitUndecodable_block b name value with h | ⟨size, v, h⟩ <;> rw [h]
    · exact ⟨Block.slotsGrow_refl _, fun _ hnone hset => absurd hnone hset⟩
    · exact ⟨Block.slotsGrow_record _ _ _, fun _ hnone hset => absurd hnone hset⟩
  | checkSize length huffman =>
    rw [step_checkSize_fst]
    exact ⟨Block.slotsGrow_refl _, fun _ hnone hset => absurd hnone hset⟩
  | build => cases hs
  | reset => cases hs

/-- A `host` never raises the request flag, whether or not it fills the authority. -/
theorem request_step_host (b : Builder) {f : Field} (hk : f.kind = .host) :
    (b.step (.emit f)).1.block.request = b.block.request := by
  rw [step_emit_eq]
  split
  · rfl
  · simp [Block.request_accept, hk, Field.Kind.isRequest]

theorem flagsFollow_step {accepted : Bool} {b : Builder} (h : Block.FlagsFollow accepted b.block)
    (s : Step) :
    Block.FlagsFollow (!s.endsBlock && (accepted || s.acceptsAuthority b)) (b.step s).1.block := by
  cases s with
  | emit f =>
    simp only [Step.acceptsAuthority, Step.endsBlock, Bool.not_false, Bool.true_and]
    rw [step_emit_eq]
    split
    · simpa [Except.isOk, Except.toBool] using h
    · simpa [Except.isOk, Except.toBool] using Block.flagsFollow_accept h _ f
  | emitUndecodable name value =>
    simp only [Step.acceptsAuthority, Step.endsBlock, Bool.not_false, Bool.true_and, Bool.or_false]
    rcases step_emitUndecodable_block b name value with hb | ⟨size, v, hb⟩ <;> rw [hb]
    · exact h
    · exact ⟨h.response_eq, h.request_iff⟩
  | checkSize length huffman => simpa [Step.acceptsAuthority, Step.endsBlock] using h
  | build => simpa [Step.endsBlock] using Block.flagsFollow_empty
  | reset => simpa [Step.endsBlock] using Block.flagsFollow_empty

theorem flagsFollow_exec (ss : List Step) :
    ∀ {b : Builder} {accepted : Bool}, Block.FlagsFollow accepted b.block →
      Block.FlagsFollow (b.authorityAccepted accepted ss) (b.exec ss).block := by
  induction ss with
  | nil => intro b accepted h; exact h
  | cons s ss ih => intro b accepted h; exact ih (flagsFollow_step h s)

/-- At every state a run from a fresh builder reaches: `response` says whether the status is set,
and `request` whether a method, a scheme or a path is set or an `:authority` was accepted since
the block began, so an authority taken from `host` never makes a request. And every further step
inside the block keeps each set slot at its value, fills no slot but the authority once a regular
field is kept, and then fills the authority only from a `host`, which never raises the request
flag. -/
theorem pseudo_slots_fill_once (m : Nat) (ss : List Step) :
    let b := (new m).exec ss
    b.block.response = b.block.status.isSome ∧
      (b.block.request = true ↔ b.block.method.isSome = true ∨ b.block.scheme.isSome = true ∨
        b.block.path.isSome = true ∨ (new m).authorityAccepted false ss = true) ∧
      ∀ s, s.endsBlock = false →
        Block.SlotsGrow b.block (b.step s).1.block ∧
          (b.block.fields.isEmpty = false → b.block.authority = none →
            (b.step s).1.block.authority ≠ none → ∃ f, s = .emit f ∧ f.kind = .host) ∧
          ∀ f, s = .emit f → f.kind = .host → (b.step s).1.block.request = b.block.request := by
  intro b
  obtain ⟨hresp, hreq⟩ := flagsFollow_exec ss (b := new m) Block.flagsFollow_empty
  refine ⟨hresp, hreq, fun s hs => ⟨(slotsGrow_step b hs).1, (slotsGrow_step b hs).2, ?_⟩⟩
  rintro f rfl hk
  exact request_step_host b hk

end Builder

end Http2Headers
