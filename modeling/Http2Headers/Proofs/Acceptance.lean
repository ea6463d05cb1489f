import Http2Headers.Proofs.WellFormed
import Http2Headers.Proofs.Run

/-!
# Which header blocks build

A block that has recorded no violation knows exactly what the fields it has taken were: whether
any was regular, which pseudo headers came, whether an authority was supplied, and which flags
they raised (`Tracks`). One field then records a violation exactly when it does not fit the
fields before it (`error_accept_eq_none`), and a block that stays clean keeps tracking
(`tracks_accept`).

So, over the emits of one block, counting those the budget admits, `build` succeeds exactly when
the admitted fields are well formed (`build_ok_iff_wellFormed`).
-/

namespace Http2Headers

@[simp] theorem FieldSection.isEmpty_push (s : FieldSection) (line : FieldLine) :
    (s.push line).isEmpty = false := by
  simp [push, isEmpty]

namespace Block

/-! ## One field -/

@[simp] theorem error_record_ne_none (b : Block) (v : Violation) : (b.record v).error ≠ none := by
  simp [record]

@[simp] theorem error_keep (b : Block) (f : Field) : (b.keep f).error = b.error := rfl

@[simp] theorem fields_keep (b : Block) (f : Field) : (b.keep f).fields = b.fields.push f.toLine :=
  rfl

/-- A pseudo header whose slot may still be filled is filled. -/
theorem claimPseudo_of_free {b : Block} {k : Field.Kind} {fill : Block → Block}
    (hfields : b.fields.isEmpty = true) (hfree : b.hasPseudo k = false) :
    b.claimPseudo k fill = fill b := by
  simp [claimPseudo, pseudoConflict?, hfields, hfree]

/-- A pseudo header records nothing exactly when no regular field came, the slot is free, and
filling it records nothing. -/
theorem error_claimPseudo_eq_none {b : Block} {k : Field.Kind} {fill : Block → Block} :
    (b.claimPseudo k fill).error = none ↔
      b.fields.isEmpty = true ∧ b.hasPseudo k = false ∧ (fill b).error = none := by
  cases hfields : b.fields.isEmpty <;> cases hfree : b.hasPseudo k <;>
    simp [claimPseudo, pseudoConflict?, hfields, hfree]

/-- Once a violation is recorded, no field takes it back. -/
theorem error_accept_ne_none {b : Block} (f : Field) (h : b.error ≠ none) :
    (b.accept f).error ≠ none := by
  have hclaim : ∀ {k fill}, (∀ b', b'.error ≠ none → (fill b').error ≠ none) →
      (b.claimPseudo k fill).error ≠ none := by
    intro k fill hfill
    unfold claimPseudo
    split
    · exact error_record_ne_none _ _
    · exact hfill b h
  unfold accept
  split
  · exact hclaim fun b' hb' => by split <;> simp_all [invalid]
  · exact hclaim fun b' hb' => hb'
  · exact hclaim fun b' hb' => hb'
  · exact hclaim fun b' hb' => by split <;> simp_all [invalid]
  · exact hclaim fun b' hb' => hb'
  · simp only [error_keep]
    split
    · split <;> simp_all [invalid]
    · exact h
  · split <;> simp_all [invalid]
  · split <;> simp_all
  · simp
  · split <;> simp_all

/-! ## What a clean block knows -/

/-- What a block that has recorded no violation knows of the fields it has taken, `taken`:
whether a regular field came, which pseudo header slots are set, whether an authority was
supplied, by `:authority` or by a `host` with a value, and which of request and response was
seen. -/
structure Tracks (taken : List Field) (b : Block) : Prop where
  error_eq : b.error = none
  fields_isEmpty : b.fields.isEmpty = true ↔ ∀ g ∈ taken, g.kind.isRegular = false
  status_eq_none : b.status = none ↔ ∀ g ∈ taken, g.kind ≠ .status
  status_eq_some : ∀ code, b.status = some code ↔
    ∃ g ∈ taken, g.kind = .status ∧ g.statusValue? = some code
  method_eq_none : b.method = none ↔ ∀ g ∈ taken, g.kind ≠ .method
  scheme_eq_none : b.scheme = none ↔ ∀ g ∈ taken, g.kind ≠ .scheme
  path_eq_none : b.path = none ↔ ∀ g ∈ taken, g.kind ≠ .path
  authority_eq_none : b.authority = none ↔
    ∀ g ∈ taken, g.kind ≠ .authority ∧ g.suppliesHost = false
  request_eq : b.request = true ↔ ∃ g ∈ taken, g.kind.isRequest = true
  response_eq : b.response = true ↔ ∃ g ∈ taken, g.kind = .status

theorem tracks_empty : Tracks [] ({} : Block) :=
  ⟨rfl, by simp [FieldSection.isEmpty], by simp, by simp, by simp, by simp, by simp, by simp,
    by simp, by simp⟩

/-- With no regular field taken, no `host` was either. -/
theorem not_suppliesHost_of_not_regular {taken : List Field}
    (h : ∀ g ∈ taken, g.kind.isRegular = false) : ∀ g ∈ taken, g.suppliesHost = false := by
  intro g hg
  cases hs : g.suppliesHost
  · rfl
  · have := Field.isRegular_of_suppliesHost hs
    simp [h g hg] at this

/-- One field keeps a clean block clean exactly when it fits the fields taken before it. -/
theorem error_accept_eq_none {taken : List Field} {b : Block} {f : Field} (h : Tracks taken b) :
    (b.accept f).error = none ↔ Fits taken f := by
  rw [fits_iff]
  cases hk : f.kind with
  | status =>
    cases hs : f.statusValue? <;>
      simp [accept, hk, hs, error_claimPseudo_eq_none, hasPseudo, invalid, h.error_eq,
        h.fields_isEmpty, h.status_eq_none, Field.Kind.isPseudo, Field.suppliesHost]
  | method =>
    simp [accept, hk, error_claimPseudo_eq_none, hasPseudo, h.error_eq, h.fields_isEmpty,
      h.method_eq_none, Field.Kind.isPseudo, Field.suppliesHost]
  | scheme =>
    simp [accept, hk, error_claimPseudo_eq_none, hasPseudo, h.error_eq, h.fields_isEmpty,
      h.scheme_eq_none, Field.Kind.isPseudo, Field.suppliesHost]
  | path =>
    simp [accept, hk, error_claimPseudo_eq_none, hasPseudo, h.error_eq, h.fields_isEmpty,
      h.path_eq_none, Field.Kind.isPseudo, Field.suppliesHost]
  | authority =>
    have hsup : f.suppliesHost = false := by simp [Field.suppliesHost, hk]
    cases ha : f.authorityValue? with
    | none =>
      simp [accept, hk, ha, hsup, error_claimPseudo_eq_none, hasPseudo, invalid,
        h.fields_isEmpty, Field.Kind.isPseudo]
    | some a =>
      simp only [accept, hk, ha, hsup, error_claimPseudo_eq_none, hasPseudo, h.error_eq,
        h.fields_isEmpty, Option.isSome_eq_false_iff, Option.isNone_iff_eq_none, h.authority_eq_none]
      simp [Field.Kind.isPseudo]
      -- with no regular field before it, no `host` can have supplied the authority
      intro hreg
      exact ⟨fun hall g hg => (hall g hg).1,
        fun hall g hg => ⟨hall g hg, not_suppliesHost_of_not_regular hreg g hg⟩⟩
  | host =>
    have hsup : f.suppliesHost = f.value.isSome := by simp [Field.suppliesHost, hk]
    by_cases hauth : b.authority = none
    · -- no authority yet: this `host` supplies it, so a value it has must read
      have hnone := h.authority_eq_none.1 hauth
      cases hv : f.value with
      | none => simp [accept, hk, hv, hauth, hsup, h.error_eq, Field.Kind.isPseudo]
      | some v =>
        cases ha : f.authorityValue? with
        | none =>
          simp [accept, hk, hv, ha, hauth, hsup, invalid, Field.Kind.isPseudo]
          exact hnone
        | some a => simp [accept, hk, hv, ha, hauth, hsup, h.error_eq, Field.Kind.isPseudo]
    · -- an authority was supplied before: the `host` is only kept
      have hsome : ¬ ∀ g ∈ taken, g.kind ≠ .authority ∧ g.suppliesHost = false :=
        mt h.authority_eq_none.2 hauth
      simp [accept, hk, hauth, hsup, h.error_eq, Field.Kind.isPseudo, hsome]
  | contentLength =>
    cases hc : f.contentLengthValue? <;>
      simp [accept, hk, hc, invalid, h.error_eq, Field.Kind.isPseudo, Field.suppliesHost]
  | te =>
    cases ht : Text.eqIgnoreAsciiCase f.valueText "trailers" <;>
      simp [accept, hk, ht, h.error_eq, Field.Kind.isPseudo, Field.suppliesHost]
  | connection => simp [accept, hk]
  | other =>
    by_cases hn : f.name.toList.head? = some ':' <;>
      simp [accept, hk, hn, h.error_eq, Field.Kind.isPseudo, Field.suppliesHost]

/-- A pseudo header that fits finds no regular field before it. -/
theorem Fits.fields_isEmpty {taken : List Field} {b : Block} {f : Field} (h : Tracks taken b)
    (hf : Fits taken f) (hp : f.kind.isPseudo = true) : b.fields.isEmpty = true :=
  h.fields_isEmpty.2 fun g hg => by
    cases hr : g.kind.isRegular
    · rfl
    · simp [hf.pseudo_first g hg hr] at hp

/-- A pseudo header that fits finds its slot free. -/
theorem Fits.hasPseudo_eq_false {taken : List Field} {b : Block} {f : Field} (h : Tracks taken b)
    (hf : Fits taken f) (hp : f.kind.isPseudo = true) : b.hasPseudo f.kind = false := by
  have hnot : ∀ g ∈ taken, g.kind ≠ f.kind := fun g hg heq => by
    simp [hf.pseudo_once g hg heq] at hp
  have hreg := h.fields_isEmpty.1 (hf.fields_isEmpty h hp)
  cases hk : f.kind <;> rw [hk] at hnot hp
  · simpa [hasPseudo] using h.status_eq_none.2 hnot
  · simpa [hasPseudo] using h.method_eq_none.2 hnot
  · simpa [hasPseudo] using h.scheme_eq_none.2 hnot
  · simpa [hasPseudo] using
      h.authority_eq_none.2 fun g hg => ⟨hnot g hg, not_suppliesHost_of_not_regular hreg g hg⟩
  · simpa [hasPseudo] using h.path_eq_none.2 hnot
  all_goals simp [Field.Kind.isPseudo] at hp

/-- What taking the field `f` did to what `Tracks` reads of a block, from `b` to `b'`: the
error is kept, the fields are non-empty once a regular one came, a slot is empty while no field of
its kind came, and each flag is raised by the first field of its side. -/
structure Takes (b : Block) (f : Field) (b' : Block) : Prop where
  error_eq : b'.error = b.error
  fields_isEmpty : b'.fields.isEmpty = (b.fields.isEmpty && !f.kind.isRegular)
  status_eq_none : b'.status = none ↔ b.status = none ∧ f.kind ≠ .status
  status_eq_some : ∀ code, b'.status = some code ↔
    b.status = some code ∨ f.kind = .status ∧ f.statusValue? = some code
  method_eq_none : b'.method = none ↔ b.method = none ∧ f.kind ≠ .method
  scheme_eq_none : b'.scheme = none ↔ b.scheme = none ∧ f.kind ≠ .scheme
  path_eq_none : b'.path = none ↔ b.path = none ∧ f.kind ≠ .path
  authority_eq_none : b'.authority = none ↔
    b.authority = none ∧ f.kind ≠ .authority ∧ f.suppliesHost = false
  request_eq : b'.request = (b.request || f.kind.isRequest)
  response_eq : b'.response = (b.response || f.kind == .status)

/-- The running size is no part of what a block tracks. -/
theorem Tracks.withSize {taken : List Field} {b : Block} (h : Tracks taken b) (size : Nat) :
    Tracks taken { b with size } :=
  ⟨h.error_eq, h.fields_isEmpty, h.status_eq_none, h.status_eq_some, h.method_eq_none,
    h.scheme_eq_none, h.path_eq_none, h.authority_eq_none, h.request_eq, h.response_eq⟩

/-- A block that tracked `taken` and then took `f` tracks `taken ++ [f]`: each fact of `Takes`
is the fact of `Tracks` over `taken`, extended by the last field. -/
theorem Tracks.takes {taken : List Field} {b b' : Block} {f : Field} (h : Tracks taken b)
    (ht : Takes b f b') : Tracks (taken ++ [f]) b' := by
  refine ⟨ht.error_eq ▸ h.error_eq, ?_, ?_, fun code => ?_, ?_, ?_, ?_, ?_, ?_, ?_⟩
  · rw [ht.fields_isEmpty, Bool.and_eq_true, h.fields_isEmpty, forall_mem_append_singleton,
      Bool.not_eq_true']
  · rw [ht.status_eq_none, h.status_eq_none, forall_mem_append_singleton]
  · rw [ht.status_eq_some, h.status_eq_some, exists_mem_append_singleton]
  · rw [ht.method_eq_none, h.method_eq_none, forall_mem_append_singleton]
  · rw [ht.scheme_eq_none, h.scheme_eq_none, forall_mem_append_singleton]
  · rw [ht.path_eq_none, h.path_eq_none, forall_mem_append_singleton]
  · rw [ht.authority_eq_none, h.authority_eq_none, forall_mem_append_singleton]
  · rw [ht.request_eq, Bool.or_eq_true, h.request_eq, exists_mem_append_singleton]
  · rw [ht.response_eq, Bool.or_eq_true, h.response_eq, exists_mem_append_singleton, beq_iff_eq]

/-- What a field that fits does to a clean block, kind by kind. -/
theorem takes_accept {taken : List Field} {b : Block} {f : Field} (h : Tracks taken b)
    (hf : Fits taken f) : Takes b f (b.accept f) := by
  have hfree := hf.hasPseudo_eq_false h
  have hempty := hf.fields_isEmpty h
  cases hk : f.kind with
  | status =>
    have hp : f.kind.isPseudo = true := by rw [hk]; rfl
    obtain ⟨code, hcode⟩ := Option.isSome_iff_exists.1 (hf.status_reads hk)
    have hnone : b.status = none := by
      have hfree' := hfree hp
      rw [hk] at hfree'
      simpa [hasPseudo] using hfree'
    have hb : b.accept f = { b with status := some code, response := true } := by
      simp only [accept, hk]
      rw [claimPseudo_of_free (hempty hp) (hk ▸ hfree hp)]
      simp [hcode]
    rw [hb]
    refine ⟨rfl, ?_, ?_, ?_, ?_, ?_, ?_, ?_, ?_, ?_⟩ <;>
      simp +decide [hk, hnone, hcode, Field.suppliesHost]
  | method =>
    have hp : f.kind.isPseudo = true := by rw [hk]; rfl
    have hb : b.accept f = { b with method := some f.valueText, request := true } := by
      simp only [accept, hk]
      rw [claimPseudo_of_free (hempty hp) (hk ▸ hfree hp)]
    rw [hb]
    refine ⟨rfl, ?_, ?_, ?_, ?_, ?_, ?_, ?_, ?_, ?_⟩ <;> simp +decide [hk, Field.suppliesHost]
  | scheme =>
    have hp : f.kind.isPseudo = true := by rw [hk]; rfl
    have hb : b.accept f = { b with scheme := some f.schemeValue, request := true } := by
      simp only [accept, hk]
      rw [claimPseudo_of_free (hempty hp) (hk ▸ hfree hp)]
    rw [hb]
    refine ⟨rfl, ?_, ?_, ?_, ?_, ?_, ?_, ?_, ?_, ?_⟩ <;> simp +decide [hk, Field.suppliesHost]
  | authority =>
    have hp : f.kind.isPseudo = true := by rw [hk]; rfl
    obtain ⟨a, ha⟩ := Option.isSome_iff_exists.1 (hf.authority_reads hk)
    have hb : b.accept f = { b with authority := some a, request := true } := by
      simp only [accept, hk]
      rw [claimPseudo_of_free (hempty hp) (hk ▸ hfree hp)]
      simp [ha]
    rw [hb]
    refine ⟨rfl, ?_, ?_, ?_, ?_, ?_, ?_, ?_, ?_, ?_⟩ <;> simp +decide [hk, Field.suppliesHost]
  | path =>
    have hp : f.kind.isPseudo = true := by rw [hk]; rfl
    have hb : b.accept f = { b with path := some f.valueText, request := true } := by
      simp only [accept, hk]
      rw [claimPseudo_of_free (hempty hp) (hk ▸ hfree hp)]
    rw [hb]
    refine ⟨rfl, ?_, ?_, ?_, ?_, ?_, ?_, ?_, ?_, ?_⟩ <;> simp +decide [hk, Field.suppliesHost]
  | host =>
    have hsup : f.suppliesHost = f.value.isSome := by simp [Field.suppliesHost, hk]
    by_cases hfill : b.authority = none ∧ f.value.isSome = true
    · -- the first `host` with a value fills the authority, and it reads by `Fits`
      have hreads := hf.host_reads (hsup ▸ hfill.2) (h.authority_eq_none.1 hfill.1)
      obtain ⟨a, ha⟩ := Option.isSome_iff_exists.1 hreads
      have hb : b.accept f = { b with authority := some a }.keep f := by
        simp only [accept, hk]
        simp [hfill.1, hfill.2, ha]
      rw [hb]
      refine ⟨rfl, ?_, ?_, ?_, ?_, ?_, ?_, ?_, ?_, ?_⟩ <;> simp +decide [hk, hsup, hfill.2, keep]
    · have hb : b.accept f = b.keep f := by
        simp only [accept, hk]
        simp only [Option.isNone_iff_eq_none, Bool.and_eq_true] at hfill ⊢
        rw [if_neg hfill]
      rw [hb]
      refine ⟨rfl, ?_, ?_, ?_, ?_, ?_, ?_, ?_, ?_, ?_⟩ <;> simp +decide [hk, hsup, keep]
      exact fun hnone => by simpa using mt (And.intro hnone) hfill
  | contentLength =>
    obtain ⟨n, hn⟩ := Option.isSome_iff_exists.1 (hf.content_length_reads hk)
    have hb : b.accept f = { b with contentLength := some n }.keep f := by
      simp only [accept, hk]
      simp [hn]
    rw [hb]
    refine ⟨rfl, ?_, ?_, ?_, ?_, ?_, ?_, ?_, ?_, ?_⟩ <;> simp +decide [hk, Field.suppliesHost, keep]
  | te =>
    have hb : b.accept f = b.keep f := by
      simp only [accept, hk]
      simp [hf.te_trailers hk]
    rw [hb]
    refine ⟨rfl, ?_, ?_, ?_, ?_, ?_, ?_, ?_, ?_, ?_⟩ <;> simp +decide [hk, Field.suppliesHost, keep]
  | connection => exact absurd hk hf.no_connection
  | other =>
    have hb : b.accept f = b.keep f := by
      simp only [accept, hk]
      simp [hf.no_unknown_pseudo hk]
    rw [hb]
    refine ⟨rfl, ?_, ?_, ?_, ?_, ?_, ?_, ?_, ?_, ?_⟩ <;> simp +decide [hk, Field.suppliesHost, keep]

/-- A block builds exactly when it recorded no violation and did not see both a request pseudo
header and a status. -/
theorem finish_ok_iff (b : Block) :
    (∃ m, b.finish = .ok m) ↔ b.error = none ∧ ¬(b.request = true ∧ b.response = true) := by
  unfold finish
  cases he : b.error with
  | some e => simp
  | none =>
    by_cases hmixed : b.request = true ∧ b.response = true
    · simp [hmixed]
    · have hm : (b.request && b.response) = false := by simpa using hmixed
      simp only [hm, Bool.false_eq_true, if_false]
      refine iff_of_true ?_ ⟨trivial, hmixed⟩
      split
      · exact ⟨_, rfl⟩
      · split <;> exact ⟨_, rfl⟩

end Block

namespace Builder

/-- The fields of `fs` that the budget admits when they are emitted in order from `b`. -/
def fitting (b : Builder) : List Field → List Field
  | [] => []
  | f :: fs =>
    match b.emit f with
    | (b', .ok ()) => f :: b'.fitting fs
    | (b', .error _) => b'.fitting fs

theorem emit_eq (b : Builder) (f : Field) :
    b.emit f =
      if addSat b.size f.size > b.maxSize then
        (b, .error (.headerTooLarge (addSat b.size f.size) b.maxSize))
      else ({ b with block := { b.block with size := addSat b.size f.size }.accept f }, .ok ()) :=
  chargeThen_eq b f.size _

/-- Emits never take back a violation. -/
theorem error_exec_emits_ne_none (fs : List Field) :
    ∀ {b : Builder}, b.block.error ≠ none → (b.exec (fs.map .emit)).block.error ≠ none := by
  induction fs with
  | nil => exact id
  | cons f fs ih =>
    intro b h
    refine ih ?_
    simp only [step, settle_fst, emit_eq]
    split
    · exact h
    · exact Block.error_accept_ne_none f h

/-- Over the emits of a block that tracked `taken`: the block ends clean exactly when `taken`
followed by the fields the budget admits is admissible, and then it tracks them all. -/
theorem emits_tracks (fs : List Field) :
    ∀ {b : Builder} {taken : List Field}, Block.Tracks taken b.block → Block.Admissible taken →
      ((b.exec (fs.map .emit)).block.error = none ↔
          Block.Admissible (taken ++ b.fitting fs)) ∧
        (Block.Admissible (taken ++ b.fitting fs) →
          Block.Tracks (taken ++ b.fitting fs) (b.exec (fs.map .emit)).block) := by
  induction fs with
  | nil =>
    intro b taken h ha
    simp only [List.map_nil, exec_nil, fitting, List.append_nil]
    exact ⟨iff_of_true h.error_eq ha, fun _ => h⟩
  | cons f fs ih =>
    intro b taken h ha
    simp only [List.map_cons, exec_cons, step, settle_fst, fitting]
    rw [emit_eq]
    by_cases hfit : addSat b.size f.size > b.maxSize
    · -- refused by the budget: neither the block nor the admitted fields change
      simp only [if_pos hfit]
      exact ih h ha
    · simp only [if_neg hfit]
      have hsized := h.withSize (addSat b.size f.size)
      rw [← List.singleton_append, ← List.append_assoc]
      by_cases hf : Block.Fits taken f
      · -- the field fits: the block stays clean and tracks it
        exact ih (hsized.takes (Block.takes_accept hsized hf))
          (Block.admissible_append_singleton.2 ⟨ha, hf⟩)
      · -- the field records a violation, and no later field takes it back
        have herr := mt (Block.error_accept_eq_none hsized).1 hf
        have hnot : ∀ after, ¬ Block.Admissible (taken ++ [f] ++ after) := fun _ hA =>
          hf (Block.admissible_append_singleton.1 hA.of_append).2
        exact ⟨iff_of_false (error_exec_emits_ne_none fs herr) (hnot _),
          fun hA => absurd hA (hnot _)⟩

/-- Over the emits of one block, from a builder just made, built or reset, and counting only the
fields the budget admits: `build` succeeds exactly when those fields are well formed. -/
theorem build_ok_iff_wellFormed (b : Builder) (fs : List Field) :
    (∃ m, ((b.reset.exec (fs.map .emit)).build).2 = .ok m) ↔
      Block.WellFormed (b.reset.fitting fs) := by
  obtain ⟨hclean, htracks⟩ := emits_tracks fs (b := b.reset) Block.tracks_empty Block.admissible_nil
  simp only [List.nil_append] at hclean htracks
  rw [build_snd, Block.finish_ok_iff]
  constructor
  · rintro ⟨he, hmixed⟩
    have hA := hclean.1 he
    have ht := htracks hA
    refine ⟨hA, fun hstatus g hg => ?_⟩
    cases hreq : g.kind.isRequest
    · rfl
    · exact absurd ⟨ht.request_eq.2 ⟨g, hg, hreq⟩, ht.response_eq.2 hstatus⟩ hmixed
  · intro hW
    have ht := htracks hW.toAdmissible
    refine ⟨hclean.2 hW.toAdmissible, fun ⟨hreq, hresp⟩ => ?_⟩
    obtain ⟨g, hg, hgreq⟩ := ht.request_eq.1 hreq
    have := hW.not_mixed (ht.response_eq.1 hresp) g hg
    rw [hgreq] at this
    cases this

end Builder

end Http2Headers
