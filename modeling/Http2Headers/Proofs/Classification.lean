import Http2Headers.Proofs.Acceptance

/-!
# What a built block is

A block that builds is a request, a response or generic by its slots, not by the flags its
mixed check reads (`finish_ok_kind`): a request when a request pseudo header was taken or a `host`
with a value supplied the authority; else a response carrying the status that was taken; else
generic. So an authority taken from `host` makes a request of a block without any request pseudo
header, and of a block with a `:status`, whose status is then dropped; only without such a `host`
does the kind follow the pseudo headers alone (`built_metadata_kind`).
-/

namespace Http2Headers

namespace Field.Kind

theorem isPseudo_eq_false {k : Kind} :
    k.isPseudo = false ↔ k ≠ .status ∧ k.isRequest = false := by
  cases k <;> simp [isPseudo, isRequest]

end Field.Kind

namespace Block

/-- What a block that builds is, read off its slots: a request exactly when a request slot is
set; a response with status `code` exactly when none is and the status slot holds `code`;
generic exactly when no slot is set. -/
theorem finish_ok_kind {b : Block} {m : Metadata} (hm : b.finish = .ok m) :
    m.isRequest = b.hasRequestSlot ∧
      (∀ code, (∃ r, m = .response r ∧ r.status = code) ↔
        b.hasRequestSlot = false ∧ b.status = some code) ∧
      ((∃ g, m = .generic g) ↔ b.hasRequestSlot = false ∧ b.status = none) := by
  unfold finish at hm
  cases he : b.error with
  | some e => rw [he] at hm; cases hm
  | none =>
    rw [he] at hm
    by_cases hmixed : (b.request && b.response) = true
    · rw [if_pos hmixed] at hm
      cases hm
    rw [if_neg hmixed] at hm
    by_cases hslot : b.hasRequestSlot = true
    · rw [if_pos hslot] at hm
      cases hm
      exact ⟨hslot.symm, fun code => by simp [hslot], by simp [hslot]⟩
    rw [if_neg hslot] at hm
    have hnoslot : b.hasRequestSlot = false := by simpa using hslot
    cases hs : b.status with
    | some c =>
      rw [hs] at hm
      cases hm
      exact ⟨hnoslot.symm, fun code => by simp [hnoslot], by simp⟩
    | none =>
      rw [hs] at hm
      cases hm
      exact ⟨hnoslot.symm, fun code => by simp, by simp [hnoslot]⟩

/-- A clean block has no request slot set exactly when neither a request pseudo header nor a
`host` with a value was taken. -/
theorem Tracks.hasRequestSlot_eq_false {taken : List Field} {b : Block} (h : Tracks taken b) :
    b.hasRequestSlot = false ↔
      ∀ f ∈ taken, f.kind.isRequest = false ∧ f.suppliesHost = false := by
  simp only [hasRequestSlot, Bool.or_eq_false_iff, Option.isSome_eq_false_iff,
    Option.isNone_iff_eq_none, h.method_eq_none, h.path_eq_none, h.authority_eq_none,
    h.scheme_eq_none]
  constructor
  · rintro ⟨⟨⟨hm, hp⟩, ha⟩, hs⟩ f hf
    refine ⟨?_, (ha f hf).2⟩
    cases hk : f.kind
    case method => exact absurd hk (hm f hf)
    case scheme => exact absurd hk (hs f hf)
    case authority => exact absurd hk (ha f hf).1
    case path => exact absurd hk (hp f hf)
    all_goals rfl
  · intro hall
    have hne : ∀ f ∈ taken, ∀ k : Field.Kind, k.isRequest = true → f.kind ≠ k :=
      fun f hf k hk heq => by
        have hreq := (hall f hf).1
        rw [heq, hk] at hreq
        cases hreq
    exact ⟨⟨⟨fun f hf => hne f hf .method rfl, fun f hf => hne f hf .path rfl⟩,
      fun f hf => ⟨hne f hf .authority rfl, (hall f hf).2⟩⟩, fun f hf => hne f hf .scheme rfl⟩

/-- A clean block has a request slot set exactly when a request pseudo header or a `host` with a
value was taken. -/
theorem Tracks.hasRequestSlot_eq_true {taken : List Field} {b : Block} (h : Tracks taken b) :
    b.hasRequestSlot = true ↔
      ∃ f ∈ taken, f.kind.isRequest = true ∨ f.suppliesHost = true := by
  constructor
  · intro hslot
    refine Classical.byContradiction fun hno => ?_
    have hall : ∀ f ∈ taken, f.kind.isRequest = false ∧ f.suppliesHost = false :=
      fun f hf => by simpa using fun hk => hno ⟨f, hf, hk⟩
    rw [h.hasRequestSlot_eq_false.2 hall] at hslot
    cases hslot
  · rintro ⟨f, hf, hk⟩
    cases hslot : b.hasRequestSlot
    · have hall := h.hasRequestSlot_eq_false.1 hslot f hf
      simp [hall.1, hall.2] at hk
    · rfl

/-- The kind of a block that builds, read off the fields it took: a request exactly when a
request pseudo header or a `host` with a value was taken; a response with a status exactly when
that status was taken and no `host` with a value; generic exactly when neither a pseudo header
nor a `host` with a value was taken. -/
theorem Tracks.finish_kind {taken : List Field} {b : Block} (h : Tracks taken b) {m : Metadata}
    (hm : b.finish = .ok m) :
    (m.isRequest = true ↔ ∃ f ∈ taken, f.kind.isRequest = true ∨ f.suppliesHost = true) ∧
      (∀ code, (∃ r, m = .response r ∧ r.status = code) ↔
        (∃ f ∈ taken, f.kind = .status ∧ f.statusValue? = some code) ∧
          ∀ f ∈ taken, f.suppliesHost = false) ∧
      ((∃ g, m = .generic g) ↔ ∀ f ∈ taken, f.kind.isPseudo = false ∧ f.suppliesHost = false) := by
  obtain ⟨hreq, hresp, hgen⟩ := finish_ok_kind hm
  have hmixed := ((finish_ok_iff b).1 ⟨m, hm⟩).2
  refine ⟨by rw [hreq, h.hasRequestSlot_eq_true], fun code => ?_, ?_⟩
  · -- a taken status rules out every request pseudo header, since the block builds; so only a
    -- `host` with a value can still fill a request slot
    rw [hresp, h.hasRequestSlot_eq_false, h.status_eq_some]
    constructor
    · rintro ⟨hall, hstatus⟩
      exact ⟨hstatus, fun f hf => (hall f hf).2⟩
    · rintro ⟨⟨g, hg, hk, hv⟩, hsup⟩
      refine ⟨fun f hf => ⟨?_, hsup f hf⟩, g, hg, hk, hv⟩
      cases hr : f.kind.isRequest
      · rfl
      · exact absurd ⟨h.request_eq.2 ⟨f, hf, hr⟩, h.response_eq.2 ⟨g, hg, hk⟩⟩ hmixed
  · rw [hgen, h.hasRequestSlot_eq_false, h.status_eq_none]
    constructor
    · rintro ⟨hall, hnostatus⟩ f hf
      exact ⟨Field.Kind.isPseudo_eq_false.2 ⟨hnostatus f hf, (hall f hf).1⟩, (hall f hf).2⟩
    · intro hall
      have hpseudo := fun f hf => Field.Kind.isPseudo_eq_false.1 (hall f hf).1
      exact ⟨fun f hf => ⟨(hpseudo f hf).2, (hall f hf).2⟩, fun f hf => (hpseudo f hf).1⟩

end Block

namespace Builder

/-- Over the emits of one block, from a builder just made, built or reset, and counting only the
fields the budget admits: a block that builds is a request exactly when a request pseudo header
or a `host` with a value was taken; a response with status `code` exactly when a `:status` of
`code` was taken and no `host` with a value; generic exactly when neither a pseudo header nor a
`host` with a value was taken. -/
theorem built_metadata_kind (b : Builder) (fs : List Field) {m : Metadata}
    (hm : ((b.reset.exec (fs.map .emit)).build).2 = .ok m) :
    let taken := b.reset.fitting fs
    (m.isRequest = true ↔ ∃ f ∈ taken, f.kind.isRequest = true ∨ f.suppliesHost = true) ∧
      (∀ code, (∃ r, m = .response r ∧ r.status = code) ↔
        (∃ f ∈ taken, f.kind = .status ∧ f.statusValue? = some code) ∧
          ∀ f ∈ taken, f.suppliesHost = false) ∧
      ((∃ g, m = .generic g) ↔ ∀ f ∈ taken, f.kind.isPseudo = false ∧ f.suppliesHost = false) := by
  intro taken
  obtain ⟨hclean, htracks⟩ := emits_tracks fs (b := b.reset) Block.tracks_empty Block.admissible_nil
  simp only [List.nil_append] at hclean htracks
  rw [build_snd] at hm
  have he := ((Block.finish_ok_iff _).1 ⟨m, hm⟩).1
  exact (htracks (hclean.1 he)).finish_kind hm

/-- A `:status` followed by a `host` builds; both fields are taken, and the classification
reads a request off them. -/
theorem built_metadata_kind_status_then_host :
    ∃ m, (((new 8192).reset.exec ([Field.new ":status" "200", .new "host" "example.com"].map
        .emit)).build).2 = .ok m ∧
      let taken := (new 8192).reset.fitting [Field.new ":status" "200", .new "host" "example.com"]
      (m.isRequest = true ↔ ∃ f ∈ taken, f.kind.isRequest = true ∨ f.suppliesHost = true) ∧
        (∀ code, (∃ r, m = .response r ∧ r.status = code) ↔
          (∃ f ∈ taken, f.kind = .status ∧ f.statusValue? = some code) ∧
            ∀ f ∈ taken, f.suppliesHost = false) ∧
        ((∃ g, m = .generic g) ↔ ∀ f ∈ taken, f.kind.isPseudo = false ∧ f.suppliesHost = false) :=
  ⟨_, rfl, built_metadata_kind (new 8192) _ rfl⟩

/-- The `:status` of that block is taken, and yet what it builds is not a response. -/
theorem accepted_status_dropped_beside_host :
    ∃ m, (((new 8192).reset.exec ([Field.new ":status" "200", .new "host" "example.com"].map
        .emit)).build).2 = .ok m ∧
      (∃ f ∈ (new 8192).reset.fitting [Field.new ":status" "200", .new "host" "example.com"],
        f.kind = .status ∧ f.statusValue? = some 200) ∧
      ¬ ∃ r, m = .response r :=
  ⟨_, rfl, ⟨.new ":status" "200", by decide, rfl, rfl⟩, by rintro ⟨r, hr⟩; cases hr⟩

end Builder

end Http2Headers
