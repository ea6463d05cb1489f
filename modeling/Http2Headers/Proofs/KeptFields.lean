import Http2Headers.Proofs.PseudoSlots

/-!
# The regular fields a block keeps

Whether a field joins the regular fields depends on the field alone, never on the block it comes
to (`fields_accept`): every `host`, a `content-length` that reads, a `te` of `trailers`, and every
other name that does not start with `:` (`Field.isKept`); pseudo headers, `connection`, and fields
whose names or values are not UTF-8 never do. The content length is the last one such a field gave
(`contentLength_accept`). So along every run the regular fields are the kept ones among the
fields admitted since the block began, in arrival order, each once (`KeepsFields`).

A block that stays clean knows more (`CleanKnows`): its request slots hold the values of the first
`:method`, `:scheme` and `:path`, and its authority that of the first `:authority`, else of the
first `host` with a value (`SlotValues`). A block that builds is clean, so what it builds carries
these (`kept_fields_in_arrival_order`).
-/

namespace Http2Headers

/-- Whether a field, once admitted, joins the regular fields: every `host`, a `content-length`
that reads, a `te` of `trailers`, and every other name that does not start with `:`. -/
def Field.isKept (f : Field) : Bool :=
  match f.kind with
  | .host => true
  | .contentLength => f.contentLengthValue?.isSome
  | .te => Text.eqIgnoreAsciiCase f.valueText "trailers"
  | .other => f.name.toList.head? != some ':'
  | _ => false

/-- The content length a field gives: that of a `content-length` that reads. -/
def Field.givenLength? (f : Field) : Option Int64 :=
  if f.kind = .contentLength then f.contentLengthValue? else none

namespace Block

/-- A field joins the regular fields exactly when it is kept, whatever the block before it. -/
theorem fields_accept (b : Block) (f : Field) :
    (b.accept f).fields = if f.isKept then b.fields.push f.toLine else b.fields := by
  cases hk : f.kind
  case host =>
    simp only [accept, hk, Field.isKept, if_true]
    split
    · split <;> rfl
    · rfl
  case contentLength =>
    cases hn : f.contentLengthValue? <;> simp [accept, hk, hn, Field.isKept, invalid, record, keep]
  case te =>
    cases ht : Text.eqIgnoreAsciiCase f.valueText "trailers" <;>
      simp [accept, hk, ht, Field.isKept, record, keep]
  case other =>
    by_cases hn : f.name.toList.head? = some ':' <;>
      simp [accept, hk, hn, Field.isKept, record, keep]
  case connection => simp [accept, hk, Field.isKept, record]
  -- a pseudo header never joins the regular fields, whether it fills its slot or not
  all_goals
    simp only [accept, hk, claimPseudo, Field.isKept, Bool.false_eq_true, if_false]
    repeat' split
    all_goals rfl

/-- The content length is the last one a field gave. -/
theorem contentLength_accept (b : Block) (f : Field) :
    (b.accept f).contentLength = f.givenLength?.or b.contentLength := by
  cases hk : f.kind
  case contentLength =>
    cases hn : f.contentLengthValue? <;>
      simp [accept, hk, hn, Field.givenLength?, invalid, record, keep]
  all_goals
    simp only [accept, hk, claimPseudo, Field.givenLength?, reduceCtorEq, if_false, Option.none_or]
    repeat' split
    all_goals rfl

/-- What the regular fields of a block hold, read off the fields it took, `taken`: the kept ones
in arrival order, and the content length the last of them gave. -/
structure KeepsFields (taken : List Field) (b : Block) : Prop where
  lines_eq : b.fields.lines = (taken.filter Field.isKept).map Field.toLine
  contentLength_eq : b.contentLength = (taken.filterMap Field.givenLength?).getLast?

theorem keepsFields_empty : KeepsFields [] ({} : Block) :=
  ⟨rfl, rfl⟩

theorem KeepsFields.accept {taken : List Field} {b : Block} (h : KeepsFields taken b)
    (size : Nat) (f : Field) : KeepsFields (taken ++ [f]) ({ b with size }.accept f) := by
  constructor
  · rw [fields_accept, List.filter_append]
    cases hf : f.isKept <;> simp [hf, h.lines_eq]
  · rw [contentLength_accept, List.filterMap_append]
    cases hg : f.givenLength? <;> simp [hg, h.contentLength_eq]

/-- The values the request slots of a clean block hold, read off the fields it took: those of the
first `:method`, `:scheme` and `:path`, and the authority of the first `:authority`, else that of
the first `host` with a value. -/
structure SlotValues (taken : List Field) (b : Block) : Prop where
  method_eq : b.method = (taken.find? (·.kind == .method)).map Field.valueText
  scheme_eq : b.scheme = (taken.find? (·.kind == .scheme)).map Field.schemeValue
  path_eq : b.path = (taken.find? (·.kind == .path)).map Field.valueText
  authority_eq : b.authority =
    ((taken.find? (·.kind == .authority)).bind Field.authorityValue?).or
      ((taken.find? Field.suppliesHost).bind Field.authorityValue?)

theorem slotValues_empty : SlotValues [] ({} : Block) :=
  ⟨rfl, rfl, rfl, rfl⟩

theorem SlotValues.withSize {taken : List Field} {b : Block} (h : SlotValues taken b)
    (size : Nat) : SlotValues taken { b with size } :=
  ⟨h.method_eq, h.scheme_eq, h.path_eq, h.authority_eq⟩

/-- A slot that holds the value of the first field of kind `k` still does after one more field,
when that field fills it exactly if it is of kind `k`, and only as the first of its kind. -/
theorem slot_first_append {α : Type} {taken : List Field} {f : Field} {k : Field.Kind}
    {val : Field → α} {c : Prop} [Decidable c] {old new : Option α}
    (hold : old = (taken.find? (·.kind == k)).map val)
    (hnew : new = if f.kind = k ∧ c then some (val f) else old)
    (hc : f.kind = k → c) (hfirst : f.kind = k → ∀ g ∈ taken, g.kind ≠ k) :
    new = ((taken ++ [f]).find? (·.kind == k)).map val := by
  rw [List.find?_append, hnew]
  by_cases hk : f.kind = k
  · have hnone : taken.find? (·.kind == k) = none :=
      List.find?_eq_none.2 fun g hg => by simpa using hfirst hk g hg
    simp [hk, hc hk, hnone]
  · simp [hk, hold]

/-- A pseudo header that fits finds no conflict. -/
theorem Fits.pseudoConflict?_eq_none {taken : List Field} {b : Block} {f : Field}
    (h : Tracks taken b) (hf : Fits taken f) (hp : f.kind.isPseudo = true) :
    b.pseudoConflict? f.kind = none :=
  Block.pseudoConflict?_eq_none.2 ⟨hf.fields_isEmpty h hp, hf.hasPseudo_eq_false h hp⟩

/-- A pseudo header that fits is the first of its kind. -/
theorem Fits.first_of_kind {taken : List Field} {f : Field} (hf : Fits taken f) {k : Field.Kind}
    (hk : f.kind = k) (hp : k.isPseudo = true) : ∀ g ∈ taken, g.kind ≠ k := by
  intro g hg heq
  have hnot := hf.pseudo_once g hg (heq.trans hk.symm)
  rw [hk, hp] at hnot
  cases hnot

/-- A clean block with no authority has taken no `:authority` and no `host` with a value. -/
theorem Tracks.find?_eq_none_of_authority {taken : List Field} {b : Block} (h : Tracks taken b)
    (hfree : b.authority = none) :
    taken.find? (·.kind == .authority) = none ∧ taken.find? Field.suppliesHost = none := by
  have hbefore := h.authority_eq_none.1 hfree
  exact ⟨List.find?_eq_none.2 fun g hg => by simpa using (hbefore g hg).1,
    List.find?_eq_none.2 fun g hg => by simp [(hbefore g hg).2]⟩

/-- The authority of a clean block stays that of its first `:authority`, else of its first `host`
with a value, when a field that fits is taken. -/
theorem SlotValues.authority_accept {taken : List Field} {b : Block} {f : Field}
    (h : Tracks taken b) (hv : SlotValues taken b) (hf : Fits taken f) :
    (b.accept f).authority =
      (((taken ++ [f]).find? (·.kind == .authority)).bind Field.authorityValue?).or
        (((taken ++ [f]).find? Field.suppliesHost).bind Field.authorityValue?) := by
  rw [Block.authority_accept, List.find?_append, List.find?_append]
  by_cases hk : f.kind = .authority
  · -- an `:authority` that fits comes before every `host` and is the first of its kind
    have hnone := (hf.pseudoConflict?_eq_none h (by rw [hk]; rfl))
    rw [hk] at hnone
    have hfree : b.authority = none := by
      simpa [hasPseudo] using (Block.pseudoConflict?_eq_none.1 hnone).2
    obtain ⟨hA, hH⟩ := h.find?_eq_none_of_authority hfree
    have hsup : f.suppliesHost = false := by simp [Field.suppliesHost, hk]
    simp [hk, hnone, hA, hH, hsup]
  · have hA : ([f].find? (·.kind == .authority)) = none := by simp [hk]
    rw [hA, Option.or_none]
    by_cases hfill : f.suppliesHost = true ∧ b.authority = none
    · -- the first `host` with a value of a block with no authority supplies it
      obtain ⟨hA', hH⟩ := h.find?_eq_none_of_authority hfill.2
      simp [hfill, hA', hH]
    · rw [if_neg fun hc => hc.elim (fun hc => hk hc.1) hfill, hv.authority_eq]
      cases hH : taken.find? Field.suppliesHost with
      | some g => simp
      | none =>
        cases hsup : f.suppliesHost
        · simp [hsup]
        · -- a later `host` finds the authority already supplied, by the first `:authority`
          have hset : b.authority ≠ none := fun hnone => hfill ⟨hsup, hnone⟩
          rw [hv.authority_eq, hH] at hset
          cases hA' : (taken.find? (·.kind == .authority)).bind Field.authorityValue? with
          | none => simp [hA'] at hset
          | some a => simp

/-- A field that fits a clean block keeps its request slots holding the values of the first
fields. -/
theorem SlotValues.accept {taken : List Field} {b : Block} {f : Field} (h : Tracks taken b)
    (hv : SlotValues taken b) (hf : Fits taken f) : SlotValues (taken ++ [f]) (b.accept f) := by
  have hfree : ∀ {k}, f.kind = k → k.isPseudo = true → b.pseudoConflict? k = none := by
    rintro k rfl hp
    exact hf.pseudoConflict?_eq_none h hp
  refine ⟨?_, ?_, ?_, hv.authority_accept h hf⟩
  · exact slot_first_append hv.method_eq (method_accept b f) (fun hk => hfree hk rfl)
      fun hk => hf.first_of_kind hk rfl
  · exact slot_first_append hv.scheme_eq (scheme_accept b f) (fun hk => hfree hk rfl)
      fun hk => hf.first_of_kind hk rfl
  · exact slot_first_append hv.path_eq (path_accept b f) (fun hk => hfree hk rfl)
      fun hk => hf.first_of_kind hk rfl

/-- What a block that builds holds: its regular fields and content length, and for a request
its request slots. -/
theorem finish_eq_ok {b : Block} {md : Metadata} (hm : b.finish = .ok md) :
    md.fields = b.fields ∧ md.contentLength = b.contentLength ∧
      ∀ r, md = .request r →
        r = ⟨b.method, b.scheme, b.authority, b.path, b.fields, b.contentLength⟩ := by
  unfold finish at hm
  cases he : b.error with
  | some e => rw [he] at hm; cases hm
  | none =>
    rw [he] at hm
    by_cases hmixed : (b.request && b.response) = true
    · rw [if_pos hmixed] at hm
      cases hm
    rw [if_neg hmixed] at hm
    by_cases hslot : b.hasRequestSlot = true
    · rw [if_pos hslot] at hm
      cases hm
      exact ⟨rfl, rfl, fun r hr => by cases hr; rfl⟩
    rw [if_neg hslot] at hm
    cases hs : b.status with
    | some c =>
      rw [hs] at hm
      cases hm
      exact ⟨rfl, rfl, fun r hr => by cases hr⟩
    | none =>
      rw [hs] at hm
      cases hm
      exact ⟨rfl, rfl, fun r hr => by cases hr⟩

end Block

namespace Builder

/-- The decoded field a step emits, if any. -/
def Step.field? : Step → Option Field
  | .emit f => some f
  | _ => none

/-- The decoded fields the budget admitted since the last build or reset, in arrival order. -/
def admittedFields (history : List (Step × Reply)) : List Field :=
  admitted Step.field? history

theorem admittedFields_append_singleton (history : List (Step × Reply)) (s : Step) (r : Reply) :
    admittedFields (history ++ [(s, r)]) =
      if s.endsBlock then []
      else admittedFields history ++ (if r.isOk then s.field?.toList else []) :=
  admitted_append_singleton _ _ _ _

section AdmittedInvariant

/-! ## What the block keeps of the admitted fields

A property of the fields taken so far and the block holds along every run from a fresh builder
once the empty block has it and taking a field or recording a violation keeps it: a refused emit
leaves the block alone, an admitted one takes its field, an undecodable one at most records a
violation, and a build or a reset starts from the empty block. -/

variable {P : List Field → Block → Prop} (hempty : P [] ({} : Block))
  (haccept : ∀ taken blk size f, P taken blk → P (taken ++ [f]) ({ blk with size }.accept f))
  (hrecord : ∀ taken blk size v, P taken blk → P taken ({ blk with size }.record v))
include hempty haccept hrecord

theorem admittedInvariant_step {taken : List Field} {b : Builder} (h : P taken b.block)
    (s : Step) :
    P (if s.endsBlock then [] else taken ++ if (b.step s).2.isOk then s.field?.toList else [])
      (b.step s).1.block := by
  cases s with
  | emit f =>
    simp only [Step.endsBlock, Step.field?, Bool.false_eq_true, if_false, Option.toList_some]
    rw [step_emit_eq]
    by_cases hfit : addSat b.size f.size > b.maxSize
    · simpa [hfit, Except.isOk, Except.toBool] using h
    · simpa [hfit, Except.isOk, Except.toBool] using haccept _ _ _ f h
  | emitUndecodable name value =>
    simp only [Step.endsBlock, Step.field?, Option.toList_none, ite_self, List.append_nil,
      Bool.false_eq_true, if_false]
    rcases step_emitUndecodable_block b name value with hb | ⟨size, v, hb⟩ <;> rw [hb]
    · exact h
    · exact hrecord _ _ _ _ h
  | checkSize length huffman => simpa [Step.endsBlock, Step.field?] using h
  | build => simpa [Step.endsBlock] using hempty
  | reset => simpa [Step.endsBlock] using hempty

theorem admittedInvariant_run (m : Nat) (ss : List Step) :
    P (admittedFields ((new m).history ss)) ((new m).exec ss).block := by
  have hnew : P (admittedFields []) (new m).block := hempty
  have hrun := exec_history (P := fun before b => P (admittedFields before) b.block)
    (fun before b s h => ?_) ss hnew
  · simpa using hrun
  · rw [admittedFields_append_singleton]
    exact admittedInvariant_step hempty haccept hrecord h s

end AdmittedInvariant

/-- What a block knows of the fields admitted since it began, `taken`, while it is clean: it
tracks them, and its request slots hold the values of the first of them. -/
def CleanKnows (taken : List Field) (blk : Block) : Prop :=
  blk.error = none → Block.Tracks taken blk ∧ Block.SlotValues taken blk

theorem cleanKnows_empty : CleanKnows [] ({} : Block) :=
  fun _ => ⟨Block.tracks_empty, Block.slotValues_empty⟩

/-- Taking a field keeps what a clean block knows: a block clean after the field was clean
before it, and the field fitted. -/
theorem cleanKnows_accept (taken : List Field) (blk : Block) (size : Nat) (f : Field)
    (h : CleanKnows taken blk) : CleanKnows (taken ++ [f]) ({ blk with size }.accept f) := by
  intro hclean
  have hbefore : blk.error = none := by
    cases he : blk.error with
    | none => rfl
    | some e =>
      exact absurd hclean (Block.error_accept_ne_none (b := { blk with size }) f (by simp [he]))
  obtain ⟨ht, hv⟩ := h hbefore
  have hsized := ht.withSize size
  have hfits := (Block.error_accept_eq_none hsized).1 hclean
  exact ⟨hsized.takes (Block.takes_accept hsized hfits), (hv.withSize _).accept hsized hfits⟩

/-- A recorded violation leaves the block unclean, so there is nothing it must know. -/
theorem cleanKnows_record (taken : List Field) (blk : Block) (size : Nat) (v : Violation) :
    CleanKnows taken ({ blk with size }.record v) :=
  fun hclean => absurd hclean (Block.error_record_ne_none _ _)

theorem step_build_eq_ok_iff (b : Builder) (md : Metadata) :
    (b.step .build).2 = .ok (some md) ↔ b.block.finish = .ok md := by
  simp only [step, build]
  cases b.block.finish <;> simp

/-- At every state a run from a fresh builder reaches, the regular fields are the kept fields among
those admitted since the block began, in arrival order, and the content length is the last one
they gave. A block that builds carries these, and a request carries the first `:method`,
`:scheme` and `:path` admitted, and the authority of the first `:authority`, else of the first
`host` with a value. -/
theorem kept_fields_in_arrival_order (m : Nat) (ss : List Step) :
    let b := (new m).exec ss
    let taken := admittedFields ((new m).history ss)
    b.block.fields.lines = (taken.filter Field.isKept).map Field.toLine ∧
      b.block.contentLength = (taken.filterMap Field.givenLength?).getLast? ∧
      ∀ md, (b.step .build).2 = .ok (some md) →
        md.fields.lines = (taken.filter Field.isKept).map Field.toLine ∧
          md.contentLength = (taken.filterMap Field.givenLength?).getLast? ∧
          ∀ r, md = .request r →
            r.method = (taken.find? (·.kind == .method)).map Field.valueText ∧
              r.scheme = (taken.find? (·.kind == .scheme)).map Field.schemeValue ∧
              r.path = (taken.find? (·.kind == .path)).map Field.valueText ∧
              r.authority = ((taken.find? (·.kind == .authority)).bind Field.authorityValue?).or
                ((taken.find? Field.suppliesHost).bind Field.authorityValue?) := by
  intro b taken
  have hkeeps : Block.KeepsFields taken b.block :=
    admittedInvariant_run Block.keepsFields_empty (fun _ _ size f h => h.accept size f)
      (fun _ _ _ _ h => ⟨h.lines_eq, h.contentLength_eq⟩) m ss
  have hknows : CleanKnows taken b.block :=
    admittedInvariant_run cleanKnows_empty cleanKnows_accept
      (fun taken blk size v _ => cleanKnows_record taken blk size v) m ss
  refine ⟨hkeeps.lines_eq, hkeeps.contentLength_eq, fun md hmd => ?_⟩
  have hfinish := (step_build_eq_ok_iff b md).1 hmd
  obtain ⟨hfields, hlength, hrequest⟩ := Block.finish_eq_ok hfinish
  refine ⟨hfields ▸ hkeeps.lines_eq, hlength ▸ hkeeps.contentLength_eq, fun r hr => ?_⟩
  -- a block that builds is clean, so its slots hold the values of the first fields
  have hv := (hknows ((Block.finish_ok_iff _).1 ⟨md, hfinish⟩).1).2
  rw [hrequest r hr]
  exact ⟨hv.method_eq, hv.scheme_eq, hv.path_eq, hv.authority_eq⟩

end Builder

end Http2Headers
