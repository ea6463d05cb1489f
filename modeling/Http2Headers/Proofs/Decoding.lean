import Http2Headers.Proofs.Lifecycle
import Http2Headers.Proofs.Utf8Length

/-!
# Decoding a header block

The decoder hands each decoded pair to the builder. A pair whose name and value are UTF-8 becomes
a field, and a `:status` the static table holds or a `:scheme` of exactly `http` or `https` comes
with its value already read. That fast path changes nothing: the value read ahead is the one the
builder would read from the text (a numeral leaves nothing for trimming to remove), so the field
has the effect of the field read from its text (`emit_knownValue`), and the pairs of a block are
emitted exactly as their plain steps (`Hpack.Entry.plainStep`) would be, up to the first that does
not fit (`emitPairs_eq_feed`).

Every plain step is charged the raw octets of its pair: a UTF-8 text takes as many octets to write
as were read (`charge?_plainStep`). So, along the pairs of a block, the running size is the capped
sum of the charges so far, and the first pair whose capped sum passes the bound is the one refused
(`feed_plainSteps`). From there, what decoding a block answers is read off the HPACK layer's result
and the pairs alone (`decode_outcome`), whatever the layer: the proof looks at its answer only
through the three shapes it can take.
-/

namespace Http2Headers

/-! ## A numeral leaves nothing to trim -/

namespace Text

theorem isWhiteSpace_eq_false {c : Char} (h1 : 33 ≤ c.toNat) (h2 : c.toNat < 0x85) :
    isWhiteSpace c = false := by
  simp [isWhiteSpace, inRanges, whiteSpaceRanges]
  omega

theorem isWhiteSpace_of_digitValue? {c : Char} {d : Nat} (h : digitValue? c = some d) :
    isWhiteSpace c = false := by
  unfold digitValue? at h
  split at h
  · next hc =>
    simp only [Char.le_def, UInt32.le_iff_toNat_le] at hc
    have h0 : 48 ≤ c.toNat ∧ c.toNat ≤ 57 := by simpa using hc
    exact isWhiteSpace_eq_false (by omega) (by omega)
  · cases h

/-- The digits of a numeral are no white space. -/
theorem not_whiteSpace_of_digitsFrom {acc n : Nat} {cs : List Char}
    (h : digitsFrom acc cs = some n) :
    ∀ c ∈ cs, isWhiteSpace c = false := by
  induction cs generalizing acc with
  | nil => simp
  | cons c cs ih =>
    simp only [digitsFrom, Option.bind_eq_some_iff] at h
    obtain ⟨d, hd, hrest⟩ := h
    intro c' hc'
    rcases List.mem_cons.1 hc' with rfl | hc'
    · exact isWhiteSpace_of_digitValue? hd
    · exact ih hrest c' hc'

theorem dropWhile_isWhiteSpace_of_forall {cs : List Char}
    (h : ∀ c ∈ cs, isWhiteSpace c = false) :
    cs.dropWhile isWhiteSpace = cs := by
  cases cs with
  | nil => rfl
  | cons c cs => simp [h c (by simp)]

theorem trimChars_of_forall {cs : List Char} (h : ∀ c ∈ cs, isWhiteSpace c = false) :
    trimChars cs = cs := by
  unfold trimChars
  rw [dropWhile_isWhiteSpace_of_forall h,
    dropWhile_isWhiteSpace_of_forall fun c hc => h c (List.mem_reverse.1 hc), List.reverse_reverse]

/-- A text that reads as a status code has no white space at either end. -/
theorem trim_of_readU16? {s : String} {code : UInt16} (h : readU16? s = some code) :
    trim s = s := by
  simp only [readU16?, readUnsigned?, Option.map_eq_some_iff, Option.filter_eq_some_iff] at h
  obtain ⟨n, ⟨hdigits, -⟩, -⟩ := h
  -- every character is the optional sign or a digit
  have hchars : ∀ c ∈ s.toList, isWhiteSpace c = false := by
    split at hdigits
    · next cs hs =>
      rw [hs]
      intro c hc
      rcases List.mem_cons.1 hc with rfl | hc
      · decide
      · cases cs with
        | nil => cases hdigits
        | cons d ds => exact not_whiteSpace_of_digitsFrom hdigits c hc
    · next cs _ =>
      intro c hc
      cases hcs : s.toList with
      | nil => rw [hcs] at hc; cases hc
      | cons d ds =>
        rw [hcs] at hdigits hc
        exact not_whiteSpace_of_digitsFrom hdigits c hc
  simp only [trim, trimChars_of_forall hchars, String.ofList_toList]

end Text

/-! ## The fast path -/

/-- What the fast path can know: nothing, a status code the text reads as, or the scheme `http` or
`https` written exactly. -/
theorem knownValue?_cases (name value : String) :
    knownValue? name value = none ∨
      (∃ code, knownValue? name value = some (.status code) ∧
        Text.readU16? value = some code) ∨
      (knownValue? name value = some (.scheme .http) ∧ value = "http") ∨
      (knownValue? name value = some (.scheme .https) ∧ value = "https") := by
  unfold knownValue?
  split
  · cases h : Text.readU16? value with
    | none => exact .inl rfl
    | some code =>
      by_cases hc : code ∈ tableStatuses
      · exact .inr (.inl ⟨code, by simp [hc], rfl⟩)
      · exact .inl (by simp [hc])
  · by_cases hh : value = "http"
    · exact .inr (.inr (.inl ⟨by simp [hh], hh⟩))
    by_cases hs : value = "https"
    · exact .inr (.inr (.inr ⟨by simp [hs], hs⟩))
    · exact .inl (by simp [hh, hs])
  · exact .inl rfl

namespace Block

/-- Fields that agree on their name, value, kind and every value the block reads of them have the
same effect on every block. -/
theorem accept_congr {f g : Field} (hname : f.name = g.name) (hvalue : f.value = g.value)
    (hkind : f.kind = g.kind) (hstatus : f.statusValue? = g.statusValue?)
    (hscheme : f.schemeValue = g.schemeValue) (hauthority : f.authorityValue? = g.authorityValue?)
    (hlength : f.contentLengthValue? = g.contentLengthValue?) (b : Block) :
    b.accept f = b.accept g := by
  obtain ⟨name, value, kind, resolved⟩ := f
  obtain ⟨name', value', kind', resolved'⟩ := g
  simp only at hname hvalue hkind
  subst hname hvalue hkind
  -- the rest of the block's reading of a field is of its name and value alone
  unfold accept
  rw [hstatus, hscheme, hauthority, hlength]
  rfl

/-- A field with the value the fast path knows has the effect of the field read from its text. -/
theorem accept_knownValue (b : Block) (name value : String) :
    b.accept { Field.new name value with resolved := knownValue? name value } =
      b.accept (.new name value) := by
  rcases knownValue?_cases name value with h | ⟨code, h, hread⟩ | ⟨h, rfl⟩ | ⟨h, rfl⟩
  · rw [h]
    rfl
  · -- a status read ahead is the status the trimmed text reads as
    refine accept_congr ?_ ?_ ?_ ?_ ?_ ?_ ?_ b <;>
      simp [Field.statusValue?, Field.schemeValue, Field.authorityValue?,
        Field.contentLengthValue?, Field.new, Field.valueText, h, hread,
        Text.trim_of_readU16? hread]
  · refine accept_congr ?_ ?_ ?_ ?_ ?_ ?_ ?_ b <;>
      simp [Field.statusValue?, Field.schemeValue, Field.authorityValue?,
        Field.contentLengthValue?, Field.new, Field.valueText, h]
    decide
  · refine accept_congr ?_ ?_ ?_ ?_ ?_ ?_ ?_ b <;>
      simp [Field.statusValue?, Field.schemeValue, Field.authorityValue?,
        Field.contentLengthValue?, Field.new, Field.valueText, h]
    decide

end Block

namespace Builder

theorem emit_knownValue (b : Builder) (name value : String) :
    b.emit { Field.new name value with resolved := knownValue? name value } =
      b.emit (.new name value) := by
  -- the two fields have one size, and the same effect on every block
  exact congrArg (b.chargeThen (Field.new name value).size)
    (funext fun blk => blk.accept_knownValue name value)

end Builder

/-- The step a decoded pair makes without the fast path: the field read from its text when the
name and value are UTF-8, else an undecodable field. -/
def Hpack.Entry.plainStep (e : Hpack.Entry) : Builder.Step :=
  match Text.Utf8.decode? e.name, Text.Utf8.decode? e.value with
  | some name, some value => .emit (Field.new name value)
  | _, _ => .emitUndecodable e.name e.value

namespace Builder

/-- Emitting a decoded pair is taking its plain step. -/
theorem settle_emitPair (b : Builder) (e : Hpack.Entry) :
    settle (b.emitPair e) = b.step e.plainStep := by
  unfold emitPair fieldOfPair? Hpack.Entry.plainStep
  cases Text.Utf8.decode? e.name <;> cases Text.Utf8.decode? e.value <;>
    simp [step, emit_knownValue]

/-- Takes the steps in order and stops at the first one refused with a session error: the builder
then and the error, or the builder after all of them. -/
def feed (b : Builder) : List Step → Builder × Except SessionError Unit
  | [] => (b, .ok ())
  | s :: ss =>
    match b.step s with
    | (b', .error (.session e)) => (b', .error e)
    | (b', _) => b'.feed ss

/-- The pairs of a block are emitted as their plain steps, up to the first that does not fit. -/
theorem emitPairs_eq_feed (b : Builder) (es : List Hpack.Entry) :
    b.emitPairs es = b.feed (es.map Hpack.Entry.plainStep) := by
  induction es generalizing b with
  | nil => rfl
  | cons e es ih =>
    have hstep := settle_emitPair b e
    simp only [emitPairs, List.map_cons, feed]
    rcases hpair : b.emitPair e with ⟨b', _ | ⟨⟩⟩
    · rw [hpair] at hstep
      rw [← hstep]
      rfl
    · rw [hpair] at hstep
      rw [← hstep]
      exact ih b'

/-- The static table's fast path changes nothing. A pair of UTF-8 octet strings makes a field that,
emitted into any builder, answers and leaves the builder exactly as the field read from its text;
so the pairs of a block are emitted, up to the first that does not fit, exactly as their plain
steps would be, and what a block decodes to, which reads its pairs only through that emission,
does not depend on the fast path. -/
theorem fast_path_emit_eq_plain :
    (∀ (b : Builder) (name value : List UInt8) (n v : String),
      Text.Utf8.decode? name = some n → Text.Utf8.decode? value = some v →
        ∃ f, fieldOfPair? name value = some f ∧ b.emit f = b.emit (.new n v)) ∧
      ∀ (b : Builder) (pairs : List Hpack.Entry),
        b.emitPairs pairs = b.feed (pairs.map Hpack.Entry.plainStep) := by
  refine ⟨fun b name value n v hn hv => ?_, emitPairs_eq_feed⟩
  refine ⟨{ Field.new n v with resolved := knownValue? n v }, ?_, emit_knownValue b n v⟩
  simp [fieldOfPair?, hn, hv]

end Builder

/-! ## Charging the pairs of a block -/

/-- What a decoded pair is charged against the bound: its raw octets and the overhead, whether or
not they are UTF-8. -/
def Hpack.Entry.charge (e : Hpack.Entry) : Nat :=
  e.name.length + e.value.length + fieldOverhead

/-- A plain step charges its pair's raw octets: decoded text is as long as its octets. -/
theorem Hpack.Entry.charge?_plainStep (e : Hpack.Entry) : e.plainStep.charge? = some e.charge := by
  unfold plainStep
  split
  · next name value hn hv =>
    simp only [Builder.Step.charge?, Field.size, Field.new, Field.valueText, Option.getD_some,
      Text.Utf8.utf8Length_of_decode? hn, Text.Utf8.utf8Length_of_decode? hv, charge]
  · rfl

/-- The capped sum of the charges of the first `k` pairs, over `start` octets already charged. -/
def chargedFrom (start : Nat) (pairs : List Hpack.Entry) (k : Nat) : Nat :=
  min (start + ((pairs.take k).map Hpack.Entry.charge).sum) sizeCeiling

@[simp] theorem chargedFrom_zero (start : Nat) (pairs : List Hpack.Entry) :
    chargedFrom start pairs 0 = min start sizeCeiling := by
  simp [chargedFrom]

@[simp] theorem chargedFrom_cons_succ (start : Nat) (e : Hpack.Entry) (pairs : List Hpack.Entry)
    (k : Nat) :
    chargedFrom start (e :: pairs) (k + 1) = chargedFrom (start + e.charge) pairs k := by
  simp [chargedFrom, Nat.add_assoc]

theorem addSat_min_sizeCeiling (a c : Nat) :
    addSat (min a sizeCeiling) c = min (a + c) sizeCeiling := by
  simp only [addSat]
  omega

namespace Builder

/-- Along the plain steps of a block's pairs, from a builder within its bound whose running size is
`start` capped: either some pair is the first whose capped sum passes the bound, and the steps stop
there with that sum, the builder as the pairs before it left it; or none passes, and all are
taken. -/
theorem feed_plainSteps (pairs : List Hpack.Entry) :
    ∀ (b : Builder) (start : Nat), b.size = min start sizeCeiling → b.size ≤ b.maxSize →
      (∃ k < pairs.length,
          b.feed (pairs.map Hpack.Entry.plainStep) =
            (b.exec ((pairs.take k).map Hpack.Entry.plainStep),
              .error (.headerTooLarge (chargedFrom start pairs (k + 1)) b.maxSize)) ∧
          b.maxSize < chargedFrom start pairs (k + 1) ∧
          ∀ j ≤ k, chargedFrom start pairs j ≤ b.maxSize) ∨
        (b.feed (pairs.map Hpack.Entry.plainStep) =
            (b.exec (pairs.map Hpack.Entry.plainStep), .ok ()) ∧
          ∀ j ≤ pairs.length, chargedFrom start pairs j ≤ b.maxSize) := by
  induction pairs with
  | nil =>
    intro b start hsize hle
    refine .inr ⟨rfl, fun j hj => ?_⟩
    obtain rfl : j = 0 := by simpa using hj
    simpa [← hsize] using hle
  | cons e pairs ih =>
    intro b start hsize hle
    obtain ⟨hreply, hsize'⟩ := step_of_charge (b := b) e.charge?_plainStep
    have hcap : addSat b.size e.charge = min (start + e.charge) sizeCeiling := by
      rw [hsize, addSat_min_sizeCeiling]
    by_cases hfit : addSat b.size e.charge > b.maxSize
    · -- the first pair is refused, before anything changes
      rw [if_pos hfit] at hreply
      have hsame := step_fst_of_session hreply
      have hstep : b.step e.plainStep =
          (b, .error (.session (.headerTooLarge (addSat b.size e.charge) b.maxSize))) :=
        Prod.ext hsame hreply
      refine .inl ⟨0, by simp, ?_, ?_, fun j hj => ?_⟩
      · simp [feed, hstep, hcap, chargedFrom]
      · simpa [hcap, chargedFrom] using hfit
      · obtain rfl : j = 0 := by omega
        simpa [← hsize] using hle
    · -- the first pair is taken, and the rest go on from its running size
      rw [if_neg hfit] at hreply hsize'
      have hfeed : b.feed ((e :: pairs).map Hpack.Entry.plainStep) =
          (b.step e.plainStep).1.feed (pairs.map Hpack.Entry.plainStep) := by
        simp only [List.map_cons, feed]
        rw [show b.step e.plainStep = ((b.step e.plainStep).1, .ok none) from
          Prod.ext rfl hreply]
      have hmax : (b.step e.plainStep).1.maxSize = b.maxSize := maxSize_step b _
      have hbefore : ∀ (k : Nat),
          (∀ j ≤ k, chargedFrom (start + e.charge) pairs j ≤ b.maxSize) →
          ∀ j ≤ k + 1, chargedFrom start (e :: pairs) j ≤ b.maxSize := by
        intro k hk j hj
        cases j with
        | zero => simpa [← hsize] using hle
        | succ j => simpa using hk j (by omega)
      rcases ih (b.step e.plainStep).1 (start + e.charge) (by rw [hsize', hcap])
          (by rw [hsize', hmax]; omega) with ⟨k, hk, hrest, hpass, hfits⟩ | ⟨hrest, hfits⟩
      · refine .inl ⟨k + 1, by simp; omega, ?_, ?_, hbefore k (hmax ▸ hfits)⟩
        · rw [hfeed, hrest, hmax]
          simp
        · simpa [hmax] using hpass
      · refine .inr ⟨?_, ?_⟩
        · rw [hfeed, hrest]
          simp
        · simpa using hbefore pairs.length (hmax ▸ hfits)

end Builder

namespace Decoder

/-- Once the HPACK layer has decoded a block's pairs, the outcome is read off the plain steps of
the pairs fed to the builder: the session error that stopped them, or what building the block
answers. -/
theorem decode_snd_of_layer_ok {σ : Type} {hpack : HpackLayer σ} {d : Decoder σ}
    {block : List UInt8} {table : σ} {pairs : List Hpack.Entry}
    (h : hpack d.table block = (table, .ok pairs)) :
    (d.decode hpack block).2 =
      match d.builder.feed (pairs.map Hpack.Entry.plainStep) with
      | (_, .error e) => .failed (.session e)
      | (b, .ok ()) =>
        match b.build.2 with
        | .ok md => .decoded md
        | .error e => .failed (.stream e) := by
  rcases hr : d.builder.feed (pairs.map Hpack.Entry.plainStep) with ⟨b, _ | u⟩
  · simp [decode, h, Builder.emitPairs_eq_feed, hr]
  · cases u
    cases hb : b.block.finish <;>
      simp [decode, h, Builder.emitPairs_eq_feed, hr, Builder.build, hb]

end Decoder

/-- Decoding a block through any HPACK layer with a clean builder of bound `m`. A compression
failure of the layer, and nothing else, fails it with a compression error. Otherwise the block is
too large exactly when the capped sum of the raw charges of some prefix of its pairs passes `m`,
and the error names the sum of the first such prefix and `m`; when no prefix passes, it answers
what building the block answers after each pair is emitted as a field when it is UTF-8 and as an
undecodable field otherwise. Whatever it answers, the builder is left clean with the same bound. -/
theorem decode_outcome {σ : Type} (hpack : HpackLayer σ) (table : σ) (m : Nat)
    (block : List UInt8) :
    let d : Decoder σ := { table, builder := .new m }
    let pairs? := (hpack table block).2
    (d.decode hpack block).1.builder = .new m ∧
      (∀ e, (d.decode hpack block).2 = .failed (.session (.compression e)) ↔
        pairs? = .error (.error e)) ∧
      ∀ pairs, pairs? = .ok pairs →
        (∀ s m', (d.decode hpack block).2 = .failed (.session (.headerTooLarge s m')) ↔
          m' = m ∧ ∃ k ≤ pairs.length,
            s = min ((pairs.take k).map Hpack.Entry.charge).sum sizeCeiling ∧ m < s ∧
            ∀ j < k, min ((pairs.take j).map Hpack.Entry.charge).sum sizeCeiling ≤ m) ∧
        ((∀ k ≤ pairs.length,
            min ((pairs.take k).map Hpack.Entry.charge).sum sizeCeiling ≤ m) →
          (d.decode hpack block).2 =
            match ((Builder.new m).exec (pairs.map Hpack.Entry.plainStep)).build.2 with
            | .ok md => .decoded md
            | .error e => .failed (.stream e)) := by
  intro d pairs?
  refine ⟨Decoder.builder_decode hpack table m block, ?_⟩
  have hcharged : ∀ (pairs : List Hpack.Entry) k,
      min ((pairs.take k).map Hpack.Entry.charge).sum sizeCeiling = chargedFrom 0 pairs k := by
    simp [chargedFrom]
  simp only [hcharged]
  rcases h : hpack table block with ⟨table', (_ | e0) | pairs⟩
  · -- decoding was given up
    simp [d, pairs?, Decoder.decode, h]
  · -- the HPACK layer failed
    simp [d, pairs?, Decoder.decode, h]
  · simp only [pairs?, h, reduceCtorEq, Except.ok.injEq, forall_eq']
    -- the outcome follows the emission of the pairs, which is their plain steps
    have hdecode := Decoder.decode_snd_of_layer_ok (d := d) h
    rcases Builder.feed_plainSteps pairs (.new m) 0 rfl (Nat.zero_le m) with
      ⟨k, hk, hfeed, hpass, hfits⟩ | ⟨hfeed, hfits⟩
    · -- the pair after the first `k` is the first to pass the bound
      simp only [Builder.maxSize_new] at hfeed hpass hfits
      rw [hdecode, hfeed]
      refine ⟨by simp, fun s m' => ?_, fun hall => absurd (hall (k + 1) (by omega)) (by simpa)⟩
      simp only [Outcome.failed.injEq, Failure.session.injEq, SessionError.headerTooLarge.injEq]
      constructor
      · rintro ⟨rfl, rfl⟩
        exact ⟨rfl, k + 1, by omega, rfl, hpass, fun j hj => hfits j (by omega)⟩
      · rintro ⟨rfl, k', hk', rfl, hpass', hfits'⟩
        -- the first prefix to pass the bound is unique
        obtain hlt | rfl | hgt := Nat.lt_trichotomy k' (k + 1)
        · exact absurd (hfits k' (by omega)) (by omega)
        · exact ⟨rfl, rfl⟩
        · exact absurd (hfits' (k + 1) hgt) (by simpa using hpass)
    · -- no prefix passes the bound: the block is built
      simp only [Builder.maxSize_new] at hfits
      rw [hdecode, hfeed]
      dsimp only
      refine ⟨fun e => ?_, fun s m' => iff_of_false ?_ ?_, fun _ => rfl⟩
      · split <;> simp
      · split <;> simp
      · rintro ⟨-, k, hk, rfl, hpass, -⟩
        exact absurd (hfits k hk) (by simpa using hpass)

end Http2Headers
