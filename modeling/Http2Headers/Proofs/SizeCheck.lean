import Http2Headers.Proofs.Run

/-!
# The size check before decoding

A string is checked against the budget before it is decoded, by its encoded length: as it is, or
for a Huffman-coded string by the most it may decode to, 4/3 of it (`decodedBound`). The plain
check admits a length exactly when an emit charged that length would be admitted, and each check
refuses every longer length once it refuses one.

The Huffman estimate multiplies with saturation before it divides: past a quarter of the
greatest machine word the product stops at the word, and past a third the estimate falls below
the length itself (`le_decodedBound_iff`). There the Huffman check admits lengths the plain check
refuses (`huffman_check_admits_refused_length`); up to a third it refuses everything the plain
check refuses, in every state (`size_check_against_budget`).
-/

namespace Http2Headers

theorem addSat_le_addSat {a b b' : Nat} (h : b ≤ b') : addSat a b ≤ addSat a b' := by
  simp only [addSat]
  omega

theorem decodedBound_mono {length length' : Nat} (huffman : Bool) (h : length ≤ length') :
    decodedBound length huffman ≤ decodedBound length' huffman := by
  cases huffman
  · exact h
  · simp only [decodedBound, mulSat, if_true]
    omega

/-- The Huffman estimate of a length is at least the length exactly up to a third of the greatest
machine word: beyond it, the product has stopped at the word before it is divided. -/
theorem le_decodedBound_iff (length : Nat) :
    length ≤ decodedBound length true ↔ length ≤ sizeCeiling / 3 := by
  simp only [decodedBound, mulSat, sizeCeiling, if_true]
  omega

namespace Builder

/-- A charge fits exactly when the capped running size with it stays within the bound. -/
theorem charge_isOk (b : Builder) (amount : Nat) :
    (b.charge amount).isOk = decide (addSat b.size amount ≤ b.maxSize) := by
  by_cases h : addSat b.size amount > b.maxSize
  · simp [charge, h, Except.isOk, Except.toBool]
  · simp [charge, h, Except.isOk, Except.toBool]
    omega

/-- A size check answers as the charge of the estimate would. -/
theorem checkSize_isOk (b : Builder) (length : Nat) (huffman : Bool) :
    (b.checkSize length huffman).isOk = (b.charge (decodedBound length huffman)).isOk := by
  unfold checkSize
  cases b.charge (decodedBound length huffman) <;> rfl

/-- An emit of either kind is admitted exactly when its charge fits. -/
theorem chargeThen_isOk (b : Builder) (amount : Nat) (effect : Block → Block) :
    (b.chargeThen amount effect).2.isOk = (b.charge amount).isOk := by
  rw [chargeThen_eq, charge_isOk]
  by_cases h : addSat b.size amount > b.maxSize
  · simp [h, Except.isOk, Except.toBool]
  · simp [h, Except.isOk, Except.toBool]
    omega

/-- A size check fails for every estimate at least that of a check that failed. -/
theorem checkSize_fails_of_bound_le (b : Builder) {length length' : Nat} {huffman huffman' : Bool}
    (hle : decodedBound length huffman ≤ decodedBound length' huffman')
    (h : (b.checkSize length huffman).isOk = false) :
    (b.checkSize length' huffman').isOk = false := by
  have hmono := addSat_le_addSat (a := b.size) hle
  rw [checkSize_isOk, charge_isOk] at h ⊢
  simp only [decide_eq_false_iff_not, Nat.not_le] at h ⊢
  omega

/-- Up to a third of the greatest machine word, the Huffman check refuses whatever the plain
check refuses; past it, a builder just made with a bound of that third admits by the Huffman
check a length that the plain check refuses. -/
theorem huffman_check_covers_plain_iff (length : Nat) :
    (∀ b : Builder, (b.checkSize length false).isOk = false →
        (b.checkSize length true).isOk = false) ↔ length ≤ sizeCeiling / 3 := by
  constructor
  · intro h
    refine Classical.byContradiction fun hgt => ?_
    -- the plain check refuses the length, while the Huffman estimate has stopped at the bound
    have hplain : ((new (sizeCeiling / 3)).checkSize length false).isOk = false := by
      rw [checkSize_isOk, charge_isOk]
      simp only [decodedBound, addSat, size_new, maxSize_new, sizeCeiling] at hgt ⊢
      simp only [Bool.false_eq_true, if_false, decide_eq_false_iff_not, Nat.not_le]
      omega
    have hhuff := h _ hplain
    rw [checkSize_isOk, charge_isOk] at hhuff
    simp only [decodedBound, mulSat, addSat, size_new, maxSize_new, sizeCeiling, if_true,
      decide_eq_false_iff_not, Nat.not_le] at hgt hhuff
    omega
  · intro hle b hplain
    have hest : decodedBound length false ≤ decodedBound length true :=
      (le_decodedBound_iff length).2 hle
    exact checkSize_fails_of_bound_le b hest hplain

/-- The size check against the budget: the Huffman estimate is at least the length exactly up to
a third of the greatest machine word, and exactly there the Huffman check refuses, in every state,
all that the plain check refuses; each check refuses every longer length once it refuses one; and
the plain check admits a length exactly when an emit charged that length, decoded or not, would be
admitted. -/
theorem size_check_against_budget (b : Builder) (length : Nat) :
    (length ≤ decodedBound length true ↔ length ≤ sizeCeiling / 3) ∧
      ((∀ b' : Builder, (b'.checkSize length false).isOk = false →
          (b'.checkSize length true).isOk = false) ↔ length ≤ sizeCeiling / 3) ∧
      (∀ huffman length', length ≤ length' →
          (b.checkSize length huffman).isOk = false → (b.checkSize length' huffman).isOk = false) ∧
      (∀ f : Field, f.size = length → (b.checkSize length false).isOk = (b.emit f).2.isOk) ∧
      ∀ name value, name.length + value.length + fieldOverhead = length →
        (b.checkSize length false).isOk = (b.emitUndecodable name value).2.isOk := by
  refine ⟨le_decodedBound_iff length, huffman_check_covers_plain_iff length,
    fun huffman length' hle => checkSize_fails_of_bound_le b (decodedBound_mono huffman hle),
    fun f hf => ?_, fun name value hcharge => ?_⟩
  · subst hf
    rw [checkSize_isOk, emit, chargeThen_isOk]
    rfl
  · subst hcharge
    rw [checkSize_isOk, emitUndecodable, chargeThen_isOk]
    rfl

/-- Under a bound one below the greatest machine word, a string of that word's length is refused
by the plain check and admitted by the Huffman check, whose estimate has fallen below it. -/
theorem huffman_check_admits_refused_length :
    ((new (sizeCeiling - 1)).checkSize sizeCeiling false).isOk = false ∧
      ((new (sizeCeiling - 1)).checkSize sizeCeiling true).isOk = true ∧
      decodedBound sizeCeiling true < sizeCeiling := by
  decide

end Builder

end Http2Headers
