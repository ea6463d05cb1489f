import Mathlib.Algebra.GroupWithZero.Nat
import Mathlib.Tactic.SplitIfs
import Http2Headers.Field
import Http2Headers.Text.Utf8

/-!
# Decoded text is as long as its octets

A field that arrives as UTF-8 is charged by the UTF-8 length of its decoded name and value, one
that does not by its raw octets. The two measures agree: the characters read from valid UTF-8 take
exactly as many octets to write as were read (`utf8Length_of_decode?`).

The scanner finishes a character only after its last continuation octet, so the invariant is about
the sequence in progress (`Pending.Sized`): the octets it has consumed plus those still missing are
the UTF-8 size of every code point it may still complete to. The lead table makes that true when a
sequence starts (`sized_of_lead`), and a continuation octet in range keeps it
(`Pending.Sized.next`), since the range of completions only narrows.
-/

namespace Http2Headers.Text.Utf8

/-- The UTF-8 size of a valid code point, by the four ranges of RFC 3629. -/
theorem utf8Size_ofNat {x : Nat} (hx : x.isValidChar) :
    (Char.ofNat x).utf8Size =
      if x ≤ 0x7F then 1 else if x ≤ 0x7FF then 2 else if x ≤ 0xFFFF then 3 else 4 := by
  have hval : (Char.ofNat x).val.toNat = x := by
    rw [Char.ofNat, dif_pos hx]
    exact UInt32.toNat_ofNatLT
  split_ifs with h1 h2 h3
  · rw [Char.utf8Size_eq_one_iff, UInt32.le_iff_toNat_le, hval]
    exact h1
  · rw [Char.utf8Size_eq_two_iff, UInt32.lt_iff_toNat_lt, UInt32.le_iff_toNat_le, hval]
    exact ⟨by simp; omega, h2⟩
  · rw [Char.utf8Size_eq_three_iff, UInt32.lt_iff_toNat_lt, UInt32.le_iff_toNat_le, hval]
    exact ⟨by simp; omega, h3⟩
  · rw [Char.utf8Size_eq_four_iff, UInt32.lt_iff_toNat_lt, hval]
    simp
    omega

/-- The least code point a pending sequence may still complete to. -/
def Pending.least (p : Pending) : Nat :=
  (64 * p.bits + (p.lo.toNat - 0x80)) * 64 ^ (p.missing - 1)

/-- The greatest code point a pending sequence may still complete to. -/
def Pending.greatest (p : Pending) : Nat :=
  (64 * p.bits + (p.hi.toNat - 0x80) + 1) * 64 ^ (p.missing - 1) - 1

/-- A pending sequence that has consumed `read` octets: between one and three continuation octets
are missing, each expected in the continuation range, and every code point it may still complete
to is valid and takes `read` octets plus the missing ones. -/
structure Pending.Sized (p : Pending) (read : Nat) : Prop where
  missing_pos : 0 < p.missing
  missing_le : p.missing ≤ 3
  lo_ge : 0x80 ≤ p.lo.toNat
  hi_le : p.hi.toNat ≤ 0xBF
  size_eq : ∀ x, p.least ≤ x → x ≤ p.greatest →
    x.isValidChar ∧ (Char.ofNat x).utf8Size = read + p.missing

/-- The last continuation octet, in range, completes a character of the sequence's size. -/
theorem Pending.Sized.last {p : Pending} {read : Nat} (h : p.Sized read) (hm : p.missing = 1)
    {b : UInt8} (hlo : p.lo ≤ b) (hhi : b ≤ p.hi) :
    (Char.ofNat (64 * p.bits + (b.toNat - 0x80))).utf8Size = read + 1 := by
  rw [UInt8.le_iff_toNat_le] at hlo hhi
  have hx := h.size_eq (64 * p.bits + (b.toNat - 0x80))
    (by simp only [least, hm, Nat.sub_self, Nat.pow_zero, Nat.mul_one]; omega)
    (by simp only [greatest, hm, Nat.sub_self, Nat.pow_zero, Nat.mul_one]; omega)
  rw [hm] at hx
  exact hx.2

/-- A continuation octet in range, not the last, leaves a sequence that has read one octet more and
may complete only to code points the old one could. -/
theorem Pending.Sized.next {p : Pending} {read : Nat} (h : p.Sized read) (hm : p.missing ≠ 1)
    {b : UInt8} (hlo : p.lo ≤ b) (hhi : b ≤ p.hi) :
    Pending.Sized ⟨64 * p.bits + (b.toNat - 0x80), p.missing - 1, 0x80, 0xBF⟩ (read + 1) := by
  rw [UInt8.le_iff_toNat_le] at hlo hhi
  have hpos := h.missing_pos
  have hle := h.missing_le
  refine ⟨by simp only; omega, by simp only; omega, Nat.le_refl _, Nat.le_refl _,
    fun x hx1 hx2 => ?_⟩
  -- the completions of the new sequence lie within those of the old one
  have hsub : p.least ≤ x ∧ x ≤ p.greatest := by
    obtain hm | hm : p.missing = 2 ∨ p.missing = 3 := by omega
    all_goals
      simp only [least, greatest, hm] at hx1 hx2 ⊢
      simp at hx1 hx2 ⊢
      omega
  have hx := h.size_eq x hsub.1 hsub.2
  exact ⟨hx.1, by rw [hx.2]; simp only; omega⟩

/-- The table of lead octets, branch by branch: the octets of each row and what they start. -/
theorem lead_cases (b : UInt8) :
    (b.toNat < 0x80 ∧ lead b = .ascii (Char.ofNat b.toNat)) ∨
      lead b = .invalid ∨
      (0xC2 ≤ b.toNat ∧ b.toNat < 0xE0 ∧
        lead b = .pending ⟨b.toNat - 0xC0, 1, 0x80, 0xBF⟩) ∨
      (b.toNat = 0xE0 ∧ lead b = .pending ⟨0, 2, 0xA0, 0xBF⟩) ∨
      (b.toNat = 0xED ∧ lead b = .pending ⟨0xD, 2, 0x80, 0x9F⟩) ∨
      (0xE1 ≤ b.toNat ∧ b.toNat < 0xF0 ∧ b.toNat ≠ 0xED ∧
        lead b = .pending ⟨b.toNat - 0xE0, 2, 0x80, 0xBF⟩) ∨
      (b.toNat = 0xF0 ∧ lead b = .pending ⟨0, 3, 0x90, 0xBF⟩) ∨
      (0xF1 ≤ b.toNat ∧ b.toNat < 0xF4 ∧
        lead b = .pending ⟨b.toNat - 0xF0, 3, 0x80, 0xBF⟩) ∨
      (b.toNat = 0xF4 ∧ lead b = .pending ⟨4, 3, 0x80, 0x8F⟩) := by
  -- one condition of the chain at a time, each branch read off by rewriting its `if`s
  by_cases h1 : b.toNat < 0x80
  · exact .inl ⟨h1, by simp only [lead, if_pos h1]⟩
  by_cases h2 : b.toNat < 0xC2
  · exact .inr (.inl (by simp only [lead, if_neg h1, if_pos h2]))
  by_cases h3 : b.toNat < 0xE0
  · refine .inr (.inr (.inl ⟨by omega, h3, ?_⟩))
    simp only [lead, if_neg h1, if_neg h2, if_pos h3]
  by_cases h4 : b.toNat = 0xE0
  · refine .inr (.inr (.inr (.inl ⟨h4, ?_⟩)))
    simp only [lead, if_neg h1, if_neg h2, if_neg h3, if_pos h4]
  by_cases h5 : b.toNat = 0xED
  · refine .inr (.inr (.inr (.inr (.inl ⟨h5, ?_⟩))))
    simp only [lead, if_neg h1, if_neg h2, if_neg h3, if_neg h4, if_pos h5]
  by_cases h6 : b.toNat < 0xF0
  · refine .inr (.inr (.inr (.inr (.inr (.inl ⟨by omega, h6, h5, ?_⟩)))))
    simp only [lead, if_neg h1, if_neg h2, if_neg h3, if_neg h4, if_neg h5, if_pos h6]
  by_cases h7 : b.toNat = 0xF0
  · refine .inr (.inr (.inr (.inr (.inr (.inr (.inl ⟨h7, ?_⟩))))))
    simp only [lead, if_neg h1, if_neg h2, if_neg h3, if_neg h4, if_neg h5, if_neg h6, if_pos h7]
  by_cases h8 : b.toNat < 0xF4
  · refine .inr (.inr (.inr (.inr (.inr (.inr (.inr (.inl ⟨by omega, h8, ?_⟩)))))))
    simp only [lead, if_neg h1, if_neg h2, if_neg h3, if_neg h4, if_neg h5, if_neg h6, if_neg h7,
      if_pos h8]
  by_cases h9 : b.toNat = 0xF4
  · refine .inr (.inr (.inr (.inr (.inr (.inr (.inr (.inr ⟨h9, ?_⟩)))))))
    simp only [lead, if_neg h1, if_neg h2, if_neg h3, if_neg h4, if_neg h5, if_neg h6, if_neg h7,
      if_neg h8, if_pos h9]
  · refine .inr (.inl ?_)
    simp only [lead, if_neg h1, if_neg h2, if_neg h3, if_neg h4, if_neg h5, if_neg h6, if_neg h7,
      if_neg h8, if_neg h9]

/-- An ASCII octet is a character of one octet. -/
theorem utf8Size_of_lead_ascii {b : UInt8} {c : Char} (h : lead b = .ascii c) :
    c.utf8Size = 1 := by
  rcases lead_cases b with ⟨h1, hl⟩ | hl | ⟨-, -, hl⟩ | ⟨-, hl⟩ | ⟨-, hl⟩ | ⟨-, -, -, hl⟩ |
      ⟨-, hl⟩ | ⟨-, -, hl⟩ | ⟨-, hl⟩ <;>
    rw [hl] at h <;> simp only [Lead.ascii.injEq, reduceCtorEq] at h
  subst h
  rw [utf8Size_ofNat (by unfold Nat.isValidChar; omega), if_pos (by omega)]

/-- A code point of a range that is valid and of one size has that size. -/
theorem valid_utf8Size_ofNat {x k : Nat} (hvalid : x.isValidChar)
    (hk : (if x ≤ 0x7F then 1 else if x ≤ 0x7FF then 2 else if x ≤ 0xFFFF then 3 else 4) =
      k) :
    x.isValidChar ∧ (Char.ofNat x).utf8Size = k :=
  ⟨hvalid, (utf8Size_ofNat hvalid).trans hk⟩

/-- A lead octet starts a sequence that has read one octet, by the table of lead octets. -/
theorem sized_of_lead {b : UInt8} {p : Pending} (h : lead b = .pending p) : p.Sized 1 := by
  have hb := UInt8.toNat_lt b
  rcases lead_cases b with ⟨-, hl⟩ | hl | ⟨h1, h2, hl⟩ | ⟨h1, hl⟩ | ⟨h1, hl⟩ |
      ⟨h1, h2, h3, hl⟩ | ⟨h1, hl⟩ | ⟨h1, h2, hl⟩ | ⟨h1, hl⟩ <;> rw [hl] at h <;>
    simp only [Lead.pending.injEq, reduceCtorEq] at h <;> subst h
  -- each row's completions lie in one range of code points of one size
  all_goals
    refine ⟨by dsimp only; decide, by dsimp only; decide, by dsimp only; decide,
      by dsimp only; decide, fun x hx1 hx2 => ?_⟩
    dsimp only [Pending.least, Pending.greatest] at hx1 hx2 ⊢
    simp only [UInt8.reduceToNat, Nat.reduceSub, Nat.reducePow, Nat.mul_one, Nat.add_zero]
      at hx1 hx2
    exact valid_utf8Size_ofNat (by unfold Nat.isValidChar; omega) (by split_ifs <;> omega)

/-- What a scanner state has consumed of the character in progress: nothing between characters, and
`read` octets of a pending sequence that is sized. -/
def StateSized : Option Pending → Nat → Prop
  | none, read => read = 0
  | some p, read => p.Sized read

theorem mapM_id_cons_eq_some {u : Option Char} {us : List (Option Char)} {cs : List Char} :
    (u :: us).mapM id = some cs ↔
      ∃ c cs', u = some c ∧ us.mapM id = some cs' ∧ cs = c :: cs' := by
  simp only [List.mapM_cons, id, Option.bind_eq_bind, Option.bind_eq_some_iff, Option.pure_def,
    Option.some.injEq]
  constructor
  · rintro ⟨c, hc, cs', hcs', rfl⟩
    exact ⟨c, cs', hc, hcs', rfl⟩
  · rintro ⟨c, cs', hc, hcs', rfl⟩
    exact ⟨c, hc, cs', hcs', rfl⟩

/-- The characters read from the octets, from a state that has consumed `read` octets of the
character in progress, take exactly the octets consumed and read to write. -/
theorem sum_utf8Size_unitsFrom (bs : List UInt8) :
    ∀ (st : Option Pending) (read : Nat) (cs : List Char), StateSized st read →
      (unitsFrom st bs).mapM id = some cs → (cs.map Char.utf8Size).sum = read + bs.length := by
  induction bs with
  | nil =>
    rintro (_ | p) read cs hst h
    · simp only [unitsFrom, List.mapM_nil, Option.pure_def, Option.some.injEq] at h
      subst h
      simp only [StateSized] at hst
      simp [hst]
    · simp [unitsFrom] at h
  | cons b bs ih =>
    rintro (_ | p) read cs hst h
    · -- between characters: the octet is a lead octet
      simp only [StateSized] at hst
      subst hst
      cases hl : lead b with
      | ascii c =>
        simp only [unitsFrom, hl, mapM_id_cons_eq_some, Option.some.injEq] at h
        obtain ⟨c', cs', rfl, hcs', rfl⟩ := h
        have := ih none 0 cs' rfl hcs'
        simp only [List.map_cons, List.sum_cons, this, utf8Size_of_lead_ascii hl,
          List.length_cons]
        omega
      | pending q =>
        simp only [unitsFrom, hl] at h
        have := ih (some q) 1 cs (sized_of_lead hl) h
        simp only [this, List.length_cons]
        omega
      | invalid => simp [unitsFrom, hl] at h
    · -- inside a sequence: the octet must continue it
      simp only [StateSized] at hst
      simp only [unitsFrom] at h
      split at h
      · next hin =>
        split at h
        · next hm =>
          simp only [mapM_id_cons_eq_some, Option.some.injEq] at h
          obtain ⟨c, cs', rfl, hcs', rfl⟩ := h
          have := ih none 0 cs' rfl hcs'
          simp only [List.map_cons, List.sum_cons, this, hst.last hm hin.1 hin.2,
            List.length_cons]
          omega
        · next hm =>
          have := ih (some _) (read + 1) cs (hst.next hm hin.1 hin.2) h
          simp only [this, List.length_cons]
          omega
      · split at h <;> simp at h

/-- The UTF-8 length of a text is the sum of the sizes of its characters. -/
theorem utf8Length_eq_sum (s : String) : utf8Length s = (s.toList.map Char.utf8Size).sum := by
  rw [utf8Length, List.sum, List.foldr_map]

/-- Valid UTF-8 decodes to text whose UTF-8 length is the number of octets. -/
theorem utf8Length_of_decode? {bs : List UInt8} {s : String} (h : decode? bs = some s) :
    utf8Length s = bs.length := by
  simp only [decode?, Option.map_eq_some_iff] at h
  obtain ⟨cs, hcs, rfl⟩ := h
  simpa [utf8Length_eq_sum] using sum_utf8Size_unitsFrom bs none 0 cs rfl hcs

end Http2Headers.Text.Utf8
