import Http2Headers.Text.Ascii

/-!
# ASCII case, character by character and octet by octet

Header names and schemes are compared ignoring ASCII case the way it is done on UTF-8 octets: as
many octets on both sides, and the same octets once `A`–`Z` (0x41–0x5A) are lowered
(`OctetsEqIgnoreCase`). `Text.eqIgnoreAsciiCase` lowers characters instead, and the two agree
(`eqIgnoreAsciiCase_iff`): an ASCII character is a single octet that both lower alike, and every
octet of a character beyond ASCII is 0x80 or more, which lowering leaves alone
(`map_lowerOctet_utf8EncodeChar`).

Lowering never moves a character across the ASCII boundary, so where one of two texts equal
ignoring ASCII case holds a character beyond ASCII, the other holds the very same character
(`getElem?_eq_of_eqIgnoreAsciiCase`): `É` matches `É` and nothing else.
-/

namespace Http2Headers.Text

/-- The UTF-8 octets of a text. -/
def octets (s : String) : List UInt8 :=
  s.toUTF8.data.toList

/-- The ASCII lower-case form of an octet: `A`–`Z` (0x41–0x5A) move to `a`–`z`, every other octet
stays. -/
def lowerOctet (b : UInt8) : UInt8 :=
  if 0x41 ≤ b ∧ b ≤ 0x5A then b + 0x20 else b

/-- Two texts are equal ignoring ASCII case, octet by octet: they have as many UTF-8 octets, and the
same ones once each is lowered. -/
def OctetsEqIgnoreCase (s t : String) : Prop :=
  s.utf8ByteSize = t.utf8ByteSize ∧ (octets s).map lowerOctet = (octets t).map lowerOctet

instance : DecidableRel OctetsEqIgnoreCase :=
  fun _ _ => inferInstanceAs (Decidable (_ ∧ _))

/-! ## Lowering a character -/

theorem asciiLower_toNat (c : Char) :
    (asciiLower c).toNat = if 65 ≤ c.toNat ∧ c.toNat ≤ 90 then c.toNat + 32 else c.toNat := by
  have hrange : ('A' ≤ c ∧ c ≤ 'Z') ↔ (65 ≤ c.toNat ∧ c.toNat ≤ 90) := by
    simp only [Char.le_def, UInt32.le_iff_toNat_le]
    rfl
  by_cases h : 65 ≤ c.toNat ∧ c.toNat ≤ 90
  · have hvalid : (c.toNat + 32).isValidChar := Or.inl (by omega)
    rw [asciiLower, if_pos (hrange.2 h), if_pos h, Char.ofNat, dif_pos hvalid]
    exact UInt32.toNat_ofNatLT
  · rw [asciiLower, if_neg (fun h' => h (hrange.1 h')), if_neg h]

/-- Characters beyond ASCII are their own lower-case form. -/
theorem asciiLower_of_le {c : Char} (h : 0x80 ≤ c.toNat) : asciiLower c = c := by
  apply Char.toNat_inj.1
  rw [asciiLower_toNat, if_neg (by omega)]

/-- Lowering keeps a character on its side of the ASCII boundary. -/
theorem le_asciiLower_toNat_iff (c : Char) : 0x80 ≤ (asciiLower c).toNat ↔ 0x80 ≤ c.toNat := by
  rw [asciiLower_toNat]
  split <;> omega

/-! ## Lowering an octet -/

theorem lowerOctet_toNat (b : UInt8) :
    (lowerOctet b).toNat = if 65 ≤ b.toNat ∧ b.toNat ≤ 90 then b.toNat + 32 else b.toNat := by
  have hrange : (0x41 ≤ b ∧ b ≤ 0x5A) ↔ (65 ≤ b.toNat ∧ b.toNat ≤ 90) := by
    simp only [UInt8.le_iff_toNat_le]
    rfl
  by_cases h : 65 ≤ b.toNat ∧ b.toNat ≤ 90
  · rw [lowerOctet, if_pos (hrange.2 h), if_pos h, UInt8.toNat_add]
    simp only [UInt8.reduceToNat]
    omega
  · rw [lowerOctet, if_neg (fun h' => h (hrange.1 h')), if_neg h]

/-- An octet of 0x80 or more is left alone by lowering. -/
theorem lowerOctet_of_le {b : UInt8} (h : 0x80 ≤ b.toNat) : lowerOctet b = b := by
  apply UInt8.toNat_inj.1
  rw [lowerOctet_toNat, if_neg (by omega)]

/-! ## Octets of a character -/

/-- An ASCII character is written as the single octet of its code. -/
theorem utf8EncodeChar_of_lt {c : Char} (h : c.toNat < 0x80) :
    String.utf8EncodeChar c = [UInt8.ofNat c.toNat] := by
  simp [String.utf8EncodeChar, Nat.le_of_lt_succ h]

/-- Every octet of a character beyond ASCII is 0x80 or more. -/
theorem le_of_mem_utf8EncodeChar {c : Char} (h : 0x80 ≤ c.toNat) {b : UInt8}
    (hb : b ∈ String.utf8EncodeChar c) : 0x80 ≤ b.toNat := by
  have hv : c.val.toNat = c.toNat := rfl
  simp only [String.utf8EncodeChar, hv, if_neg (show ¬c.toNat ≤ 0x7f by omega)] at hb
  split at hb
  · simp only [List.mem_cons, List.not_mem_nil, or_false] at hb
    rcases hb with rfl | rfl <;> simp only [UInt8.toNat_ofNat'] <;> omega
  · split at hb
    · simp only [List.mem_cons, List.not_mem_nil, or_false] at hb
      rcases hb with rfl | rfl | rfl <;> simp only [UInt8.toNat_ofNat'] <;> omega
    · simp only [List.mem_cons, List.not_mem_nil, or_false] at hb
      rcases hb with rfl | rfl | rfl | rfl <;> simp only [UInt8.toNat_ofNat'] <;> omega

/-- Lowering the octets of a character writes its lower-case form: the one octet of an ASCII
character is lowered as the character is, and the octets of any other character stay. -/
theorem map_lowerOctet_utf8EncodeChar (c : Char) :
    (String.utf8EncodeChar c).map lowerOctet = String.utf8EncodeChar (asciiLower c) := by
  by_cases h : c.toNat < 0x80
  · have hlower : (asciiLower c).toNat < 0x80 := by
      rw [asciiLower_toNat]
      split <;> omega
    rw [utf8EncodeChar_of_lt h, utf8EncodeChar_of_lt hlower, List.map_singleton, List.cons.injEq]
    refine ⟨UInt8.toNat_inj.1 ?_, rfl⟩
    rw [lowerOctet_toNat, UInt8.toNat_ofNat', UInt8.toNat_ofNat', asciiLower_toNat]
    split <;> split <;> omega
  · rw [asciiLower_of_le (by omega)]
    conv => rhs; rw [← List.map_id (String.utf8EncodeChar c)]
    exact List.map_congr_left fun b hb => lowerOctet_of_le (le_of_mem_utf8EncodeChar (by omega) hb)

/-! ## Octets of a text -/

theorem octets_eq (s : String) : octets s = s.toList.flatMap String.utf8EncodeChar := by
  rw [octets, String.toUTF8_eq_toByteArray, ← String.utf8Encode_toList, List.utf8Encode,
    List.toList_data_toByteArray]

theorem length_octets (s : String) : (octets s).length = s.utf8ByteSize := by
  rw [octets, Array.length_toList, ByteArray.size_data, String.toUTF8_eq_toByteArray,
    String.size_toByteArray]

/-- A text is determined by its octets. -/
theorem octets_injective {s t : String} (h : octets s = octets t) : s = t := by
  simp only [octets, String.toUTF8_eq_toByteArray] at h
  exact String.toByteArray_inj.1 (ByteArray.ext (Array.toList_inj.1 h))

/-- Lowering the octets of a text writes the text with its characters lowered. -/
theorem map_lowerOctet_octets (s : String) :
    (octets s).map lowerOctet = octets (String.ofList (asciiLowerAll s)) := by
  rw [octets_eq, octets_eq, String.toList_ofList, asciiLowerAll, List.map_flatMap,
    List.flatMap_map]
  simp only [map_lowerOctet_utf8EncodeChar]

/-! ## The two comparisons -/

theorem eqIgnoreAsciiCase_iff_asciiLowerAll {s t : String} :
    eqIgnoreAsciiCase s t = true ↔ asciiLowerAll s = asciiLowerAll t :=
  beq_iff_eq

theorem eqIgnoreAsciiCase_self (s : String) : eqIgnoreAsciiCase s s = true :=
  eqIgnoreAsciiCase_iff_asciiLowerAll.2 rfl

theorem eqIgnoreAsciiCase_comm (s t : String) : eqIgnoreAsciiCase s t = eqIgnoreAsciiCase t s := by
  rw [eqIgnoreAsciiCase, eqIgnoreAsciiCase, Bool.beq_comm]

/-- Comparing characters ignoring ASCII case is comparing octets ignoring ASCII case. -/
theorem eqIgnoreAsciiCase_iff (s t : String) :
    eqIgnoreAsciiCase s t = true ↔ OctetsEqIgnoreCase s t := by
  rw [eqIgnoreAsciiCase_iff_asciiLowerAll, OctetsEqIgnoreCase, map_lowerOctet_octets,
    map_lowerOctet_octets]
  constructor
  · intro h
    refine ⟨?_, by rw [h]⟩
    have hlen := congrArg List.length (congrArg (fun l => octets (String.ofList l)) h)
    simp only [← map_lowerOctet_octets, List.length_map, length_octets] at hlen
    exact hlen
  · rintro ⟨-, h⟩
    exact String.ofList_injective (octets_injective h)

/-- Texts equal octet by octet ignoring ASCII case have the same lowered form. -/
theorem OctetsEqIgnoreCase.asciiLowerAll_eq {s t : String} (h : OctetsEqIgnoreCase s t) :
    asciiLowerAll s = asciiLowerAll t :=
  eqIgnoreAsciiCase_iff_asciiLowerAll.1 ((eqIgnoreAsciiCase_iff s t).2 h)

/-- Comparing with a text depends on the text only through its lowered form. -/
theorem eqIgnoreAsciiCase_congr_right {s t : String} (h : asciiLowerAll s = asciiLowerAll t)
    (u : String) : eqIgnoreAsciiCase u s = eqIgnoreAsciiCase u t := by
  rw [eqIgnoreAsciiCase, eqIgnoreAsciiCase, h]

/-- Where one of two texts equal ignoring ASCII case holds a character beyond ASCII, the other
holds the same character. -/
theorem getElem?_eq_of_eqIgnoreAsciiCase {s t : String} (h : eqIgnoreAsciiCase s t = true)
    {j : Nat} {c : Char} (hj : s.toList[j]? = some c) (hc : 0x80 ≤ c.toNat) :
    t.toList[j]? = some c := by
  have hlower := congrArg (·[j]?) (eqIgnoreAsciiCase_iff_asciiLowerAll.1 h)
  simp only [asciiLowerAll, List.getElem?_map, hj, Option.map_some, asciiLower_of_le hc] at hlower
  cases hd : t.toList[j]? with
  | none => rw [hd, Option.map_none] at hlower; cases hlower
  | some d =>
    rw [hd, Option.map_some, Option.some.injEq] at hlower
    -- `c` is the lowered `d`, so `d` is beyond ASCII too and lowering kept it
    have hd : 0x80 ≤ d.toNat := (le_asciiLower_toNat_iff d).1 (hlower ▸ hc)
    rw [hlower, asciiLower_of_le hd]

example : OctetsEqIgnoreCase "Content-Length" "content-length" := by decide
example : ¬OctetsEqIgnoreCase "É" "é" := by decide

end Http2Headers.Text
