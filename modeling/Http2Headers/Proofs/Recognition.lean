import Http2Headers.Field.Kind
import Http2Headers.Scheme
import Http2Headers.Proofs.AsciiCase

/-!
# Recognising header names and schemes

Both look a text up in a table of lower-case ASCII names, compared ignoring ASCII case, and fall
back to `other` when no name matches. Whether a name matches depends on the text only through its
lowered form (`Text.eqIgnoreAsciiCase_congr_right`), and the names of a table differ in that form,
so a text is read as an entry exactly when it equals the entry's name ignoring ASCII case
(`recognize_eq_iff`, `parse_eq_iff_of_mem_known`). For header kinds this comes from recognition
reading every wire name back as its own kind (`recognize_name`).

A character beyond ASCII lowers to itself and no table name holds one, so a header name with such a
character is `other`: `connectıon`, with a dotless i, is no `connection`. An unknown scheme keeps
its text exactly as it came, so reading the text of a scheme gives the scheme back
(`parse_text_parse`).
-/

namespace Http2Headers

open Text

namespace Field.Kind

/-- Recognition depends on a name only through its lowered form. -/
theorem recognize_congr {s t : String} (h : asciiLowerAll s = asciiLowerAll t) :
    recognize s = recognize t := by
  simp only [recognize, eqIgnoreAsciiCase_congr_right h]

/-- Every wire name is recognised as its own kind; `<other>` matches no known name. -/
theorem recognize_name (k : Kind) : recognize k.name = k := by
  cases k <;> decide

/-- The wire names are written in ASCII. -/
theorem name_ascii (k : Kind) : ∀ c ∈ k.name.toList, c.toNat < 0x80 := by
  cases k <;> simp [name]

/-- The pseudo headers are the kinds with the five `:` names. -/
theorem isPseudo_iff_name_mem (k : Kind) :
    k.isPseudo = true ↔ k.name ∈ [":status", ":method", ":scheme", ":authority", ":path"] := by
  cases k <;> decide

/-- A name is recognised as a known kind exactly when it equals the kind's wire name ignoring ASCII
case. -/
theorem recognize_eq_iff {s : String} {k : Kind} (hk : k ≠ other) :
    recognize s = k ↔ eqIgnoreAsciiCase k.name s = true := by
  constructor
  · intro h
    unfold recognize at h
    cases hfind : known.find? (fun k => eqIgnoreAsciiCase k.name s) with
    | none =>
      rw [hfind, Option.getD_none] at h
      exact absurd h.symm hk
    | some k' =>
      rw [hfind, Option.getD_some] at h
      have hmatch : eqIgnoreAsciiCase k'.name s = true :=
        List.find?_some (p := fun k : Kind => eqIgnoreAsciiCase k.name s) hfind
      rw [← h]
      exact hmatch
  · intro h
    rw [recognize_congr (eqIgnoreAsciiCase_iff_asciiLowerAll.1 h).symm, recognize_name]

/-- A name is `other` exactly when it equals no known wire name ignoring ASCII case. -/
theorem recognize_eq_other_iff {s : String} :
    recognize s = other ↔ ∀ k, k ≠ other → eqIgnoreAsciiCase k.name s = false := by
  constructor
  · intro h k hk
    cases hmatch : eqIgnoreAsciiCase k.name s with
    | false => rfl
    | true => exact absurd (((recognize_eq_iff hk).2 hmatch).symm.trans h) hk
  · intro h
    apply Decidable.byContradiction
    intro hne
    have hmatch := (recognize_eq_iff hne).1 rfl
    rw [h _ hne] at hmatch
    cases hmatch

/-- A name holding a character beyond ASCII is recognised as no known kind. -/
theorem recognize_eq_other_of_le {s : String} {c : Char} (hc : c ∈ s.toList)
    (hbeyond : 0x80 ≤ c.toNat) : recognize s = other := by
  refine recognize_eq_other_iff.2 fun k _ => ?_
  cases hmatch : eqIgnoreAsciiCase k.name s with
  | false => rfl
  | true =>
    -- the known name would hold the same character where the name holds it
    rw [eqIgnoreAsciiCase_comm] at hmatch
    obtain ⟨j, hj⟩ := List.mem_iff_getElem?.1 hc
    have hname := getElem?_eq_of_eqIgnoreAsciiCase hmatch hj hbeyond
    have hascii := name_ascii k c (List.mem_of_getElem? hname)
    omega

/-- A name is recognised as a pseudo header exactly when it is one of the five `:` names ignoring
ASCII case. -/
theorem isPseudo_recognize_iff {s : String} :
    (recognize s).isPseudo = true ↔
      ∃ n ∈ [":status", ":method", ":scheme", ":authority", ":path"],
        eqIgnoreAsciiCase n s = true := by
  constructor
  · intro h
    have hk : recognize s ≠ other := fun ho => by rw [ho] at h; cases h
    exact ⟨(recognize s).name, (isPseudo_iff_name_mem _).1 h, (recognize_eq_iff hk).1 rfl⟩
  · rintro ⟨n, hn, h⟩
    have hnames : ∀ n ∈ [":status", ":method", ":scheme", ":authority", ":path"],
        (recognize n).isPseudo = true := by decide
    rw [← recognize_congr (eqIgnoreAsciiCase_iff_asciiLowerAll.1 h)]
    exact hnames n hn

/-- Recognition compares a name with the nine known wire names octet by octet ignoring ASCII case,
and with nothing else: a name is a known kind exactly when it has as many octets as the kind's
wire name and the same ones once lowered, and `other` when no wire name matches; so changing the
case of ASCII letters never changes the kind, a name with a character beyond ASCII is `other`, and
the pseudo headers are the five `:` names in any ASCII case. -/
theorem recognize_folds_ascii_case_only (s : String) :
    (∀ k, k ≠ other → (recognize s = k ↔ OctetsEqIgnoreCase k.name s)) ∧
    (recognize s = other ↔ ∀ k, k ≠ other → ¬OctetsEqIgnoreCase k.name s) ∧
    (∀ t, OctetsEqIgnoreCase s t → recognize t = recognize s) ∧
    (∀ c ∈ s.toList, 0x80 ≤ c.toNat → recognize s = other) ∧
    ((recognize s).isPseudo = true ↔
      ∃ n ∈ [":status", ":method", ":scheme", ":authority", ":path"],
        OctetsEqIgnoreCase n s) := by
  refine ⟨fun k hk => ?_, ?_, fun t h => recognize_congr h.asciiLowerAll_eq.symm,
    fun c hc hbeyond => recognize_eq_other_of_le hc hbeyond, ?_⟩
  · rw [recognize_eq_iff hk, eqIgnoreAsciiCase_iff]
  · simp only [recognize_eq_other_iff, ← eqIgnoreAsciiCase_iff, Bool.not_eq_true]
  · simp only [isPseudo_recognize_iff, eqIgnoreAsciiCase_iff]

example : recognize "CONNECTION" = connection ∧ recognize "connectıon" = other := by decide

end Field.Kind

namespace Scheme

/-- Reading a scheme looks its text up by its lowered form. -/
theorem find?_congr {s t : String} (h : asciiLowerAll s = asciiLowerAll t) :
    known.find? (fun entry => eqIgnoreAsciiCase entry.1 s) =
      known.find? (fun entry => eqIgnoreAsciiCase entry.1 t) := by
  simp only [eqIgnoreAsciiCase_congr_right h]

/-- The four entries of the table of known schemes. -/
theorem mem_known {name : String} {k : Scheme} (hk : (name, k) ∈ known) :
    (name = "http" ∧ k = http) ∨ (name = "https" ∧ k = https) ∨ (name = "ws" ∧ k = ws) ∨
      (name = "wss" ∧ k = wss) := by
  simpa only [known, List.mem_cons, List.not_mem_nil, or_false, Prod.mk.injEq] using hk

/-- Each known name finds its own scheme, and no earlier one. -/
theorem find?_name {name : String} {k : Scheme} (hk : (name, k) ∈ known) :
    known.find? (fun entry => eqIgnoreAsciiCase entry.1 name) = some (name, k) := by
  rcases mem_known hk with ⟨rfl, rfl⟩ | ⟨rfl, rfl⟩ | ⟨rfl, rfl⟩ | ⟨rfl, rfl⟩ <;> decide

/-- A known scheme's text is its name. -/
theorem text_of_mem_known {name : String} {k : Scheme} (hk : (name, k) ∈ known) :
    k.text = name := by
  rcases mem_known hk with ⟨rfl, rfl⟩ | ⟨rfl, rfl⟩ | ⟨rfl, rfl⟩ | ⟨rfl, rfl⟩ <;> rfl

theorem ne_other_of_mem_known {name : String} {k : Scheme} (hk : (name, k) ∈ known) (t : String) :
    k ≠ other t := by
  rcases mem_known hk with ⟨-, rfl⟩ | ⟨-, rfl⟩ | ⟨-, rfl⟩ | ⟨-, rfl⟩ <;> nofun

/-- Reading either finds a known entry whose name matches, or keeps the text as an unknown
scheme. -/
theorem parse_cases (s : String) :
    (∃ entry ∈ known, eqIgnoreAsciiCase entry.1 s = true ∧ parse s = entry.2) ∨
      parse s = other s := by
  cases hfind : known.find? (fun entry => eqIgnoreAsciiCase entry.1 s) with
  | none => exact .inr (by rw [parse, hfind])
  | some entry =>
    have hmatch : eqIgnoreAsciiCase entry.1 s = true :=
      List.find?_some (p := fun entry : String × Scheme => eqIgnoreAsciiCase entry.1 s) hfind
    exact .inl ⟨entry, List.mem_of_find?_eq_some hfind, hmatch, by rw [parse, hfind]⟩

/-- Reading gives a known scheme exactly when the text equals its name ignoring ASCII case. -/
theorem parse_eq_iff_of_mem_known {s name : String} {k : Scheme} (hk : (name, k) ∈ known) :
    parse s = k ↔ eqIgnoreAsciiCase name s = true := by
  constructor
  · intro h
    rcases parse_cases s with ⟨entry, hmem, hmatch, hs⟩ | hs
    · -- the schemes of the table differ, so the entry found is `(name, k)`
      have hname : entry.1 = name := by
        rw [← text_of_mem_known hmem, ← hs, h, text_of_mem_known hk]
      rw [← hname]
      exact hmatch
    · exact absurd (hs.symm.trans h).symm (ne_other_of_mem_known hk s)
  · intro h
    rw [parse, find?_congr (eqIgnoreAsciiCase_iff_asciiLowerAll.1 h).symm, find?_name hk]

/-- An unknown scheme keeps its text exactly as it came. -/
theorem eq_of_parse_eq_other {s t : String} (h : parse s = other t) : t = s := by
  rcases parse_cases s with ⟨entry, hmem, -, hs⟩ | hs
  · exact absurd (hs.symm.trans h) (ne_other_of_mem_known hmem t)
  · exact (other.inj (hs.symm.trans h)).symm

/-- The text of a scheme read from `s` equals `s` ignoring ASCII case. -/
theorem text_parse (s : String) : eqIgnoreAsciiCase (parse s).text s = true := by
  rcases parse_cases s with ⟨entry, hmem, hmatch, hs⟩ | hs
  · rw [hs, text_of_mem_known hmem]
    exact hmatch
  · rw [hs]
    exact eqIgnoreAsciiCase_self s

/-- Reading the text of a scheme gives the scheme back. -/
theorem parse_text_parse (s : String) : parse (parse s).text = parse s := by
  rcases parse_cases s with ⟨entry, hmem, -, hs⟩ | hs
  · rw [hs, text_of_mem_known hmem]
    exact (parse_eq_iff_of_mem_known hmem).2 (eqIgnoreAsciiCase_self _)
  · rw [hs]
    exact hs

theorem parse_eq_iff_octets {s name : String} {k : Scheme} (hk : (name, k) ∈ known) :
    parse s = k ↔ OctetsEqIgnoreCase name s :=
  (parse_eq_iff_of_mem_known hk).trans (eqIgnoreAsciiCase_iff name s)

/-- Reading a scheme compares it with `http`, `https`, `ws` and `wss` octet by octet ignoring ASCII
case and keeps any other text verbatim: the text of the result equals the input ignoring ASCII
case, and exactly for an unknown scheme; each known scheme is read from its name in any ASCII case
and from nothing else; and reading the text of the result gives the result again. -/
theorem parse_keeps_text_up_to_ascii_case (s : String) :
    OctetsEqIgnoreCase (parse s).text s ∧
    (∀ t, parse s = other t → t = s) ∧
    (parse s = http ↔ OctetsEqIgnoreCase "http" s) ∧
    (parse s = https ↔ OctetsEqIgnoreCase "https" s) ∧
    (parse s = ws ↔ OctetsEqIgnoreCase "ws" s) ∧
    (parse s = wss ↔ OctetsEqIgnoreCase "wss" s) ∧
    parse (parse s).text = parse s :=
  ⟨(eqIgnoreAsciiCase_iff _ _).1 (text_parse s), fun _ => eq_of_parse_eq_other,
    parse_eq_iff_octets (by decide), parse_eq_iff_octets (by decide),
    parse_eq_iff_octets (by decide), parse_eq_iff_octets (by decide), parse_text_parse s⟩

example : parse "WSS" = wss ∧ parse "Ws " = other "Ws " := by decide

end Scheme

end Http2Headers
