import Http2Headers.FieldSection
import Http2Headers.Proofs.AsciiCase

/-!
# Looking fields up by name

A field section answers three questions about a name: every value under it (`getAll`), the first
one (`get?`), and whether there is one (`contains`), comparing names ignoring ASCII case and
nothing else. `getAll` gives, in arrival order, the values at exactly the positions whose field
carries the name (`getAll_eq_map_positions`); `get?` gives the head of that list, since the first
match found is the first of the matches (`get?_eq_head?_getAll`); and `contains` asks whether the
list is nonempty.

A query is compared through its lowered form only, so changing the ASCII case of the query changes
no answer (`getAll_congr`). A field whose name holds a character beyond ASCII is found only by a
query holding the very same character in the same place: `é` does not find `É`.
-/

namespace Http2Headers

open Text

namespace FieldSection

/-- The first value under a name is the first of all the values under it. -/
theorem get?_eq_head?_getAll (L : FieldSection) (q : String) :
    L.get? q = (L.getAll q).head? := by
  rw [get?, getAll, List.head?_map, List.head?_filter]

/-- A name is contained exactly when some value is under it. -/
theorem contains_iff (L : FieldSection) (q : String) :
    L.contains q = true ↔ L.getAll q ≠ [] := by
  rw [contains, get?_eq_head?_getAll, List.isSome_head?]

/-- The values under a name are those at the positions whose field carries the name, in arrival
order. -/
theorem getAll_eq_map_positions (L : FieldSection) (q : String) :
    L.getAll q = ((List.finRange L.lines.length).filter fun i => named q L.lines[i]).map
      fun i => L.lines[i].value := by
  -- every field is the one at its position
  have hpositions : (List.finRange L.lines.length).map (fun i => L.lines[i]) = L.lines :=
    List.ext_getElem (by simp) fun n _ _ => by simp
  conv => lhs; rw [getAll, ← hpositions]
  rw [List.filter_map, List.map_map]
  rfl

/-- Whether a field carries a name depends on the name only through its lowered form. -/
theorem named_congr {q q' : String} (h : asciiLowerAll q = asciiLowerAll q') :
    named q = named q' :=
  funext fun line => by rw [named, named, eqIgnoreAsciiCase_congr_right h]

section congr

variable (L : FieldSection) {q q' : String} (h : asciiLowerAll q = asciiLowerAll q')
include h

theorem getAll_congr : L.getAll q = L.getAll q' := by
  rw [getAll, getAll, named_congr h]

theorem get?_congr : L.get? q = L.get? q' := by
  rw [get?_eq_head?_getAll, get?_eq_head?_getAll, getAll_congr L h]

theorem contains_congr : L.contains q = L.contains q' := by
  rw [contains, contains, get?_congr L h]

end congr

/-- The lookups of a field section compare names octet by octet ignoring ASCII case: the values
under a name are those of exactly the fields whose name equals it so, in arrival order, and each of
those fields holds a character beyond ASCII only where the query holds the same one; the first
value is the first of them, and the name is contained exactly when there is one; and no answer
changes when the query changes case. -/
theorem lookups_match_names_ignoring_ascii_case (L : FieldSection) (q : String) :
    (∃ idx : List (Fin L.lines.length), idx.Pairwise (· < ·) ∧
      (∀ i, i ∈ idx ↔ OctetsEqIgnoreCase L.lines[i].name q) ∧
      (∀ i ∈ idx, ∀ (j : Nat) (c : Char), L.lines[i].name.toList[j]? = some c → 0x80 ≤ c.toNat →
        q.toList[j]? = some c) ∧
      L.getAll q = idx.map fun i => L.lines[i].value) ∧
    L.get? q = (L.getAll q).head? ∧
    (L.contains q = true ↔ L.getAll q ≠ []) ∧
    (∀ q', OctetsEqIgnoreCase q q' →
      L.getAll q' = L.getAll q ∧ L.get? q' = L.get? q ∧ L.contains q' = L.contains q) := by
  refine ⟨⟨(List.finRange L.lines.length).filter fun i => named q L.lines[i], ?_, fun i => ?_, ?_,
    getAll_eq_map_positions L q⟩, get?_eq_head?_getAll L q, contains_iff L q, fun q' h => ?_⟩
  · exact (List.pairwise_lt_finRange _).filter _
  · rw [List.mem_filter, named, eqIgnoreAsciiCase_iff]
    exact and_iff_right (List.mem_finRange i)
  · intro i hi j c hj hbeyond
    exact getElem?_eq_of_eqIgnoreAsciiCase (List.mem_filter.1 hi).2 hj hbeyond
  · -- the query changes only in ASCII case, so its lowered form is the same
    have hlower := h.asciiLowerAll_eq.symm
    exact ⟨getAll_congr L hlower, get?_congr L hlower, contains_congr L hlower⟩

example : (empty.push ⟨"É", "1"⟩ |>.push ⟨"é", "2"⟩).getAll "é" = ["2"] := by decide

end FieldSection

end Http2Headers
