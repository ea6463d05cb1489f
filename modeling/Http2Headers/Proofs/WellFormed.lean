import Mathlib.Tactic.MkIffOfInductiveProp
import Http2Headers.Block

/-!
# Well-formed header blocks

The rules a block's field sequence must keep for the block to build, read off the sequence
alone: no `connection`, `te` only as `trailers`, no unknown pseudo header, every
`content-length` readable; pseudo headers before every regular field and each at most once; a
`:status` and an `:authority` that read; when no `:authority` is given, the first `host` with a
value reads as one; and not both a status and a request pseudo header.

Every rule but the last is kept by a sequence exactly when it is kept by each prefix and each
field fits the prefix before it (`admissible_append_singleton`), which is what the block checks
field by field.
-/

namespace Http2Headers

namespace Field.Kind

/-- Whether fields of the kind join the regular fields when they are valid: `host`,
`content-length`, `te` and every other name. -/
def isRegular : Kind → Bool
  | host | contentLength | te | other => true
  | _ => false

/-- Whether the kind is one of the four pseudo headers of a request. -/
def isRequest : Kind → Bool
  | method | scheme | authority | path => true
  | _ => false

end Field.Kind

/-- Whether a field is a `host` with a value: the kind of field that may supply an authority. -/
def Field.suppliesHost (f : Field) : Bool :=
  f.kind == .host && f.value.isSome

theorem Field.isRegular_of_suppliesHost {f : Field} (h : f.suppliesHost = true) :
    f.kind.isRegular = true := by
  simp only [suppliesHost, Bool.and_eq_true, beq_iff_eq] at h
  rw [h.1]
  rfl

namespace Block

/-- The rules of a block's fields that concern each field and the ones before it. -/
@[mk_iff]
structure Admissible (fs : List Field) : Prop where
  no_connection : ∀ f ∈ fs, f.kind ≠ .connection
  te_trailers : ∀ f ∈ fs, f.kind = .te → Text.eqIgnoreAsciiCase f.valueText "trailers" = true
  no_unknown_pseudo : ∀ f ∈ fs, f.kind = .other → f.name.toList.head? ≠ some ':'
  content_length_reads : ∀ f ∈ fs, f.kind = .contentLength → f.contentLengthValue?.isSome = true
  pseudo_first : fs.Pairwise fun f g => f.kind.isRegular = true → g.kind.isPseudo = false
  pseudo_once : fs.Pairwise fun f g => f.kind = g.kind → g.kind.isPseudo = false
  status_reads : ∀ f ∈ fs, f.kind = .status → f.statusValue?.isSome = true
  authority_reads : ∀ f ∈ fs, f.kind = .authority → f.authorityValue?.isSome = true
  host_reads : (∀ f ∈ fs, f.kind ≠ .authority) →
    ∀ f, fs.find? Field.suppliesHost = some f → f.authorityValue?.isSome = true

/-- The field sequence of a block that builds: admissible, and not both a status and a request
pseudo header. -/
structure WellFormed (fs : List Field) : Prop extends Admissible fs where
  not_mixed : (∃ f ∈ fs, f.kind = .status) → ∀ f ∈ fs, f.kind.isRequest = false

/-- What one more field must satisfy, given the fields before it, for the sequence to stay
admissible. -/
@[mk_iff]
structure Fits (before : List Field) (f : Field) : Prop where
  no_connection : f.kind ≠ .connection
  te_trailers : f.kind = .te → Text.eqIgnoreAsciiCase f.valueText "trailers" = true
  no_unknown_pseudo : f.kind = .other → f.name.toList.head? ≠ some ':'
  content_length_reads : f.kind = .contentLength → f.contentLengthValue?.isSome = true
  pseudo_first : ∀ g ∈ before, g.kind.isRegular = true → f.kind.isPseudo = false
  pseudo_once : ∀ g ∈ before, g.kind = f.kind → f.kind.isPseudo = false
  status_reads : f.kind = .status → f.statusValue?.isSome = true
  authority_reads : f.kind = .authority → f.authorityValue?.isSome = true
  host_reads : f.suppliesHost = true →
    (∀ g ∈ before, g.kind ≠ .authority ∧ g.suppliesHost = false) → f.authorityValue?.isSome = true

theorem forall_mem_append_singleton {P : Field → Prop} {fs : List Field} {f : Field} :
    (∀ g ∈ fs ++ [f], P g) ↔ (∀ g ∈ fs, P g) ∧ P f := by
  rw [List.forall_mem_append, List.forall_mem_singleton]

theorem exists_mem_append_singleton {P : Field → Prop} {fs : List Field} {f : Field} :
    (∃ g ∈ fs ++ [f], P g) ↔ (∃ g ∈ fs, P g) ∨ P f := by
  simp [or_and_right, exists_or]

theorem admissible_nil : Admissible [] :=
  ⟨by simp, by simp, by simp, by simp, .nil, .nil, by simp, by simp, by simp⟩

/-- A field that is the first `host` with a value of `before ++ [f]` when `before` has none. -/
theorem find?_suppliesHost_append_singleton {before : List Field} {f g : Field}
    (h : (before ++ [f]).find? Field.suppliesHost = some g) :
    before.find? Field.suppliesHost = some g ∨
      (g = f ∧ f.suppliesHost = true ∧ ∀ h ∈ before, h.suppliesHost = false) := by
  rw [List.find?_append] at h
  cases hb : before.find? Field.suppliesHost with
  | some g' =>
    rw [hb] at h
    exact .inl (by simpa using h)
  | none =>
    rw [hb, Option.none_or, List.find?_singleton] at h
    cases hf : f.suppliesHost
    · simp [hf] at h
    · simp only [hf, if_true, Option.some.injEq] at h
      exact .inr ⟨h.symm, rfl, by simpa using List.find?_eq_none.1 hb⟩

/-- Admissibility grows one field at a time: a sequence with one more field is admissible
exactly when the sequence is and the field fits it. -/
theorem admissible_append_singleton {before : List Field} {f : Field} :
    Admissible (before ++ [f]) ↔ Admissible before ∧ Fits before f := by
  constructor
  · intro h
    have hfirst := List.pairwise_append.1 h.pseudo_first
    have honce := List.pairwise_append.1 h.pseudo_once
    refine ⟨⟨?_, ?_, ?_, ?_, hfirst.1, honce.1, ?_, ?_, ?_⟩, ⟨?_, ?_, ?_, ?_, ?_, ?_, ?_, ?_, ?_⟩⟩
    · exact (forall_mem_append_singleton.1 h.no_connection).1
    · exact (forall_mem_append_singleton.1 h.te_trailers).1
    · exact (forall_mem_append_singleton.1 h.no_unknown_pseudo).1
    · exact (forall_mem_append_singleton.1 h.content_length_reads).1
    · exact (forall_mem_append_singleton.1 h.status_reads).1
    · exact (forall_mem_append_singleton.1 h.authority_reads).1
    · -- host_reads of the prefix
      intro hnone g hg
      by_cases hfa : f.kind = .authority
      · -- an `:authority` last leaves no room for a `host` before it
        have hreg := Field.isRegular_of_suppliesHost (List.find?_some hg)
        have := hfirst.2.2 g (List.mem_of_find?_eq_some hg) f (by simp) hreg
        rw [hfa] at this
        cases this
      · refine h.host_reads (fun k hk => ?_) g (by simp [List.find?_append, hg])
        rcases List.mem_append.1 hk with hk | hk
        · exact hnone k hk
        · rw [List.mem_singleton.1 hk]
          exact hfa
    · exact (forall_mem_append_singleton.1 h.no_connection).2
    · exact (forall_mem_append_singleton.1 h.te_trailers).2
    · exact (forall_mem_append_singleton.1 h.no_unknown_pseudo).2
    · exact (forall_mem_append_singleton.1 h.content_length_reads).2
    · exact fun g hg => hfirst.2.2 g hg f (by simp)
    · exact fun g hg => honce.2.2 g hg f (by simp)
    · exact (forall_mem_append_singleton.1 h.status_reads).2
    · exact (forall_mem_append_singleton.1 h.authority_reads).2
    · -- host_reads of the last field: it is the first `host` with a value
      intro hf hbefore
      refine h.host_reads (fun k hk => ?_) f ?_
      · rcases List.mem_append.1 hk with hk | hk
        · exact (hbefore k hk).1
        · rw [List.mem_singleton.1 hk]
          intro ha
          simp [Field.suppliesHost, ha] at hf
      · have hb : before.find? Field.suppliesHost = none :=
          List.find?_eq_none.2 fun k hk => by simp [(hbefore k hk).2]
        simp [List.find?_append, hb, hf]
  · rintro ⟨h, hf⟩
    refine ⟨?_, ?_, ?_, ?_, ?_, ?_, ?_, ?_, ?_⟩
    · exact forall_mem_append_singleton.2 ⟨h.no_connection, hf.no_connection⟩
    · exact forall_mem_append_singleton.2 ⟨h.te_trailers, hf.te_trailers⟩
    · exact forall_mem_append_singleton.2 ⟨h.no_unknown_pseudo, hf.no_unknown_pseudo⟩
    · exact forall_mem_append_singleton.2 ⟨h.content_length_reads, hf.content_length_reads⟩
    · exact List.pairwise_append.2 ⟨h.pseudo_first, by simp, by simpa using hf.pseudo_first⟩
    · exact List.pairwise_append.2 ⟨h.pseudo_once, by simp, by simpa using hf.pseudo_once⟩
    · exact forall_mem_append_singleton.2 ⟨h.status_reads, hf.status_reads⟩
    · exact forall_mem_append_singleton.2 ⟨h.authority_reads, hf.authority_reads⟩
    · intro hnone g hg
      rcases find?_suppliesHost_append_singleton hg with hg | ⟨rfl, hsup, hbefore⟩
      · exact h.host_reads (fun k hk => hnone k (by simp [hk])) g hg
      · exact hf.host_reads hsup fun k hk => ⟨hnone k (by simp [hk]), hbefore k hk⟩

/-- Every prefix of an admissible sequence is admissible. -/
theorem Admissible.of_append :
    ∀ {before after : List Field}, Admissible (before ++ after) → Admissible before
  | _, [], h => by simpa using h
  | _, f :: after, h => by
    rw [← List.singleton_append, ← List.append_assoc] at h
    exact (admissible_append_singleton.1 (Admissible.of_append h)).1

end Block

end Http2Headers
