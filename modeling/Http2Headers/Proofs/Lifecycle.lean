import Http2Headers.Proofs.RunningSize
import Http2Headers.Decoder

/-!
# What outlives a block

Only the size bound outlives a block. A build, whatever it answers, and a reset both replace the
block with an empty one, so the builder is then exactly a builder just made with the same bound
(`step_fst_of_endsBlock`), and whatever happened before, every later answer is the answer a fresh
builder gives (`run_after_block_end_eq_fresh`).

The decoder ends every block it reads, on each of its paths: a compression error and a block too
large reset the builder, and a block that is built leaves it reset as well. So a decoder whose
builder is clean keeps it clean across every call, whatever its HPACK layer (`builder_decode`).
-/

namespace Http2Headers

namespace Builder

/-- A builder with its block dropped is a builder just made. -/
theorem reset_eq_new (b : Builder) : b.reset = new b.maxSize := rfl

/-- A build or a reset leaves a builder just made with the same bound. -/
theorem step_fst_of_endsBlock (b : Builder) {s : Step} (hs : s.endsBlock = true) :
    (b.step s).1 = new b.maxSize := by
  cases s with
  | build => rw [step_build_fst, reset_eq_new]
  | reset => rw [step_reset_fst, reset_eq_new]
  | emit f => cases hs
  | emitUndecodable name value => cases hs
  | checkSize length huffman => cases hs

@[simp] theorem maxSize_exec (b : Builder) (ss : List Step) : (b.exec ss).maxSize = b.maxSize := by
  induction ss generalizing b with
  | nil => rfl
  | cons s ss ih => rw [exec_cons, ih, maxSize_step]

/-- Whatever a builder went through, once a block ends it is a builder just made with the same
bound, and every later answer, with every running size, is the one a fresh builder gives. -/
theorem run_after_block_end_eq_fresh (b : Builder) (pre q : List Step) :
    ∀ s, s.endsBlock = true →
      ((b.exec pre).step s).1 = new b.maxSize ∧
        (b.run (pre ++ s :: q)).drop (pre.length + 1) = (new b.maxSize).run q := by
  intro s hs
  have hfresh : ((b.exec pre).step s).1 = new b.maxSize := by
    rw [step_fst_of_endsBlock _ hs, maxSize_exec]
  refine ⟨hfresh, ?_⟩
  -- the answers of `pre` and of the block end come first, then those of `q` from a fresh builder
  rw [run_append, run_cons, hfresh, ← List.drop_drop, List.drop_left' (length_run b pre)]
  rfl

/-- A dirty block of one emitted field, built: the next block starts from a builder just made. -/
theorem run_after_block_end_eq_fresh_after_build :
    Step.build.endsBlock = true ∧
      (((new 500).exec [.emit (.new ":status" "200")]).step .build).1 = new 500 ∧
      ((new 500).run
          ([.emit (.new ":status" "200")] ++ .build :: [.emit (.new ":status" "204")])).drop
          ([Step.emit (.new ":status" "200")].length + 1) =
        (new 500).run [.emit (.new ":status" "204")] :=
  ⟨rfl, run_after_block_end_eq_fresh (new 500) [.emit (.new ":status" "200")]
    [.emit (.new ":status" "204")] .build rfl⟩

end Builder

/-! ## The decoder keeps its builder clean -/

namespace Builder

theorem maxSize_emitPair (b : Builder) (e : Hpack.Entry) :
    (b.emitPair e).1.maxSize = b.maxSize := by
  unfold emitPair emit emitUndecodable
  split
  · exact maxSize_chargeThen _ _ _
  · exact maxSize_chargeThen _ _ _

theorem maxSize_emitPairs (b : Builder) (es : List Hpack.Entry) :
    (b.emitPairs es).1.maxSize = b.maxSize := by
  induction es generalizing b with
  | nil => rfl
  | cons e es ih =>
    unfold emitPairs
    have hpair := maxSize_emitPair b e
    split
    · next b' h => rw [ih, ← hpair, h]
    · next b' err h => rw [← hpair, h]

end Builder

namespace Decoder

/-- Every call of a decoder whose builder is clean leaves it clean, with the same bound, whatever
the block and whatever the outcome. -/
theorem builder_decode {σ : Type} (hpack : HpackLayer σ) (table : σ) (m : Nat)
    (block : List UInt8) :
    (({ table, builder := .new m } : Decoder σ).decode hpack block).1.builder = .new m := by
  rcases h : hpack table block with ⟨table', (_ | _) | pairs⟩
  · simp [decode, h, Builder.reset_eq_new]
  · simp [decode, h]
  · -- the pairs decoded: the builder is reset after a refusal, and built otherwise
    rcases he : (Builder.new m).emitPairs pairs with ⟨b, _ | ⟨⟩⟩ <;>
      have hmax : b.maxSize = m := by simpa [he] using Builder.maxSize_emitPairs (.new m) pairs
    · simp [decode, h, he, Builder.reset_eq_new, hmax]
    · cases hf : b.block.finish <;>
        simp [decode, h, he, Builder.build, hf, Builder.reset_eq_new, hmax]

end Decoder

end Http2Headers
