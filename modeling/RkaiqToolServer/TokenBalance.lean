import RkaiqToolServer.LiveSource

/-!
# Tokens and cached buffers

Readers wait for the pipe, so it has to hold a token for every cached buffer.
A push adds one of each and a read takes one of each; only the buffers that a
reduction drops without reading their tokens, and tokens that cannot be
written, tell the two counts apart.
-/

namespace RkaiqToolServer

open StepRun

def Source.Balanced (s : Source) : Prop :=
  s.status = .running ∧ s.tokens = s.cachedBuffers.length

instance Source.decidableBalanced (s : Source) : Decidable s.Balanced :=
  inferInstanceAs (Decidable (_ ∧ _))

/-- The buffers that a push may drop without their tokens: as many as it fails
to write. -/
def unwritten (written : Bool) : ℕ := if written then 0 else 1

/-- The common reduction misses as many tokens as its reads fail; the H.264
reduction misses one for every buffer from the first that is no parameter set
to the last intra frame. -/
def Source.KeepsBalance (reduction : Reduction) (s : Source) :
    SourceOp → Prop
  | .push _ reads written =>
      match reduction with
      | .common =>
          (if s.mCachedBuffersSize < s.cachedBuffers.length then
            s.mCachedBuffersSize / 2 -
              tokensRead reads (s.mCachedBuffersSize / 2)
          else 0) = unwritten written
      | .h264Packet =>
          if s.cachedBuffers.length < maxCacheNumber then
            unwritten written = 0
          else
            match lastIntra s.cachedBuffers with
            | none => unwritten written = 0
            | some last =>
                last = leadingExtra s.cachedBuffers + unwritten written
  | _ => True

/-! ## A push -/

theorem push_balanced_iff {reduction : Reduction} {s : Source}
    {buffer : MediaBuffer} {reads : ℕ → Bool} {written : Bool}
    {buffers : List MediaBuffer} {tokens : ℕ}
    (hrunning : s.status = .running)
    (hreduced : reduction.apply s.mCachedBuffersSize reads s.cachedBuffers
      s.tokens = .done buffers tokens) :
    (s.push reduction buffer reads written).Balanced ↔
      tokens = buffers.length + unwritten written := by
  rw [Source.push, hreduced]
  cases written <;>
    simp [Source.Balanced, hrunning, unwritten]

theorem common_balanced_iff {s : Source} (hs : s.Balanced)
    (buffer : MediaBuffer) (reads : ℕ → Bool) (written : Bool) :
    (s.push .common buffer reads written).Balanced ↔
      s.KeepsBalance .common (.push buffer reads written) := by
  have hread := tokensRead_le reads (s.mCachedBuffersSize / 2)
  simp only [Source.KeepsBalance]
  by_cases hfull : s.mCachedBuffersSize < s.cachedBuffers.length
  · have hreduced : Reduction.apply .common s.mCachedBuffersSize reads
        s.cachedBuffers s.tokens =
          .done (s.cachedBuffers.drop (s.mCachedBuffersSize / 2))
            (s.tokens - tokensRead reads (s.mCachedBuffersSize / 2)) := by
      rw [Reduction.apply, commonReduction_full hfull, hs.2]
      exact if_pos (by omega)
    rw [if_pos hfull, push_balanced_iff hs.1 hreduced, List.length_drop,
      hs.2]
    omega
  · have hreduced : Reduction.apply .common s.mCachedBuffersSize reads
        s.cachedBuffers s.tokens = .done s.cachedBuffers s.tokens :=
      if_neg hfull
    rw [if_neg hfull, push_balanced_iff hs.1 hreduced, hs.2]
    omega

theorem h264_balanced_iff {s : Source} (hs : s.Balanced)
    (buffer : MediaBuffer) (reads : ℕ → Bool) (written : Bool) :
    (s.push .h264Packet buffer reads written).Balanced ↔
      s.KeepsBalance .h264Packet (.push buffer reads written) := by
  have hkept : h264PacketReduction s.cachedBuffers s.tokens =
        .done s.cachedBuffers s.tokens →
      ((s.push .h264Packet buffer reads written).Balanced ↔
        unwritten written = 0) := by
    intro hreduced
    have happlied : Reduction.apply .h264Packet s.mCachedBuffersSize reads
        s.cachedBuffers s.tokens = .done s.cachedBuffers s.tokens := hreduced
    rw [push_balanced_iff hs.1 happlied, hs.2]
    omega
  simp only [Source.KeepsBalance]
  by_cases hshort : s.cachedBuffers.length < maxCacheNumber
  · rw [if_pos hshort]
    exact hkept (h264_short hshort)
  · rw [if_neg hshort]
    cases hlast : lastIntra s.cachedBuffers with
    | none => exact hkept (h264_no_intra hlast)
    | some last =>
        have hbound := lastIntra_lt hlast
        have hleading := leadingExtra_le s.cachedBuffers
        by_cases horder : leadingExtra s.cachedBuffers ≤ last
        · have hreduced : Reduction.apply .h264Packet s.mCachedBuffersSize
              reads s.cachedBuffers s.tokens = .done _ s.tokens :=
            h264_erases hshort hlast horder
          rw [push_balanced_iff hs.1 hreduced, hs.2, List.length_append,
            List.length_take, List.length_drop]
          simp only
          omega
        · have hstopped : ¬ (s.push .h264Packet buffer reads
              written).Balanced := by
            rw [Source.push, Reduction.apply,
              h264_undefined hshort hlast horder]
            simp [Source.Balanced]
          refine iff_of_false hstopped ?_
          simp only
          omega

/-! ## Every operation and every run -/

theorem step_balanced_iff (reduction : Reduction) {s : Source}
    (hs : s.Balanced) (op : SourceOp) :
    (s.step reduction op).Balanced ↔ s.KeepsBalance reduction op := by
  cases op with
  | push buffer reads written =>
      rw [step_push hs.1]
      cases reduction with
      | common => exact common_balanced_iff hs buffer reads written
      | h264Packet => exact h264_balanced_iff hs buffer reads written
  | readFromList tokenRead =>
      rw [step_readFromList hs.1, Source.readFromList]
      refine iff_of_true ?_ trivial
      split_ifs with hfailed hempty
      · exact hs
      · exact hs
      · refine ⟨hs.1, ?_⟩
        simp only [Source.pop, List.length_tail, hs.2]
  | setCachedBufSize oneBufSize =>
      rw [step_setCachedBufSize hs.1, Source.setCachedBufSize]
      refine iff_of_true ?_ trivial
      split_ifs
      · exact hs
      · exact hs

/-- Through a run of pushes and reads the pipe holds a token for every cached
buffer exactly when each push drops as many buffers without their tokens as it
fails to write tokens. -/
theorem tokens_balanced_iff (reduction : Reduction) (ops : List SourceOp) :
    States (Source.step reduction) Source.Balanced .initial ops ↔
      Steps (Source.step reduction) (Source.KeepsBalance reduction)
        .initial ops :=
  states_iff_steps Source.Balanced (fun _ hs => hs)
    (fun _ op hs hkeeps => (step_balanced_iff reduction hs op).mpr hkeeps)
    (fun _ op hs hgood => (step_balanced_iff reduction hs op).mp hgood)
    ⟨rfl, rfl⟩

def pushed (userFlag : UInt32) : SourceOp :=
  .push ⟨userFlag⟩ (fun _ => true) true

/-- Sixty frames, the second of them intra, and one more. -/
def sixtyOneFrames : List SourceOp :=
  pushed kPredicted :: pushed kIntra ::
    List.replicate 59 (pushed kPredicted)

theorem erased_frame_leaves_token :
    ¬ ∀ (reduction : Reduction) (ops : List SourceOp),
      States (Source.step reduction) Source.Balanced .initial ops := by
  intro hbalanced
  have hlast := (hbalanced .h264Packet sixtyOneFrames).last
  exact absurd hlast (by decide +kernel)

end RkaiqToolServer
