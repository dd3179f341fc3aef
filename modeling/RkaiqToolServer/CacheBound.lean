import RkaiqToolServer.LiveSource

/-!
# How far the cache of a source grows

The common reduction drops half of a limit that the size of the last buffer
decides, which is nothing when that buffer is large; the H.264 reduction drops
what lies between the leading parameter sets and the last intra frame, which
is nothing when no intra frame follows them.  A cache stays bounded exactly
while every push finds enough to drop.
-/

namespace RkaiqToolServer

open StepRun

def Source.cacheLimit (s : Source) : ℕ :=
  max s.mCachedBuffersSize maxCacheNumber

def Source.CacheBounded (s : Source) : Prop :=
  s.status ≠ .undefined ∧ s.cachedBuffers.length ≤ s.cacheLimit + 1

instance Source.decidableCacheBounded (s : Source) :
    Decidable s.CacheBounded :=
  inferInstanceAs (Decidable (_ ∧ _))

/-- A push that returns leaves the cache bounded. -/
def Source.BoundsPush (reduction : Reduction) (s : Source) :
    SourceOp → Prop
  | .push buffer reads written =>
      s.status = .running →
        (s.push reduction buffer reads written).status ≠ .waiting →
          (s.push reduction buffer reads written).CacheBounded
  | _ => True

/-- An intra frame at this place or behind it. -/
def IntraFrom (buffers : List MediaBuffer) (place : ℕ) : Prop :=
  ∃ index buffer, place ≤ index ∧ buffers[index]? = some buffer ∧
    buffer.isIntra = true

/-- The push finds no more buffers than it can make room among: for the common
reduction at most half of its limit beyond the bound, unless it waits for a
token; for the H.264 reduction an intra frame as far behind the leading
parameter sets as there are buffers beyond the bound.  The H.264 reduction
must not find its intra frames among those parameter sets only. -/
def Source.FindsRoom (reduction : Reduction) (s : Source) :
    SourceOp → Prop
  | .push _ reads _ =>
      s.status = .running →
        match reduction with
        | .common =>
            s.cachedBuffers.length ≤
                s.cacheLimit + s.mCachedBuffersSize / 2 ∨
              s.tokens < tokensRead reads (s.mCachedBuffersSize / 2)
        | .h264Packet =>
            (maxCacheNumber ≤ s.cachedBuffers.length →
              IntraFrom s.cachedBuffers 0 →
                IntraFrom s.cachedBuffers (leadingExtra s.cachedBuffers)) ∧
            (s.cachedBuffers.length ≤ s.cacheLimit ∨
              IntraFrom s.cachedBuffers (leadingExtra s.cachedBuffers +
                (s.cachedBuffers.length - s.cacheLimit)))
  | _ => True

/-! ## A push -/

theorem intraFrom_of_last {buffers : List MediaBuffer} {last : ℕ}
    (hlast : lastIntra buffers = some last) (place : ℕ) :
    IntraFrom buffers place ↔ place ≤ last := by
  obtain ⟨⟨buffer, hbuffer, hintra⟩, hlater⟩ := lastIntra_eq_some hlast
  constructor
  · rintro ⟨index, other, hplace, hother, hotherIntra⟩
    have hindex := hlater index other hother hotherIntra
    omega
  · intro hplace
    exact ⟨last, buffer, hplace, hbuffer, hintra⟩

theorem not_intraFrom {buffers : List MediaBuffer}
    (hnone : lastIntra buffers = none) (place : ℕ) :
    ¬ IntraFrom buffers place := by
  rintro ⟨index, buffer, -, hbuffer, hintra⟩
  have hnot := lastIntra_eq_none.mp hnone buffer
    (List.mem_of_getElem? hbuffer)
  rw [hintra] at hnot
  cases hnot

theorem push_bounded_iff {reduction : Reduction} {s : Source}
    {buffer : MediaBuffer} {reads : ℕ → Bool} {written : Bool}
    {buffers : List MediaBuffer} {tokens : ℕ}
    (hrunning : s.status = .running)
    (hreduced : reduction.apply s.mCachedBuffersSize reads s.cachedBuffers
      s.tokens = .done buffers tokens) :
    s.BoundsPush reduction (.push buffer reads written) ↔
      buffers.length ≤ s.cacheLimit := by
  simp [Source.BoundsPush, Source.push, hreduced, Source.CacheBounded,
    hrunning, Source.cacheLimit]

theorem common_bounds_iff {s : Source} (hrunning : s.status = .running)
    (buffer : MediaBuffer) (reads : ℕ → Bool) (written : Bool) :
    s.BoundsPush .common (.push buffer reads written) ↔
      s.FindsRoom .common (.push buffer reads written) := by
  have hlimit : s.mCachedBuffersSize ≤ s.cacheLimit := le_max_left _ _
  simp only [Source.FindsRoom, hrunning, true_imp_iff]
  by_cases hfull : s.mCachedBuffersSize < s.cachedBuffers.length
  · have happly : Reduction.apply .common s.mCachedBuffersSize reads
        s.cachedBuffers s.tokens = _ := commonReduction_full hfull
    by_cases henough : tokensRead reads (s.mCachedBuffersSize / 2) ≤ s.tokens
    · rw [if_pos henough] at happly
      rw [push_bounded_iff hrunning happly, List.length_drop]
      omega
    · rw [if_neg henough] at happly
      refine iff_of_true ?_ (.inr (not_le.mp henough))
      intro _ hreturned
      exact absurd (by rw [Source.push, happly]) hreturned
  · have happly : Reduction.apply .common s.mCachedBuffersSize reads
        s.cachedBuffers s.tokens = .done s.cachedBuffers s.tokens :=
      if_neg hfull
    rw [push_bounded_iff hrunning happly]
    exact iff_of_true (by omega) (.inl (by omega))

theorem h264_bounds_iff {s : Source} (hrunning : s.status = .running)
    (buffer : MediaBuffer) (reads : ℕ → Bool) (written : Bool) :
    s.BoundsPush .h264Packet (.push buffer reads written) ↔
      s.FindsRoom .h264Packet (.push buffer reads written) := by
  have hlimit : maxCacheNumber ≤ s.cacheLimit := le_max_right _ _
  have hleading := leadingExtra_le s.cachedBuffers
  simp only [Source.FindsRoom, hrunning, true_imp_iff]
  by_cases hshort : s.cachedBuffers.length < maxCacheNumber
  · have happly : Reduction.apply .h264Packet s.mCachedBuffersSize reads
        s.cachedBuffers s.tokens = _ := h264_short hshort
    rw [push_bounded_iff hrunning happly]
    exact iff_of_true (by omega)
      ⟨fun hlong => absurd hshort (not_lt.mpr hlong), .inl (by omega)⟩
  · cases hlast : lastIntra s.cachedBuffers with
    | none =>
        have happly : Reduction.apply .h264Packet s.mCachedBuffersSize reads
            s.cachedBuffers s.tokens = _ := h264_no_intra hlast
        simp only [push_bounded_iff hrunning happly, not_intraFrom hlast,
          false_imp_iff, implies_true, true_and, or_false]
    | some last =>
        have hbound := lastIntra_lt hlast
        simp only [intraFrom_of_last hlast]
        by_cases horder : leadingExtra s.cachedBuffers ≤ last
        · have happly : Reduction.apply .h264Packet s.mCachedBuffersSize
              reads s.cachedBuffers s.tokens = _ :=
            h264_erases hshort hlast horder
          rw [push_bounded_iff hrunning happly, List.length_append,
            List.length_take, List.length_drop]
          omega
        · have happly : Reduction.apply .h264Packet s.mCachedBuffersSize
              reads s.cachedBuffers s.tokens = _ :=
            h264_undefined hshort hlast horder
          have hpushed : (s.push .h264Packet buffer reads written).status =
              .undefined := by
            rw [Source.push, happly]
          refine iff_of_false ?_ ?_
          · intro hbounds
            have hbounded := hbounds hrunning (by rw [hpushed]; decide)
            exact hbounded.1 hpushed
          · intro hroom
            exact horder (hroom.1 (not_lt.mp hshort) (Nat.zero_le _))

theorem boundsPush_iff (reduction : Reduction) (s : Source) (op : SourceOp) :
    s.BoundsPush reduction op ↔ s.FindsRoom reduction op := by
  cases op with
  | push buffer reads written =>
      by_cases hrunning : s.status = .running
      · cases reduction with
        | common => exact common_bounds_iff hrunning buffer reads written
        | h264Packet => exact h264_bounds_iff hrunning buffer reads written
      · exact iff_of_true (fun hruns => absurd hruns hrunning)
          (fun hruns => absurd hruns hrunning)
  | readFromList tokenRead => exact Iff.rfl
  | setCachedBufSize oneBufSize => exact Iff.rfl

/-! ## Every run -/

/-- No push of a run leaves more than one buffer beyond the bound exactly when
every push finds room. -/
theorem cache_bounded_iff (reduction : Reduction) (ops : List SourceOp) :
    Steps (Source.step reduction) (Source.BoundsPush reduction)
        .initial ops ↔
      Steps (Source.step reduction) (Source.FindsRoom reduction)
        .initial ops :=
  ⟨Steps.mono fun s op => (boundsPush_iff reduction s op).mp,
    Steps.mono fun s op => (boundsPush_iff reduction s op).mpr⟩

def frameless : SourceOp :=
  .push ⟨kPredicted⟩ (fun _ => true) true

/-- Sixty-two frames without an intra frame among them. -/
theorem predicted_frames_not_bounded :
    ¬ ∀ (reduction : Reduction) (ops : List SourceOp),
      Steps (Source.step reduction) (Source.BoundsPush reduction)
        .initial ops := by
  intro hbounded
  have hlast := (steps_append.mp (hbounded .h264Packet
    (List.replicate 61 frameless ++ [frameless]))).2.1
  have hcache := hlast (by decide +kernel) (by decide +kernel)
  exact absurd hcache (by decide +kernel)

end RkaiqToolServer
