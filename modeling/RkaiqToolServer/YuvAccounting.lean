import RkaiqToolServer.YuvCapture

/-!
# The frames of a YUV capture

A round of the inner loop sends the buffer whose index stands in the record it
gave to `VIDIOC_DQBUF`, whether that call succeeded or not, and as many bytes
as the format says, whether the buffer has them or not.  Here each round is
judged by what the driver did in it, and the whole capture by its rounds and
by the number of frames it sent.
-/

namespace RkaiqToolServer

open ByteCodec MemoryAccess

/-! ## The rounds -/

/-- A frame that is sent was dequeued in its round, is queued back once, and
is read inside its mapping. -/
def YuvRound.Accounted (size : ℕ → ℕ) (round : YuvRound) : Prop :=
  ∀ buffer, round.sent = some buffer →
    round.dequeued = some buffer ∧
      round.requeued.count (buffer, true) = 1 ∧ InBounds size round.reads

/-- The index that the round works on: the dequeued one or the counter. -/
def YuvCalls.bufferAt (calls : YuvCalls) (counter : ℕ) : ℕ :=
  (calls.rounds counter).dequeued.getD counter

def RoundKept (calls : YuvCalls) (format : YuvFormat) (counter : ℕ) : Prop :=
  (calls.rounds counter).dequeued.isSome = true ∧
    (calls.rounds counter).requeued = true ∧
    PacketsInside (calls.rounds counter).sent
      (calls.mappedSize (calls.bufferAt counter)) (calls.total format) 0

theorem yuvRound_sent (calls : YuvCalls) (format : YuvFormat)
    (nBuffers counter : ℕ) :
    (yuvRound calls format nBuffers counter).sent =
      if calls.bufferAt counter < nBuffers then
        some (calls.bufferAt counter)
      else none := by
  unfold yuvRound YuvCalls.bufferAt
  simp only
  split <;> rfl

theorem yuvRound_accounted_iff (calls : YuvCalls) (format : YuvFormat)
    (nBuffers counter : ℕ) :
    (yuvRound calls format nBuffers counter).Accounted calls.mappedSize ↔
      (calls.bufferAt counter < nBuffers → RoundKept calls format counter) := by
  by_cases hindex : calls.bufferAt counter < nBuffers
  · have hdequeued : (calls.rounds counter).dequeued =
        some (calls.bufferAt counter) ↔
          (calls.rounds counter).dequeued.isSome = true := by
      unfold YuvCalls.bufferAt
      cases (calls.rounds counter).dequeued <;> simp
    have hqueued : List.count (calls.bufferAt counter, true)
        [(calls.bufferAt counter, (calls.rounds counter).requeued)] = 1 ↔
          (calls.rounds counter).requeued = true := by
      cases (calls.rounds counter).requeued <;> simp
    have hround : yuvRound calls format nBuffers counter =
        { counter := counter
          dequeued := (calls.rounds counter).dequeued
          sent := some (calls.bufferAt counter)
          reads := sendYuvData (calls.rounds counter).sent
            (calls.bufferAt counter) (calls.total format)
          requeued := [(calls.bufferAt counter,
            (calls.rounds counter).requeued)] } := if_pos hindex
    rw [hround, YuvRound.Accounted, RoundKept]
    simp only [Option.some.injEq, forall_eq', hdequeued, hqueued,
      sendYuvData, sendReads_inBounds_iff, hindex, true_implies]
  · have hsent := yuvRound_sent calls format nBuffers counter
    rw [if_neg hindex] at hsent
    exact iff_of_true (fun buffer hbuffer => by
      rw [hsent] at hbuffer; contradiction) fun hless => absurd hless hindex

/-- The capture comes to the round of `counter`: no assertion fails before. -/
def Reaches (calls : YuvCalls) (nBuffers index counter : ℕ) : Prop :=
  index ≤ counter ∧
    ∀ earlier, index ≤ earlier → earlier < counter →
      calls.bufferAt earlier < nBuffers

theorem reaches_succ {calls : YuvCalls} {nBuffers index counter : ℕ}
    (hfirst : calls.bufferAt index < nBuffers) :
    Reaches calls nBuffers index counter ↔
      counter = index ∨ Reaches calls nBuffers (index + 1) counter := by
  constructor
  · rintro ⟨hle, hearlier⟩
    rcases hle.eq_or_lt with heq | hlt
    · exact .inl heq.symm
    · exact .inr ⟨hlt, fun earlier hbefore =>
        hearlier earlier (by omega)⟩
  · rintro (rfl | ⟨hle, hearlier⟩)
    · exact ⟨le_rfl, fun earlier hle hlt => by omega⟩
    · refine ⟨by omega, fun earlier hbefore hlt => ?_⟩
      rcases hbefore.eq_or_lt with heq | hafter
      · rwa [← heq]
      · exact hearlier earlier hafter hlt

theorem mem_yuvRounds_iff (calls : YuvCalls) (format : YuvFormat)
    (nBuffers : ℕ) (round : YuvRound) (left : ℕ) :
    ∀ index, round ∈ yuvRounds calls format nBuffers index left ↔
      ∃ counter < index + left, Reaches calls nBuffers index counter ∧
        round = yuvRound calls format nBuffers counter := by
  induction left with
  | zero =>
      intro index
      constructor
      · intro hmem
        contradiction
      · rintro ⟨counter, hlt, ⟨hle, -⟩, -⟩
        omega
  | succ left ih =>
      intro index
      rw [yuvRounds, List.mem_cons, yuvRound_sent]
      by_cases hfirst : calls.bufferAt index < nBuffers
      · rw [if_pos hfirst, if_neg (by simp), ih]
        constructor
        · rintro (hround | ⟨counter, hlt, hreaches, hround⟩)
          · exact ⟨index, by omega, (reaches_succ hfirst).mpr (.inl rfl),
              hround⟩
          · exact ⟨counter, by omega, (reaches_succ hfirst).mpr
              (.inr hreaches), hround⟩
        · rintro ⟨counter, hlt, hreaches, hround⟩
          rcases (reaches_succ hfirst).mp hreaches with rfl | hlater
          · exact .inl hround
          · exact .inr ⟨counter, by omega, hlater, hround⟩
      · rw [if_neg hfirst, if_pos rfl]
        constructor
        · rintro (hround | hnone)
          · exact ⟨index, by omega, ⟨le_rfl, fun earlier hle hlt => by omega⟩,
              hround⟩
          · contradiction
        · rintro ⟨counter, hlt, ⟨hle, hearlier⟩, hround⟩
          rcases hle.eq_or_lt with heq | hafter
          · exact .inl (by rw [hround, heq])
          · exact absurd (hearlier index le_rfl hafter) hfirst

/-- Without a failing assertion there is one round for each frame. -/
theorem yuvRounds_complete {calls : YuvCalls} (format : YuvFormat)
    {nBuffers : ℕ} (left : ℕ) :
    ∀ index, (∀ counter, index ≤ counter → counter < index + left →
        calls.bufferAt counter < nBuffers) →
      (yuvRounds calls format nBuffers index left).length = left := by
  induction left with
  | zero => exact fun _ _ => rfl
  | succ left ih =>
      intro index hindex
      rw [yuvRounds, yuvRound_sent,
        if_pos (hindex index le_rfl (by omega)), if_neg (by simp),
        List.length_cons, ih (index + 1) fun counter hle hlt =>
          hindex counter (by omega) (by omega)]

/-! ## The whole capture -/

def sentRounds (events : List YuvEvent) : List YuvRound :=
  events.filterMap fun event =>
    match event with
    | .round round => if round.sent = none then none else some round
    | _ => none

/-- Every frame is accounted for, and a return of 0 means that as many were
sent as were asked for.  A frame is sent when it is handed to `SendYuvData`,
whatever the socket takes of it. -/
structure FramesAccounted (size : ℕ → ℕ) (frames : ℕ) (run : YuvRun) :
    Prop where
  rounds : ∀ round, .round round ∈ run.events → round.Accounted size
  complete : run.finish = .returned 0 → (sentRounds run.events).length = frames

/-- What the driver has to do in the rounds for it. -/
structure RoundsKept (calls : YuvCalls) (format : YuvFormat)
    (nBuffers frames index : ℕ) : Prop where
  kept : ∀ counter < frames, Reaches calls nBuffers index counter →
    calls.bufferAt counter < nBuffers → RoundKept calls format counter
  fromZero : (∀ counter, index ≤ counter → counter < frames →
    calls.bufferAt counter < nBuffers) → index = 0 ∨ frames = 0

theorem sentRounds_setUp (calls : YuvCalls) (nBuffers : ℕ) :
    sentRounds (yuvSetUp calls nBuffers) = [] := by
  rw [sentRounds, List.filterMap_eq_nil_iff]
  intro event hmem
  simp only [yuvSetUp, List.mem_append, List.mem_cons, List.mem_map,
    List.not_mem_nil, or_false] at hmem
  rcases hmem with ((rfl | rfl) | ⟨i, -, rfl⟩) | ⟨i, -, rfl⟩ <;> rfl

theorem sentRounds_tearDown (calls : YuvCalls) (nBuffers : ℕ) :
    sentRounds (yuvTearDown calls nBuffers) = [] := by
  rw [sentRounds, List.filterMap_eq_nil_iff]
  intro event hmem
  simp only [yuvTearDown, List.mem_append, List.mem_cons, List.mem_map,
    List.not_mem_nil, or_false] at hmem
  rcases hmem with ⟨i, -, rfl⟩ | (rfl | rfl) <;> rfl

theorem sentRounds_rounds {rounds : List YuvRound}
    (hsent : ¬ (rounds.any fun round => round.sent = none) = true) :
    sentRounds (rounds.map .round) = rounds := by
  rw [sentRounds, List.filterMap_map]
  conv_rhs => rw [← List.filterMap_some (l := rounds)]
  apply List.filterMap_congr
  intro round hmem
  have hround : round.sent ≠ none := fun hnone =>
    hsent (List.any_eq_true.mpr ⟨round, hmem, decide_eq_true hnone⟩)
  simp [hround]

theorem round_mem_yuvFrames_iff (calls : YuvCalls) (format : YuvFormat)
    (nBuffers frames index : ℕ) (round : YuvRound) :
    .round round ∈ (yuvFrames calls format nBuffers frames index).events ↔
      round ∈ yuvRounds calls format nBuffers index (frames - index) := by
  unfold yuvFrames
  simp only
  split
  · simp [yuvSetUp]
  · simp [yuvSetUp, yuvTearDown]

theorem any_unsent_iff (calls : YuvCalls) (format : YuvFormat)
    (nBuffers frames index : ℕ) :
    ¬ ((yuvRounds calls format nBuffers index (frames - index)).any
        fun round => round.sent = none) = true ↔
      ∀ counter, index ≤ counter → counter < frames →
        calls.bufferAt counter < nBuffers := by
  have hsent : ∀ counter,
      (yuvRound calls format nBuffers counter).sent = none ↔
        ¬ calls.bufferAt counter < nBuffers := by
    intro counter
    rw [yuvRound_sent]
    split <;> simp [*]
  simp only [List.any_eq_true, decide_eq_true_eq, mem_yuvRounds_iff]
  constructor
  · intro hnone counter
    induction counter using Nat.strong_induction_on with
    | _ counter ih =>
        intro hle hlt
        by_contra hpast
        exact hnone ⟨_, ⟨counter, by omega, ⟨hle, fun earlier hbefore hless =>
          ih earlier hless hbefore (by omega)⟩, rfl⟩, (hsent counter).mpr hpast⟩
  · rintro hinside ⟨round, ⟨counter, hlt, ⟨hle, -⟩, rfl⟩, hnone⟩
    exact (hsent counter).mp hnone (hinside counter hle (by omega))

theorem yuvFrames_accounted_iff (calls : YuvCalls) (format : YuvFormat)
    (nBuffers frames index : ℕ) :
    FramesAccounted calls.mappedSize frames
        (yuvFrames calls format nBuffers frames index) ↔
      RoundsKept calls format nBuffers frames index := by
  have hrounds :
      (∀ round,
        .round round ∈ (yuvFrames calls format nBuffers frames index).events →
          round.Accounted calls.mappedSize) ↔
        ∀ counter < frames, Reaches calls nBuffers index counter →
          calls.bufferAt counter < nBuffers →
            RoundKept calls format counter := by
    simp only [round_mem_yuvFrames_iff, mem_yuvRounds_iff]
    constructor
    · intro haccounted counter hlt hreaches
      exact (yuvRound_accounted_iff calls format nBuffers counter).mp
        (haccounted _ ⟨counter, by have hle := hreaches.1; omega, hreaches,
          rfl⟩)
    · rintro hkept round ⟨counter, hlt, hreaches, rfl⟩
      have hle := hreaches.1
      exact (yuvRound_accounted_iff calls format nBuffers counter).mpr
        (hkept counter (by omega) hreaches)
  have hcomplete :
      ((yuvFrames calls format nBuffers frames index).finish = .returned 0 →
        (sentRounds
          (yuvFrames calls format nBuffers frames index).events).length =
            frames) ↔
        ((∀ counter, index ≤ counter → counter < frames →
          calls.bufferAt counter < nBuffers) → index = 0 ∨ frames = 0) := by
    rw [← any_unsent_iff calls format]
    unfold yuvFrames
    simp only
    by_cases hany : ((yuvRounds calls format nBuffers index
        (frames - index)).any fun round => round.sent = none) = true
    · simp [hany]
    · have hlength := yuvRounds_complete format (frames - index)
        index fun counter hle hlt => (any_unsent_iff calls format nBuffers
          frames index).mp hany counter hle (by omega)
      have happend : ∀ before later : List YuvEvent,
          sentRounds (before ++ later) =
            sentRounds before ++ sentRounds later :=
        fun before later => List.filterMap_append
      rw [if_neg hany]
      simp only [happend, sentRounds_setUp, sentRounds_tearDown,
        sentRounds_rounds hany, List.nil_append, List.append_nil, hlength,
        true_implies]
      have hcount : frames - index = frames ↔ index = 0 ∨ frames = 0 := by
        omega
      rw [hcount]
      exact ⟨fun hzero _ => hzero, fun hzero => hzero hany⟩
  exact ⟨fun h => ⟨hrounds.mp h.rounds, hcomplete.mp h.complete⟩,
    fun h => ⟨hrounds.mpr h.kept, hcomplete.mpr h.fromZero⟩⟩

/-- A capture accounts for its frames exactly when, if it comes to them, every
round it reaches is kept, and it counts from 0 if it comes to its end. -/
theorem doCaptureYuv_accounted_iff (calls : YuvCalls) (frames index : ℕ) :
    FramesAccounted calls.mappedSize frames
        (doCaptureYuv calls frames index) ↔
      ∀ format nBuffers, YuvStarts calls format nBuffers →
        RoundsKept calls format nBuffers frames index := by
  have hpath := doCaptureYuv_path calls frames index
  generalize doCaptureYuv calls frames index = run at hpath ⊢
  cases hpath with
  | unopened value hopened hvalue =>
      refine iff_of_true ⟨by simp, fun hzero => ?_⟩ fun format nBuffers h => ?_
      · exact absurd (YuvFinish.returned.inj hzero) hvalue
      · simp [h.nodeFound, h.opened] at hopened
  | left events hopened hfails hevents =>
      refine iff_of_true ⟨fun round hmem => ?_, fun hzero => ?_⟩
        fun format nBuffers h => absurd h.passes hfails
      · rcases hevents with rfl | ⟨nBuffers, rfl⟩
        · simp at hmem
        · simp [yuvSetUp] at hmem
      · exact absurd (YuvFinish.returned.inj hzero) (by decide)
  | waits nBuffers hopened hpasses hselected =>
      refine iff_of_true ⟨fun round hmem => ?_, fun hzero => ?_⟩
        fun format nBuffers h => ?_
      · simp [yuvSetUp] at hmem
      · contradiction
      · have hsome := h.selected_some
        simp [hselected] at hsome
  | captures format nBuffers hstarts =>
      rw [yuvFrames_accounted_iff]
      constructor
      · intro hkept other count h
        have hformat := hstarts.format_eq.symm.trans h.format_eq
        have hcount := hstarts.requested_eq.symm.trans h.requested_eq
        rw [Option.some.injEq] at hformat hcount
        subst hformat hcount
        exact hkept
      · exact fun hkept => hkept format nBuffers hstarts

/-- The dequeue fails, and the first buffer is sent all the same. -/
theorem doCaptureYuv_failed_dequeue :
    let calls := { workingYuvCalls with
      rounds := fun _ =>
        { dequeued := none, sent := fun _ => 24, requeued := true } }
    (doCaptureYuv calls 1 0).finish = .returned 0 ∧
      ¬ FramesAccounted calls.mappedSize 1 (doCaptureYuv calls 1 0) := by
  intro calls
  refine ⟨rfl, fun haccounted => ?_⟩
  have hround := haccounted.rounds
    (yuvRound calls { width := 4, height := 4 } 4 0)
    (by
      have hrun : doCaptureYuv calls 1 0 =
          yuvFrames calls { width := 4, height := 4 } 4 1 0 := rfl
      rw [hrun, round_mem_yuvFrames_iff]
      exact List.mem_cons_self)
  have hdequeued := (hround 0 rfl).1
  contradiction

end RkaiqToolServer
