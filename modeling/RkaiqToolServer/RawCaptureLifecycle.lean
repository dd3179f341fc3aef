import RkaiqToolServer.RawCapture
import RkaiqToolServer.EventOrder

/-!
# The raw-capture lifecycle

A START command opens the capture device when its frame counter is zero and
closes it when the counter reaches the configured number of frames; a wrong
CHECKSUM closes it too.  The counter and the device are separate state, and
SET_PARAM resets the first without looking at the second.  This file says
what the lifecycle of the device ought to be over a whole run and proves for
which commands the server keeps it.
-/

namespace RkaiqToolServer

open StepRun
open EventOrder

/-! ## The order the device requires -/

def betweenEvents (opening closing : CaptureEvent) : Gate CaptureEvent where
  opens := fun event => decide (event = opening)
  closes := fun event => decide (event = closing)

def captureGate : Gate CaptureEvent := betweenEvents .startCapture .stopCapture

/-- Every pair of events of which the first must be undone by the second
before it happens again. -/
def lifecycleGates : List (Gate CaptureEvent) :=
  [captureGate,
    betweenEvents .initDevice .uninitDevice,
    betweenEvents .startCapture .uninitDevice,
    betweenEvents .startCapture .rawCaptureDeinit,
    betweenEvents .startCapture .freeBuffers]

def CaptureEvent.isRead : CaptureEvent → Bool
  | .readFrame _ => true
  | _ => false

/-- The lifecycle of the capture device in a trace that begins with the device
open or closed. -/
structure Lifecycle (opened : Bool) (trace : List CaptureEvent) : Prop where
  alternates : ∀ gate ∈ lifecycleGates, gate.Alternates opened trace
  reads : captureGate.Inside CaptureEvent.isRead opened trace
  accumulators : .addFrame false ∉ trace

def Moves (opened : Bool) (trace : List CaptureEvent) (after : Bool) : Prop :=
  ∀ gate ∈ lifecycleGates, gate.afterAll opened trace = after

theorem lifecycle_nil (opened : Bool) : Lifecycle opened [] := by
  constructor
  · intro gate _
    exact ⟨trivial, trivial⟩
  · trivial
  · simp

theorem captureGate_mem : captureGate ∈ lifecycleGates := by
  simp [lifecycleGates]

theorem Moves.append
    {opened middle after : Bool} {before later : List CaptureEvent}
    (hbefore : Moves opened before middle)
    (hlater : Moves middle later after) :
    Moves opened (before ++ later) after := by
  intro gate hgate
  rw [Gate.afterAll_append, hbefore gate hgate, hlater gate hgate]

theorem Moves.lifecycle_append
    {opened middle : Bool} {before : List CaptureEvent}
    (hmoves : Moves opened before middle) (later : List CaptureEvent) :
    Lifecycle opened (before ++ later) ↔
      Lifecycle opened before ∧ Lifecycle middle later := by
  have hcapture := hmoves captureGate captureGate_mem
  constructor
  · intro h
    have hreads := (Gate.inside_append _ _ _ _ _).mp h.reads
    rw [hcapture] at hreads
    have hadded := h.accumulators
    rw [List.mem_append, not_or] at hadded
    have halternates : ∀ gate ∈ lifecycleGates,
        gate.Alternates opened before ∧ gate.Alternates middle later := by
      intro gate hgate
      have hboth := (Gate.alternates_append _ _ _ _).mp
        (h.alternates gate hgate)
      rwa [hmoves gate hgate] at hboth
    exact ⟨⟨fun gate hgate => (halternates gate hgate).1, hreads.1, hadded.1⟩,
      ⟨fun gate hgate => (halternates gate hgate).2, hreads.2, hadded.2⟩⟩
  · rintro ⟨hfirst, hsecond⟩
    constructor
    · intro gate hgate
      rw [Gate.alternates_append, hmoves gate hgate]
      exact ⟨hfirst.alternates gate hgate, hsecond.alternates gate hgate⟩
    · rw [Gate.inside_append, hcapture]
      exact ⟨hfirst.reads, hsecond.reads⟩
    · rw [List.mem_append, not_or]
      exact ⟨hfirst.accumulators, hsecond.accumulators⟩

/-! ## Events that leave the device alone -/

def CaptureEvent.keepsDevice : CaptureEvent → Bool
  | .setLHcg _ | .setCtrl _ _ | .readFrame _ | .addFrame _ | .payload _
  | .reply _ => true
  | _ => false

def KeepsDevice (trace : List CaptureEvent) : Prop :=
  ∀ event ∈ trace, event.keepsDevice = true

@[simp] theorem keepsDevice_nil : KeepsDevice [] := by
  simp [KeepsDevice]

@[simp] theorem keepsDevice_cons
    (event : CaptureEvent) (rest : List CaptureEvent) :
    KeepsDevice (event :: rest) ↔
      event.keepsDevice = true ∧ KeepsDevice rest := by
  simp [KeepsDevice]

@[simp] theorem keepsDevice_append (before later : List CaptureEvent) :
    KeepsDevice (before ++ later) ↔
      KeepsDevice before ∧ KeepsDevice later := by
  simp only [KeepsDevice, List.mem_append]
  constructor
  · intro h
    exact ⟨fun event hmem => h event (.inl hmem),
      fun event hmem => h event (.inr hmem)⟩
  · rintro ⟨hbefore, hlater⟩ event (hmem | hmem)
    · exact hbefore event hmem
    · exact hlater event hmem

theorem KeepsDevice.still
    {trace : List CaptureEvent} (hkeeps : KeepsDevice trace) :
    ∀ gate ∈ lifecycleGates, gate.Still trace := by
  intro gate hgate event hevent
  have hkept := hkeeps event hevent
  simp only [lifecycleGates, List.mem_cons, List.not_mem_nil, or_false]
    at hgate
  rcases hgate with rfl | rfl | rfl | rfl | rfl <;>
    cases event <;>
      simp_all [captureGate, betweenEvents, CaptureEvent.keepsDevice]

theorem KeepsDevice.moves
    {trace : List CaptureEvent} (hkeeps : KeepsDevice trace)
    (opened : Bool) : Moves opened trace opened := by
  intro gate hgate
  exact (hkeeps.still gate hgate).afterAll_eq opened

theorem KeepsDevice.lifecycle_iff
    {trace : List CaptureEvent} (hkeeps : KeepsDevice trace)
    (opened : Bool) :
    Lifecycle opened trace ↔
      ((∃ event ∈ trace, event.isRead = true) → opened = true) ∧
        .addFrame false ∉ trace := by
  have hstill := hkeeps.still captureGate captureGate_mem
  constructor
  · intro h
    exact ⟨(hstill.inside_iff _ _).mp h.reads, h.accumulators⟩
  · rintro ⟨hreads, hadded⟩
    constructor
    · intro gate hgate
      exact (hkeeps.still gate hgate).alternates opened
    · exact (hstill.inside_iff _ _).mpr hreads
    · exact hadded

/-! ## Start and stop -/

theorem startCapture_events (dev : Device) (s : RawState) :
    (startCapture dev s).2 =
      [.startCapture, .initDevice, .startCapturing] ++
        if s.captureMode = captureNormal then [] else [.initMultiFrame] := by
  by_cases hmode : s.captureMode = captureNormal <;>
    simp [startCapture, hmode]

theorem stopCapture_events (s : RawState) :
    (stopCapture s).2 =
      [.stopCapture, .stopCapturing, .uninitDevice, .freeBuffers,
        .rawCaptureDeinit] ++
        if s.captureMode = captureNormal then [] else [.deInitMultiFrame] := by
  by_cases hmode : s.captureMode = captureNormal <;>
    simp [stopCapture, hmode]

/-- A start opens every gate, each of them once. -/
theorem startCapture_gates (dev : Device) (s : RawState) (opened : Bool) :
    ∀ gate ∈ lifecycleGates,
      gate.afterAll opened (startCapture dev s).2 = true ∧
        gate.Alternates false (startCapture dev s).2 := by
  intro gate hgate
  rw [startCapture_events]
  simp only [lifecycleGates, List.mem_cons, List.not_mem_nil, or_false]
    at hgate
  rcases hgate with rfl | rfl | rfl | rfl | rfl <;>
    split <;> simp [Gate.Alternates, captureGate, betweenEvents, Gate.after]

theorem startCapture_moves (dev : Device) (s : RawState) (opened : Bool) :
    Moves opened (startCapture dev s).2 true :=
  fun gate hgate => (startCapture_gates dev s opened gate hgate).1

theorem startCapture_lifecycle_iff
    (dev : Device) (s : RawState) (opened : Bool) :
    Lifecycle opened (startCapture dev s).2 ↔ opened = false := by
  rw [startCapture_events]
  constructor
  · intro h
    have hopens := (h.alternates captureGate captureGate_mem).1
    simpa [captureGate, betweenEvents] using hopens.1
  · intro hopened
    subst opened
    constructor
    · intro gate hgate
      have hgates := (startCapture_gates dev s false gate hgate).2
      rwa [startCapture_events] at hgates
    · split <;> simp [CaptureEvent.isRead]
    · split <;> simp

/-- A stop closes every gate, each of them once. -/
theorem stopCapture_gates (s : RawState) (opened : Bool) :
    ∀ gate ∈ lifecycleGates,
      gate.afterAll opened (stopCapture s).2 = false ∧
        gate.Alternates true (stopCapture s).2 := by
  intro gate hgate
  rw [stopCapture_events]
  simp only [lifecycleGates, List.mem_cons, List.not_mem_nil, or_false]
    at hgate
  rcases hgate with rfl | rfl | rfl | rfl | rfl <;>
    split <;> simp [Gate.Alternates, captureGate, betweenEvents, Gate.after]

theorem stopCapture_moves (s : RawState) (opened : Bool) :
    Moves opened (stopCapture s).2 false :=
  fun gate hgate => (stopCapture_gates s opened gate hgate).1

theorem stopCapture_lifecycle_iff (s : RawState) (opened : Bool) :
    Lifecycle opened (stopCapture s).2 ↔ opened = true := by
  rw [stopCapture_events]
  constructor
  · intro h
    have hcloses := (h.alternates captureGate captureGate_mem).2
    simpa [captureGate, betweenEvents] using hcloses.1
  · intro hopened
    subst opened
    constructor
    · intro gate hgate
      have hgates := (stopCapture_gates s true gate hgate).2
      rwa [stopCapture_events] at hgates
    · split <;> simp [CaptureEvent.isRead]
    · split <;> simp

/-! ## Capturing frames -/

/-- What a stretch of capturing may do: count `advance` frames, feed the
accumulators only when they are allocated, and leave the configuration and
the device as they are. -/
structure Capturing
    (s : RawState) (advance : ℕ) (r : RawState × List CaptureEvent) :
    Prop where
  mode : r.1.captureMode = s.captureMode
  frames : r.1.captureFrames = s.captureFrames
  index : r.1.captureFramesIndex = s.captureFramesIndex + advance
  live : r.1.buffersLive = s.buffersLive
  accumulators : r.1.avergeFrame0.isSome = s.avergeFrame0.isSome
  keeps : KeepsDevice r.2
  added : .addFrame false ∈ r.2 →
    s.captureMode ≠ captureNormal ∧ s.avergeFrame0.isSome = false

theorem Capturing.andThen
    {s : RawState} {before later total : ℕ}
    {r : RawState × List CaptureEvent}
    {f : RawState → RawState × List CaptureEvent}
    (hfirst : Capturing s before r) (hsecond : Capturing r.1 later (f r.1))
    (htotal : total = before + later) :
    Capturing s total (StepRun.andThen r f) := by
  constructor
  · exact hsecond.mode.trans hfirst.mode
  · exact hsecond.frames.trans hfirst.frames
  · rw [andThen_fst, hsecond.index, hfirst.index, Nat.add_assoc, htotal]
  · exact hsecond.live.trans hfirst.live
  · exact hsecond.accumulators.trans hfirst.accumulators
  · rw [andThen_snd, keepsDevice_append]
    exact ⟨hfirst.keeps, hsecond.keeps⟩
  · intro hmem
    rw [andThen_snd, List.mem_append] at hmem
    cases hmem with
    | inl hmem => exact hfirst.added hmem
    | inr hmem =>
        have hadded := hsecond.added hmem
        rwa [hfirst.mode, hfirst.accumulators] at hadded

theorem capturing_quiet (s : RawState) (trace : List CaptureEvent)
    (hkeeps : KeepsDevice trace) (hadded : .addFrame false ∉ trace) :
    Capturing s 0 (s, trace) :=
  ⟨rfl, rfl, rfl, rfl, rfl, hkeeps, fun hmem => absurd hmem hadded⟩

theorem sendRawData_capturing
    (dev : Device) (s : RawState) (bytes : List UInt8) :
    Capturing s 0 (sendRawData dev s bytes) := by
  constructor <;> simp [sendRawData, CaptureEvent.keepsDevice]

theorem doCaptureCallBack_capturing
    (dev : Device) (s : RawState) (frame : Frame) :
    Capturing s 0 (doCaptureCallBack dev s frame) := by
  unfold doCaptureCallBack
  split
  · exact capturing_quiet s [] keepsDevice_nil (by simp)
  · exact sendRawData_capturing dev s frame.bytes

theorem doMultiFrameCallBack_capturing
    (dev : Device) (s : RawState) (index : ℕ) (frame : Frame)
    (hmode : s.captureMode ≠ captureNormal) :
    Capturing s 0 (doMultiFrameCallBack dev s index frame) := by
  have hsent : ∀ (accumulator : Option (List UInt32))
      (average : Option (List UInt16)) (bytes : List UInt8),
      accumulator.isSome = s.avergeFrame0.isSome →
      Capturing s 0
        (StepRun.andThen
          ({ s with avergeFrame0 := accumulator, avergeFrame1 := average },
            [.addFrame true])
          fun s => sendRawData dev s bytes) := by
    intro accumulator average bytes hsome
    constructor <;>
      simp [sendRawData, CaptureEvent.keepsDevice, hsome]
  unfold doMultiFrameCallBack
  split
  · exact capturing_quiet s [] keepsDevice_nil (by simp)
  · cases hacc : s.avergeFrame0 with
    | none =>
        constructor <;> simp [CaptureEvent.keepsDevice, hmode, hacc]
    | some accumulator =>
        simp only
        split
        · exact hsent _ _ _ (by simp [hacc])
        · split
          · exact hsent _ _ _ (by simp [hacc])
          · constructor <;> simp [CaptureEvent.keepsDevice, hacc]

theorem readFrame_capturing
    (outcome : Option Frame) (s : RawState) (index : ℕ)
    (callback : RawState → Frame → RawState × List CaptureEvent)
    (hcallback : ∀ frame, Capturing s 0 (callback s frame)) :
    Capturing s 0 (readFrame outcome s index callback) := by
  have hread : Capturing s 0 (s, [.readFrame index]) :=
    capturing_quiet s _ (by simp [CaptureEvent.keepsDevice]) (by simp)
  unfold readFrame
  refine hread.andThen ?_ (Nat.add_zero 0).symm
  cases outcome with
  | none => exact capturing_quiet s [] keepsDevice_nil (by simp)
  | some frame => exact hcallback frame

theorem Capturing.count
    {s : RawState} {r : RawState × List CaptureEvent}
    (h : Capturing s 0 r) :
    Capturing s 1
      ({ r.1 with captureFramesIndex := r.1.captureFramesIndex + 1 }, r.2) :=
  ⟨h.mode, h.frames, by simp [h.index], h.live, h.accumulators, h.keeps,
    h.added⟩

theorem skipFrames_capturing (s : RawState) :
    Capturing s 0 (s, skipFrames s) := by
  apply capturing_quiet
  · unfold skipFrames setLHcg
    split
    · split <;> simp [KeepsDevice, CaptureEvent.keepsDevice]
    · exact keepsDevice_nil
  · unfold skipFrames setLHcg
    split
    · split <;> simp
    · simp

theorem doCapture_capturing (dev : Device) (s : RawState) :
    Capturing s 1 (doCapture dev s) := by
  have hread := (readFrame_capturing (dev.reads (skipped s)) s
    s.captureFramesIndex (doCaptureCallBack dev)
    (doCaptureCallBack_capturing dev s)).count
  unfold doCapture
  refine (skipFrames_capturing s).andThen ?_ (Nat.zero_add 1).symm
  exact hread

theorem multiFrameLoop_capturing
    (dev : Device) (read index count : ℕ) (s : RawState)
    (hmode : s.captureMode ≠ captureNormal) :
    Capturing s count (multiFrameLoop dev read index count s) := by
  induction count generalizing read index s with
  | zero => exact capturing_quiet s [] keepsDevice_nil (by simp)
  | succ count ih =>
      have hread := (readFrame_capturing (dev.reads read) s index
        (fun s frame => doMultiFrameCallBack dev s index frame)
        (fun frame =>
          doMultiFrameCallBack_capturing dev s index frame hmode)).count
      refine hread.andThen (ih (read + 1) (index + 1) _ ?_)
        (Nat.add_comm count 1)
      rw [hread.mode]
      exact hmode

def multiFrameCount (s : RawState) : ℕ :=
  if s.captureFramesIndex = 0 then s.captureFrames / 2
  else if s.captureFramesIndex = s.captureFrames / 2 then
    s.captureFrames - s.captureFrames / 2
  else 0

theorem doMultiFrameCapture_capturing
    (dev : Device) (s : RawState) (hmode : s.captureMode ≠ captureNormal) :
    Capturing s (multiFrameCount s) (doMultiFrameCapture dev s) := by
  unfold doMultiFrameCapture
  refine (skipFrames_capturing s).andThen ?_
    (Nat.zero_add (multiFrameCount s)).symm
  simp only [multiFrameCount]
  split
  · exact multiFrameLoop_capturing dev _ _ _ s hmode
  · split
    · exact multiFrameLoop_capturing dev _ _ _ s hmode
    · exact capturing_quiet s [] keepsDevice_nil (by simp)

def frameCount (s : RawState) : ℕ :=
  if s.captureMode = captureNormal then 1 else multiFrameCount s

/-- The capture of a START, without opening and closing the device. -/
def captureFrames (dev : Device) (s : RawState) :
    RawState × List CaptureEvent :=
  if s.captureMode = captureNormal then doCapture dev s
  else doMultiFrameCapture dev s

/-- The first half of a multi-frame capture. -/
theorem captureFrames_first (dev : Device) {s : RawState}
    (hmode : s.captureMode ≠ captureNormal)
    (hindex : s.captureFramesIndex = 0) :
    captureFrames dev s =
      andThen (s, skipFrames s)
        (multiFrameLoop dev skipFrame 0 (s.captureFrames / 2)) := by
  rw [captureFrames, if_neg hmode, doMultiFrameCapture]
  simp only [StepRun.andThen, skipped, hindex, if_true]

/-- The second half, which skips no frames. -/
theorem captureFrames_second (dev : Device) {s : RawState}
    (hmode : s.captureMode ≠ captureNormal)
    (hindex : s.captureFramesIndex = s.captureFrames / 2)
    (hhalf : s.captureFrames / 2 ≠ 0) :
    captureFrames dev s =
      andThen (s, [])
        (multiFrameLoop dev 0 (s.captureFrames / 2)
          (s.captureFrames - s.captureFrames / 2)) := by
  rw [captureFrames, if_neg hmode, doMultiFrameCapture]
  simp only [StepRun.andThen, skipFrames, skipped, hindex, hhalf, if_false,
    if_true]

theorem captureFrames_capturing (dev : Device) (s : RawState) :
    Capturing s (frameCount s) (captureFrames dev s) := by
  unfold frameCount captureFrames
  split
  · exact doCapture_capturing dev s
  · exact doMultiFrameCapture_capturing dev s ‹_›

def Captures (s : RawState) : Prop :=
  s.captureFramesIndex = 0 ∨ s.captureMode = captureNormal ∨
    s.captureFramesIndex = s.captureFrames / 2

theorem readFrame_reads
    (outcome : Option Frame) (s : RawState) (index : ℕ)
    (callback : RawState → Frame → RawState × List CaptureEvent) :
    ∃ event ∈ (readFrame outcome s index callback).2,
      event.isRead = true := by
  refine ⟨.readFrame index, ?_, rfl⟩
  simp [readFrame]

theorem skipFrames_reads (s : RawState) (hindex : s.captureFramesIndex = 0) :
    ∃ event ∈ skipFrames s, event.isRead = true := by
  refine ⟨.readFrame 0, ?_, rfl⟩
  simp [skipFrames, hindex, skipFrame]

theorem captureFrames_reads_iff (dev : Device) (s : RawState) :
    (∃ event ∈ (captureFrames dev s).2, event.isRead = true) ↔
      Captures s := by
  unfold captureFrames Captures
  by_cases hmode : s.captureMode = captureNormal
  · have hread := readFrame_reads (dev.reads (skipped s)) s
      s.captureFramesIndex (doCaptureCallBack dev)
    obtain ⟨event, hmem, hevent⟩ := hread
    simp only [hmode, if_true, true_or, or_true, iff_true]
    refine ⟨event, ?_, hevent⟩
    rw [doCapture, andThen_snd, List.mem_append]
    exact .inr hmem
  · simp only [hmode, if_false, false_or]
    by_cases hindex : s.captureFramesIndex = 0
    · obtain ⟨event, hmem, hevent⟩ := skipFrames_reads s hindex
      simp only [hindex, true_or, iff_true]
      refine ⟨event, ?_, hevent⟩
      rw [doMultiFrameCapture, andThen_snd, List.mem_append]
      exact .inl hmem
    · simp only [hindex, false_or, doMultiFrameCapture, skipFrames, if_false,
        andThen_snd, List.nil_append]
      by_cases hhalf : s.captureFramesIndex = s.captureFrames / 2
      · simp only [hhalf, iff_true]
        have hcount : s.captureFrames - s.captureFrames / 2 =
            (s.captureFrames - s.captureFrames / 2 - 1) + 1 := by omega
        rw [if_pos trivial, hcount, multiFrameLoop]
        obtain ⟨event, hmem, hevent⟩ := readFrame_reads
          (dev.reads (skipped s)) s (s.captureFrames / 2)
          (fun s frame =>
            doMultiFrameCallBack dev s (s.captureFrames / 2) frame)
        refine ⟨event, ?_, hevent⟩
        rw [andThen_snd, List.mem_append]
        exact .inl hmem
      · simp [hhalf]

/-! ## One START -/

def openDevice (dev : Device) (s : RawState) :
    RawState × List CaptureEvent :=
  if s.captureFramesIndex = 0 then startCapture dev s else (s, [])

def closeDevice (s : RawState) : RawState × List CaptureEvent :=
  if s.captureFramesIndex = s.captureFrames then stopCapture s else (s, [])

theorem rawCaputure_phases (dev : Device) (s : RawState) :
    rawCaputure dev s =
      StepRun.andThen
        (StepRun.andThen (openDevice dev s) (captureFrames dev))
        closeDevice := rfl

/-- What the commands keep true of the counter and the accumulators, whatever
the client sends. -/
structure RawInv (s : RawState) : Prop where
  index : s.captureMode ≠ captureNormal →
    s.captureFramesIndex = 0 ∨ s.captureFramesIndex = s.captureFrames / 2 ∨
      s.captureFramesIndex = s.captureFrames
  accumulators : s.captureMode ≠ captureNormal → s.buffersLive = true →
    s.captureFramesIndex ≠ 0 → s.avergeFrame0.isSome = true

theorem RawInv.initial (hdrMode : UInt32) :
    RawInv (RawState.initial hdrMode) := by
  constructor <;> simp [RawState.initial]

structure Opened (s : RawState) (r : RawState × List CaptureEvent) :
    Prop where
  mode : r.1.captureMode = s.captureMode
  frames : r.1.captureFrames = s.captureFrames
  index : r.1.captureFramesIndex = s.captureFramesIndex
  fresh : s.captureFramesIndex = 0 → r.1.buffersLive = true ∧
    (s.captureMode ≠ captureNormal → r.1.avergeFrame0.isSome = true)
  resumed : s.captureFramesIndex ≠ 0 → r = (s, [])
  moves : Moves s.buffersLive r.2 r.1.buffersLive
  lifecycle : Lifecycle s.buffersLive r.2 ↔
    (s.captureFramesIndex = 0 → s.buffersLive = false)

theorem openDevice_opened (dev : Device) (s : RawState) :
    Opened s (openDevice dev s) := by
  unfold openDevice
  by_cases hindex : s.captureFramesIndex = 0
  · rw [if_pos hindex]
    have hlive : (startCapture dev s).1.buffersLive = true := by
      by_cases hmode : s.captureMode = captureNormal <;>
        simp [startCapture, hmode]
    constructor
    · by_cases hmode : s.captureMode = captureNormal <;>
        simp [startCapture, hmode]
    · by_cases hmode : s.captureMode = captureNormal <;>
        simp [startCapture, hmode]
    · by_cases hmode : s.captureMode = captureNormal <;>
        simp [startCapture, hmode]
    · intro _
      refine ⟨hlive, ?_⟩
      intro hmode
      simp [startCapture, hmode]
    · intro h
      exact absurd hindex h
    · rw [hlive]
      exact startCapture_moves dev s s.buffersLive
    · rw [startCapture_lifecycle_iff]
      simp [hindex]
  · rw [if_neg hindex]
    constructor
    · rfl
    · rfl
    · rfl
    · intro h
      exact absurd h hindex
    · intro _
      rfl
    · exact keepsDevice_nil.moves s.buffersLive
    · simp [hindex, lifecycle_nil]

theorem closeDevice_moves (s : RawState) :
    Moves s.buffersLive (closeDevice s).2 (closeDevice s).1.buffersLive := by
  unfold closeDevice
  split
  · have hlive : (stopCapture s).1.buffersLive = false := by
      by_cases hmode : s.captureMode = captureNormal <;>
        simp [stopCapture, hmode]
    rw [hlive]
    exact stopCapture_moves s s.buffersLive
  · exact keepsDevice_nil.moves s.buffersLive

theorem closeDevice_lifecycle_iff (s : RawState) :
    Lifecycle s.buffersLive (closeDevice s).2 ↔
      (s.captureFramesIndex = s.captureFrames → s.buffersLive = true) := by
  unfold closeDevice
  split
  · rw [stopCapture_lifecycle_iff]
    simp [*]
  · simp [*, lifecycle_nil]

theorem stopCapture_state (s : RawState) :
    (stopCapture s).1.buffersLive = false ∧
      (stopCapture s).1.captureMode = s.captureMode ∧
      (stopCapture s).1.captureFrames = s.captureFrames ∧
      (stopCapture s).1.captureFramesIndex = s.captureFramesIndex := by
  by_cases hmode : s.captureMode = captureNormal <;>
    simp [stopCapture, hmode]

theorem RawInv.stopCapture {s : RawState} (hinv : RawInv s) :
    RawInv (RkaiqToolServer.stopCapture s).1 := by
  obtain ⟨hlive, hmode, hframes, hindex⟩ := stopCapture_state s
  constructor
  · rw [hmode, hframes, hindex]
    exact hinv.index
  · simp [hlive]

theorem RawInv.closeDevice {s : RawState} (hinv : RawInv s) :
    RawInv (RkaiqToolServer.closeDevice s).1 := by
  unfold RkaiqToolServer.closeDevice
  split
  · exact hinv.stopCapture
  · exact hinv

theorem rawCaputure_moves (dev : Device) (s : RawState) :
    Moves s.buffersLive (rawCaputure dev s).2
      (rawCaputure dev s).1.buffersLive := by
  have hopened := openDevice_opened dev s
  have hcaptured := captureFrames_capturing dev (openDevice dev s).1
  have hkept := hcaptured.keeps.moves (openDevice dev s).1.buffersLive
  rw [rawCaputure_phases]
  refine (hopened.moves.append hkept).append ?_
  rw [← hcaptured.live]
  exact closeDevice_moves _

theorem RawInv.rawCaputure {s : RawState} (hinv : RawInv s) (dev : Device) :
    RawInv (RkaiqToolServer.rawCaputure dev s).1 := by
  have hopened := openDevice_opened dev s
  have hcaptured := captureFrames_capturing dev (openDevice dev s).1
  rw [rawCaputure_phases]
  apply RawInv.closeDevice
  have hindex := hcaptured.index
  have hmode := hcaptured.mode.trans hopened.mode
  have hframes := hcaptured.frames.trans hopened.frames
  constructor
  · intro hmulti
    rw [andThen_fst, hmode] at hmulti
    have hbefore := hinv.index hmulti
    simp only [frameCount, multiFrameCount, hopened.mode, hopened.frames,
      hopened.index, hmulti, if_false] at hindex
    rw [andThen_fst, hindex, hframes]
    split_ifs with hzero hhalf <;> omega
  · intro hmulti hlive hcounted
    rw [andThen_fst, hmode] at hmulti
    rw [andThen_fst, hcaptured.accumulators]
    by_cases hzero : s.captureFramesIndex = 0
    · exact (hopened.fresh hzero).2 hmulti
    · have hsame := hopened.resumed hzero
      rw [andThen_fst, hcaptured.live, hsame] at hlive
      rw [hsame]
      exact hinv.accumulators hmulti hlive hzero

theorem rawCaputure_lifecycle_iff
    (dev : Device) {s : RawState} (hinv : RawInv s) :
    Lifecycle s.buffersLive (rawCaputure dev s).2 ↔
      (s.captureFramesIndex = 0 ↔ s.buffersLive = false) := by
  have hopened := openDevice_opened dev s
  have hcaptured := captureFrames_capturing dev (openDevice dev s).1
  have hreads := captureFrames_reads_iff dev (openDevice dev s).1
  have hkept := hcaptured.keeps.moves (openDevice dev s).1.buffersLive
  rw [rawCaputure_phases, andThen_snd, andThen_snd, andThen_fst,
    (hopened.moves.append hkept).lifecycle_append,
    hopened.moves.lifecycle_append, hcaptured.keeps.lifecycle_iff,
    ← hcaptured.live, closeDevice_lifecycle_iff, hcaptured.live, hreads,
    hopened.lifecycle]
  constructor
  · rintro ⟨⟨hopens, hread, -⟩, hcloses⟩
    refine ⟨hopens, ?_⟩
    intro hlive
    by_contra hindex
    -- nothing was opened, so the START must neither read a frame nor stop
    have hsame := hopened.resumed hindex
    rw [hsame] at hread hcloses hcaptured
    by_cases hcaptures : Captures s
    · have hopen : s.buffersLive = true := hread hcaptures
      rw [hopen] at hlive
      contradiction
    · have hmode : s.captureMode ≠ captureNormal := by
        intro h
        exact hcaptures (.inr (.inl h))
      have hhalf : s.captureFramesIndex ≠ s.captureFrames / 2 := by
        intro h
        exact hcaptures (.inr (.inr h))
      have hall : s.captureFramesIndex = s.captureFrames := by
        have h := hinv.index hmode
        omega
      have hcount := hcaptured.index
      have hframes := hcaptured.frames
      simp only [frameCount, multiFrameCount, hmode, hindex, hhalf, if_false,
        Nat.add_zero] at hcount
      have hopen : s.buffersLive = true :=
        hcloses (by rw [hcount, hframes, hall])
      rw [hopen] at hlive
      contradiction
  · intro hguard
    refine ⟨⟨hguard.mp, ?_, ?_⟩, ?_⟩
    · intro _
      by_cases hindex : s.captureFramesIndex = 0
      · exact (hopened.fresh hindex).1
      · rw [hopened.resumed hindex]
        simpa [hindex] using hguard
    · intro hmem
      obtain ⟨hmode, hnone⟩ := hcaptured.added hmem
      by_cases hindex : s.captureFramesIndex = 0
      · rw [hopened.mode] at hmode
        simp [(hopened.fresh hindex).2 hmode] at hnone
      · rw [hopened.resumed hindex] at hmode hnone
        have hlive : s.buffersLive = true := by simpa [hindex] using hguard
        rw [hinv.accumulators hmode hlive hindex] at hnone
        contradiction
    · intro _
      by_cases hindex : s.captureFramesIndex = 0
      · exact (hopened.fresh hindex).1
      · rw [hopened.resumed hindex]
        simpa [hindex] using hguard

/-! ## The other commands -/

def CaptureEvent.isAnswer : CaptureEvent → Bool
  | .setCtrl _ _ | .reply _ => true
  | _ => false

def Answers (trace : List CaptureEvent) : Prop :=
  ∀ event ∈ trace, event.isAnswer = true

theorem Answers.keepsDevice
    {trace : List CaptureEvent} (hanswers : Answers trace) :
    KeepsDevice trace := by
  intro event hmem
  have hanswer := hanswers event hmem
  cases event <;> simp_all [CaptureEvent.isAnswer, CaptureEvent.keepsDevice]

theorem Answers.lifecycle
    {trace : List CaptureEvent} (hanswers : Answers trace) (opened : Bool) :
    Lifecycle opened trace := by
  rw [hanswers.keepsDevice.lifecycle_iff]
  constructor
  · rintro ⟨event, hmem, hread⟩
    have hanswer := hanswers event hmem
    cases event <;> simp_all [CaptureEvent.isAnswer, CaptureEvent.isRead]
  · intro hmem
    have hanswer := hanswers _ hmem
    simp [CaptureEvent.isAnswer] at hanswer

/-- What a command other than a START and a wrong CHECKSUM may do: answer,
and at most restart the counter. -/
structure Answered (s : RawState) (r : RawState × List CaptureEvent) :
    Prop where
  live : r.1.buffersLive = s.buffersLive
  answers : Answers r.2
  state : r.1.captureFramesIndex = 0 ∨
    r.1.captureFramesIndex = s.captureFramesIndex ∧
      r.1.captureFrames = s.captureFrames ∧
      r.1.captureMode = s.captureMode ∧
      r.1.avergeFrame0 = s.avergeFrame0

theorem Answered.inv
    {s : RawState} {r : RawState × List CaptureEvent}
    (h : Answered s r) (hinv : RawInv s) : RawInv r.1 := by
  rcases h.state with hzero | ⟨hindex, hframes, hmode, hacc⟩
  · constructor
    · intro _
      exact .inl hzero
    · intro _ _ hcounted
      exact absurd hzero hcounted
  · constructor
    · rw [hindex, hframes, hmode]
      exact hinv.index
    · rw [hindex, hmode, hacc, h.live]
      exact hinv.accumulators

theorem getSensorPara_answered
    (dev : Device) (s : RawState) (cmd : CommandData) (retStatus : UInt8) :
    Answered s (getSensorPara dev (rawCaptureinit dev s cmd) retStatus) := by
  unfold getSensorPara
  cases dev.readings <;>
    exact ⟨rfl, by simp [Answers, CaptureEvent.isAnswer],
      .inr ⟨rfl, rfl, rfl, rfl⟩⟩

theorem setCapConf_answered
    (dev : Device) (s : RawState) (cmd : CommandData) (retStatus : UInt8) :
    Answered s (setCapConf dev s cmd retStatus) := by
  refine ⟨rfl, ?_, .inl rfl⟩
  intro event hmem
  simp only [setCapConf, List.mem_append, List.mem_map,
    List.mem_singleton] at hmem
  rcases hmem with ⟨write, -, rfl⟩ | rfl <;> rfl

theorem answered_reply (s : RawState) (cmd : CommandData) :
    Answered s (s, [.reply cmd]) :=
  ⟨rfl, by simp [Answers, CaptureEvent.isAnswer], .inr ⟨rfl, rfl, rfl, rfl⟩⟩

inductive RawCaptureCase
    (dev : Device) (s : RawState) (commonCmd : CommandData) :
    RawState × List CaptureEvent → Prop
  | start (hstart : commonCmd.datAt 0 = dataIdCaptureRawStart) :
      RawCaptureCase dev s commonCmd
        (StepRun.andThen (rawCaputure dev { s with captureStatus := rawCap })
          fun s => ({ s with captureStatus := avaliable }, []))
  | mismatch (cmd : CommandData)
      (hchecksum : commonCmd.datAt 0 = dataIdCaptureRawChecksum)
      (hsum : s.captureCheckSum ≠ commonCmd.checksumValue) :
      RawCaptureCase dev s commonCmd
        (StepRun.andThen (stopCapture s) fun s => (s, [.reply cmd]))
  | answered (r : RawState × List CaptureEvent)
      (hstart : commonCmd.datAt 0 ≠ dataIdCaptureRawStart)
      (hsum : commonCmd.datAt 0 = dataIdCaptureRawChecksum →
        s.captureCheckSum = commonCmd.checksumValue)
      (hanswered : Answered s r) :
      RawCaptureCase dev s commonCmd r

theorem rawCaptureCase_cases
    (dev : Device) (s : RawState) (sendCmd commonCmd : CommandData) :
    RawCaptureCase dev s commonCmd
      (rawCaptureCase dev s sendCmd commonCmd) := by
  unfold rawCaptureCase
  by_cases hstatus : commonCmd.datAt 0 = dataIdCaptureRawStatus
  · rw [if_pos hstatus]
    exact .answered _ (by rw [hstatus]; decide)
      (by rw [hstatus]; intro h; exact absurd h (by decide))
      (answered_reply s _)
  rw [if_neg hstatus]
  by_cases hget : commonCmd.datAt 0 = dataIdCaptureRawGetParam
  · rw [if_pos hget]
    exact .answered _ (by rw [hget]; decide)
      (by rw [hget]; intro h; exact absurd h (by decide))
      (getSensorPara_answered dev s commonCmd resSuccess)
  rw [if_neg hget]
  by_cases hset : commonCmd.datAt 0 = dataIdCaptureRawSetParam
  · rw [if_pos hset]
    exact .answered _ (by rw [hset]; decide)
      (by rw [hset]; intro h; exact absurd h (by decide))
      (setCapConf_answered dev s commonCmd ready)
  rw [if_neg hset]
  by_cases hstart : commonCmd.datAt 0 = dataIdCaptureRawStart
  · rw [if_pos hstart]
    exact .start hstart
  rw [if_neg hstart]
  by_cases hchecksum : commonCmd.datAt 0 = dataIdCaptureRawChecksum
  · rw [if_pos hchecksum]
    unfold sendRawDataResult
    by_cases hsum : s.captureCheckSum = commonCmd.checksumValue
    · rw [if_pos hsum]
      exact .answered _ hstart (fun _ => hsum) (answered_reply s _)
    · rw [if_neg hsum]
      exact .mismatch _ hchecksum hsum
  · rw [if_neg hchecksum]
    refine .answered _ hstart (fun h => absurd h hchecksum) ?_
    exact ⟨rfl, by simp [Answers], .inr ⟨rfl, rfl, rfl, rfl⟩⟩

/-! ## Runs -/

structure RawCommand where
  dev : Device
  sendCmd : CommandData
  commonCmd : CommandData

def rawStep (s : RawState) (command : RawCommand) :
    RawState × List CaptureEvent :=
  rawCaptureCase command.dev s command.sendCmd command.commonCmd

/-- A START must meet a zero counter exactly when the device is closed, and a
CHECKSUM that does not match must meet an open device. -/
def KeepsLifecycle (s : RawState) (command : RawCommand) : Prop :=
  (command.commonCmd.datAt 0 = dataIdCaptureRawStart →
    (s.captureFramesIndex = 0 ↔ s.buffersLive = false)) ∧
  (command.commonCmd.datAt 0 = dataIdCaptureRawChecksum →
    s.captureCheckSum ≠ command.commonCmd.checksumValue →
      s.buffersLive = true)

theorem rawStep_moves (s : RawState) (command : RawCommand) :
    Moves s.buffersLive (rawStep s command).2
      (rawStep s command).1.buffersLive := by
  have hcase := rawCaptureCase_cases command.dev s command.sendCmd
    command.commonCmd
  rw [rawStep]
  generalize rawCaptureCase command.dev s command.sendCmd command.commonCmd = r
    at hcase ⊢
  cases hcase with
  | start hstart =>
      have hmoves := rawCaputure_moves command.dev
        { s with captureStatus := rawCap }
      simpa using hmoves
  | mismatch cmd hchecksum hsum =>
      have hreply : KeepsDevice [.reply cmd] := by
        simp [CaptureEvent.keepsDevice]
      rw [andThen_fst, andThen_snd, (stopCapture_state s).1]
      exact (stopCapture_moves s s.buffersLive).append (hreply.moves false)
  | answered r hstart hsum hanswered =>
      rw [hanswered.live]
      exact hanswered.answers.keepsDevice.moves s.buffersLive

theorem RawInv.rawStep {s : RawState} (hinv : RawInv s)
    (command : RawCommand) :
    RawInv (RkaiqToolServer.rawStep s command).1 := by
  have hcase := rawCaptureCase_cases command.dev s command.sendCmd
    command.commonCmd
  rw [RkaiqToolServer.rawStep]
  generalize rawCaptureCase command.dev s command.sendCmd command.commonCmd = r
    at hcase ⊢
  cases hcase with
  | start hstart =>
      have hbusy : RawInv { s with captureStatus := rawCap } :=
        ⟨hinv.index, hinv.accumulators⟩
      have hafter := hbusy.rawCaputure command.dev
      exact ⟨hafter.index, hafter.accumulators⟩
  | mismatch cmd hchecksum hsum => exact hinv.stopCapture
  | answered r hstart hsum hanswered => exact hanswered.inv hinv

theorem rawStep_lifecycle_iff
    {s : RawState} (hinv : RawInv s) (command : RawCommand) :
    Lifecycle s.buffersLive (rawStep s command).2 ↔
      KeepsLifecycle s command := by
  have hcase := rawCaptureCase_cases command.dev s command.sendCmd
    command.commonCmd
  have hdistinct : dataIdCaptureRawStart ≠ dataIdCaptureRawChecksum := by
    decide
  rw [rawStep, KeepsLifecycle]
  generalize rawCaptureCase command.dev s command.sendCmd command.commonCmd = r
    at hcase ⊢
  cases hcase with
  | start hstart =>
      have hbusy : RawInv { s with captureStatus := rawCap } :=
        ⟨hinv.index, hinv.accumulators⟩
      have hiff := rawCaputure_lifecycle_iff command.dev hbusy
      rw [andThen_snd, List.append_nil]
      simp only [hstart, hdistinct, true_implies, false_implies, and_true]
      exact hiff
  | mismatch cmd hchecksum hsum =>
      have hreply : Answers [.reply cmd] := by
        simp [Answers, CaptureEvent.isAnswer]
      rw [andThen_snd, (stopCapture_moves s s.buffersLive).lifecycle_append,
        stopCapture_lifecycle_iff]
      simp only [hchecksum, hdistinct.symm, hreply.lifecycle, ne_eq, hsum,
        not_false_eq_true, true_implies, false_implies, and_true, true_and]
  | answered r hstart hsum hanswered =>
      simp only [hanswered.answers.lifecycle, hstart, false_implies, true_and,
        true_iff]
      intro hchecksum hwrong
      exact absurd (hsum hchecksum) hwrong

/-- A run of raw-capture commands keeps the lifecycle of the device exactly
when each command meets its guard in the state it arrives in. -/
theorem lifecycle_iff_keepsLifecycle
    (hdrMode : UInt32) (commands : List RawCommand) :
    Lifecycle false (trace rawStep (RawState.initial hdrMode) commands) ↔
      Steps (next rawStep) KeepsLifecycle (RawState.initial hdrMode)
        commands := by
  have hnil : ∀ s : RawState, RawInv s → Lifecycle s.buffersLive [] :=
    fun s _ => lifecycle_nil s.buffersLive
  have hkeep : ∀ (s : RawState) (command : RawCommand), RawInv s →
      KeepsLifecycle s command → RawInv (next rawStep s command) ∧
        ∀ later, Lifecycle (next rawStep s command).buffersLive later →
          Lifecycle s.buffersLive ((rawStep s command).2 ++ later) := by
    intro s command hinv hguard
    refine ⟨hinv.rawStep command, ?_⟩
    intro later hlater
    rw [(rawStep_moves s command).lifecycle_append]
    exact ⟨(rawStep_lifecycle_iff hinv command).mpr hguard, hlater⟩
  have hbreak : ∀ (s : RawState) (command : RawCommand) later, RawInv s →
      Lifecycle s.buffersLive ((rawStep s command).2 ++ later) →
        KeepsLifecycle s command ∧
          Lifecycle (next rawStep s command).buffersLive later := by
    intro s command later hinv hok
    rw [(rawStep_moves s command).lifecycle_append] at hok
    exact ⟨(rawStep_lifecycle_iff hinv command).mp hok.1, hok.2⟩
  have hruns := trace_iff_steps RawInv
    (fun s trace => Lifecycle s.buffersLive trace) hnil hkeep hbreak
    (RawState.initial hdrMode) (RawInv.initial hdrMode) commands
  exact hruns

def workingCommand (cmd : CommandData) : RawCommand where
  dev := workingDevice .vicap fun _ => [1, 2]
  sendCmd := zeroCommand
  commonCmd := cmd

def acknowledgedFrame : List RawCommand :=
  [workingCommand (getParamRequest 1 1),
    workingCommand (setParamRequest 1 captureNormal),
    workingCommand startRequest,
    workingCommand (checksumRequest 0)]

/-- The device is stopped by the last frame and again by the checksum. -/
theorem acknowledgedFrame_stops_twice :
    (∀ command ∈ acknowledgedFrame, command.dev.Succeeds) ∧
      ¬ Lifecycle false
        (trace rawStep (RawState.initial noHdr) acknowledgedFrame) := by
  constructor
  · intro command hmem
    simp only [acknowledgedFrame, List.mem_cons, List.not_mem_nil, or_false]
      at hmem
    rcases hmem with rfl | rfl | rfl | rfl <;>
      exact workingDevice_succeeds _ _
  · intro h
    have halternates := h.alternates captureGate captureGate_mem
    revert halternates
    decide

end RkaiqToolServer
