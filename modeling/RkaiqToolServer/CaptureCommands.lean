import RkaiqToolServer.NormalCapture

/-!
# What a raw-capture command does to the device

A START opens the device when its counter is zero, reads frames, and closes the
device when the counter has come to the number of frames; a CHECKSUM that does
not match closes it.  Between the opening and the closing the reads are the
only use of the device, and `cap_info` is left as it is.
-/

namespace RkaiqToolServer

open StepRun

/-! ## The events of a START -/

theorem openDevice_events (dev : Device) (s : RawState) :
    (openDevice dev s).2 =
      if s.captureFramesIndex = 0 then
        [.startCapture, .initDevice, .startCapturing] ++
          if s.captureMode = captureNormal then [] else [.initMultiFrame]
      else [] := by
  unfold openDevice
  split
  · exact startCapture_events dev s
  · rfl

theorem closeDevice_events (s : RawState) :
    (closeDevice s).2 =
      if s.captureFramesIndex = s.captureFrames then
        [.stopCapture, .stopCapturing, .uninitDevice, .freeBuffers,
          .rawCaptureDeinit] ++
          if s.captureMode = captureNormal then [] else [.deInitMultiFrame]
      else [] := by
  unfold closeDevice
  split
  · exact stopCapture_events s
  · rfl

theorem closeDevice_kept (s : RawState) :
    (closeDevice s).1.captureMode = s.captureMode ∧
      (closeDevice s).1.captureFrames = s.captureFrames ∧
      (closeDevice s).1.captureFramesIndex = s.captureFramesIndex := by
  unfold closeDevice
  split
  · obtain ⟨-, hmode, hframes, hindex⟩ := stopCapture_state s
    exact ⟨hmode, hframes, hindex⟩
  · exact ⟨rfl, rfl, rfl⟩

theorem readIndices_doCaptureCallBack (dev : Device) (s : RawState)
    (frame : Frame) : readIndices (doCaptureCallBack dev s frame).2 = [] := by
  rw [(doCaptureCallBack_eq dev s frame).1, sentFrame]
  split <;> rfl

theorem readIndices_doMultiFrameCallBack (dev : Device) (s : RawState)
    (index : ℕ) (frame : Frame) :
    readIndices (doMultiFrameCallBack dev s index frame).2 = [] := by
  unfold doMultiFrameCallBack
  split
  · rfl
  · cases s.avergeFrame0 with
    | none => rfl
    | some accumulator =>
        simp only
        split
        · rfl
        · split <;> rfl

theorem readIndices_readFrame (outcome : Option Frame) (s : RawState)
    (index : ℕ)
    {callback : RawState → Frame → RawState × List CaptureEvent}
    (hcallback : ∀ frame, readIndices (callback s frame).2 = []) :
    readIndices (readFrame outcome s index callback).2 = [index] := by
  cases outcome with
  | none => rfl
  | some frame =>
      rw [readFrame, andThen_snd, readIndices_append]
      exact congrArg (index :: ·) (hcallback frame)

theorem multiFrameLoop_readCount (dev : Device) (read index count : ℕ)
    (s : RawState) :
    (readIndices (multiFrameLoop dev read index count s).2).length =
      count := by
  induction count generalizing read index s with
  | zero => rfl
  | succ count ih =>
      rw [multiFrameLoop, andThen_snd, readIndices_append, List.length_append,
        ih, readIndices_readFrame _ _ _
          (readIndices_doMultiFrameCallBack dev s index), Nat.add_comm]
      rfl

/-- A START reads the warm-up frames and the frames it counts. -/
theorem captureFrames_readCount (dev : Device) (s : RawState) :
    (readIndices (captureFrames dev s).2).length =
      skipped s + frameCount s := by
  have hskipped : (readIndices (skipFrames s)).length = skipped s := by
    rw [readIndices_skipFrames, skipped]
    split <;> simp
  unfold captureFrames frameCount
  split
  · rw [doCapture, andThen_snd, readIndices_append, List.length_append,
      hskipped, readIndices_readFrame _ _ _
        (readIndices_doCaptureCallBack dev s)]
    rfl
  · unfold doMultiFrameCapture multiFrameCount
    simp only [andThen_snd]
    rw [readIndices_append, List.length_append, hskipped]
    congr 1
    split
    · exact multiFrameLoop_readCount dev _ _ _ s
    · split
      · exact multiFrameLoop_readCount dev _ _ _ s
      · rfl

/-- A START opens the device if the counter is zero, captures, and closes the
device if the counter has come to the number of frames. -/
structure StartShape (s after : RawState) (dev : Device)
    (events : List CaptureEvent) : Prop where
  events_eq : ∃ captured, KeepsDevice captured ∧
    (readIndices captured).length = skipped s + frameCount s ∧
    events = (openDevice dev s).2 ++ captured ++ (closeDevice after).2
  mode : after.captureMode = s.captureMode
  frames : after.captureFrames = s.captureFrames
  index : after.captureFramesIndex = s.captureFramesIndex + frameCount s

theorem StartShape.frameCount_eq {s after : RawState} {dev : Device}
    {events : List CaptureEvent} (hshape : StartShape s after dev events)
    (hindex : after.captureFramesIndex = s.captureFramesIndex) :
    frameCount after = frameCount s := by
  unfold frameCount multiFrameCount
  rw [hshape.mode, hshape.frames, hindex]

theorem rawStep_start_shape {command : RawCommand}
    (hstart : command.commonCmd.datAt 0 = dataIdCaptureRawStart)
    (s : RawState) :
    StartShape s (next rawStep s command) command.dev
      (rawStep s command).2 := by
  have hopened := openDevice_opened command.dev
    { s with captureStatus := rawCap }
  have hopenEvents : (openDevice command.dev
      { s with captureStatus := rawCap }).2 = (openDevice command.dev s).2 :=
    by rw [openDevice_events, openDevice_events]
  rw [next, rawStep_start_phases command s hstart]
  generalize openDevice command.dev { s with captureStatus := rawCap } =
    opened at hopened hopenEvents
  have hcaptured := captureFrames_capturing command.dev opened.1
  have hcount : frameCount opened.1 = frameCount s := by
    unfold frameCount multiFrameCount
    rw [hopened.mode, hopened.index, hopened.frames]
  obtain ⟨hmode, hframes, hindex⟩ :=
    closeDevice_kept (captureFrames command.dev opened.1).1
  constructor
  · refine ⟨(captureFrames command.dev opened.1).2, hcaptured.keeps, ?_, ?_⟩
    · rw [captureFrames_readCount, hcount, skipped, skipped, hopened.index]
    rw [closeDevice_events (StepRun.andThen _ _).1]
    simp only [andThen_fst, andThen_snd, List.append_nil, hmode, hframes,
      hindex, hopenEvents, closeDevice_events]
  · exact hmode.trans (hcaptured.mode.trans hopened.mode)
  · exact hframes.trans (hcaptured.frames.trans hopened.frames)
  · rw [← hcount]
    exact hindex.trans (hcaptured.index.trans
      (congrArg (· + frameCount opened.1) hopened.index))

/-! ## `cap_info` -/

theorem doCaptureCallBack_capInfo (dev : Device) (s : RawState)
    (frame : Frame) :
    (doCaptureCallBack dev s frame).1.capInfo = s.capInfo := by
  unfold doCaptureCallBack
  split <;> rfl

theorem doMultiFrameCallBack_capInfo (dev : Device) (s : RawState)
    (index : ℕ) (frame : Frame) :
    (doMultiFrameCallBack dev s index frame).1.capInfo = s.capInfo := by
  unfold doMultiFrameCallBack
  split
  · rfl
  · cases s.avergeFrame0 with
    | none => rfl
    | some accumulator =>
        simp only
        split
        · rfl
        · split <;> rfl

theorem readFrame_capInfo (outcome : Option Frame) (s : RawState)
    (index : ℕ)
    {callback : RawState → Frame → RawState × List CaptureEvent}
    (hcallback : ∀ frame, (callback s frame).1.capInfo = s.capInfo) :
    (readFrame outcome s index callback).1.capInfo = s.capInfo := by
  cases outcome with
  | none => rfl
  | some frame => exact hcallback frame

theorem multiFrameLoop_capInfo (dev : Device) (read index count : ℕ)
    (s : RawState) :
    (multiFrameLoop dev read index count s).1.capInfo = s.capInfo := by
  induction count generalizing read index s with
  | zero => rfl
  | succ count ih =>
      rw [multiFrameLoop, andThen_fst, ih]
      exact readFrame_capInfo _ _ _
        (doMultiFrameCallBack_capInfo dev s index)

theorem captureFrames_capInfo (dev : Device) (s : RawState) :
    (captureFrames dev s).1.capInfo = s.capInfo := by
  unfold captureFrames
  split
  · exact readFrame_capInfo _ _ _ (doCaptureCallBack_capInfo dev s)
  · unfold doMultiFrameCapture
    simp only [andThen_fst]
    split
    · exact multiFrameLoop_capInfo dev _ _ _ s
    · split
      · exact multiFrameLoop_capInfo dev _ _ _ s
      · rfl

/-! ## The commands that neither configure nor start a capture -/

/-- A CHECKSUM that does not match. -/
def StopsOnChecksum (s : RawState) (command : RawCommand) : Prop :=
  command.commonCmd.datAt 0 = dataIdCaptureRawChecksum ∧
    s.captureCheckSum ≠ command.commonCmd.checksumValue

instance (s : RawState) (command : RawCommand) :
    Decidable (StopsOnChecksum s command) :=
  inferInstanceAs (Decidable (_ ∧ _))

theorem rawStep_stops {s : RawState} {command : RawCommand}
    (hstops : StopsOnChecksum s command) :
    next rawStep s command = (stopCapture s).1 ∧
      ∃ cmd, (rawStep s command).2 = (stopCapture s).2 ++ [.reply cmd] := by
  rw [next, rawStep_checksum hstops.1]
  unfold sendRawDataResult
  simp only [hstops.2, if_false]
  exact ⟨rfl, _, rfl⟩

theorem rawStep_other {s : RawState} {command : RawCommand}
    (hget : command.commonCmd.datAt 0 ≠ dataIdCaptureRawGetParam)
    (hset : command.commonCmd.datAt 0 ≠ dataIdCaptureRawSetParam)
    (hstart : command.commonCmd.datAt 0 ≠ dataIdCaptureRawStart)
    (hstops : ¬ StopsOnChecksum s command) :
    next rawStep s command = s ∧ Answers (rawStep s command).2 := by
  have hreply : ∀ cmd, Answers [CaptureEvent.reply cmd] := by
    simp [Answers, CaptureEvent.isAnswer]
  rw [next, rawStep, rawCaptureCase]
  by_cases hstatus : command.commonCmd.datAt 0 = dataIdCaptureRawStatus
  · rw [if_pos hstatus]
    exact ⟨rfl, hreply _⟩
  rw [if_neg hstatus, if_neg hget, if_neg hset, if_neg hstart]
  by_cases hchecksum : command.commonCmd.datAt 0 = dataIdCaptureRawChecksum
  · have hsum : s.captureCheckSum = command.commonCmd.checksumValue := by
      by_contra hwrong
      exact hstops ⟨hchecksum, hwrong⟩
    rw [if_pos hchecksum, sendRawDataResult, if_pos hsum]
    exact ⟨rfl, hreply _⟩
  · rw [if_neg hchecksum]
    exact ⟨rfl, fun event hmem => absurd hmem (List.not_mem_nil)⟩

end RkaiqToolServer
