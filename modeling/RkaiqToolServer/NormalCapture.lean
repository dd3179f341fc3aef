import RkaiqToolServer.MultiFrameCapture

/-!
# A capture of single frames

In normal mode every START reads and sends one frame.  The first one opens the
device and skips the warm-up frames, the last one closes it; the counter that
decides both is kept between the commands.
-/

namespace RkaiqToolServer

open ByteCodec
open StepRun

def readIndices (trace : List CaptureEvent) : List ℕ :=
  trace.filterMap fun event =>
    match event with
    | .readFrame index => some index
    | _ => none

@[simp] theorem readIndices_append (before later : List CaptureEvent) :
    readIndices (before ++ later) =
      readIndices before ++ readIndices later := by
  simp [readIndices]

/-- The size test of `DoCaptureCallBack` lets the frame pass. -/
def AcceptsFrame (s : RawState) (frame : Frame) : Prop :=
  s.gSensorHdrMode = noHdr → (frame.bytes.length : ℤ) ≤ frameLimit s

instance (s : RawState) (frame : Frame) : Decidable (AcceptsFrame s frame) :=
  inferInstanceAs (Decidable (_ → _))

/-! ## One START -/

def openEvents (s : RawState) : List CaptureEvent :=
  if s.captureFramesIndex = 0 then
    [.startCapture, .initDevice, .startCapturing]
  else []

def sentFrame (s : RawState) (frame : Frame) : List CaptureEvent :=
  if AcceptsFrame s frame then [.payload frame.bytes] else []

def closeEvents (s : RawState) : List CaptureEvent :=
  if s.captureFramesIndex + 1 = s.captureFrames then
    [.stopCapture, .stopCapturing, .uninitDevice, .freeBuffers,
      .rawCaptureDeinit]
  else []

/-- What a capture keeps from one START to the next. -/
structure SameCapture (s after : RawState) : Prop where
  mode : after.captureMode = s.captureMode
  frames : after.captureFrames = s.captureFrames
  width : after.capInfo.width = s.capInfo.width
  height : after.capInfo.height = s.capInfo.height
  hdrMode : after.gSensorHdrMode = s.gSensorHdrMode

theorem SameCapture.trans {s middle after : RawState}
    (hfirst : SameCapture s middle) (hsecond : SameCapture middle after) :
    SameCapture s after :=
  ⟨hsecond.mode.trans hfirst.mode, hsecond.frames.trans hfirst.frames,
    hsecond.width.trans hfirst.width, hsecond.height.trans hfirst.height,
    hsecond.hdrMode.trans hfirst.hdrMode⟩

theorem SameCapture.accepts_iff {s after : RawState}
    (hsame : SameCapture s after) (frame : Frame) :
    AcceptsFrame after frame ↔ AcceptsFrame s frame := by
  rw [AcceptsFrame, AcceptsFrame, frameLimit, frameLimit, hsame.hdrMode,
    hsame.width, hsame.height]

theorem acceptsFrame_iff (s : RawState) (frame : Frame) :
    AcceptsFrame s frame ↔
      ¬ (s.gSensorHdrMode = noHdr ∧ frameLimit s < frame.bytes.length) := by
  rw [AcceptsFrame, not_and, not_lt]

theorem doCaptureCallBack_eq (dev : Device) (s : RawState) (frame : Frame) :
    (doCaptureCallBack dev s frame).2 = sentFrame s frame ∧
      (doCaptureCallBack dev s frame).1.captureFramesIndex =
        s.captureFramesIndex ∧
      SameCapture s (doCaptureCallBack dev s frame).1 := by
  unfold doCaptureCallBack sentFrame
  by_cases haccepts : AcceptsFrame s frame
  · rw [if_neg ((acceptsFrame_iff s frame).mp haccepts), if_pos haccepts]
    exact ⟨rfl, rfl, ⟨rfl, rfl, rfl, rfl, rfl⟩⟩
  · rw [if_pos (not_not.mp (mt (acceptsFrame_iff s frame).mpr haccepts)),
      if_neg haccepts]
    exact ⟨rfl, rfl, ⟨rfl, rfl, rfl, rfl, rfl⟩⟩

theorem openDevice_normal (dev : Device) {s : RawState}
    (hmode : s.captureMode = captureNormal) :
    (openDevice dev s).2 = openEvents s ∧
      (openDevice dev s).1.captureFramesIndex = s.captureFramesIndex ∧
      skipFrames (openDevice dev s).1 = skipFrames s ∧
      SameCapture s (openDevice dev s).1 := by
  unfold openDevice openEvents
  by_cases hindex : s.captureFramesIndex = 0
  · rw [if_pos hindex, if_pos hindex]
    simp only [startCapture, hmode, ne_eq, not_true, if_false]
    exact ⟨trivial, trivial, rfl, ⟨hmode.symm, rfl, rfl, rfl, rfl⟩⟩
  · rw [if_neg hindex, if_neg hindex]
    exact ⟨rfl, rfl, rfl, ⟨rfl, rfl, rfl, rfl, rfl⟩⟩

theorem closeDevice_normal {s : RawState}
    (hmode : s.captureMode = captureNormal) :
    (closeDevice s).2 =
        (if s.captureFramesIndex = s.captureFrames then
          [.stopCapture, .stopCapturing, .uninitDevice, .freeBuffers,
            .rawCaptureDeinit]
        else []) ∧
      (closeDevice s).1.captureFramesIndex = s.captureFramesIndex ∧
      SameCapture s (closeDevice s).1 := by
  unfold closeDevice
  split
  · simp only [stopCapture, hmode, ne_eq, not_true, if_false]
    exact ⟨trivial, trivial, ⟨hmode.symm, rfl, rfl, rfl, rfl⟩⟩
  · exact ⟨rfl, rfl, ⟨rfl, rfl, rfl, rfl, rfl⟩⟩

theorem doCapture_normal (dev : Device) {s : RawState} {frame : Frame}
    (hread : dev.reads (skipped s) = some frame) :
    (doCapture dev s).2 =
        skipFrames s ++
          (.readFrame s.captureFramesIndex :: sentFrame s frame) ∧
      (doCapture dev s).1.captureFramesIndex = s.captureFramesIndex + 1 ∧
      SameCapture s (doCapture dev s).1 := by
  obtain ⟨hsent, hindex, hsame⟩ := doCaptureCallBack_eq dev s frame
  simp only [doCapture, readFrame, hread, andThen_snd, andThen_fst]
  exact ⟨by rw [hsent]; rfl, by rw [hindex],
    ⟨hsame.mode, hsame.frames, hsame.width, hsame.height, hsame.hdrMode⟩⟩

theorem rawStep_normal {s : RawState} {command : RawCommand} {frame : Frame}
    (hmode : s.captureMode = captureNormal)
    (hstart : command.commonCmd.datAt 0 = dataIdCaptureRawStart)
    (hread : command.dev.reads (skipped s) = some frame) :
    (rawStep s command).2 =
        openEvents s ++
          (skipFrames s ++
            (.readFrame s.captureFramesIndex :: sentFrame s frame)) ++
          closeEvents s ∧
      (next rawStep s command).captureFramesIndex =
        s.captureFramesIndex + 1 ∧
      SameCapture s (next rawStep s command) := by
  have hbusy : SameCapture s { s with captureStatus := rawCap } :=
    ⟨rfl, rfl, rfl, rfl, rfl⟩
  rw [next, rawStep_start_phases command s hstart]
  obtain ⟨hopened, hopenedIndex, hskip, hopenedSame⟩ :=
    openDevice_normal command.dev
      (s := { s with captureStatus := rawCap }) hmode
  generalize openDevice command.dev { s with captureStatus := rawCap } =
    opened at *
  have hskipped : skipped opened.1 = skipped s := by
    rw [skipped, skipped, hopenedIndex]
  have hnormal : captureFrames command.dev opened.1 =
      doCapture command.dev opened.1 :=
    if_pos (hopenedSame.mode.trans hmode)
  obtain ⟨hcaptured, hcapturedIndex, hcapturedSame⟩ :=
    doCapture_normal command.dev (s := opened.1) (by rwa [hskipped])
  have hsame := hbusy.trans (hopenedSame.trans hcapturedSame)
  obtain ⟨hclosed, hclosedIndex, hclosedSame⟩ :=
    closeDevice_normal (s := (doCapture command.dev opened.1).1)
      (hsame.mode.trans hmode)
  have hsent : sentFrame opened.1 frame = sentFrame s frame := by
    rw [sentFrame, sentFrame,
      if_congr ((hbusy.trans hopenedSame).accepts_iff frame) rfl rfl]
  refine ⟨?_, ?_, ?_⟩
  · simp only [andThen_snd, andThen_fst, List.append_nil, hopened, hnormal,
      hcaptured, hclosed, hskip, hopenedIndex, hsent, hcapturedIndex,
      hsame.frames]
    rfl
  · simp only [andThen_fst, hnormal, hclosedIndex, hcapturedIndex,
      hopenedIndex]
  · simp only [andThen_fst, hnormal]
    have hend := hsame.trans hclosedSame
    exact ⟨hend.mode, hend.frames, hend.width, hend.height, hend.hdrMode⟩

/-- What the START number `index` of a capture of `n` frames has to publish,
the payload apart if the size test rejects the frame. -/
structure StartEvents (s : RawState) (frame : Frame) (index n : ℕ)
    (events : List CaptureEvent) : Prop where
  sent : payloads events =
    if AcceptsFrame s frame then [frame.bytes] else []
  reads : readIndices events =
    (if index = 0 then List.range skipFrame else []) ++ [index]
  started : events.count .startCapture = if index = 0 then 1 else 0
  stopped : events.count .stopCapture = if index + 1 = n then 1 else 0

theorem SameCapture.startEvents_iff {s after : RawState}
    (hsame : SameCapture s after) (frame : Frame) (index n : ℕ)
    (events : List CaptureEvent) :
    StartEvents after frame index n events ↔
      StartEvents s frame index n events := by
  have haccepts := if_congr (hsame.accepts_iff frame)
    (rfl : [frame.bytes] = _) (rfl : ([] : List (List UInt8)) = _)
  constructor <;> rintro ⟨hsent, hreads, hstarted, hstopped⟩
  · exact ⟨hsent.trans haccepts, hreads, hstarted, hstopped⟩
  · exact ⟨hsent.trans haccepts.symm, hreads, hstarted, hstopped⟩

theorem readIndices_skipFrames (s : RawState) :
    readIndices (skipFrames s) =
      if s.captureFramesIndex = 0 then List.range skipFrame else [] := by
  unfold skipFrames setLHcg
  split
  · split <;> rfl
  · rfl

theorem startEvents_normal (s : RawState) (frame : Frame) :
    StartEvents s frame s.captureFramesIndex s.captureFrames
      (openEvents s ++
        (skipFrames s ++
          (.readFrame s.captureFramesIndex :: sentFrame s frame)) ++
        closeEvents s) := by
  have hkeeps : KeepsDevice (skipFrames s) := (skipFrames_capturing s).keeps
  have hstart : (skipFrames s).count .startCapture = 0 :=
    hkeeps.count_eq_zero rfl
  have hstop : (skipFrames s).count .stopCapture = 0 :=
    hkeeps.count_eq_zero rfl
  constructor
  · rw [payloads_append, payloads_append, payloads_append,
      payloads_skipFrames]
    unfold openEvents closeEvents sentFrame
    split <;> split <;> split <;> rfl
  · rw [readIndices_append, readIndices_append, readIndices_append,
      readIndices_skipFrames]
    unfold openEvents closeEvents sentFrame
    split <;> split <;> split <;> rfl
  · simp only [List.count_append, hstart]
    unfold openEvents closeEvents sentFrame
    split <;> split <;> split <;> rfl
  · simp only [List.count_append, hstop]
    unfold openEvents closeEvents sentFrame
    split <;> split <;> split <;> rfl

/-! ## The START commands of a capture -/

def starts (start : ℕ → RawCommand) (count : ℕ) : List RawCommand :=
  (List.range count).map start

def afterStarts (s : RawState) (start : ℕ → RawCommand) (count : ℕ) :
    RawState :=
  (starts start count).foldl (next rawStep) s

def frameRead (index : ℕ) : ℕ := if index = 0 then skipFrame else 0

/-- SET_PARAM and the `n` START commands after it deliver the `n` frames. -/
structure DeliversFrames (n : ℕ) (s : RawState) (setParam : RawCommand)
    (start : ℕ → RawCommand) (frames : ℕ → Frame) : Prop where
  sent : payloads (trace rawStep s (setParam :: starts start n)) =
    (List.range n).map fun index => (frames index).bytes
  reads : readIndices (trace rawStep s (setParam :: starts start n)) =
    List.range skipFrame ++ List.range n
  started :
    (trace rawStep s (setParam :: starts start n)).count .startCapture = 1 ∧
      (rawStep (next rawStep s setParam) (start 0)).2.count
        .startCapture = 1
  stopped :
    (trace rawStep s (setParam :: starts start n)).count .stopCapture = 1 ∧
      (rawStep (afterStarts (next rawStep s setParam) start (n - 1))
        (start (n - 1))).2.count .stopCapture = 1
  counted : (afterStarts (next rawStep s setParam) start
    n).captureFramesIndex = n

theorem starts_succ (start : ℕ → RawCommand) (count : ℕ) :
    starts start (count + 1) = starts start count ++ [start count] := by
  rw [starts, List.range_succ, List.map_append]
  rfl

theorem afterStarts_succ (s : RawState) (start : ℕ → RawCommand)
    (count : ℕ) :
    afterStarts s start (count + 1) =
      next rawStep (afterStarts s start count) (start count) := by
  rw [afterStarts, starts_succ, List.foldl_append]
  rfl

theorem trace_starts_succ (s : RawState) (start : ℕ → RawCommand)
    (count : ℕ) :
    trace rawStep s (starts start (count + 1)) =
      trace rawStep s (starts start count) ++
        (rawStep (afterStarts s start count) (start count)).2 := by
  rw [starts_succ, trace_append, trace_cons, trace_nil, List.append_nil]
  rfl

section Starts

variable {n : ℕ} {s : RawState} {start : ℕ → RawCommand}
variable {frames : ℕ → Frame}

/-- The state `s` is configured for `n` frames, and every START is sent a
frame. -/
structure NormalConfig (n : ℕ) (s : RawState) (start : ℕ → RawCommand)
    (frames : ℕ → Frame) : Prop where
  mode : s.captureMode = captureNormal
  captureFrames : s.captureFrames = n
  firstIndex : s.captureFramesIndex = 0
  isStart : ∀ index < n,
    (start index).commonCmd.datAt 0 = dataIdCaptureRawStart
  delivered : ∀ index < n,
    (start index).dev.reads (frameRead index) = some (frames index)

theorem NormalConfig.after (hconfig : NormalConfig n s start frames)
    {count : ℕ} (hcount : count ≤ n) :
    (afterStarts s start count).captureFramesIndex = count ∧
      SameCapture s (afterStarts s start count) := by
  induction count with
  | zero => exact ⟨hconfig.firstIndex, ⟨rfl, rfl, rfl, rfl, rfl⟩⟩
  | succ count ih =>
      obtain ⟨hindex, hsame⟩ := ih (by omega)
      have hread : (start count).dev.reads
          (skipped (afterStarts s start count)) = some (frames count) := by
        rw [skipped, hindex]
        exact hconfig.delivered count (by omega)
      obtain ⟨-, hnext, hkept⟩ := rawStep_normal
        (hsame.mode.trans hconfig.mode) (hconfig.isStart count (by omega))
        hread
      rw [afterStarts_succ]
      exact ⟨by rw [hnext, hindex], hsame.trans hkept⟩

theorem NormalConfig.events (hconfig : NormalConfig n s start frames)
    {count : ℕ} (hcount : count < n) :
    StartEvents s (frames count) count n
      (rawStep (afterStarts s start count) (start count)).2 := by
  obtain ⟨hindex, hsame⟩ := hconfig.after hcount.le
  have hread : (start count).dev.reads
      (skipped (afterStarts s start count)) = some (frames count) := by
    rw [skipped, hindex]
    exact hconfig.delivered count hcount
  obtain ⟨hevents, -, -⟩ := rawStep_normal
    (hsame.mode.trans hconfig.mode) (hconfig.isStart count hcount) hread
  have hstart := startEvents_normal (afterStarts s start count)
    (frames count)
  rw [← hevents, hsame.startEvents_iff, hindex, hsame.frames,
    hconfig.captureFrames] at hstart
  exact hstart

theorem NormalConfig.sent (hconfig : NormalConfig n s start frames)
    {count : ℕ} (hcount : count ≤ n) :
    payloads (trace rawStep s (starts start count)) =
      ((List.range count).filter fun index =>
        AcceptsFrame s (frames index)).map
          fun index => (frames index).bytes := by
  induction count with
  | zero => rfl
  | succ count ih =>
      have hevents := hconfig.events (show count < n by omega)
      rw [trace_starts_succ, payloads_append, ih (by omega), hevents.sent,
        List.range_succ, List.filter_append, List.map_append]
      by_cases haccepts : AcceptsFrame s (frames count) <;>
        simp [haccepts]

theorem NormalConfig.read (hconfig : NormalConfig n s start frames)
    {count : ℕ} (hcount : count < n) :
    readIndices (trace rawStep s (starts start (count + 1))) =
      List.range skipFrame ++ List.range (count + 1) := by
  induction count with
  | zero =>
      have hevents := hconfig.events hcount
      rw [trace_starts_succ, readIndices_append, hevents.reads]
      rfl
  | succ count ih =>
      have hevents := hconfig.events hcount
      rw [trace_starts_succ, readIndices_append, ih (by omega), hevents.reads,
        if_neg (by omega), List.range_succ (n := count + 1),
        List.append_assoc]
      rfl

theorem NormalConfig.count_start (hconfig : NormalConfig n s start frames)
    {count : ℕ} (hcount : count < n) :
    (trace rawStep s (starts start (count + 1))).count
      .startCapture = 1 := by
  induction count with
  | zero =>
      rw [trace_starts_succ, List.count_append,
        (hconfig.events hcount).started]
      rfl
  | succ count ih =>
      rw [trace_starts_succ, List.count_append, ih (by omega),
        (hconfig.events hcount).started]
      rfl

theorem NormalConfig.count_stop (hconfig : NormalConfig n s start frames)
    {count : ℕ} (hcount : count ≤ n) (hpos : 0 < n) :
    (trace rawStep s (starts start count)).count
      .stopCapture = if count = n then 1 else 0 := by
  induction count with
  | zero => rw [if_neg (by omega)]; rfl
  | succ count ih =>
      rw [trace_starts_succ, List.count_append, ih (by omega),
        (hconfig.events hcount).stopped, if_neg (by omega), Nat.zero_add]

end Starts

/-! ## SET_PARAM and its START commands -/

section Delivers

variable {s : RawState} {setParam : RawCommand} {start : ℕ → RawCommand}
variable {frames : ℕ → Frame}

theorem Answers.readIndices_eq_nil
    {trace : List CaptureEvent} (hanswers : Answers trace) :
    readIndices trace = [] := by
  rw [readIndices, List.filterMap_eq_nil_iff]
  intro event hmem
  have hanswer := hanswers event hmem
  cases event <;> simp_all [CaptureEvent.isAnswer]

theorem acceptsFrame_setParam
    (hset : setParam.commonCmd.datAt 0 = dataIdCaptureRawSetParam)
    (frame : Frame) :
    AcceptsFrame (next rawStep s setParam) frame ↔ AcceptsFrame s frame := by
  rw [next, rawStep_setParam hset]
  rfl

/-- Everything but the payloads is as wanted in any case; a frame that the
size test rejects is missing among them. -/
theorem delivers_iff_accepts {n : ℕ} (hpos : 0 < n)
    (hanswers : Answers (rawStep s setParam).2)
    (hconfig : NormalConfig n (next rawStep s setParam) start frames) :
    DeliversFrames n s setParam start frames ↔
      ∀ index < n, AcceptsFrame (next rawStep s setParam) (frames index) := by
  have hkeeps := hanswers.keepsDevice
  have hstart : (rawStep s setParam).2.count .startCapture = 0 :=
    hkeeps.count_eq_zero rfl
  have hstop : (rawStep s setParam).2.count .stopCapture = 0 :=
    hkeeps.count_eq_zero rfl
  have hsent := hconfig.sent le_rfl
  have hlast : n - 1 + 1 = n := by omega
  have hend : n - 1 < n := by omega
  constructor
  · intro hdelivers index hindex
    have hpayloads := hdelivers.sent
    rw [trace_cons, payloads_append, hanswers.payloads_eq_nil,
      List.nil_append, hsent] at hpayloads
    have hlength := congrArg List.length hpayloads
    rw [List.length_map, List.length_map, List.length_filter_eq_length_iff]
      at hlength
    simpa using hlength index (List.mem_range.mpr hindex)
  · intro haccepts
    constructor
    · rw [trace_cons, payloads_append, hanswers.payloads_eq_nil,
        List.nil_append, hsent, List.filter_eq_self.mpr]
      intro index hindex
      simpa using haccepts index (List.mem_range.mp hindex)
    · have hreads := hconfig.read hend
      rw [hlast] at hreads
      rw [trace_cons, readIndices_append, hanswers.readIndices_eq_nil,
        List.nil_append, hreads]
    · have hcount := hconfig.count_start hend
      rw [hlast] at hcount
      rw [trace_cons, List.count_append, hstart, hcount]
      exact ⟨rfl, (hconfig.events hpos).started⟩
    · have hcount := hconfig.count_stop le_rfl hpos
      rw [if_pos rfl] at hcount
      rw [trace_cons, List.count_append, hstop, hcount]
      exact ⟨rfl, (hconfig.events hend).stopped.trans (if_pos hlast)⟩
    · exact (hconfig.after le_rfl).1

/-- A capture of single frames delivers what was asked for exactly when the
sensor is in an HDR mode or the `int` that limits the size of a frame is not
below the size of one of them. -/
theorem normalCapture_delivers_iff {n : ℕ}
    (hset : setParam.commonCmd.datAt 0 = dataIdCaptureRawSetParam)
    (hmode : setParam.commonCmd.captureParams.multiframe = captureNormal)
    (hframes : setParam.commonCmd.captureParams.framenumber.toNat = n)
    (hpos : 1 ≤ n)
    (hstarts : ∀ index < n,
      (start index).commonCmd.datAt 0 = dataIdCaptureRawStart)
    (hreads : ∀ index < n,
      (start index).dev.reads (frameRead index) = some (frames index)) :
    DeliversFrames n s setParam start frames ↔
      s.gSensorHdrMode ≠ noHdr ∨
        ∀ index < n, ((frames index).bytes.length : ℤ) ≤ frameLimit s := by
  have hanswers : Answers (rawStep s setParam).2 := by
    rw [rawStep_setParam hset]
    exact (setCapConf_answered _ _ _ _).answers
  have hconfig : NormalConfig n (next rawStep s setParam) start frames := by
    constructor
    · rw [next, rawStep_setParam hset]
      exact hmode
    · rw [next, rawStep_setParam hset]
      exact hframes
    · rw [next, rawStep_setParam hset]
      rfl
    · exact hstarts
    · exact hreads
  rw [delivers_iff_accepts hpos hanswers hconfig]
  simp only [acceptsFrame_setParam hset]
  unfold AcceptsFrame
  by_cases hhdr : s.gSensorHdrMode = noHdr
  · simp only [hhdr, true_implies, ne_eq, not_true, false_or]
  · simp only [hhdr, false_implies, implies_true, ne_eq, not_false_eq_true,
      true_or]

end Delivers

/-- The state after a GET_PARAM for the given size. -/
def sizedState (width height : UInt16) : RawState :=
  rawCaptureinit (workingDevice .vicap fun _ => []) (RawState.initial noHdr)
    (getParamRequest width height)

/-- A command to a device that delivers the same bytes at every read. -/
def frameCommand (bytes : List UInt8) (cmd : CommandData) : RawCommand where
  dev := workingDevice .vicap fun _ => bytes
  sendCmd := zeroCommand
  commonCmd := cmd

theorem normalCapture_delivers_three :
    DeliversFrames 3 (sizedState 1 1)
      (frameCommand [] (setParamRequest 3 captureNormal))
      (fun index => frameCommand [UInt8.ofNat index, 7] startRequest)
      (fun index => Frame.ofBytes [UInt8.ofNat index, 7]) :=
  (normalCapture_delivers_iff (by decide) (by decide) (by decide)
    (by decide) (by decide) (fun index hindex => by
      interval_cases index <;> rfl)).mpr (.inr (by decide))

/-- For 32768 x 32768 pixels the limit is negative; the only frame, of two
bytes, is not sent. -/
theorem normalCapture_wrapped_limit :
    let frame := Frame.ofBytes [1, 7]
    let setParam := frameCommand [] (setParamRequest 1 captureNormal)
    let start : ℕ → RawCommand := fun _ => frameCommand [1, 7] startRequest
    setParam.dev.Succeeds ∧ (∀ index, (start index).dev.Succeeds) ∧
      frame.bytes.length ≤ 2 * 32768 * 32768 ∧
      ¬ DeliversFrames 1 (sizedState 32768 32768) setParam start
        fun _ => frame := by
  intro frame setParam start
  refine ⟨workingDevice_succeeds _ _, fun _ => workingDevice_succeeds _ _,
    by decide, ?_⟩
  intro hdelivers
  have hsent := hdelivers.sent
  revert hsent
  decide

end RkaiqToolServer
