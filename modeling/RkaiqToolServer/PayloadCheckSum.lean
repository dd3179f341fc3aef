import RkaiqToolServer.CaptureSettings
import RkaiqToolServer.MultiFrameCapture

/-!
# The checksum of the last payload

`SendRawData` leaves the sum of what it sends, SET_PARAM clears it, and a
CHECKSUM command compares it with the sum of the client.  A run of commands
is followed together with the last payload sent since the last SET_PARAM.
-/

namespace RkaiqToolServer

open StepRun

/-- The last payload of a stretch, or the one sent before it. -/
def lastPayload (sent : List UInt8) (trace : List CaptureEvent) :
    List UInt8 :=
  (payloads trace).getLast?.getD sent

@[simp] theorem lastPayload_append
    (sent : List UInt8) (before later : List CaptureEvent) :
    lastPayload sent (before ++ later) =
      lastPayload (lastPayload sent before) later := by
  simp only [lastPayload, payloads_append, List.getLast?_append]
  cases (payloads later).getLast? <;> rfl

theorem lastPayload_of_silent {sent : List UInt8} {trace : List CaptureEvent}
    (hsilent : payloads trace = []) : lastPayload sent trace = sent := by
  rw [lastPayload, hsilent]
  rfl

/-- What the stretch leaves in `capture_check_sum` is the sum of the last
payload, if it was so before. -/
def Sums (charSigned : Bool) (s : RawState)
    (r : RawState × List CaptureEvent) : Prop :=
  ∀ sent, s.captureCheckSum = charSum charSigned sent →
    r.1.captureCheckSum = charSum charSigned (lastPayload sent r.2)

section Sums

variable {charSigned : Bool} {s : RawState}

theorem Sums.andThen {r : RawState × List CaptureEvent}
    {f : RawState → RawState × List CaptureEvent}
    (hfirst : Sums charSigned s r) (hsecond : Sums charSigned r.1 (f r.1)) :
    Sums charSigned s (StepRun.andThen r f) := by
  intro sent hsent
  rw [andThen_fst, andThen_snd, lastPayload_append]
  exact hsecond _ (hfirst sent hsent)

theorem sums_of_silent {r : RawState × List CaptureEvent}
    (hsilent : payloads r.2 = [])
    (hkept : r.1.captureCheckSum = s.captureCheckSum) :
    Sums charSigned s r := by
  intro sent hsent
  rw [hkept, hsent, lastPayload_of_silent hsilent]

/-- A payload is sent after any state, and its sum replaces the old one. -/
theorem sendRawData_sums {dev : Device} (hchar : dev.charSigned = charSigned)
    (before : RawState) (bytes : List UInt8) :
    Sums charSigned s (sendRawData dev before bytes) := by
  intro sent _
  rw [← hchar]
  rfl

theorem doCaptureCallBack_sums {dev : Device}
    (hchar : dev.charSigned = charSigned) (frame : Frame) :
    Sums charSigned s (doCaptureCallBack dev s frame) := by
  unfold doCaptureCallBack
  split
  · exact sums_of_silent rfl rfl
  · exact sendRawData_sums hchar s frame.bytes

theorem doMultiFrameCallBack_sums {dev : Device}
    (hchar : dev.charSigned = charSigned) (index : ℕ) (frame : Frame) :
    Sums charSigned s (doMultiFrameCallBack dev s index frame) := by
  unfold doMultiFrameCallBack
  split
  · exact sums_of_silent rfl rfl
  · cases s.avergeFrame0 with
    | none => exact sums_of_silent rfl rfl
    | some accumulator =>
        simp only
        split
        · apply Sums.andThen
          · exact sums_of_silent rfl rfl
          · exact sendRawData_sums hchar _ _
        · split
          · apply Sums.andThen
            · exact sums_of_silent rfl rfl
            · exact sendRawData_sums hchar _ _
          · exact sums_of_silent rfl rfl

theorem readFrame_sums (outcome : Option Frame) (index : ℕ)
    {callback : RawState → Frame → RawState × List CaptureEvent}
    (hcallback : ∀ frame, Sums charSigned s (callback s frame)) :
    Sums charSigned s (readFrame outcome s index callback) := by
  unfold readFrame
  apply Sums.andThen
  · exact sums_of_silent rfl rfl
  · cases outcome with
    | none => exact sums_of_silent rfl rfl
    | some frame => exact hcallback frame

theorem multiFrameLoop_sums {dev : Device}
    (hchar : dev.charSigned = charSigned) (read index count : ℕ)
    (s : RawState) :
    Sums charSigned s (multiFrameLoop dev read index count s) := by
  induction count generalizing read index s with
  | zero => exact sums_of_silent rfl rfl
  | succ count ih =>
      have hread : Sums charSigned s
          (countFrame (readFrame (dev.reads read) s index
            fun s frame => doMultiFrameCallBack dev s index frame)) :=
        readFrame_sums (dev.reads read) index fun frame =>
          doMultiFrameCallBack_sums hchar index frame
      rw [multiFrameLoop_succ]
      exact hread.andThen (ih _ _ _)

theorem captureFrames_sums {dev : Device}
    (hchar : dev.charSigned = charSigned) :
    Sums charSigned s (captureFrames dev s) := by
  have hskipped : Sums charSigned s (s, skipFrames s) :=
    sums_of_silent (payloads_skipFrames s) rfl
  unfold captureFrames
  split
  · have hread : Sums charSigned s
        (countFrame (readFrame (dev.reads (skipped s)) s
          s.captureFramesIndex (doCaptureCallBack dev))) :=
      readFrame_sums _ _ (doCaptureCallBack_sums hchar)
    exact hskipped.andThen hread
  · refine hskipped.andThen ?_
    simp only
    split
    · exact multiFrameLoop_sums hchar _ _ _ s
    · split
      · exact multiFrameLoop_sums hchar _ _ _ s
      · exact sums_of_silent rfl rfl

theorem openDevice_sums (dev : Device) :
    Sums charSigned s (openDevice dev s) := by
  unfold openDevice startCapture
  split
  · simp only
    split <;> exact sums_of_silent rfl rfl
  · exact sums_of_silent rfl rfl

theorem stopCapture_sums : Sums charSigned s (stopCapture s) := by
  unfold stopCapture
  simp only
  split <;> exact sums_of_silent rfl rfl

theorem closeDevice_sums : Sums charSigned s (closeDevice s) := by
  unfold closeDevice
  split
  · exact stopCapture_sums
  · exact sums_of_silent rfl rfl

theorem rawCaputure_sums {dev : Device}
    (hchar : dev.charSigned = charSigned) :
    Sums charSigned s (rawCaputure dev s) := by
  rw [rawCaputure_phases]
  exact ((openDevice_sums dev).andThen (captureFrames_sums hchar)).andThen
    closeDevice_sums

end Sums

/-! ## Runs -/

/-- A run is on one platform, with one kind of `char`. -/
def RawCommand.onPlatform (charSigned : Bool) (command : RawCommand) :
    RawCommand :=
  { command with dev := { command.dev with charSigned := charSigned } }

structure SentState where
  raw : RawState
  /-- The last payload since the last SET_PARAM, or nothing. -/
  sent : List UInt8

def SentState.initial (hdrMode : UInt32) : SentState where
  raw := RawState.initial hdrMode
  sent := []

def sentStep (s : SentState) (command : RawCommand) : SentState where
  raw := next rawStep s.raw command
  sent :=
    if command.commonCmd.datAt 0 = dataIdCaptureRawSetParam then []
    else lastPayload s.sent (rawStep s.raw command).2

def SentState.SumKept (charSigned : Bool) (s : SentState) : Prop :=
  s.raw.captureCheckSum = charSum charSigned s.sent

/-- A CHECKSUM command is answered once, with success exactly when it carries
the sum of the last payload. -/
def SentState.Judges (charSigned : Bool) (s : SentState)
    (command : RawCommand) : Prop :=
  command.commonCmd.datAt 0 = dataIdCaptureRawChecksum →
    ∃ cmd, repliesOf (rawStep s.raw command).2 = [cmd] ∧
      (cmd.datAt 1 = resSuccess ↔
        command.commonCmd.checksumValue = charSum charSigned s.sent)

theorem answered_sums {charSigned : Bool} {s : RawState}
    {r : RawState × List CaptureEvent} (hanswered : Answered s r)
    (hkept : r.1.captureCheckSum = s.captureCheckSum) :
    Sums charSigned s r :=
  sums_of_silent hanswered.answers.payloads_eq_nil hkept

theorem getSensorPara_sums {charSigned : Bool} (dev : Device) (s : RawState)
    (cmd : CommandData) :
    Sums charSigned s
      (getSensorPara dev (rawCaptureinit dev s cmd) resSuccess) := by
  apply answered_sums (getSensorPara_answered dev s cmd resSuccess)
  unfold getSensorPara
  cases dev.readings <;> rfl

theorem sendRawDataResult_sums {charSigned : Bool} (s : RawState)
    (sendCmd recvCmd : CommandData) :
    Sums charSigned s (sendRawDataResult s sendCmd recvCmd) := by
  unfold sendRawDataResult
  simp only
  split
  · exact sums_of_silent rfl rfl
  · apply Sums.andThen
    · exact stopCapture_sums
    · exact sums_of_silent rfl rfl

/-- Every command but SET_PARAM leaves the sum of the last payload. -/
theorem rawStep_sums {charSigned : Bool} {command : RawCommand}
    (hchar : command.dev.charSigned = charSigned)
    (hset : command.commonCmd.datAt 0 ≠ dataIdCaptureRawSetParam)
    (s : RawState) : Sums charSigned s (rawStep s command) := by
  unfold rawStep rawCaptureCase
  simp only
  split
  · exact sums_of_silent rfl rfl
  split
  · exact getSensorPara_sums _ s _
  split
  · apply Sums.andThen
    · exact rawCaputure_sums (s := { s with captureStatus := rawCap }) hchar
    · exact sums_of_silent rfl rfl
  split
  · exact sendRawDataResult_sums s _ _
  · exact sums_of_silent rfl rfl

theorem sentStep_sumKept {charSigned : Bool} {command : RawCommand}
    (hchar : command.dev.charSigned = charSigned) {s : SentState}
    (hs : s.SumKept charSigned) :
    (sentStep s command).SumKept charSigned := by
  unfold SentState.SumKept sentStep next
  by_cases hset : command.commonCmd.datAt 0 = dataIdCaptureRawSetParam
  · rw [if_pos hset, rawStep_setParam hset]
    rfl
  · rw [if_neg hset]
    exact rawStep_sums hchar hset s.raw s.sent hs

@[simp] theorem repliesOf_append (before later : List CaptureEvent) :
    repliesOf (before ++ later) = repliesOf before ++ repliesOf later := by
  simp [repliesOf]

theorem repliesOf_stopCapture (s : RawState) :
    repliesOf (stopCapture s).2 = [] := by
  rw [stopCapture_events]
  split <;> rfl

theorem sendRawDataResult_reply (s : RawState)
    (sendCmd recvCmd : CommandData) :
    ∃ cmd, repliesOf (sendRawDataResult s sendCmd recvCmd).2 = [cmd] ∧
      cmd.dat = datOf [0x04,
        if s.captureCheckSum = recvCmd.checksumValue then resSuccess
        else resFailed] := by
  unfold sendRawDataResult
  by_cases hsum : s.captureCheckSum = recvCmd.checksumValue
  · simp only [hsum, if_true]
    exact ⟨_, rfl, CommandData.dat_withCheckSum _⟩
  · simp only [hsum, if_false, andThen_snd, repliesOf_append,
      repliesOf_stopCapture, List.nil_append]
    exact ⟨_, rfl, CommandData.dat_withCheckSum _⟩

theorem sentStep_judges {charSigned : Bool} (command : RawCommand)
    {s : SentState} (hs : s.SumKept charSigned) :
    s.Judges charSigned command := by
  intro hchecksum
  have hstep := rawStep_checksum hchecksum s.raw
  obtain ⟨cmd, hreply, hdat⟩ := sendRawDataResult_reply s.raw
    command.sendCmd command.commonCmd
  have hstatus := datAt_of_dat hdat (show 1 < 48 by decide)
  have hdistinct : resFailed ≠ resSuccess := by decide
  refine ⟨cmd, by rw [hstep, hreply], ?_⟩
  rw [hstatus, ← hs, eq_comm (b := s.raw.captureCheckSum)]
  by_cases hsum : s.raw.captureCheckSum = command.commonCmd.checksumValue
  · simp [hsum]
  · simp [hsum, hdistinct]

/-- Through any run, whatever is read and in both capture modes, the stored
sum is the one of the last payload since the last SET_PARAM, and that is what
a CHECKSUM command is judged by. -/
theorem checkSum_judges_lastPayload (charSigned : Bool) (hdrMode : UInt32)
    (commands : List RawCommand) :
    let run := commands.map (RawCommand.onPlatform charSigned)
    States sentStep (SentState.SumKept charSigned)
        (SentState.initial hdrMode) run ∧
      Steps sentStep (SentState.Judges charSigned)
        (SentState.initial hdrMode) run := by
  intro run
  have hinitial : (SentState.initial hdrMode).SumKept charSigned := rfl
  have hrun : ∀ command ∈ run, command.dev.charSigned = charSigned := by
    intro command hcommand
    obtain ⟨original, -, rfl⟩ := List.mem_map.mp hcommand
    rfl
  generalize SentState.initial hdrMode = s at hinitial ⊢
  generalize run = inputs at hrun ⊢
  induction inputs generalizing s with
  | nil => exact ⟨hinitial, trivial⟩
  | cons command rest ih =>
      have hnext := sentStep_sumKept (hrun command List.mem_cons_self)
        hinitial
      obtain ⟨hstates, hsteps⟩ := ih _ hnext fun later hlater =>
        hrun later (List.mem_cons_of_mem command hlater)
      exact ⟨⟨hinitial, hstates⟩, ⟨sentStep_judges command hinitial, hsteps⟩⟩

end RkaiqToolServer
