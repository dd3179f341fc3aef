import RkaiqToolServer.CameraUse
import RkaiqToolServer.CaptureCommands
import RkaiqToolServer.OnLineCapture

/-!
# The buffers arrays of the two captures

The raw capture and the online capture keep a `cap_info` each.  A START of the
raw capture opens the device and may leave it open for later commands; a START
of the online capture opens and closes it.  Neither looks at what
`init_device` returns.
-/

namespace RkaiqToolServer

open EventOrder
open StepRun

/-! ## The raw capture -/

/-- What `init_device` does in a command, and the index of the buffer that the
`k`-th read of the command is given. -/
structure CameraOutcomes where
  init : InitCalls
  index : ℕ → ℕ

def CameraOutcomes.delivered (outcomes : CameraOutcomes) (dev : Device)
    (k : ℕ) : Option ℕ :=
  (dev.reads k).map fun _ => outcomes.index k

/-- The calls of the camera functions among the events of a command; `k` reads
have gone before. -/
def cameraCalls (dev : Device) (outcomes : CameraOutcomes) :
    ℕ → List CaptureEvent → List CameraCall
  | _, [] => []
  | k, .initDevice :: rest =>
      .initDevice outcomes.init :: cameraCalls dev outcomes k rest
  | k, .readFrame _ :: rest =>
      .readFrame (outcomes.delivered dev k) ::
        cameraCalls dev outcomes (k + 1) rest
  | k, .uninitDevice :: rest =>
      .uninitDevice :: cameraCalls dev outcomes k rest
  | k, _ :: rest => cameraCalls dev outcomes k rest

def readCount (s : RawState) : ℕ := skipped s + frameCount s

def rawUse (s : RawState) (command : RawCommand)
    (outcomes : CameraOutcomes) : CameraUse :=
  if command.commonCmd.datAt 0 = dataIdCaptureRawStart then
    { init :=
        if s.captureFramesIndex = 0 then some outcomes.init else none
      reads := (List.range (readCount s)).map
        (outcomes.delivered command.dev)
      stops := decide
        (s.captureFramesIndex + frameCount s = s.captureFrames) }
  else
    { init := none, reads := [], stops := decide (StopsOnChecksum s command) }

theorem cameraCalls_append (dev : Device) (outcomes : CameraOutcomes)
    (k : ℕ) (before later : List CaptureEvent) :
    cameraCalls dev outcomes k (before ++ later) =
      cameraCalls dev outcomes k before ++
        cameraCalls dev outcomes (k + (readIndices before).length)
          later := by
  induction before generalizing k with
  | nil => rfl
  | cons event rest ih =>
      cases event with
      | readFrame index =>
          have hcount : k + (readIndices (.readFrame index :: rest)).length =
              k + 1 + (readIndices rest).length := by
            rw [Nat.add_assoc, Nat.add_comm 1]
            rfl
          rw [hcount]
          exact congrArg (_ :: ·) (ih (k + 1))
      | initDevice => exact congrArg (_ :: ·) (ih k)
      | uninitDevice => exact congrArg (_ :: ·) (ih k)
      | _ => exact ih k

theorem KeepsDevice.calls_eq {events : List CaptureEvent}
    (hkeeps : KeepsDevice events) (dev : Device) (outcomes : CameraOutcomes)
    (k : ℕ) :
    cameraCalls dev outcomes k events =
      (List.range' k (readIndices events).length).map fun k =>
        .readFrame (outcomes.delivered dev k) := by
  induction events generalizing k with
  | nil => rfl
  | cons event rest ih =>
      obtain ⟨hevent, hrest⟩ := (keepsDevice_cons event rest).mp hkeeps
      cases event with
      | readFrame index => exact congrArg (_ :: ·) (ih hrest (k + 1))
      | initDevice => contradiction
      | uninitDevice => contradiction
      | _ => exact ih hrest k

theorem Answers.calls_eq {events : List CaptureEvent}
    (hanswers : Answers events) (dev : Device) (outcomes : CameraOutcomes)
    (k : ℕ) : cameraCalls dev outcomes k events = [] := by
  rw [hanswers.keepsDevice.calls_eq, hanswers.readIndices_eq_nil]
  rfl

theorem stopCapture_calls (s : RawState) (dev : Device)
    (outcomes : CameraOutcomes) (k : ℕ) :
    cameraCalls dev outcomes k (stopCapture s).2 = [.uninitDevice] := by
  rw [stopCapture_events]
  split <;> rfl

theorem openDevice_calls (dev : Device) (outcomes : CameraOutcomes)
    (s : RawState) :
    cameraCalls dev outcomes 0 (openDevice dev s).2 =
        (if s.captureFramesIndex = 0 then [.initDevice outcomes.init]
        else []) ∧
      readIndices (openDevice dev s).2 = [] := by
  rw [openDevice_events]
  split
  · split <;> exact ⟨rfl, rfl⟩
  · exact ⟨rfl, rfl⟩

/-- The calls in the events of a command are those of its use of the
camera. -/
theorem rawStep_calls (s : RawState) (command : RawCommand)
    (outcomes : CameraOutcomes) :
    cameraCalls command.dev outcomes 0 (rawStep s command).2 =
      (rawUse s command outcomes).calls := by
  by_cases hstart : command.commonCmd.datAt 0 = dataIdCaptureRawStart
  · have hshape := rawStep_start_shape hstart s
    obtain ⟨captured, hkeeps, hcount, hevents⟩ := hshape.events_eq
    obtain ⟨hopened, hopenReads⟩ := openDevice_calls command.dev outcomes s
    have hclosed : ∀ k, cameraCalls command.dev outcomes k
        (closeDevice (next rawStep s command)).2 = stopCalls (decide
          (s.captureFramesIndex + frameCount s = s.captureFrames)) := by
      intro k
      unfold closeDevice stopCalls
      rw [hshape.index, hshape.frames]
      by_cases hlast :
          s.captureFramesIndex + frameCount s = s.captureFrames
      · simp only [hlast, if_true, decide_true]
        exact stopCapture_calls _ _ _ _
      · simp only [hlast, if_false, decide_false]
        rfl
    rw [rawUse, if_pos hstart, CameraUse.calls, hevents, cameraCalls_append,
      cameraCalls_append, hopened, hclosed, hkeeps.calls_eq, hopenReads,
      hcount, List.append_assoc, List.map_map]
    congr 1
    · split <;> rfl
    · rw [List.length_nil, Nat.add_zero, ← List.range_eq_range']
      rfl
  · have hcase := rawCaptureCase_cases command.dev s command.sendCmd
      command.commonCmd
    rw [rawUse, if_neg hstart, rawStep]
    generalize rawCaptureCase command.dev s command.sendCmd
      command.commonCmd = run at hcase ⊢
    cases hcase with
    | start h => exact absurd h hstart
    | mismatch cmd hchecksum hsum =>
        have hstops : StopsOnChecksum s command := ⟨hchecksum, hsum⟩
        rw [andThen_snd, cameraCalls_append, stopCapture_calls]
        simp [cameraCalls, CameraUse.calls, stopCalls, hstops]
    | answered r _ hsum hanswered =>
        have hstops : ¬ StopsOnChecksum s command :=
          fun h => h.2 (hsum h.1)
        rw [hanswered.answers.calls_eq]
        simp [CameraUse.calls, stopCalls, hstops]

theorem stopCapture_io (s : RawState) :
    (stopCapture s).1.capInfo.io = s.capInfo.io := by
  unfold stopCapture
  by_cases hmode : s.captureMode = captureNormal <;> simp [hmode]

theorem openDevice_io (dev : Device) (s : RawState) :
    (openDevice dev s).1.capInfo.io = s.capInfo.io := by
  unfold openDevice startCapture
  split
  · by_cases hmode : s.captureMode = captureNormal <;> simp [hmode]
  · rfl

theorem closeDevice_io (s : RawState) :
    (closeDevice s).1.capInfo.io = s.capInfo.io := by
  unfold closeDevice
  split
  · exact stopCapture_io s
  · rfl

/-- GET_PARAM chooses memory mapping, and no command chooses another
method. -/
theorem rawStep_io (s : RawState) (command : RawCommand) :
    (next rawStep s command).capInfo.io = s.capInfo.io ∨
      (next rawStep s command).capInfo.io = .mmap := by
  by_cases hget : command.commonCmd.datAt 0 = dataIdCaptureRawGetParam
  · right
    rw [next, rawStep_getParam hget, getSensorPara]
    cases command.dev.readings <;> rfl
  left
  by_cases hset : command.commonCmd.datAt 0 = dataIdCaptureRawSetParam
  · rw [next, rawStep_setParam hset]
    rfl
  by_cases hstart : command.commonCmd.datAt 0 = dataIdCaptureRawStart
  · rw [next, rawStep_start_phases command s hstart]
    have hcaptured := captureFrames_capInfo command.dev
      (openDevice command.dev { s with captureStatus := rawCap }).1
    refine (closeDevice_io _).trans ?_
    rw [andThen_fst, hcaptured]
    exact openDevice_io command.dev { s with captureStatus := rawCap }
  by_cases hstops : StopsOnChecksum s command
  · rw [(rawStep_stops hstops).1, stopCapture_io]
  · rw [(rawStep_other hget hset hstart hstops).1]

/-! ## The online capture -/

/-- The counters of the online captures; both kinds share them. -/
structure OnlineCounters where
  io : IoMethod
  captureFrames : ℕ
  captureFramesIndex : ℕ

def OnlineCounters.initial : OnlineCounters where
  io := .read
  captureFrames := 1
  captureFramesIndex := 0

/-- A message of type `CMD_TYPE_CAPTURE` to the online handler.  A YUV capture
works on a descriptor and an array of its own, and only the value it leaves in
the counter matters here. -/
structure OnlineCommand where
  commonCmd : CommandData
  calls : OnLineCalls
  init : InitCalls
  delivered : ℕ → Option ℕ
  yuvIndex : ℕ

/-- `((Capture_Yuv_Params_t*)(recv_cmd->dat + 1))->framenumber`. -/
def CommandData.yuvFramenumber (recvCmd : CommandData) : ℕ :=
  (recvCmd.datAt 10).toNat

/-- `ReplyOnlineRawSensorPara` finds a node and gets to
`InitOnlineRawCapture`. -/
def FindsRawNode (calls : OnLineCalls) : Prop :=
  (captureDevNode
    (if calls.gDeviceId = 0 then (List.ofFn calls.mediaNodes).take 1
    else if calls.gDeviceId = 1 then
      ((List.ofFn calls.mediaNodes).drop 1).take 1
    else [])).isSome = true

instance (calls : OnLineCalls) : Decidable (FindsRawNode calls) :=
  inferInstanceAs (Decidable (_ = _))

theorem replyOnlineRawSensorPara_answers_iff (calls : OnLineCalls)
    (gSensorHdrMode : UInt32) (s : OnLineState) :
    (replyOnlineRawSensorPara calls gSensorHdrMode s).2 ≠ [] ↔
      FindsRawNode calls := by
  have houtputs : (List.ofFn calls.mediaNodes).take 1 =
        [calls.mediaNodes 0] ∧
      ((List.ofFn calls.mediaNodes).drop 1).take 1 =
        [calls.mediaNodes 1] := by
    simp [List.ofFn_succ]
  rw [FindsRawNode, replyOnlineRawSensorPara, houtputs.1, houtputs.2]
  dsimp only
  split
  next hnone => simp [hnone]
  next node hsome => simp [hsome]

def doCaptureOnlineRaw (s : OnlineCounters) (command : OnlineCommand) :
    OnlineCounters × List CameraCall :=
  let skips := if s.captureFramesIndex = 0 then skipFrame else 0
  let frames := s.captureFrames - s.captureFramesIndex
  ({ s with captureFramesIndex := s.captureFramesIndex + frames },
    .initDevice command.init ::
      ((List.range (skips + frames)).map
          (fun k => .readFrame (command.delivered k)) ++ [.uninitDevice]))

def onlineStep (s : OnlineCounters) (command : OnlineCommand) :
    OnlineCounters × List CameraCall :=
  let dataId := command.commonCmd.datAt 0
  if dataId = dataIdCaptureYuvSetParam ∨
      dataId = dataIdCaptureOnlineRawSetParam then
    ({ s with
        captureFrames := command.commonCmd.yuvFramenumber
        captureFramesIndex := 0 }, [])
  else if dataId = dataIdCaptureYuvStart then
    ({ s with captureFramesIndex := command.yuvIndex }, [])
  else if dataId = dataIdCaptureOnlineRawGetParam then
    (if FindsRawNode command.calls then { s with io := .mmap } else s, [])
  else if dataId = dataIdCaptureOnlineRawStart then
    doCaptureOnlineRaw s command
  else (s, [])

def onlineUse (s : OnlineCounters) (command : OnlineCommand) : CameraUse :=
  if command.commonCmd.datAt 0 = dataIdCaptureOnlineRawStart then
    { init := some command.init
      reads := (List.range
        ((if s.captureFramesIndex = 0 then skipFrame else 0) +
          (s.captureFrames - s.captureFramesIndex))).map command.delivered
      stops := true }
  else { init := none, reads := [], stops := false }

theorem onlineStep_calls (s : OnlineCounters) (command : OnlineCommand) :
    (onlineStep s command).2 = (onlineUse s command).calls := by
  unfold onlineStep onlineUse
  by_cases hstart :
      command.commonCmd.datAt 0 = dataIdCaptureOnlineRawStart
  · simp only [hstart, if_true]
    rw [if_neg (by decide), if_neg (by decide), if_neg (by decide),
      CameraUse.calls, List.map_map]
    rfl
  · simp only [hstart, if_false]
    split
    · rfl
    · split
      · rfl
      · split <;> rfl

theorem onlineStep_io (s : OnlineCounters) (command : OnlineCommand) :
    (onlineStep s command).1.io = s.io ∨
      (onlineStep s command).1.io = .mmap := by
  unfold onlineStep doCaptureOnlineRaw
  simp only
  split
  · exact .inl rfl
  · split
    · exact .inl rfl
    · split
      · split
        · exact .inr rfl
        · exact .inl rfl
      · split <;> exact .inl rfl

/-! ## The process -/

inductive CaptureOwner
  | raw
  | online
  deriving DecidableEq

structure CaptureProcess where
  raw : RawState
  online : OnlineCounters
  camera : CaptureOwner → CameraBuffers

inductive CaptureCommand
  | raw (command : RawCommand) (outcomes : CameraOutcomes)
  | online (command : OnlineCommand)

def CaptureProcess.initial (hdrMode : UInt32) : CaptureProcess where
  raw := RawState.initial hdrMode
  online := .initial
  camera := fun _ => .initial

def CaptureCommand.owner : CaptureCommand → CaptureOwner
  | .raw _ _ => .raw
  | .online _ => .online

def CaptureProcess.io (p : CaptureProcess) : CaptureOwner → IoMethod
  | .raw => p.raw.capInfo.io
  | .online => p.online.io

/-- A process that has ended in one camera has ended. -/
def CaptureProcess.Alive (p : CaptureProcess) : Prop :=
  ∀ owner, (p.camera owner).alive = true

instance (p : CaptureProcess) : Decidable p.Alive :=
  decidable_of_iff ((p.camera .raw).alive = true ∧
      (p.camera .online).alive = true)
    ⟨fun h owner => by cases owner; exacts [h.1, h.2],
      fun h => ⟨h .raw, h .online⟩⟩

/-- What a command does outside the cameras, and its calls to one of them. -/
def CaptureProcess.handle (p : CaptureProcess) :
    CaptureCommand → CaptureProcess × List CameraCall
  | .raw command outcomes =>
      let r := rawStep p.raw command
      ({ p with raw := r.1 }, cameraCalls command.dev outcomes 0 r.2)
  | .online command =>
      let r := onlineStep p.online command
      ({ p with online := r.1 }, r.2)

def captureStep (p : CaptureProcess) (command : CaptureCommand) :
    CaptureProcess × List (CaptureOwner × BufferEvent) :=
  if p.Alive then
    let owner := command.owner
    let handled := p.handle command
    let step := cameraStep (p.io owner)
    ({ handled.1 with
        camera := Function.update p.camera owner
          (handled.2.foldl (next step) (p.camera owner)) },
      (trace step (p.camera owner) handled.2).map fun event =>
        (owner, event))
  else (p, [])

def ownEvents (owner : CaptureOwner)
    (events : List (CaptureOwner × BufferEvent)) : List BufferEvent :=
  events.filterMap fun event =>
    if event.1 = owner then some event.2 else none

def CaptureProcess.use (p : CaptureProcess) : CaptureCommand → CameraUse
  | .raw command outcomes => rawUse p.raw command outcomes
  | .online command => onlineUse p.online command

theorem handle_calls (p : CaptureProcess) (command : CaptureCommand) :
    (p.handle command).2 = (p.use command).calls := by
  cases command with
  | raw command outcomes => exact rawStep_calls p.raw command outcomes
  | online command => exact onlineStep_calls p.online command

theorem handle_io (p : CaptureProcess) (command : CaptureCommand)
    (owner : CaptureOwner) :
    (p.handle command).1.io owner = p.io owner ∨
      (p.handle command).1.io owner = .mmap := by
  cases command with
  | raw command outcomes =>
      cases owner with
      | raw => exact rawStep_io p.raw command
      | online => exact .inl rfl
  | online command =>
      cases owner with
      | raw => exact .inl rfl
      | online => exact onlineStep_io p.online command

theorem ownEvents_append (owner : CaptureOwner)
    (before later : List (CaptureOwner × BufferEvent)) :
    ownEvents owner (before ++ later) =
      ownEvents owner before ++ ownEvents owner later :=
  List.filterMap_append

theorem ownEvents_self (owner : CaptureOwner) (events : List BufferEvent) :
    ownEvents owner (events.map fun event => (owner, event)) = events := by
  simp [ownEvents, List.filterMap_map]

theorem ownEvents_other {owner other : CaptureOwner} (hne : owner ≠ other)
    (events : List BufferEvent) :
    ownEvents other (events.map fun event => (owner, event)) = [] := by
  simp [ownEvents, List.filterMap_map, hne]

/-- In each camera, from its state on. -/
def AllReleased (p : CaptureProcess)
    (events : List (CaptureOwner × BufferEvent)) : Prop :=
  ∀ owner, Released (p.camera owner) (ownEvents owner events)

def ProcessInv (p : CaptureProcess) : Prop :=
  ∀ owner, CameraInv (p.io owner) (p.camera owner)

theorem ProcessInv.initial (hdrMode : UInt32) :
    ProcessInv (CaptureProcess.initial hdrMode) := by
  intro owner
  cases owner <;>
    exact ⟨by simp [CaptureProcess.io, CaptureProcess.initial,
      RawState.initial, OnlineCounters.initial], fun _ => rfl, fun _ => rfl⟩

theorem CameraInv.of_io {io after : IoMethod} {camera : CameraBuffers}
    (hinv : CameraInv io camera) (hio : after = io ∨ after = .mmap) :
    CameraInv after camera := by
  rcases hio with rfl | rfl
  · exact hinv
  · exact ⟨by decide, fun h => by contradiction, hinv.unallocated⟩

theorem ProcessInv.step {p : CaptureProcess} (hinv : ProcessInv p)
    (command : CaptureCommand) : ProcessInv (next captureStep p command) := by
  rw [next, captureStep]
  split
  · intro owner
    refine CameraInv.of_io ?_ (handle_io p command owner)
    by_cases howner : owner = command.owner
    · subst howner
      simp only [Function.update_self]
      exact (hinv command.owner).foldl _
    · simp only [ne_eq, howner, not_false_eq_true, Function.update_of_ne]
      exact hinv owner
  · exact hinv

/-- A command keeps to the arrays as it finds them in its camera. -/
def KeepsCamera (p : CaptureProcess) (command : CaptureCommand) : Prop :=
  p.Alive → KeepsBuffers (p.io command.owner) (p.camera command.owner)
    (p.use command)

theorem captureStep_released_iff {p : CaptureProcess} (hinv : ProcessInv p)
    (command : CaptureCommand)
    (later : List (CaptureOwner × BufferEvent)) :
    AllReleased p ((captureStep p command).2 ++ later) ↔
      KeepsCamera p command ∧
        AllReleased (next captureStep p command) later := by
  rw [next, captureStep, KeepsCamera]
  by_cases halive : p.Alive
  · rw [if_pos halive, forall_prop_of_true halive]
    have hown := trace_released_iff (hinv command.owner)
      (p.handle command).2 (ownEvents command.owner later)
    rw [handle_calls, CameraUse.steps_iff (hinv command.owner).method
      (halive command.owner)] at hown
    constructor
    · intro hall
      have hfirst := hall command.owner
      rw [ownEvents_append, ownEvents_self, handle_calls, hown] at hfirst
      refine ⟨hfirst.1, ?_⟩
      intro owner
      by_cases howner : owner = command.owner
      · subst howner
        simp only [Function.update_self, handle_calls]
        exact hfirst.2
      · have hother := hall owner
        rw [ownEvents_append, ownEvents_other (Ne.symm howner),
          List.nil_append] at hother
        simp only [ne_eq, howner, not_false_eq_true, Function.update_of_ne]
        exact hother
    · rintro ⟨hkeeps, hlater⟩ owner
      have hafter := hlater owner
      by_cases howner : owner = command.owner
      · subst howner
        simp only [Function.update_self, handle_calls] at hafter
        rw [ownEvents_append, ownEvents_self, handle_calls, hown]
        exact ⟨hkeeps, hafter⟩
      · simp only [ne_eq, howner, not_false_eq_true,
          Function.update_of_ne] at hafter
        rw [ownEvents_append, ownEvents_other (Ne.symm howner),
          List.nil_append]
        exact hafter
  · rw [if_neg halive]
    simp [halive]

/-- Every array of both captures is freed once, every mapping unmapped once,
and no array outlives its capture, exactly when every command keeps to the
arrays it finds. -/
theorem captureBuffers_released_iff (hdrMode : UInt32)
    (commands : List CaptureCommand) :
    (∀ owner, Released .initial (ownEvents owner
      (trace captureStep (.initial hdrMode) commands))) ↔
      Steps (next captureStep) KeepsCamera (.initial hdrMode) commands := by
  have hnil : ∀ p, ProcessInv p → AllReleased p [] :=
    fun p _ owner => released_nil _
  have hkeep : ∀ p command, ProcessInv p → KeepsCamera p command →
      ProcessInv (next captureStep p command) ∧
        ∀ later, AllReleased (next captureStep p command) later →
          AllReleased p ((captureStep p command).2 ++ later) := by
    intro p command hinv hguard
    refine ⟨hinv.step command, fun later hlater => ?_⟩
    exact (captureStep_released_iff hinv command later).mpr
      ⟨hguard, hlater⟩
  have hbreak : ∀ p command later, ProcessInv p →
      AllReleased p ((captureStep p command).2 ++ later) →
        KeepsCamera p command ∧
          AllReleased (next captureStep p command) later :=
    fun p command later hinv =>
      (captureStep_released_iff hinv command later).mp
  exact trace_iff_steps ProcessInv AllReleased hnil hkeep hbreak
    (.initial hdrMode) (ProcessInv.initial hdrMode) commands

/-- A device that grants four buffers. -/
def grantedInit : InitCalls where
  querycap := some (capVideoCapture ||| capStreaming)
  stackCapabilities := 0
  mmapNumber := 4
  reqBufs := .granted 4
  allocates := true
  length := fun _ => 2
  maps := fun _ => true

/-- A device that cannot be opened. -/
def refusedInit : InitCalls := { grantedInit with querycap := none }

def rawCommand (reads : ℕ → Option Frame) (init : InitCalls)
    (cmd : CommandData) : CaptureCommand :=
  .raw
    { workingCommand cmd with
      dev := { workingDevice .vicap (fun _ => [1, 2]) with reads := reads } }
    { init := init, index := fun k => k % 4 }

/-- Two captures of one frame; in the second one the device cannot be
opened. -/
def refusedCapture : List CaptureCommand :=
  let frame : Frame := { bytes := [1, 2], beyond := fun _ => 0 }
  [rawCommand (fun _ => some frame) grantedInit (getParamRequest 1 1),
    rawCommand (fun _ => some frame) grantedInit
      (setParamRequest 1 captureNormal),
    rawCommand (fun _ => some frame) grantedInit startRequest,
    rawCommand (fun _ => none) refusedInit (setParamRequest 1 captureNormal),
    rawCommand (fun _ => none) refusedInit startRequest]

/-- The array of the first capture is freed, and its buffers unmapped, by the
second one too. -/
theorem refusedCapture_frees_twice :
    let events := ownEvents .raw
      (trace captureStep (.initial noHdr) refusedCapture)
    events.count .calloc = 1 ∧ events.count .free = 2 ∧
      events.count (.mmap 0) = 1 ∧ events.count (.munmap 0) = 2 ∧
      ¬ Released .initial events := by
  intro events
  have hevents : events =
      [.initDevice, .calloc, .mmap 0, .mmap 1, .mmap 2, .mmap 3,
        .access, .access, .access, .access, .access, .access,
        .munmap 0, .munmap 1, .munmap 2, .munmap 3, .free, .initDevice,
        .munmap 0, .munmap 1, .munmap 2, .munmap 3, .free] := by
    decide
  rw [hevents]
  refine ⟨rfl, rfl, rfl, rfl, ?_⟩
  intro hreleased
  have harrays := hreleased.arrays
  revert harrays
  decide

end RkaiqToolServer
