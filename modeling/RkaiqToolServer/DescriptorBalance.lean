import RkaiqToolServer.CaptureCommands
import RkaiqToolServer.DescriptorTable

/-!
# The descriptors of a raw capture

`cap_info` keeps the descriptors of the video node, of the sensor and of the
lens.  GET_PARAM sets all three to -1 whatever they held; SET_PARAM opens the
sensor and the lens and closes the sensor again; the first START opens the
video node and the last one closes it.  Nothing closes the lens, and the
sensor is closed only when its number is positive.  The descriptors that a
function opens and closes itself are left out.
-/

namespace RkaiqToolServer

open DescriptorTable
open StepRun

/-! ## The fields of `cap_info` -/

inductive FdField
  | devFd
  | subdevFd
  | lensdevFd
  deriving DecidableEq

structure FdState where
  raw : RawState
  fds : Table FdField

/-- `RawCaptureinit` and `GetSensorPara`. -/
def getParamActions (dev : Device) : List (FieldAction FdField) :=
  [.reset .devFd, .reset .subdevFd, .reset .lensdevFd,
    .store .subdevFd dev.subdevFd, .closePositive .subdevFd] ++
    if dev.readings.isSome then [.closePositive .devFd] else []

/-- `SetCapConf`. -/
def setParamActions (s : RawState) (dev : Device) :
    List (FieldAction FdField) :=
  .store .subdevFd dev.subdevFd ::
    ((if s.capInfo.lensPresent then [.store .lensdevFd dev.lensdevFd]
      else []) ++ [.closePositive .subdevFd])

def eventActions (dev : Device) : CaptureEvent → List (FieldAction FdField)
  | .initDevice => [.store .devFd dev.devFd]
  | .uninitDevice => [.close .devFd]
  | .rawCaptureDeinit => [.closePositive .subdevFd, .closePositive .devFd]
  | _ => []

def fdActions (s : RawState) (command : RawCommand) :
    List (FieldAction FdField) :=
  if command.commonCmd.datAt 0 = dataIdCaptureRawGetParam then
    getParamActions command.dev
  else if command.commonCmd.datAt 0 = dataIdCaptureRawSetParam then
    setParamActions s command.dev
  else (rawStep s command).2.flatMap (eventActions command.dev)

/-- A command, publishing the fields it overwrites while they hold an open
descriptor. -/
def fdStep (state : FdState) (command : RawCommand) :
    FdState × List FdField :=
  let acted := actAll state.fds (fdActions state.raw command)
  (⟨next rawStep state.raw command, acted.1⟩, acted.2)

/-! ## The actions of a START and of the other commands -/

def openActions (dev : Device) (s : RawState) : List (FieldAction FdField) :=
  if s.captureFramesIndex = 0 then [.store .devFd dev.devFd] else []

def stopActions : List (FieldAction FdField) :=
  [.close .devFd, .closePositive .subdevFd, .closePositive .devFd]

def closeActions (s : RawState) : List (FieldAction FdField) :=
  if s.captureFramesIndex = s.captureFrames then stopActions else []

theorem fdActions_getParam {command : RawCommand}
    (hget : command.commonCmd.datAt 0 = dataIdCaptureRawGetParam)
    (s : RawState) : fdActions s command = getParamActions command.dev :=
  if_pos hget

theorem fdActions_setParam {command : RawCommand}
    (hset : command.commonCmd.datAt 0 = dataIdCaptureRawSetParam)
    (s : RawState) : fdActions s command = setParamActions s command.dev := by
  rw [fdActions, hset]
  rfl

theorem KeepsDevice.actions {trace : List CaptureEvent}
    (hkeeps : KeepsDevice trace) (dev : Device) :
    trace.flatMap (eventActions dev) = [] := by
  rw [List.flatMap_eq_nil_iff]
  intro event hmem
  have hkept := hkeeps event hmem
  cases event <;> first | rfl | cases hkept

theorem openDevice_actions (dev : Device) (s : RawState) :
    (openDevice dev s).2.flatMap (eventActions dev) = openActions dev s := by
  rw [openDevice_events, openActions]
  split
  · split <;> rfl
  · rfl

theorem stopEvents_actions (dev : Device) (s : RawState) :
    (stopCapture s).2.flatMap (eventActions dev) = stopActions := by
  rw [stopCapture_events]
  split <;> rfl

theorem closeDevice_actions (dev : Device) (s : RawState) :
    (closeDevice s).2.flatMap (eventActions dev) = closeActions s := by
  unfold closeDevice closeActions
  split
  · exact stopEvents_actions dev s
  · rfl

theorem fdActions_start {command : RawCommand}
    (hstart : command.commonCmd.datAt 0 = dataIdCaptureRawStart)
    (s : RawState) :
    fdActions s command =
      openActions command.dev s ++
        closeActions (next rawStep s command) := by
  obtain ⟨captured, hkeeps, -, hevents⟩ :=
    (rawStep_start_shape hstart s).events_eq
  have hactions : fdActions s command =
      (rawStep s command).2.flatMap (eventActions command.dev) := by
    rw [fdActions, hstart]
    rfl
  rw [hactions, hevents, List.flatMap_append, List.flatMap_append,
    hkeeps.actions, openDevice_actions, closeDevice_actions,
    List.append_nil]

theorem fdActions_other {s : RawState} {command : RawCommand}
    (hget : command.commonCmd.datAt 0 ≠ dataIdCaptureRawGetParam)
    (hset : command.commonCmd.datAt 0 ≠ dataIdCaptureRawSetParam)
    (hstart : command.commonCmd.datAt 0 ≠ dataIdCaptureRawStart) :
    (¬ StopsOnChecksum s command ∧ next rawStep s command = s ∧
        fdActions s command = []) ∨
      (StopsOnChecksum s command ∧
        next rawStep s command = (stopCapture s).1 ∧
        fdActions s command = stopActions) := by
  rw [fdActions, if_neg hget, if_neg hset]
  by_cases hstops : StopsOnChecksum s command
  · obtain ⟨hstate, cmd, hevents⟩ := rawStep_stops hstops
    right
    rw [hevents, List.flatMap_append, stopEvents_actions]
    exact ⟨hstops, hstate, rfl⟩
  · obtain ⟨hstate, hanswers⟩ := rawStep_other hget hset hstart hstops
    left
    exact ⟨hstops, hstate, hanswers.keepsDevice.actions command.dev⟩

/-! ## The values in the table are those of `cap_info` -/

def capValues (info : CaptureInfo) : FdField → ℤ
  | .devFd => info.devFd
  | .subdevFd => info.subdevFd
  | .lensdevFd => info.lensdevFd

theorem startCapture_values (dev : Device) (s : RawState) :
    capValues (startCapture dev s).1.capInfo =
      setValue (capValues s.capInfo) (.store .devFd dev.devFd) := by
  funext field
  by_cases hmode : s.captureMode = captureNormal <;>
    cases field <;> simp [startCapture, hmode, setValue, capValues,
      FieldAction.field, FieldAction.value]

theorem stopCapture_values (s : RawState) :
    capValues (stopCapture s).1.capInfo =
      stopActions.foldl setValue (capValues s.capInfo) := by
  funext field
  by_cases hmode : s.captureMode = captureNormal <;>
    cases field <;> simp [stopCapture, hmode, setValue, capValues,
      stopActions, FieldAction.field, FieldAction.value, closeFd]

theorem openDevice_values (dev : Device) (s : RawState) :
    capValues (openDevice dev s).1.capInfo =
      (openActions dev s).foldl setValue (capValues s.capInfo) := by
  unfold openDevice openActions
  split
  · exact startCapture_values dev s
  · rfl

theorem closeDevice_values (s : RawState) :
    capValues (closeDevice s).1.capInfo =
      (closeActions s).foldl setValue (capValues s.capInfo) := by
  unfold closeDevice closeActions
  split
  · exact stopCapture_values s
  · rfl

theorem rawStep_start_values {command : RawCommand}
    (hstart : command.commonCmd.datAt 0 = dataIdCaptureRawStart)
    (s : RawState) :
    capValues (next rawStep s command).capInfo =
      (openActions command.dev s ++
        closeActions (next rawStep s command)).foldl setValue
          (capValues s.capInfo) := by
  have hopened := openDevice_values command.dev
    { s with captureStatus := rawCap }
  have hshape := rawStep_start_shape hstart s
  rw [next, rawStep_start_phases command s hstart]
    at hshape ⊢
  rw [List.foldl_append]
  have hkept := captureFrames_capInfo command.dev
    (openDevice command.dev { s with captureStatus := rawCap }).1
  obtain ⟨-, hframes, hindex⟩ := closeDevice_kept (captureFrames command.dev
    (openDevice command.dev { s with captureStatus := rawCap }).1).1
  have hclosed := closeDevice_values (captureFrames command.dev
    (openDevice command.dev { s with captureStatus := rawCap }).1).1
  rw [hkept, hopened] at hclosed
  refine hclosed.trans ?_
  simp only [andThen_fst, closeActions, hframes, hindex]
  rfl

/-- Whatever the table says of the fields is what `cap_info` holds. -/
def Tracks (state : FdState) : Prop :=
  state.fds.values = capValues state.raw.capInfo

theorem fdActions_values (s : RawState) (command : RawCommand) :
    capValues (next rawStep s command).capInfo =
      (fdActions s command).foldl setValue (capValues s.capInfo) := by
  by_cases hget : command.commonCmd.datAt 0 = dataIdCaptureRawGetParam
  · rw [fdActions_getParam hget, next, rawStep_getParam hget, getSensorPara,
      getParamActions]
    cases command.dev.readings <;>
      funext field <;>
        cases field <;>
          simp [rawCaptureinit, capValues, setValue, FieldAction.field,
            FieldAction.value, closeFd]
  by_cases hset : command.commonCmd.datAt 0 = dataIdCaptureRawSetParam
  · rw [fdActions_setParam hset, next, rawStep_setParam hset, setCapConf,
      setParamActions]
    cases s.capInfo.lensPresent <;>
      funext field <;>
        cases field <;>
          simp [capValues, setValue, FieldAction.field, FieldAction.value,
            closeFd]
  by_cases hstart : command.commonCmd.datAt 0 = dataIdCaptureRawStart
  · rw [fdActions_start hstart]
    exact rawStep_start_values hstart s
  rcases fdActions_other (s := s) hget hset hstart with
    ⟨-, hstate, hactions⟩ | ⟨-, hstate, hactions⟩
  · rw [hstate, hactions]
    rfl
  · rw [hstate, hactions]
    exact stopCapture_values s

theorem Tracks.fdStep {state : FdState} (htracks : Tracks state)
    (command : RawCommand) : Tracks (next fdStep state command) := by
  have hvalues := actAll_values state.fds (fdActions state.raw command)
  rw [htracks, ← fdActions_values] at hvalues
  exact hvalues

/-- The process has its three standard descriptors. -/
def FdState.initial (hdrMode : UInt32) : FdState where
  raw := RawState.initial hdrMode
  fds := { slot := fun _ => ⟨0, false⟩, opened := {0, 1, 2} }

theorem tracks_initial (hdrMode : UInt32) :
    Tracks (FdState.initial hdrMode) := by
  funext field
  cases field <;> rfl

/-- Throughout a run the table says of the fields what `cap_info` holds. -/
theorem tracks_states (hdrMode : UInt32) (commands : List RawCommand) :
    States (next fdStep) Tracks (FdState.initial hdrMode) commands :=
  states_of_step (fun _ command htracks => htracks.fdStep command)
    (tracks_initial hdrMode)

/-- No command leaves a positive descriptor in the field of the sensor. -/
theorem fdStep_subdev {state : FdState}
    (hsubdev : state.fds.values .subdevFd ≤ 0) (command : RawCommand) :
    (next fdStep state command).fds.values .subdevFd ≤ 0 := by
  have hstop : ∀ values : FdField → ℤ,
      stopActions.foldl setValue values .subdevFd ≤ 0 := by
    intro values
    simp only [stopActions, List.foldl_cons, List.foldl_nil]
    rw [setValue_of_ne]
    · exact setValue_closePositive_nonpos _ FdField.subdevFd
    · decide
  rw [next, fdStep, actAll_values]
  by_cases hget : command.commonCmd.datAt 0 = dataIdCaptureRawGetParam
  · rw [fdActions_getParam hget, getParamActions, List.foldl_append]
    split
    · simp only [List.foldl_cons, List.foldl_nil]
      rw [setValue_of_ne]
      · exact setValue_closePositive_nonpos _ FdField.subdevFd
      · decide
    · exact setValue_closePositive_nonpos _ FdField.subdevFd
  by_cases hset : command.commonCmd.datAt 0 = dataIdCaptureRawSetParam
  · rw [fdActions_setParam hset, setParamActions, List.foldl_cons,
      List.foldl_append, List.foldl_cons, List.foldl_nil]
    exact setValue_closePositive_nonpos _ FdField.subdevFd
  by_cases hstart : command.commonCmd.datAt 0 = dataIdCaptureRawStart
  · have hopen : (openActions command.dev state.raw).foldl setValue
        state.fds.values .subdevFd ≤ 0 := by
      unfold openActions
      split
      · exact hsubdev
      · exact hsubdev
    rw [fdActions_start hstart, List.foldl_append, closeActions]
    split
    · exact hstop _
    · exact hopen
  rcases fdActions_other (s := state.raw) hget hset hstart with
    ⟨-, -, hactions⟩ | ⟨-, -, hactions⟩
  · rw [hactions]
    exact hsubdev
  · rw [hactions]
    exact hstop _

/-! ## What a command stores and closes -/

/-- The result of an open that a command stores into a field. -/
def storedFd (s : RawState) (command : RawCommand) : FdField → Option ℤ
  | .devFd =>
      if command.commonCmd.datAt 0 = dataIdCaptureRawStart ∧
          s.captureFramesIndex = 0 then some command.dev.devFd
      else none
  | .subdevFd =>
      if command.commonCmd.datAt 0 = dataIdCaptureRawGetParam ∨
          command.commonCmd.datAt 0 = dataIdCaptureRawSetParam then
        some command.dev.subdevFd
      else none
  | .lensdevFd =>
      if command.commonCmd.datAt 0 = dataIdCaptureRawSetParam ∧
          s.capInfo.lensPresent = true then some command.dev.lensdevFd
      else none

/-- The number a command passes to `close` when it is done. -/
def closedFd (s : RawState) (command : RawCommand) : Option ℤ :=
  if command.commonCmd.datAt 0 = dataIdCaptureRawGetParam ∨
      command.commonCmd.datAt 0 = dataIdCaptureRawSetParam then
    if 0 < command.dev.subdevFd then some command.dev.subdevFd else none
  else if command.commonCmd.datAt 0 = dataIdCaptureRawStart then
    if s.captureFramesIndex + frameCount s = s.captureFrames then
      some (if s.captureFramesIndex = 0 then command.dev.devFd
        else s.capInfo.devFd)
    else none
  else if StopsOnChecksum s command then some s.capInfo.devFd
  else none

def Overwrites (s : RawState) (command : RawCommand)
    (field : FdField) : Prop :=
  command.commonCmd.datAt 0 = dataIdCaptureRawGetParam ∨
    (storedFd s command field).isSome = true

/-- A descriptor that a command opens into a field and does not close. -/
def LeavesOpen (s : RawState) (command : RawCommand)
    (field : FdField) : Prop :=
  ∃ fd ∈ storedFd s command field, 0 ≤ fd ∧ closedFd s command ≠ some fd

def ClosesField (s : RawState) (command : RawCommand)
    (field : FdField) : Prop :=
  closedFd s command = some (capValues s.capInfo field)

theorem FdField.forall_iff {p : FdField → Prop} :
    (∀ field, p field) ↔ p .devFd ∧ p .subdevFd ∧ p .lensdevFd := by
  constructor
  · intro hall
    exact ⟨hall .devFd, hall .subdevFd, hall .lensdevFd⟩
  · rintro ⟨hdev, hsubdev, hlens⟩ (_ | _ | _) <;> assumption

instance (s : RawState) (command : RawCommand) (field : FdField) :
    Decidable (Overwrites s command field) :=
  inferInstanceAs (Decidable (_ ∨ _))

instance (s : RawState) (command : RawCommand) (field : FdField) :
    Decidable (LeavesOpen s command field) :=
  inferInstanceAs (Decidable (∃ fd ∈ storedFd s command field, _ ∧ _))

instance (s : RawState) (command : RawCommand) (field : FdField) :
    Decidable (ClosesField s command field) :=
  inferInstanceAs (Decidable (_ = _))

theorem command_ids : dataIdCaptureRawSetParam ≠ dataIdCaptureRawGetParam ∧
    dataIdCaptureRawStart ≠ dataIdCaptureRawGetParam ∧
    dataIdCaptureRawStart ≠ dataIdCaptureRawSetParam := by
  decide

/-! ## What a command overwrites -/

theorem getParamActions_lost_iff (table : Table FdField) (dev : Device) :
    (actAll table (getParamActions dev)).2 = [] ↔
      ∀ field, (table.slot field).held = false := by
  rw [FdField.forall_iff, getParamActions]
  cases dev.readings <;>
    simp [lost_eq_nil_iff, act_reset_slot_of_ne]

theorem setParamActions_lost_iff (table : Table FdField) (s : RawState)
    (dev : Device) :
    (actAll table (setParamActions s dev)).2 = [] ↔
      (table.slot .subdevFd).held = false ∧
        (s.capInfo.lensPresent = true →
          (table.slot .lensdevFd).held = false) := by
  rw [setParamActions]
  cases s.capInfo.lensPresent <;>
    simp [lost_eq_nil_iff, act_store_slot_of_ne]

theorem stopActions_lost (table : Table FdField) :
    (actAll table stopActions).2 = [] := rfl

theorem closeActions_lost (table : Table FdField) (s : RawState) :
    (actAll table (closeActions s)).2 = [] := by
  unfold closeActions
  split
  · exact stopActions_lost table
  · rfl

theorem startActions_lost_iff (table : Table FdField) (dev : Device)
    (s after : RawState) :
    (actAll table (openActions dev s ++ closeActions after)).2 = [] ↔
      (s.captureFramesIndex = 0 → (table.slot .devFd).held = false) := by
  rw [actAll_append, closeActions_lost, List.append_nil, openActions]
  by_cases hindex : s.captureFramesIndex = 0
  · simp [hindex, lost_eq_nil_iff]
  · simp [hindex]

/-- A command loses the descriptors held by the fields it overwrites. -/
theorem fdStep_lost_iff (state : FdState) (command : RawCommand) :
    (fdStep state command).2 = [] ↔
      ∀ field, (state.fds.slot field).held = true →
        ¬ Overwrites state.raw command field := by
  obtain ⟨hsetGet, hstartGet, hstartSet⟩ := command_ids
  rw [fdStep, FdField.forall_iff]
  by_cases hget : command.commonCmd.datAt 0 = dataIdCaptureRawGetParam
  · rw [fdActions_getParam hget, getParamActions_lost_iff, FdField.forall_iff]
    simp [Overwrites, hget]
  by_cases hset : command.commonCmd.datAt 0 = dataIdCaptureRawSetParam
  · rw [fdActions_setParam hset, setParamActions_lost_iff]
    simp [Overwrites, storedFd, hset, hsetGet, hstartSet.symm]
  by_cases hstart : command.commonCmd.datAt 0 = dataIdCaptureRawStart
  · rw [fdActions_start hstart, startActions_lost_iff]
    cases (state.fds.slot .devFd).held <;>
      simp [Overwrites, storedFd, hstart, hstartGet, hstartSet]
  have hnone : ∀ field, ¬ Overwrites state.raw command field := by
    rw [FdField.forall_iff]
    simp [Overwrites, storedFd, hget, hset, hstart]
  have hlost : (actAll state.fds (fdActions state.raw command)).2 = [] := by
    rcases fdActions_other (s := state.raw) hget hset hstart with
      ⟨-, -, hactions⟩ | ⟨-, -, hactions⟩
    · rw [hactions]
      rfl
    · rw [hactions]
      exact stopActions_lost state.fds
  simp [hlost, hnone]

/-! ## What stays open in a field -/

/-- GET_PARAM up to its closing of the sensor. -/
def sensorActions (dev : Device) : List (FieldAction FdField) :=
  [.reset .devFd, .reset .subdevFd, .reset .lensdevFd,
    .store .subdevFd dev.subdevFd, .closePositive .subdevFd]

theorem sensorActions_devFd (table : Table FdField) (dev : Device) :
    (actAll table (sensorActions dev)).1.values .devFd = -1 := by
  rw [actAll_values]
  simp [sensorActions, setValue, FieldAction.field, FieldAction.value]

theorem getParamActions_eq (dev : Device) :
    getParamActions dev = sensorActions dev ++
      if dev.readings.isSome then [.closePositive .devFd] else [] := rfl

theorem getParamActions_held_iff (table : Table FdField) (dev : Device)
    (field : FdField) :
    ((actAll table (getParamActions dev)).1.slot field).held = true ↔
      field = .subdevFd ∧ dev.subdevFd = 0 := by
  have hsensor : ∀ other, ((actAll table (sensorActions dev)).1.slot
      other).held = true ↔ other = .subdevFd ∧ dev.subdevFd = 0 := by
    simp only [sensorActions, actAll_cons, actAll_nil,
      act_closePositive_held_iff, act_values]
    rintro (_ | _ | _) <;>
      simp [setValue, FieldAction.field, FieldAction.value,
        act_reset_slot_of_ne, act_store_slot_of_ne]
    omega
  rw [getParamActions_eq, actAll_append]
  split
  · simp [act_closePositive_held_iff, sensorActions_devFd, hsensor]
  · exact hsensor field

/-- After the device is closed the other closes of a stop find nothing to
close. -/
theorem close_devFd_values {table : Table FdField}
    (hsubdev : table.values .subdevFd ≤ 0) :
    (act table (.close .devFd)).1.values .subdevFd ≤ 0 ∧
      (act (act table (.close .devFd)).1
        (.closePositive .subdevFd)).1.values .devFd = -1 := by
  constructor
  · rw [act_values]
    exact hsubdev
  · rw [act_values, act_values]
    rfl

/-- Stopping takes from the fields the descriptor of the device alone. -/
theorem stopActions_held_iff {table : Table FdField}
    (hsubdev : table.values .subdevFd ≤ 0) (field : FdField) :
    ((actAll table stopActions).1.slot field).held = true ↔
      (table.slot field).held = true ∧
        table.values field ≠ table.values .devFd := by
  obtain ⟨hkept, hclosed⟩ := close_devFd_values hsubdev
  simp only [stopActions, actAll_cons, actAll_nil]
  rw [act_closePositive_held_iff, hclosed, act_closePositive_held_iff,
    act_close_held_iff]
  have hsensor : ¬ 0 < (act table (.close .devFd)).1.values .subdevFd :=
    not_lt.mpr hkept
  simp [hsensor]

theorem closeActions_held_iff {table : Table FdField}
    (hsubdev : table.values .subdevFd ≤ 0) (s : RawState)
    (field : FdField) :
    ((actAll table (closeActions s)).1.slot field).held = true ↔
      (table.slot field).held = true ∧
        (s.captureFramesIndex = s.captureFrames →
          table.values field ≠ table.values .devFd) := by
  unfold closeActions
  split
  next hlast =>
    rw [stopActions_held_iff hsubdev, forall_prop_of_true hlast]
  next hmore => simp [hmore]

theorem setParamActions_held_iff (table : Table FdField) (s : RawState)
    (dev : Device) (field : FdField) :
    ((actAll table (setParamActions s dev)).1.slot field).held = true ↔
      match field with
      | .devFd => (table.slot .devFd).held = true ∧
          (0 < dev.subdevFd → table.values .devFd ≠ dev.subdevFd)
      | .subdevFd => dev.subdevFd = 0
      | .lensdevFd =>
          if s.capInfo.lensPresent then
            0 ≤ dev.lensdevFd ∧
              (0 < dev.subdevFd → dev.lensdevFd ≠ dev.subdevFd)
          else (table.slot .lensdevFd).held = true ∧
            (0 < dev.subdevFd → table.values .lensdevFd ≠ dev.subdevFd) := by
  rw [setParamActions]
  cases s.capInfo.lensPresent <;> cases field <;>
    simp [act_closePositive_held_iff, act_values, setValue,
      FieldAction.field, FieldAction.value, act_store_slot_of_ne]
  all_goals omega

theorem startActions_held_iff {table : Table FdField} {dev : Device}
    (hsubdev : table.values .subdevFd ≤ 0) (s after : RawState)
    (field : FdField) :
    ((actAll table (openActions dev s ++ closeActions after)).1.slot
        field).held = true ↔
      ((actAll table (openActions dev s)).1.slot field).held = true ∧
        (after.captureFramesIndex = after.captureFrames →
          (actAll table (openActions dev s)).1.values field ≠
            (actAll table (openActions dev s)).1.values .devFd) := by
  have hkept : (actAll table (openActions dev s)).1.values .subdevFd ≤ 0 := by
    rw [actAll_values, openActions]
    split
    · exact hsubdev
    · exact hsubdev
  rw [actAll_append]
  exact closeActions_held_iff hkept after field

/-- A field holds a descriptor after a command if the command leaves one open
in it, or neither overwrites nor closes the one it held. -/
theorem held_next {state : FdState} (htracks : Tracks state)
    (hsubdev : state.fds.values .subdevFd ≤ 0) (command : RawCommand)
    (field : FdField) :
    ((next fdStep state command).fds.slot field).held = true ↔
      LeavesOpen state.raw command field ∨
        (state.fds.slot field).held = true ∧
          ¬ Overwrites state.raw command field ∧
          ¬ ClosesField state.raw command field := by
  obtain ⟨hsetGet, hstartGet, hstartSet⟩ := command_ids
  have hdevice : state.raw.capInfo.devFd = state.fds.values .devFd :=
    (congrFun htracks .devFd).symm
  rw [next, fdStep, ClosesField, ← htracks]
  by_cases hget : command.commonCmd.datAt 0 = dataIdCaptureRawGetParam
  · rw [fdActions_getParam hget, getParamActions_held_iff]
    cases field <;>
      simp [Overwrites, LeavesOpen, storedFd, closedFd, hget, hsetGet.symm,
        hstartGet.symm]
    omega
  by_cases hset : command.commonCmd.datAt 0 = dataIdCaptureRawSetParam
  · rw [fdActions_setParam hset, setParamActions_held_iff]
    cases hlens : state.raw.capInfo.lensPresent <;> cases field <;>
      simp [Overwrites, LeavesOpen, storedFd, closedFd, hset, hsetGet,
        hstartSet.symm, hlens]
    all_goals grind
  by_cases hstart : command.commonCmd.datAt 0 = dataIdCaptureRawStart
  · have hshape := rawStep_start_shape hstart state.raw
    rw [fdActions_start hstart, startActions_held_iff hsubdev, hshape.index,
      hshape.frames, openActions]
    by_cases hindex : state.raw.captureFramesIndex = 0
    · cases field <;>
        simp [Overwrites, LeavesOpen, storedFd, closedFd, hstart, hstartGet,
          hstartSet, hindex, act_values, setValue, FieldAction.field,
          FieldAction.value, act_store_slot_of_ne]
      all_goals grind
    · cases field <;>
        simp [Overwrites, LeavesOpen, storedFd, closedFd, hstart, hstartGet,
          hstartSet, hindex, hdevice]
      all_goals grind
  have hkeeps : ¬ LeavesOpen state.raw command field ∧
      ¬ Overwrites state.raw command field := by
    cases field <;>
      simp [LeavesOpen, Overwrites, storedFd, hget, hset, hstart]
  have hclosed : closedFd state.raw command =
      if StopsOnChecksum state.raw command then
        some (state.fds.values .devFd) else none := by
    simp [closedFd, hget, hset, hstart, hdevice]
  rw [hclosed]
  rcases fdActions_other (s := state.raw) hget hset hstart with
    ⟨hstops, -, hactions⟩ | ⟨hstops, -, hactions⟩
  · simp [hactions, hstops, hkeeps]
  · rw [hactions, stopActions_held_iff hsubdev, ne_comm]
    simp [hstops, hkeeps]

/-- The descriptor in the field is closed before a command overwrites it. -/
def Undisturbed (field : FdField) : RawState → List RawCommand → Prop
  | _, [] => True
  | s, command :: rest =>
      ¬ Overwrites s command field ∧
        (ClosesField s command field ∨
          Undisturbed field (next rawStep s command) rest)

/-- No descriptor that a command leaves open in a field is overwritten by a
later command. -/
def KeepsOpened : RawState → List RawCommand → Prop
  | _, [] => True
  | s, command :: rest =>
      (∀ field, LeavesOpen s command field →
        Undisturbed field (next rawStep s command) rest) ∧
        KeepsOpened (next rawStep s command) rest

instance Undisturbed.decidable (field : FdField) :
    ∀ s commands, Decidable (Undisturbed field s commands)
  | _, [] => .isTrue trivial
  | s, command :: rest =>
      have := decidable field (next rawStep s command) rest
      inferInstanceAs (Decidable (_ ∧ (_ ∨ _)))

instance KeepsOpened.decidable :
    ∀ s commands, Decidable (KeepsOpened s commands)
  | _, [] => .isTrue trivial
  | s, command :: rest =>
      have := decidable (next rawStep s command) rest
      have := decidable_of_iff _ (FdField.forall_iff (p := fun field =>
        LeavesOpen s command field →
          Undisturbed field (next rawStep s command) rest)).symm
      inferInstanceAs (Decidable (_ ∧ _))

theorem fdTrace_eq_nil_iff {state : FdState} (htracks : Tracks state)
    (hsubdev : state.fds.values .subdevFd ≤ 0)
    (commands : List RawCommand) :
    trace fdStep state commands = [] ↔
      (∀ field, (state.fds.slot field).held = true →
        Undisturbed field state.raw commands) ∧
        KeepsOpened state.raw commands := by
  induction commands generalizing state with
  | nil => exact ⟨fun _ => ⟨fun _ _ => trivial, trivial⟩, fun _ => rfl⟩
  | cons command rest ih =>
      have hlater := ih (htracks.fdStep command)
        (fdStep_subdev hsubdev command)
      rw [trace_cons, List.append_eq_nil_iff, fdStep_lost_iff, hlater]
      constructor
      · rintro ⟨hnow, hheld, hkept⟩
        refine ⟨fun field hholds => ⟨hnow field hholds, ?_⟩,
          fun field hopens => ?_, hkept⟩
        · by_cases hcloses : ClosesField state.raw command field
          · exact .inl hcloses
          · exact .inr (hheld field ((held_next htracks hsubdev command
              field).mpr (.inr ⟨hholds, hnow field hholds, hcloses⟩)))
        · exact hheld field
            ((held_next htracks hsubdev command field).mpr (.inl hopens))
      · rintro ⟨hheld, hopened, hkept⟩
        refine ⟨fun field hholds => (hheld field hholds).1, ?_, hkept⟩
        intro field hafter
        rcases (held_next htracks hsubdev command field).mp hafter with
          hopens | ⟨hholds, -, hcloses⟩
        · exact hopened field hopens
        · exact (hheld field hholds).2.resolve_left hcloses

theorem subdev_states (hdrMode : UInt32) (commands : List RawCommand) :
    States (next fdStep) (fun state => state.fds.values .subdevFd ≤ 0)
      (FdState.initial hdrMode) commands := by
  refine states_of_step ?_ le_rfl
  intro state command hsubdev
  exact fdStep_subdev hsubdev command

theorem fdTrace_initial_iff (hdrMode : UInt32) (commands : List RawCommand) :
    trace fdStep (FdState.initial hdrMode) commands = [] ↔
      KeepsOpened (RawState.initial hdrMode) commands := by
  rw [fdTrace_eq_nil_iff (tracks_initial hdrMode)
    (subdev_states hdrMode []).head]
  exact and_iff_right fun field hholds => absurd hholds Bool.false_ne_true

/-! ## What a cycle leaves open -/

/-- The STARTs end with the one that brings the counter to the number of
frames. -/
def UntilLast : RawState → List RawCommand → Prop
  | _, [] => False
  | s, start :: rest =>
      start.commonCmd.datAt 0 = dataIdCaptureRawStart ∧
        if (next rawStep s start).captureFramesIndex =
            (next rawStep s start).captureFrames then rest = []
        else UntilLast (next rawStep s start) rest

structure Cycle (s : RawState) (getParam setParam : RawCommand)
    (starts : List RawCommand) : Prop where
  get : getParam.commonCmd.datAt 0 = dataIdCaptureRawGetParam
  set : setParam.commonCmd.datAt 0 = dataIdCaptureRawSetParam
  last : UntilLast (next rawStep (next rawStep s getParam) setParam) starts

/-- No open of the run returns a descriptor that is open at the time. -/
def OpensFresh (state : FdState) (commands : List RawCommand) : Prop :=
  Steps (next fdStep)
    (fun state command => AllFresh state.fds (fdActions state.raw command))
    state commands

instance (state : FdState) (commands : List RawCommand) :
    Decidable (OpensFresh state commands) :=
  inferInstanceAs (Decidable (Steps _ _ _ _))

theorem getParamActions_opened {table : Table FdField} {dev : Device}
    (hfresh : AllFresh table (getParamActions dev)) :
    (actAll table (getParamActions dev)).1.opened =
      openedBy (closeFd dev.subdevFd) table.opened := by
  have hopen : FreshIn dev.subdevFd table.opened := hfresh.2.2.2.1
  have hstored : (actAll table (sensorActions dev)).1.opened =
      openedBy (closeFd dev.subdevFd) table.opened :=
    store_closePositive_opened (actAll table [.reset .devFd,
      .reset .subdevFd, .reset .lensdevFd]).1 hopen FdField.subdevFd
  rw [getParamActions_eq, actAll_append, ← hstored]
  split
  · simp [act_closePositive_opened, sensorActions_devFd]
  · rfl

theorem setParamActions_opened {table : Table FdField} {s : RawState}
    {dev : Device} (hfresh : AllFresh table (setParamActions s dev)) :
    (actAll table (setParamActions s dev)).1.opened =
      openedBy (if s.capInfo.lensPresent then dev.lensdevFd else -1)
        (openedBy (closeFd dev.subdevFd) table.opened) := by
  have hopen : FreshIn dev.subdevFd table.opened := hfresh.1
  rw [setParamActions] at hfresh ⊢
  cases hlens : s.capInfo.lensPresent with
  | false =>
      rw [if_neg (by decide), if_neg (by decide)]
      exact store_closePositive_opened table hopen FdField.subdevFd
  | true =>
      rw [hlens, if_pos rfl] at hfresh
      rw [if_pos rfl, if_pos rfl]
      exact store_store_closePositive_opened hopen hfresh.2.1 (by decide)

/-- Stopping closes the device alone when the sensor's value is not
positive. -/
theorem stopActions_opened {table : Table FdField}
    (hsubdev : table.values .subdevFd ≤ 0) :
    (actAll table stopActions).1.opened =
      closedBy (table.values .devFd) table.opened := by
  obtain ⟨hkept, hclosed⟩ := close_devFd_values hsubdev
  simp only [stopActions, actAll_cons, actAll_nil]
  rw [act_closePositive_opened, hclosed, if_neg (by decide),
    act_closePositive_opened, if_neg (not_lt.mpr hkept), act_close_opened]

/-- A START and those after it close what is in `table`, the descriptors once
the device is open, if the STARTs after it do. -/
theorem start_closes {state : FdState} {start : RawCommand}
    {rest : List RawCommand} {table : Table FdField}
    (hlater : if (next rawStep state.raw start).captureFramesIndex =
        (next rawStep state.raw start).captureFrames then rest = []
      else UntilLast (next rawStep state.raw start) rest)
    (hfds : (next fdStep state start).fds =
      (actAll table (closeActions (next rawStep state.raw start))).1)
    (hsubdev : table.values .subdevFd ≤ 0)
    (hrest : UntilLast (next fdStep state start).raw rest →
      (next rawStep state.raw start).captureFramesIndex ≠
          (next rawStep state.raw start).captureFrames →
        (next fdStep state start).fds.values .subdevFd ≤ 0 →
          (rest.foldl (next fdStep) (next fdStep state start)).fds.opened =
            closedBy ((next fdStep state start).fds.values .devFd)
              (next fdStep state start).fds.opened) :
    ((start :: rest).foldl (next fdStep) state).fds.opened =
      closedBy (table.values .devFd) table.opened := by
  rw [List.foldl_cons]
  by_cases hdone : (next rawStep state.raw start).captureFramesIndex =
      (next rawStep state.raw start).captureFrames
  · rw [if_pos hdone] at hlater
    rw [hlater, List.foldl_nil, hfds, closeActions, if_pos hdone]
    exact stopActions_opened hsubdev
  · rw [if_neg hdone] at hlater
    rw [closeActions, if_neg hdone, actAll_nil] at hfds
    rw [hfds] at hrest
    exact hrest hlater hdone hsubdev

/-- STARTs that meet the device open close it with the last of them. -/
theorem untilLast_opened {state : FdState} {starts : List RawCommand}
    (hlast : UntilLast state.raw starts)
    (hindex : state.raw.captureFramesIndex ≠ 0)
    (hsubdev : state.fds.values .subdevFd ≤ 0) :
    (starts.foldl (next fdStep) state).fds.opened =
      closedBy (state.fds.values .devFd) state.fds.opened := by
  induction starts generalizing state with
  | nil => exact absurd hlast id
  | cons start rest ih =>
      obtain ⟨hstart, hlater⟩ := hlast
      have hshape := rawStep_start_shape hstart state.raw
      have hopen : openActions start.dev state.raw = [] := if_neg hindex
      have hfds : (next fdStep state start).fds = (actAll state.fds
          (closeActions (next rawStep state.raw start))).1 := by
        rw [next, fdStep, fdActions_start hstart, hopen, List.nil_append]
      have hcounted :
          (next fdStep state start).raw.captureFramesIndex ≠ 0 := by
        have hraw : (next fdStep state start).raw.captureFramesIndex =
            state.raw.captureFramesIndex + frameCount state.raw :=
          hshape.index
        omega
      exact start_closes hlater hfds hsubdev fun hmore _ hsensor =>
        ih hmore hcounted hsensor

/-- A capture of no frames at a time never comes to its number of frames. -/
theorem not_untilLast {s : RawState} (hindex : s.captureFramesIndex = 0)
    (hcount : frameCount s = 0) (hframes : s.captureFrames ≠ 0)
    (starts : List RawCommand) : ¬ UntilLast s starts := by
  induction starts generalizing s with
  | nil => exact id
  | cons start rest ih =>
      rintro ⟨hstart, hlater⟩
      have hshape := rawStep_start_shape hstart s
      have hafter : (next rawStep s start).captureFramesIndex = 0 := by
        rw [hshape.index, hindex, hcount]
      have hsame : frameCount (next rawStep s start) = 0 := by
        rw [hshape.frameCount_eq (hafter.trans hindex.symm), hcount]
      have hmore : (next rawStep s start).captureFrames ≠ 0 := by
        rw [hshape.frames]
        exact hframes
      rw [hafter, if_neg hmore.symm] at hlater
      exact ih hafter hsame hmore hlater

/-- The STARTs of a capture leave open what was open before them. -/
theorem starts_opened {state : FdState} {starts : List RawCommand}
    (hlast : UntilLast state.raw starts)
    (hindex : state.raw.captureFramesIndex = 0)
    (hsubdev : state.fds.values .subdevFd ≤ 0)
    (hfresh : OpensFresh state starts) :
    (starts.foldl (next fdStep) state).fds.opened = state.fds.opened := by
  cases starts with
  | nil => exact absurd hlast id
  | cons start rest =>
      obtain ⟨hstart, hlater⟩ := hlast
      have hshape := rawStep_start_shape hstart state.raw
      have hactions : fdActions state.raw start =
          .store .devFd start.dev.devFd ::
            closeActions (next rawStep state.raw start) := by
        rw [fdActions_start hstart, openActions, if_pos hindex]
        rfl
      have hopen : FreshIn start.dev.devFd state.fds.opened := by
        have hnow : AllFresh state.fds (fdActions state.raw start) :=
          hfresh.1
        rw [hactions] at hnow
        exact hnow.1
      have hfds : (next fdStep state start).fds =
          (actAll (act state.fds (.store .devFd start.dev.devFd)).1
            (closeActions (next rawStep state.raw start))).1 := by
        rw [next, fdStep, hactions, actAll_cons]
      have hvalues : (act state.fds
          (.store .devFd start.dev.devFd)).1.values =
            Function.update state.fds.values .devFd start.dev.devFd :=
        act_values state.fds _
      have hsensor : (act state.fds
          (.store .devFd start.dev.devFd)).1.values .subdevFd ≤ 0 := by
        rw [hvalues]
        exact hsubdev
      have hclosed : closedBy ((act state.fds
          (.store .devFd start.dev.devFd)).1.values .devFd)
            (act state.fds (.store .devFd start.dev.devFd)).1.opened =
              state.fds.opened := by
        rw [hvalues, Function.update_self, act_store_opened]
        exact closedBy_openedBy hopen
      rw [start_closes hlater hfds hsensor, hclosed]
      intro hmore hdone hsubdev'
      refine untilLast_opened hmore ?_ hsubdev'
      -- counting on from zero by zero, the STARTs would never end
      intro hzero
      have hafter :
          (next rawStep state.raw start).captureFramesIndex = 0 := hzero
      have hcount : frameCount state.raw = 0 := by
        have hindexAfter := hshape.index
        omega
      rw [hafter] at hdone
      refine not_untilLast hafter ?_ (Ne.symm hdone) rest hmore
      rw [hshape.frameCount_eq (hafter.trans hindex.symm), hcount]

theorem closeFd_neg_iff (fd : ℤ) : closeFd fd < 0 ↔ fd ≠ 0 := by
  unfold closeFd
  split <;> omega

theorem freshIn_closeFd {fd : ℤ} {opened : Finset ℕ}
    (hfresh : FreshIn fd opened) : FreshIn (closeFd fd) opened := by
  unfold closeFd
  split
  · intro h
    omega
  · exact hfresh

theorem openedBy_closeFd_subset (fd : ℤ) (opened : Finset ℕ) :
    openedBy (closeFd fd) opened ⊆ openedBy fd opened := by
  unfold closeFd
  split
  · exact subset_openedBy fd opened
  · exact Finset.Subset.refl _

/-- The result of the lens's open in a cycle, -1 without a lens. -/
def lensOpened (getParam setParam : RawCommand) : ℤ :=
  if getParam.dev.lensPresent then setParam.dev.lensdevFd else -1

/-- The open descriptors after a cycle, each of the three opens fresh. -/
structure CycleOpened (before after : Finset ℕ)
    (getParam setParam : RawCommand) : Prop where
  getFresh : FreshIn (closeFd getParam.dev.subdevFd) before
  setFresh : FreshIn (closeFd setParam.dev.subdevFd)
    (openedBy (closeFd getParam.dev.subdevFd) before)
  lensFresh : FreshIn (lensOpened getParam setParam)
    (openedBy (closeFd setParam.dev.subdevFd)
      (openedBy (closeFd getParam.dev.subdevFd) before))
  after_eq : after = openedBy (lensOpened getParam setParam)
    (openedBy (closeFd setParam.dev.subdevFd)
      (openedBy (closeFd getParam.dev.subdevFd) before))

theorem cycle_opened {state : FdState} {getParam setParam : RawCommand}
    {starts : List RawCommand}
    (hsubdev : state.fds.values .subdevFd ≤ 0)
    (hcycle : Cycle state.raw getParam setParam starts)
    (hfresh : OpensFresh state (getParam :: setParam :: starts)) :
    CycleOpened state.fds.opened
      ((getParam :: setParam :: starts).foldl (next fdStep) state).fds.opened
      getParam setParam := by
  obtain ⟨hget, hset, hlast⟩ := hcycle
  obtain ⟨hgetFresh, hsetFresh, hstarts⟩ := hfresh
  rw [fdActions_getParam hget] at hgetFresh
  rw [fdActions_setParam hset] at hsetFresh
  have hgot : (next fdStep state getParam).fds.opened =
      openedBy (closeFd getParam.dev.subdevFd) state.fds.opened := by
    rw [next, fdStep, fdActions_getParam hget]
    exact getParamActions_opened hgetFresh
  have hlens :
      (next fdStep state getParam).raw.capInfo.lensPresent =
        getParam.dev.lensPresent := by
    show (next rawStep state.raw getParam).capInfo.lensPresent = _
    rw [next, rawStep_getParam hget, getSensorPara]
    cases getParam.dev.readings <;> rfl
  have hconfigured : (next fdStep (next fdStep state getParam)
      setParam).fds = (actAll (next fdStep state getParam).fds
        (setParamActions (next fdStep state getParam).raw
          setParam.dev)).1 := by
    rw [next, fdStep, fdActions_setParam hset]
  have hsetOpened := setParamActions_opened hsetFresh
  rw [hlens, hgot] at hsetOpened
  have hindex : (next fdStep (next fdStep state getParam)
      setParam).raw.captureFramesIndex = 0 := by
    show (next rawStep _ setParam).captureFramesIndex = 0
    rw [next, rawStep_setParam hset]
    rfl
  have hopened := starts_opened hlast hindex
    (fdStep_subdev (fdStep_subdev hsubdev getParam) setParam) hstarts
  rw [hconfigured, hsetOpened] at hopened
  have hsensor : FreshIn setParam.dev.subdevFd
      (openedBy (closeFd getParam.dev.subdevFd) state.fds.opened) := by
    rw [← hgot]
    exact hsetFresh.1
  refine ⟨freshIn_closeFd hgetFresh.2.2.2.1, freshIn_closeFd hsensor, ?_,
    hopened⟩
  unfold lensOpened
  split
  next hpresent =>
    rw [setParamActions, hlens, hpresent] at hsetFresh
    have hlensFresh : FreshIn setParam.dev.lensdevFd
        (openedBy setParam.dev.subdevFd
          (next fdStep state getParam).fds.opened) := hsetFresh.2.1
    rw [hgot] at hlensFresh
    exact hlensFresh.mono (openedBy_closeFd_subset _ _)
  next => exact fun hresult => absurd hresult (by decide)

/-- Neither open of the sensor returns 0, which is never closed, and no lens
is opened. -/
def LeavesNothing (getParam setParam : RawCommand) : Prop :=
  getParam.dev.subdevFd ≠ 0 ∧ setParam.dev.subdevFd ≠ 0 ∧
    (getParam.dev.lensPresent = true → setParam.dev.lensdevFd < 0)

theorem CycleOpened.balanced_iff {before after : Finset ℕ}
    {getParam setParam : RawCommand}
    (hopened : CycleOpened before after getParam setParam) :
    after = before ↔ LeavesNothing getParam setParam := by
  have hlens : lensOpened getParam setParam < 0 ↔
      (getParam.dev.lensPresent = true → setParam.dev.lensdevFd < 0) := by
    unfold lensOpened
    split <;> simp [*]
  rw [LeavesNothing, ← closeFd_neg_iff, ← closeFd_neg_iff, ← hlens,
    ← openedBy_eq_self_iff hopened.getFresh,
    ← openedBy_eq_self_iff hopened.setFresh,
    ← openedBy_eq_self_iff hopened.lensFresh, hopened.after_eq]
  constructor
  · intro hsame
    -- each open only adds, so the last set is the first only if all are
    have hlast := subset_openedBy (lensOpened getParam setParam)
      (openedBy (closeFd setParam.dev.subdevFd)
        (openedBy (closeFd getParam.dev.subdevFd) before))
    rw [hsame] at hlast
    have hsecond := (subset_openedBy (closeFd setParam.dev.subdevFd)
      (openedBy (closeFd getParam.dev.subdevFd) before)).trans hlast
    have hfirst : openedBy (closeFd getParam.dev.subdevFd) before = before :=
      hsecond.antisymm (subset_openedBy _ before)
    rw [hfirst] at hsame hlast ⊢
    have hmiddle : openedBy (closeFd setParam.dev.subdevFd) before =
        before := hlast.antisymm (subset_openedBy _ before)
    rw [hmiddle] at hsame ⊢
    exact ⟨rfl, rfl, hsame⟩
  · rintro ⟨hfirst, hsecond, hthird⟩
    rw [hthird, hsecond, hfirst]

/-- A run of raw-capture commands overwrites no field of `cap_info` that holds
an open descriptor exactly when no command overwrites what an earlier one left
open there, and a cycle after the run leaves the open descriptors as they were
exactly when it opens no lens and the sensor is never opened as descriptor
0. -/
theorem descriptorBalance_iff (hdrMode : UInt32)
    (commands : List RawCommand) :
    (trace fdStep (FdState.initial hdrMode) commands = [] ↔
        KeepsOpened (RawState.initial hdrMode) commands) ∧
      ∀ (getParam setParam : RawCommand) (starts : List RawCommand),
        let state := commands.foldl (next fdStep) (FdState.initial hdrMode)
        Cycle state.raw getParam setParam starts →
          OpensFresh state (getParam :: setParam :: starts) →
            (((getParam :: setParam :: starts).foldl (next fdStep)
                state).fds.opened = state.fds.opened ↔
              LeavesNothing getParam setParam) := by
  refine ⟨fdTrace_initial_iff hdrMode commands, ?_⟩
  intro getParam setParam starts state hcycle hfresh
  exact (cycle_opened (subdev_states hdrMode commands).last hcycle
    hfresh).balanced_iff

def lenslessCommand (cmd : CommandData) : RawCommand :=
  { workingCommand cmd with
    dev := { workingDevice .vicap fun _ => [1, 2] with lensPresent := false } }

def oneFrame (command : CommandData → RawCommand) : List RawCommand :=
  [command (getParamRequest 1 1),
    command (setParamRequest 1 captureNormal), command startRequest]

theorem descriptorBalance_lensless :
    trace fdStep (FdState.initial noHdr) (oneFrame lenslessCommand) = [] ∧
      ((oneFrame lenslessCommand).foldl (next fdStep)
        (FdState.initial noHdr)).fds.opened = {0, 1, 2} := by
  constructor
  · rw [(descriptorBalance_iff noHdr (oneFrame lenslessCommand)).1]
    decide
  · refine ((descriptorBalance_iff noHdr []).2 _ _
      [lenslessCommand startRequest] ⟨rfl, rfl, rfl, ?_⟩ ?_).mpr ?_
    · exact (if_pos (by decide)).mpr rfl
    · decide
    · exact ⟨by decide, by decide, by decide⟩

/-- The lens that SET_PARAM opens stays open, and the next GET_PARAM loses
it. -/
theorem descriptorBalance_lens :
    let commands := oneFrame workingCommand ++
      [workingCommand (getParamRequest 1 1)]
    (∀ command ∈ commands, command.dev.Succeeds) ∧
      OpensFresh (FdState.initial noHdr) commands ∧
      Cycle (RawState.initial noHdr) (workingCommand (getParamRequest 1 1))
        (workingCommand (setParamRequest 1 captureNormal))
        [workingCommand startRequest] ∧
      ((oneFrame workingCommand).foldl (next fdStep)
        (FdState.initial noHdr)).fds.opened = {0, 1, 2, 5} ∧
      trace fdStep (FdState.initial noHdr) commands = [.lensdevFd] := by
  refine ⟨?_, by decide, ⟨rfl, rfl, rfl, (if_pos (by decide)).mpr rfl⟩,
    by decide, by decide⟩
  intro command hmem
  simp only [oneFrame, List.cons_append, List.nil_append, List.mem_cons,
    List.not_mem_nil, or_false] at hmem
  rcases hmem with rfl | rfl | rfl | rfl <;> exact workingDevice_succeeds _ _

end RkaiqToolServer
