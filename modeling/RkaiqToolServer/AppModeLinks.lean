import RkaiqToolServer.ServerControl

/-!
# The mode against the links of the hardware

In capture mode the sensor has to be cut off from the ISP with no RTSP
pipeline running; in tuning and in streaming mode it has to be linked.  The
mode is written by the switch, by STOP_RTSP and by a failed forwarding, and
the links are changed by the switch and by START_RTSP, so the two agree for
some messages only.  This file says for which.
-/

namespace RkaiqToolServer

open StepRun

structure Agrees (s : AppState) : Prop where
  capture : s.gAppRunMode = .capture →
    s.lastLink = some { enable := false, succeeded := true } ∧
      s.rtspRunning = false
  linked : s.gAppRunMode = .tunring ∨ s.gAppRunMode = .streaming →
    s.lastLink = some { enable := true, succeeded := true }

theorem agrees_of_init {s : AppState} (hmode : s.gAppRunMode = .init) :
    Agrees s := by
  constructor <;> simp [hmode]

/-! ## The mode switch -/

def SwitchAgrees
    (calls : ModeCalls) (s : AppState) (mode : AppRunStatus) : Prop :=
  s.gAppRunMode ≠ mode →
    match mode with
    | .init => True
    | .capture => calls.linkToIsp = true →
        s.gRtspEn = true ∨ s.rtspRunning = false
    | .tunring | .streaming =>
        s.gRtspEn = true ∨ calls.startApp = true → calls.linkToIsp = true

theorem doChangeAppMode_agrees_iff
    (calls : ModeCalls) {s : AppState} (hagrees : Agrees s)
    (mode : AppRunStatus) :
    Agrees (doChangeAppMode calls s mode).1.1 ↔
      SwitchAgrees calls s mode := by
  have hcases := doChangeAppMode_cases calls s mode
  generalize doChangeAppMode calls s mode = r at hcases ⊢
  cases hcases with
  | same hmode => simp [SwitchAgrees, hmode, hagrees]
  | refused t events hmode hcapture hcalls hinit hevents =>
      simp only [agrees_of_init hinit, true_iff]
      subst mode
      intro _ hlink
      rcases hcalls with hfailed | hrtsp
      · rw [hlink] at hfailed
        contradiction
      · exact .inl hrtsp.1
  | captured hmode hcapture hlink hstop =>
      subst mode
      constructor
      · intro h _ _
        have hrunning := (h.capture rfl).2
        cases hrtsp : s.gRtspEn with
        | true => exact .inl rfl
        | false => exact .inr (by simpa [hrtsp] using hrunning)
      · intro h
        constructor
        · intro _
          rcases h hmode hlink with hrtsp | hrunning
          · simp [hrtsp]
          · simp [hrunning]
        · simp
  | appFailed hmode hcapture hrtsp happ =>
      simp only [agrees_of_init, true_iff]
      intro _
      cases mode with
      | init => trivial
      | capture => exact absurd rfl hcapture
      | tunring => simp [hrtsp, happ]
      | streaming => simp [hrtsp, happ]
  | linked hmode hcapture happ =>
      constructor
      · intro h _
        cases mode with
        | init => trivial
        | capture => exact absurd rfl hcapture
        | tunring =>
            intro _
            simpa using h.linked (.inl rfl)
        | streaming =>
            intro _
            simpa using h.linked (.inr rfl)
      · intro h
        constructor
        · intro hmode'
          exact absurd hmode' hcapture
        · intro hlinked
          have hlink : calls.linkToIsp = true := by
            rcases hlinked with heq | heq
            · have heq : mode = .tunring := heq
              subst mode
              exact h hmode happ
            · have heq : mode = .streaming := heq
              subst mode
              exact h hmode happ
          simp [hlink]

/-! ## The check protocol -/

theorem startRTSP_state (calls : ModeCalls) (s : AppState) :
    (startRTSP calls s).1.1.gAppRunMode = s.gAppRunMode ∧
      (startRTSP calls s).1.1.lastLink =
        some { enable := true, succeeded := calls.linkToIsp } := by
  cases hlink : calls.linkToIsp <;> simp [startRTSP, linkToIsp, hlink]

/-- START_RTSP links the ISP and leaves the mode as it is. -/
theorem startRtsp_agrees_iff
    (calls : ModeCalls) (s : AppState)
    (sendCmd commonCmd : CommandData)
    (hstart : commonCmd.cmdID = cmdIdStartRtsp) :
    Agrees (handlerCheckDevice calls s sendCmd commonCmd).1 ↔
      s.gAppRunMode ≠ .capture ∧
        (s.gAppRunMode ≠ .init → calls.linkToIsp = true) := by
  have hresult : ∃ started : AppState,
      started.gAppRunMode = s.gAppRunMode ∧
      (handlerCheckDevice calls s sendCmd commonCmd).1 =
        (startRTSP calls started).1.1 := by
    by_cases harg : s.gRtspEnFromCmdarg = 1
    · refine ⟨{ s with gRtspEn := true }, rfl, ?_⟩
      simp only [handlerCheckDevice, hstart, harg, if_true]
      rfl
    · refine ⟨s, rfl, ?_⟩
      simp only [handlerCheckDevice, hstart, harg, if_false]
      rfl
  obtain ⟨started, hsame, hresult⟩ := hresult
  obtain ⟨hmode, hlink⟩ := startRTSP_state calls started
  rw [hresult]
  rw [hsame] at hmode
  constructor
  · intro h
    constructor
    · intro hcapture
      have hlast := (h.capture (hmode.trans hcapture)).1
      rw [hlink] at hlast
      simp at hlast
    · intro hinit
      cases hcase : s.gAppRunMode with
      | init => exact absurd hcase hinit
      | capture =>
          have hlast := (h.capture (hmode.trans hcase)).1
          rw [hlink] at hlast
          simp at hlast
      | tunring =>
          have hlast := h.linked (.inl (hmode.trans hcase))
          rw [hlink] at hlast
          simpa using hlast
      | streaming =>
          have hlast := h.linked (.inr (hmode.trans hcase))
          rw [hlink] at hlast
          simpa using hlast
  · rintro ⟨hcapture, hlinked⟩
    constructor
    · intro h
      exact absurd (hmode.symm.trans h) hcapture
    · intro h
      have hinit : s.gAppRunMode ≠ .init := by
        rw [← hmode]
        rcases h with h | h <;> simp [h]
      rw [hlink, hlinked hinit]

theorem handlerCheckDevice_agrees
    (calls : ModeCalls) {s : AppState} (hagrees : Agrees s)
    (sendCmd commonCmd : CommandData)
    (hstart : commonCmd.cmdID ≠ cmdIdStartRtsp) :
    Agrees (handlerCheckDevice calls s sendCmd commonCmd).1 := by
  unfold handlerCheckDevice
  by_cases hstatus : commonCmd.cmdID = cmdIdCaptureStatus
  · rw [if_pos hstatus]
    split <;> exact hagrees
  rw [if_neg hstatus]
  by_cases hget : commonCmd.cmdID = cmdIdGetStatus
  · rw [if_pos hget]
    exact hagrees
  rw [if_neg hget]
  by_cases hmode : commonCmd.cmdID = cmdIdGetMode
  · rw [if_pos hmode]
    exact hagrees
  rw [if_neg hmode, if_neg hstart]
  by_cases hstop : commonCmd.cmdID = cmdIdStopRtsp
  · rw [if_pos hstop]
    exact agrees_of_init rfl
  · rw [if_neg hstop]
    exact hagrees

/-! ## All messages -/

theorem rawCapCommand_app
    (calls : HandlerCalls) (sendCmd commonCmd : CommandData)
    (s : ServerState) :
    (rawCapCommand calls sendCmd commonCmd s).1.app = s.app := by
  unfold rawCapCommand
  split
  · split <;> rfl
  · split <;> rfl

theorem handlerRawCapMessage_app
    (calls : HandlerCalls) (s : ServerState) (commonCmd : CommandData) :
    (handlerRawCapMessage calls s commonCmd).1.app =
      if commonCmd.cmdType = cmdTypeCapture then
        (doChangeAppMode calls.mode s.app .capture).1.1
      else if commonCmd.cmdType = cmdTypeStreaming then
        (doChangeAppMode calls.mode s.app .streaming).1.1
      else s.app := by
  unfold handlerRawCapMessage
  split
  · rw [andThen_fst, rawCapCommand_app]
    rfl
  · split
    · rw [andThen_fst, andThen_fst]
      split
      · rfl
      · rw [rawCapCommand_app]
        rfl
    · rfl

theorem handlerOnLineMessage_app
    (calls : HandlerCalls) (s : ServerState) (commonCmd : CommandData) :
    (handlerOnLineMessage calls s commonCmd).1.app =
      if commonCmd.cmdType = cmdTypeStreaming then
        (doChangeAppMode calls.mode s.app .tunring).1.1
      else s.app := by
  unfold handlerOnLineMessage
  split
  · rw [andThen_fst]
    split <;> rfl
  · repeat' split
    all_goals rfl

def MessageAgrees (calls : HandlerCalls) (s : ServerState)
    (buffer : List UInt8) : Prop :=
  let commonCmd := CommandData.ofBuffer buffer
  match handlerFor buffer with
  | .rawCapture => calls.ispOnline = false →
      (commonCmd.cmdType = cmdTypeCapture →
        SwitchAgrees calls.mode s.app .capture) ∧
      (commonCmd.cmdType = cmdTypeStreaming →
        SwitchAgrees calls.mode s.app .streaming)
  | .onLine => commonCmd.cmdType = cmdTypeStreaming →
      SwitchAgrees calls.mode s.app .tunring
  | .checkDevice => commonCmd.cmdID = cmdIdStartRtsp →
      s.app.gAppRunMode ≠ .capture ∧
        (s.app.gAppRunMode ≠ .init → calls.mode.linkToIsp = true)
  | .receiveFile | .offlineRaw => True
  | .forward => SwitchAgrees calls.mode s.app .tunring ∨
      ForwardFails s.client calls.errno calls.forward

def InputAgrees (s : ServerState) : ServerInput → Prop
  | .message calls buffer => MessageAgrees calls s buffer
  | .offlineSend _ _ _ => True

theorem forward_agrees_iff
    (calls : HandlerCalls) {s : ServerState} (hagrees : Agrees s.app)
    (buffer : List UInt8) :
    Agrees (if (doChangeAppMode calls.mode s.app .tunring).2 then
        andThen (switchMode calls s .tunring) (forwardMessage calls buffer)
      else switchMode calls s .tunring).1.app ↔
      SwitchAgrees calls.mode s.app .tunring ∨
        ForwardFails s.client calls.errno calls.forward := by
  have hswitch := doChangeAppMode_agrees_iff calls.mode hagrees .tunring
  have hreset := messageForward_resetMode_iff s.client calls.errno
    calls.isRecvRunning buffer calls.forward
  by_cases hok : (doChangeAppMode calls.mode s.app .tunring).2 = true
  · rw [if_pos hok, andThen_fst]
    by_cases hfails : ForwardFails s.client calls.errno calls.forward
    · simp only [hfails, or_true, iff_true]
      apply agrees_of_init
      simp only [forwardMessage, switchMode, hreset.mpr hfails, if_true]
    · simp only [hfails, or_false, ← hswitch, forwardMessage, switchMode,
        hreset, if_false]
  · rw [if_neg hok]
    have hcases := doChangeAppMode_cases calls.mode s.app .tunring
    have hinit : Agrees (doChangeAppMode calls.mode s.app .tunring).1.1 := by
      generalize doChangeAppMode calls.mode s.app .tunring = r
        at hcases hok ⊢
      cases hcases with
      | same => exact absurd rfl hok
      | refused t events hmode hcapture hcalls hinit hevents =>
          exact agrees_of_init hinit
      | captured => exact absurd rfl hok
      | appFailed => exact agrees_of_init rfl
      | linked => exact absurd rfl hok
    simp only [hswitch.mp hinit, true_or, iff_true]
    exact hinit

theorem serverStep_agrees_iff
    {s : ServerState} (hagrees : Agrees s.app) (input : ServerInput) :
    Agrees (next serverStep s input).app ↔ InputAgrees s input := by
  cases input with
  | offlineSend errno calls packet =>
      simp only [InputAgrees, iff_true, next, serverStep]
      split
      · exact agrees_of_init rfl
      · exact hagrees
  | message calls buffer =>
      simp only [InputAgrees, MessageAgrees, next, serverStep,
        handlerTCPMessage]
      cases handlerFor buffer with
      | rawCapture =>
          cases honline : calls.ispOnline with
          | true => simp [hagrees]
          | false =>
              simp only [Bool.false_eq_true, if_false, true_implies,
                handlerRawCapMessage_app]
              have hdistinct : cmdTypeStreaming ≠ cmdTypeCapture := by decide
              by_cases hcapture :
                  (CommandData.ofBuffer buffer).cmdType = cmdTypeCapture
              · simp only [hcapture, hdistinct.symm, if_true, true_implies,
                  false_implies, and_true]
                exact doChangeAppMode_agrees_iff calls.mode hagrees .capture
              · by_cases hstream :
                    (CommandData.ofBuffer buffer).cmdType = cmdTypeStreaming
                · simp only [hstream, hdistinct, if_true, if_false,
                    true_implies, false_implies, true_and]
                  exact doChangeAppMode_agrees_iff calls.mode hagrees
                    .streaming
                · simp [hcapture, hstream, hagrees]
      | onLine =>
          simp only [handlerOnLineMessage_app]
          by_cases hstream :
              (CommandData.ofBuffer buffer).cmdType = cmdTypeStreaming
          · simp only [hstream, if_true, true_implies]
            exact doChangeAppMode_agrees_iff calls.mode hagrees .tunring
          · simp [hstream, hagrees]
      | checkDevice =>
          by_cases hstart :
              (CommandData.ofBuffer buffer).cmdID = cmdIdStartRtsp
          · simp only [hstart, true_implies]
            exact startRtsp_agrees_iff calls.mode s.app calls.sendCmd _ hstart
          · simp only [hstart, false_implies, iff_true]
            exact handlerCheckDevice_agrees calls.mode hagrees calls.sendCmd _
              hstart
      | receiveFile => simp [hagrees]
      | offlineRaw => simp [hagrees]
      | forward => exact forward_agrees_iff calls hagrees buffer

/-! ## Runs from the start of the program -/

def bootMode (gRtspEnFromCmdarg : ℤ) (streamDev : Option Bool) :
    AppRunStatus :=
  if streamDev = some true ∧ gRtspEnFromCmdarg = 1 then .streaming
  else .tunring

/-- When the first mode switch of `main` leaves an agreeing state: it is not
skipped, and it links the ISP unless the application cannot be started. -/
def BootAgrees (calls : ModeCalls) (mode : AppRunStatus)
    (gRtspEnFromCmdarg : ℤ) (streamDev : Option Bool) : Prop :=
  mode ≠ bootMode gRtspEnFromCmdarg streamDev ∧
    ((streamDev = some true ∧ gRtspEnFromCmdarg = 1) ∨
        calls.startApp = true →
      calls.linkToIsp = true)

theorem boot_agrees_iff
    (calls : ModeCalls) (mode : AppRunStatus) (gRtspEnFromCmdarg : ℤ)
    (streamDev : Option Bool) :
    Agrees (boot calls mode gRtspEnFromCmdarg streamDev) ↔
      BootAgrees calls mode gRtspEnFromCmdarg streamDev := by
  let s := AppState.initial mode gRtspEnFromCmdarg streamDev
  let target := bootMode gRtspEnFromCmdarg streamDev
  have hrtsp : s.gRtspEn = true ↔
      streamDev = some true ∧ gRtspEnFromCmdarg = 1 := by
    simp [s, AppState.initial]
  have hlinked : target = .tunring ∨ target = .streaming := by
    simp only [target, bootMode]
    split <;> simp
  have hboot : boot calls mode gRtspEnFromCmdarg streamDev =
      (doChangeAppMode calls s target).1.1 := by
    simp only [boot, target, bootMode, ← hrtsp, s]
  have hcases := doChangeAppMode_cases calls s target
  rw [hboot, BootAgrees, ← hrtsp]
  generalize doChangeAppMode calls s target = r at hcases ⊢
  cases hcases with
  | same hmode =>
      constructor
      · intro h
        have htarget : s.gAppRunMode = .tunring ∨
            s.gAppRunMode = .streaming := by rwa [hmode]
        have hlast := h.linked htarget
        simp [s, AppState.initial] at hlast
      · intro h
        exact absurd hmode h.1
  | refused t events hmode hcapture hcalls hinit hevents =>
      rw [hcapture] at hlinked
      simp at hlinked
  | captured hmode hcapture hlink hstop =>
      rw [hcapture] at hlinked
      simp at hlinked
  | appFailed hmode hcapture hoff happ =>
      constructor
      · intro _
        exact ⟨hmode, by simp [hoff, happ]⟩
      · intro _
        exact agrees_of_init rfl
  | linked hmode hcapture happ =>
      constructor
      · intro h
        refine ⟨hmode, ?_⟩
        intro _
        simpa using h.linked hlinked
      · intro h
        constructor
        · intro hcaptured
          exact absurd hcaptured hcapture
        · intro _
          simp [h.2 happ]

/-- Mode and links agree in every state of a run exactly when the program
starts with them in agreement and every input keeps it. -/
theorem agrees_iff_inputsAgree
    (calls : ModeCalls) (mode : AppRunStatus) (gRtspEnFromCmdarg : ℤ)
    (streamDev : Option Bool) (hdrMode : UInt32) (client : DomainTCPClient)
    (inputs : List ServerInput) :
    let s := ServerState.boot calls mode gRtspEnFromCmdarg streamDev hdrMode
      client
    States (next serverStep) (fun s => Agrees s.app) s inputs ↔
      BootAgrees calls mode gRtspEnFromCmdarg streamDev ∧
        Steps (next serverStep) InputAgrees s inputs := by
  intro s
  have hboot : Agrees s.app ↔
      BootAgrees calls mode gRtspEnFromCmdarg streamDev :=
    boot_agrees_iff calls mode gRtspEnFromCmdarg streamDev
  have hruns : Agrees s.app →
      (States (next serverStep) (fun s => Agrees s.app) s inputs ↔
        Steps (next serverStep) InputAgrees s inputs) := by
    intro hagrees
    exact states_iff_steps (fun s : ServerState => Agrees s.app)
      (fun _ h => h)
      (fun _ input h hinput => (serverStep_agrees_iff h input).mpr hinput)
      (fun _ input h hafter => (serverStep_agrees_iff h input).mp hafter)
      hagrees
  constructor
  · intro h
    exact ⟨hboot.mp h.head, (hruns h.head).mp h⟩
  · rintro ⟨hstart, hsteps⟩
    exact (hruns (hboot.mpr hstart)).mpr hsteps

/-! ## A run that breaks the agreement -/

def checkRequest (cmdId : UInt16) : CommandData :=
  { zeroCommand with rkid := strncpy8 rkidCheck, cmdID := cmdId }

/-- START_RTSP during a raw capture links the ISP and leaves the mode at
CAPTURE. -/
theorem startRtsp_in_capture_disagrees :
    ¬ States (next serverStep) (fun s => Agrees s.app)
      (ServerState.boot workingModeCalls .init 1 none noHdr { sock := -1 })
      [.message workingCalls (setParamRequest 1 captureNormal).toBuffer,
        .message workingCalls (checkRequest cmdIdStartRtsp).toBuffer] := by
  rintro ⟨-, -, hlast⟩
  have hcapture := (hlast.capture (by decide)).1
  revert hcapture
  decide

end RkaiqToolServer
