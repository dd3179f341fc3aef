import RkaiqToolServer.CommandData
import RkaiqToolServer.StepRun

/-!
# The application mode

`g_app_run_mode` says what the camera is used for, and switching it links the
sensor to the ISP or cuts it off.  This file models the mode switch, the RTSP
commands of the check protocol and the start of the program.  Every call to
the media library is published with its outcome; whether an RTSP pipeline runs
is kept with the state.
-/

namespace RkaiqToolServer

open StepRun

inductive AppRunStatus
  | init
  | tunring
  | capture
  | streaming
  deriving DecidableEq

def AppRunStatus.toByte : AppRunStatus → UInt8
  | .init => 0xff
  | .tunring => 0
  | .capture => 1
  | .streaming => 2

structure Link where
  enable : Bool
  succeeded : Bool
  deriving DecidableEq

/-- `lastLink` is the last `LinkToIsp` call, `rtspRunning` whether the flows
of `init_rtsp` exist. -/
structure AppState where
  gAppRunMode : AppRunStatus
  gRtspEn : Bool
  gRtspEnFromCmdarg : ℤ
  lastLink : Option Link
  rtspRunning : Bool
  deriving DecidableEq

/-- What the calls behind a mode switch or an RTSP command return; `true` is
success.  A failed `init_rtsp` may leave flows behind. -/
structure ModeCalls where
  stopRTSP : Bool
  linkToIsp : Bool
  startApp : Bool
  initRtsp : Bool
  flowsLeft : Bool

inductive AppEvent
  | linkToIsp (link : Link)
  | reply (cmd : CommandData)
  deriving DecidableEq

def linkToIsp (s : AppState) (enable succeeded : Bool) :
    AppState × List AppEvent :=
  let link : Link := { enable := enable, succeeded := succeeded }
  ({ s with lastLink := some link }, [.linkToIsp link])

/-- `StopRTSP`: whatever it returns, the flows are gone. -/
def stopRTSP (s : AppState) : AppState :=
  { s with rtspRunning := false }

/-- `StartRTSP` and whether it returned zero; `init_rtsp` begins by removing
the flows there are. -/
def startRTSP (calls : ModeCalls) (s : AppState) :
    (AppState × List AppEvent) × Bool :=
  let linked := linkToIsp s true calls.linkToIsp
  if calls.linkToIsp = false then (linked, false)
  else
    (({ linked.1 with rtspRunning := calls.initRtsp || calls.flowsLeft },
      linked.2), calls.initRtsp)

/-- `DoChangeAppMode` and whether it returned zero. -/
def doChangeAppMode (calls : ModeCalls) (s : AppState)
    (mode : AppRunStatus) : (AppState × List AppEvent) × Bool :=
  if s.gAppRunMode = mode then ((s, []), true)
  else if mode = .capture then
    let s := if s.gRtspEn then stopRTSP s else s
    if s.gRtspEn && !calls.stopRTSP then
      (({ s with gAppRunMode := .init }, []), false)
    else
      let linked := linkToIsp s false calls.linkToIsp
      if calls.linkToIsp = false then
        (({ linked.1 with gAppRunMode := .init }, linked.2), false)
      else (({ linked.1 with gAppRunMode := mode }, linked.2), true)
  else
    let linked := linkToIsp s true calls.linkToIsp
    -- a failed link resets the mode, but the return after it is commented out
    let s := if calls.linkToIsp = false then
      { linked.1 with gAppRunMode := .init } else linked.1
    if !s.gRtspEn && !calls.startApp then
      (({ s with gAppRunMode := .init }, linked.2), false)
    else (({ s with gAppRunMode := mode }, linked.2), true)

inductive ModeSwitch (calls : ModeCalls) (s : AppState)
    (mode : AppRunStatus) : (AppState × List AppEvent) × Bool → Prop
  | same (hmode : s.gAppRunMode = mode) :
      ModeSwitch calls s mode ((s, []), true)
  | refused (t : AppState) (events : List AppEvent)
      (hmode : s.gAppRunMode ≠ mode) (hcapture : mode = .capture)
      (hcalls : calls.linkToIsp = false ∨
        s.gRtspEn = true ∧ calls.stopRTSP = false)
      (hinit : t.gAppRunMode = .init)
      (hevents : ∀ event ∈ events, event =
        .linkToIsp { enable := false, succeeded := calls.linkToIsp }) :
      ModeSwitch calls s mode ((t, events), false)
  | captured (hmode : s.gAppRunMode ≠ mode) (hcapture : mode = .capture)
      (hlink : calls.linkToIsp = true)
      (hstop : s.gRtspEn = true → calls.stopRTSP = true) :
      ModeSwitch calls s mode
        (({ s with
            gAppRunMode := mode
            lastLink := some { enable := false, succeeded := true }
            rtspRunning := s.rtspRunning && !s.gRtspEn },
          [.linkToIsp { enable := false, succeeded := true }]), true)
  | appFailed (hmode : s.gAppRunMode ≠ mode) (hcapture : mode ≠ .capture)
      (hrtsp : s.gRtspEn = false) (happ : calls.startApp = false) :
      ModeSwitch calls s mode
        (({ s with
            gAppRunMode := .init
            lastLink :=
              some { enable := true, succeeded := calls.linkToIsp } },
          [.linkToIsp { enable := true, succeeded := calls.linkToIsp }]),
          false)
  | linked (hmode : s.gAppRunMode ≠ mode) (hcapture : mode ≠ .capture)
      (happ : s.gRtspEn = true ∨ calls.startApp = true) :
      ModeSwitch calls s mode
        (({ s with
            gAppRunMode := mode
            lastLink :=
              some { enable := true, succeeded := calls.linkToIsp } },
          [.linkToIsp { enable := true, succeeded := calls.linkToIsp }]),
          true)

theorem doChangeAppMode_cases
    (calls : ModeCalls) (s : AppState) (mode : AppRunStatus) :
    ModeSwitch calls s mode (doChangeAppMode calls s mode) := by
  by_cases hmode : s.gAppRunMode = mode
  · rw [doChangeAppMode, if_pos hmode]
    exact .same hmode
  by_cases hcapture : mode = .capture
  · subst mode
    by_cases hstopped : s.gRtspEn = true ∧ calls.stopRTSP = false
    · have hresult : doChangeAppMode calls s .capture =
          (({ stopRTSP s with gAppRunMode := .init }, []), false) := by
        simp [doChangeAppMode, hmode, hstopped, stopRTSP]
      rw [hresult]
      exact .refused _ _ hmode rfl (.inr hstopped) rfl (by simp)
    have hstop : s.gRtspEn = true → calls.stopRTSP = true := by
      simpa using hstopped
    cases hlink : calls.linkToIsp with
    | false =>
        have hresult : ∃ t : AppState, t.gAppRunMode = .init ∧
            doChangeAppMode calls s .capture =
              ((t, [.linkToIsp { enable := false, succeeded := false }]),
                false) := by
          cases hrtsp : s.gRtspEn <;>
            simp_all [doChangeAppMode, linkToIsp, stopRTSP]
        obtain ⟨t, hinit, hresult⟩ := hresult
        rw [hresult]
        exact .refused t _ hmode rfl (.inl hlink) hinit (by simp [hlink])
    | true =>
        have hresult : doChangeAppMode calls s .capture =
            (({ s with
                gAppRunMode := .capture
                lastLink := some { enable := false, succeeded := true }
                rtspRunning := s.rtspRunning && !s.gRtspEn },
              [.linkToIsp { enable := false, succeeded := true }]),
              true) := by
          cases hrtsp : s.gRtspEn <;>
            simp_all [doChangeAppMode, linkToIsp, stopRTSP]
        rw [hresult]
        exact .captured hmode rfl hlink hstop
  · by_cases happ : s.gRtspEn = true ∨ calls.startApp = true
    · have hresult : doChangeAppMode calls s mode =
          (({ s with
              gAppRunMode := mode
              lastLink :=
                some { enable := true, succeeded := calls.linkToIsp } },
            [.linkToIsp { enable := true, succeeded := calls.linkToIsp }]),
            true) := by
        have hgo : ¬ (s.gRtspEn = false ∧ calls.startApp = false) := by
          rcases happ with h | h <;> simp [h]
        cases hlink : calls.linkToIsp <;>
          simp [doChangeAppMode, hmode, hcapture, hgo, linkToIsp, hlink]
      rw [hresult]
      exact .linked hmode hcapture happ
    · simp only [not_or, Bool.not_eq_true] at happ
      have hresult : doChangeAppMode calls s mode =
          (({ s with
              gAppRunMode := .init
              lastLink :=
                some { enable := true, succeeded := calls.linkToIsp } },
            [.linkToIsp { enable := true, succeeded := calls.linkToIsp }]),
            false) := by
        cases hlink : calls.linkToIsp <;>
          simp [doChangeAppMode, hmode, hcapture, happ, linkToIsp, hlink]
      rw [hresult]
      exact .appFailed hmode hcapture happ.1 happ.2

/-! ## The check protocol -/

def rkaiqToolVersion : List UInt8 := ByteCodec.ascii "v0.0.1"

def doAnswerAs (cmdType : UInt16) (cmd : CommandData) (cmdId : UInt16)
    (retStatus : UInt8) : CommandData :=
  { cmd with
    rkid := strncpy8 rkidIspOn
    cmdType := cmdType
    cmdID := cmdId
    version := strncpy8 rkaiqToolVersion
    datLen := 4
    dat := datOf [retStatus] }.withCheckSum

def doAnswer (cmd : CommandData) (cmdId : UInt16) (retStatus : UInt8) :
    CommandData :=
  doAnswerAs deviceToPc cmd cmdId retStatus

def initCommandPingAnsAs (tag : List UInt8) (cmd : CommandData)
    (retStatus : UInt8) : CommandData :=
  { cmd with
    rkid := strncpy8 tag
    cmdType := deviceToPc
    cmdID := cmdIdCaptureStatus
    datLen := 1
    dat := datOf [retStatus] }.withCheckSum

def initCommandPingAns (cmd : CommandData) (retStatus : UInt8) :
    CommandData :=
  initCommandPingAnsAs rkidCheck cmd retStatus

/-- `HandlerCheckDevice` after the comparison of the tag.  `sendCmd` is what
the local reply record held before. -/
def handlerCheckDevice (calls : ModeCalls) (s : AppState)
    (sendCmd commonCmd : CommandData) : AppState × List AppEvent :=
  let answer := fun s : AppState =>
    (s, [.reply (doAnswer sendCmd commonCmd.cmdID s.gAppRunMode.toByte)])
  if commonCmd.cmdID = cmdIdCaptureStatus then
    if commonCmd.datAt 0 = knockKnock then
      (s, [.reply (initCommandPingAns sendCmd ready)])
    else (s, [.reply sendCmd])
  else if commonCmd.cmdID = cmdIdGetStatus then
    (s, [.reply (doAnswer sendCmd commonCmd.cmdID ready)])
  else if commonCmd.cmdID = cmdIdGetMode then answer s
  else if commonCmd.cmdID = cmdIdStartRtsp then
    let s := if s.gRtspEnFromCmdarg = 1 then { s with gRtspEn := true } else s
    andThen (startRTSP calls s).1 answer
  else if commonCmd.cmdID = cmdIdStopRtsp then
    let s := if s.gRtspEnFromCmdarg = 1 then
      { s with gRtspEn := false } else s
    answer { stopRTSP s with gAppRunMode := .init }
  else (s, [])

/-! ## The start of the program -/

/-- The state in which `main` chooses the first mode.  `streamDev` is whether
the streaming device given on the command line can be accessed, `none` when
none is given. -/
def AppState.initial (mode : AppRunStatus) (gRtspEnFromCmdarg : ℤ)
    (streamDev : Option Bool) : AppState where
  gAppRunMode := mode
  gRtspEn := decide (streamDev = some true ∧ gRtspEnFromCmdarg = 1)
  gRtspEnFromCmdarg := gRtspEnFromCmdarg
  lastLink := none
  rtspRunning := false

def boot (calls : ModeCalls) (mode : AppRunStatus) (gRtspEnFromCmdarg : ℤ)
    (streamDev : Option Bool) : AppState :=
  let s := AppState.initial mode gRtspEnFromCmdarg streamDev
  (doChangeAppMode calls s
    (if s.gRtspEn then .streaming else .tunring)).1.1

end RkaiqToolServer
