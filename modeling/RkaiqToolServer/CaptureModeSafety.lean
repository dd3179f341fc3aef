import RkaiqToolServer.ServerControl

/-!
# Raw capture against the application mode

Frames may be captured in capture mode only, and while a capture device is
open nothing may link the sensor back to the ISP.  A capture extends over
several commands and the mode may be switched between any two of them, so
both requirements are about runs of the whole dispatcher.
-/

namespace RkaiqToolServer

open StepRun
open EventOrder

/-! ## The requirement -/

/-- Open from a `StartCapture` to its `StopCapture`. -/
def openCapture : Gate ServerEvent where
  opens := fun event =>
    match event with
    | .capture _ event => captureGate.opens event
    | _ => false
  closes := fun event =>
    match event with
    | .capture _ event => captureGate.closes event
    | _ => false

def ServerEvent.linksIsp : ServerEvent → Bool
  | .app (.linkToIsp link) => link.enable
  | _ => false

def CaptureEvent.usesCamera : CaptureEvent → Bool
  | .startCapture => true
  | event => event.isRead

structure CaptureSafe (opened : Bool) (trace : List ServerEvent) :
    Prop where
  mode : ∀ mode event, .capture mode event ∈ trace →
    event.usesCamera = true → mode = .capture
  links : openCapture.Outside ServerEvent.linksIsp opened trace

theorem captureSafe_nil (opened : Bool) : CaptureSafe opened [] := by
  constructor
  · simp
  · trivial

theorem captureSafe_append
    (opened : Bool) (before later : List ServerEvent) :
    CaptureSafe opened (before ++ later) ↔
      CaptureSafe opened before ∧
        CaptureSafe (openCapture.afterAll opened before) later := by
  constructor
  · intro h
    have hlinks := (Gate.outside_append _ _ _ _ _).mp h.links
    exact ⟨⟨fun mode event hmem =>
        h.mode mode event (List.mem_append_left later hmem), hlinks.1⟩,
      ⟨fun mode event hmem =>
        h.mode mode event (List.mem_append_right before hmem), hlinks.2⟩⟩
  · rintro ⟨hbefore, hlater⟩
    constructor
    · intro mode event hmem huses
      rcases List.mem_append.mp hmem with hmem | hmem
      · exact hbefore.mode mode event hmem huses
      · exact hlater.mode mode event hmem huses
    · exact (Gate.outside_append _ _ _ _ _).mpr ⟨hbefore.links, hlater.links⟩

/-! ## Parts of a message -/

/-- A part of the handling of a message: it leaves the gate where it leaves
the device, and it is safe exactly under `condition`. -/
structure SafePart (s : ServerState) (condition : Prop)
    (r : ServerState × List ServerEvent) : Prop where
  moves : openCapture.afterAll s.raw.buffersLive r.2 = r.1.raw.buffersLive
  safe : CaptureSafe s.raw.buffersLive r.2 ↔ condition

theorem SafePart.andThen
    {s : ServerState} {first second condition : Prop}
    {r : ServerState × List ServerEvent}
    {f : ServerState → ServerState × List ServerEvent}
    (hr : SafePart s first r) (hf : SafePart r.1 second (f r.1))
    (hcondition : condition ↔ first ∧ second) :
    SafePart s condition (StepRun.andThen r f) := by
  constructor
  · rw [andThen_snd, andThen_fst, Gate.afterAll_append, hr.moves]
    exact hf.moves
  · rw [andThen_snd, captureSafe_append, hr.moves, hr.safe, hf.safe,
      hcondition]

theorem SafePart.congr
    {s : ServerState} {condition other : Prop}
    {r : ServerState × List ServerEvent}
    (h : SafePart s condition r) (hcondition : other ↔ condition) :
    SafePart s other r :=
  ⟨h.moves, h.safe.trans hcondition.symm⟩

theorem safePart_of_app
    (s : ServerState) {r : ServerState × List ServerEvent}
    (hraw : r.1.raw = s.raw)
    (hevents : ∀ event ∈ r.2, ∀ mode inner, event ≠ .capture mode inner) :
    SafePart s ((∃ event ∈ r.2, event.linksIsp = true) →
      s.raw.buffersLive = false) r := by
  have hstill : openCapture.Still r.2 := by
    intro event hmem
    cases event with
    | app event => exact ⟨rfl, rfl⟩
    | capture mode inner => exact absurd rfl (hevents _ hmem mode inner)
    | handed bytes => exact ⟨rfl, rfl⟩
  constructor
  · rw [hstill.afterAll_eq, hraw]
  · rw [← hstill.outside_iff]
    constructor
    · intro h
      exact h.links
    · intro h
      refine ⟨?_, h⟩
      intro mode inner hmem
      exact absurd rfl (hevents _ hmem mode inner)

theorem safePart_quiet
    (s : ServerState) {r : ServerState × List ServerEvent}
    (hraw : r.1.raw = s.raw)
    (hevents : ∀ event ∈ r.2, (∃ cmd, event = .app (.reply cmd)) ∨
      ∃ bytes, event = .handed bytes) :
    SafePart s True r := by
  have happ : ∀ event ∈ r.2, ∀ mode inner, event ≠ .capture mode inner := by
    intro event hmem mode inner
    rcases hevents event hmem with ⟨cmd, rfl⟩ | ⟨bytes, rfl⟩ <;> simp
  apply (safePart_of_app s hraw happ).congr
  simp only [true_iff]
  rintro ⟨event, hmem, hlinks⟩
  rcases hevents event hmem with ⟨cmd, rfl⟩ | ⟨bytes, rfl⟩ <;>
    simp [ServerEvent.linksIsp] at hlinks

/-- A switch links the ISP when it leaves the current mode for a mode other
than capture. -/
def SwitchSafe (s : ServerState) (mode : AppRunStatus) : Prop :=
  mode ≠ .capture → s.app.gAppRunMode ≠ mode → s.raw.buffersLive = false

theorem doChangeAppMode_links_iff
    (calls : ModeCalls) (s : AppState) (mode : AppRunStatus) :
    (∃ event ∈ (doChangeAppMode calls s mode).1.2,
        ServerEvent.linksIsp (.app event) = true) ↔
      mode ≠ .capture ∧ s.gAppRunMode ≠ mode := by
  have hcases := doChangeAppMode_cases calls s mode
  generalize doChangeAppMode calls s mode = r at hcases ⊢
  cases hcases with
  | same hmode => simp [hmode]
  | refused t events hmode hcapture hcalls hinit hevents =>
      simp only [hcapture, ne_eq, not_true_eq_false, false_and, iff_false]
      rintro ⟨event, hmem, hlinks⟩
      rw [hevents event hmem] at hlinks
      simp [ServerEvent.linksIsp] at hlinks
  | captured hmode hcapture hlink hstop =>
      simp [hcapture, ServerEvent.linksIsp]
  | appFailed hmode hcapture hrtsp happ =>
      simp [hmode, hcapture, ServerEvent.linksIsp]
  | linked hmode hcapture happ =>
      simp [hmode, hcapture, ServerEvent.linksIsp]

theorem switchMode_safe
    (calls : HandlerCalls) (s : ServerState) (mode : AppRunStatus) :
    SafePart s (SwitchSafe s mode) (switchMode calls s mode) := by
  have happ : ∀ event ∈ (switchMode calls s mode).2, ∀ other inner,
      event ≠ .capture other inner := by
    intro event hmem other inner
    simp only [switchMode, List.mem_map] at hmem
    obtain ⟨event', -, rfl⟩ := hmem
    simp
  apply (safePart_of_app s rfl happ).congr
  have hlinks := doChangeAppMode_links_iff calls.mode s.app mode
  simp only [switchMode, List.mem_map, SwitchSafe]
  constructor
  · rintro h ⟨_, ⟨event, hmem, rfl⟩, hlinked⟩
    obtain ⟨hcapture, hmode⟩ := hlinks.mp ⟨event, hmem, hlinked⟩
    exact h hcapture hmode
  · intro h hcapture hmode
    obtain ⟨event, hmem, hlinked⟩ := hlinks.mpr ⟨hcapture, hmode⟩
    exact h ⟨_, ⟨event, hmem, rfl⟩, hlinked⟩

/-! ## The capture sub-commands -/

theorem openDevice_uses_iff (dev : Device) (s : RawState) :
    (∃ event ∈ (openDevice dev s).2, event.usesCamera = true) ↔
      s.captureFramesIndex = 0 := by
  unfold openDevice
  by_cases hindex : s.captureFramesIndex = 0
  · rw [if_pos hindex, startCapture_events]
    simp [hindex, CaptureEvent.usesCamera]
  · rw [if_neg hindex]
    simp [hindex]

theorem stopCapture_uses_nothing (s : RawState) :
    ∀ event ∈ (stopCapture s).2, event.usesCamera = false := by
  rw [stopCapture_events]
  split <;> simp [CaptureEvent.usesCamera, CaptureEvent.isRead]

theorem rawCaputure_uses_iff (dev : Device) (s : RawState) :
    (∃ event ∈ (rawCaputure dev s).2, event.usesCamera = true) ↔
      Captures s := by
  have hopened := openDevice_opened dev s
  have hcaptured := captureFrames_capturing dev (openDevice dev s).1
  have hsame : Captures (openDevice dev s).1 ↔ Captures s := by
    rw [Captures, Captures, hopened.index, hopened.mode, hopened.frames]
  have hreads := captureFrames_reads_iff dev (openDevice dev s).1
  rw [rawCaputure_phases]
  constructor
  · rintro ⟨event, hmem, huses⟩
    rw [andThen_snd, andThen_snd, List.mem_append, List.mem_append] at hmem
    rcases hmem with (hmem | hmem) | hmem
    · exact .inl ((openDevice_uses_iff dev s).mp ⟨event, hmem, huses⟩)
    · have hkept := hcaptured.keeps event hmem
      have hread : event.isRead = true := by
        cases event <;> simp_all [CaptureEvent.usesCamera,
          CaptureEvent.keepsDevice]
      exact hsame.mp (hreads.mp ⟨event, hmem, hread⟩)
    · unfold closeDevice at hmem
      split at hmem
      · rw [stopCapture_uses_nothing _ event hmem] at huses
        contradiction
      · simp at hmem
  · intro hcaptures
    obtain ⟨event, hmem, hread⟩ := hreads.mpr (hsame.mpr hcaptures)
    refine ⟨event, ?_, ?_⟩
    · rw [andThen_snd, andThen_snd, List.mem_append, List.mem_append]
      exact .inl (.inr hmem)
    · cases event <;> simp_all [CaptureEvent.usesCamera, CaptureEvent.isRead]

theorem rawCaptureCase_uses_iff
    (dev : Device) (s : RawState) (sendCmd commonCmd : CommandData) :
    (∃ event ∈ (rawCaptureCase dev s sendCmd commonCmd).2,
        event.usesCamera = true) ↔
      commonCmd.datAt 0 = dataIdCaptureRawStart ∧ Captures s := by
  have hcases := rawCaptureCase_cases dev s sendCmd commonCmd
  have hdistinct : dataIdCaptureRawChecksum ≠ dataIdCaptureRawStart := by
    decide
  generalize rawCaptureCase dev s sendCmd commonCmd = r at hcases ⊢
  cases hcases with
  | start hstart =>
      rw [andThen_snd, List.append_nil, rawCaputure_uses_iff]
      simp only [hstart, true_and]
      rfl
  | mismatch cmd hchecksum hsum =>
      simp only [hchecksum, hdistinct, false_and, iff_false]
      rintro ⟨event, hmem, huses⟩
      rw [andThen_snd, List.mem_append, List.mem_singleton] at hmem
      rcases hmem with hmem | rfl
      · rw [stopCapture_uses_nothing s event hmem] at huses
        contradiction
      · simp [CaptureEvent.usesCamera, CaptureEvent.isRead] at huses
  | answered r hstart hsum hanswered =>
      simp only [hstart, false_and, iff_false]
      rintro ⟨event, hmem, huses⟩
      have hanswer := hanswered.answers event hmem
      cases event <;> simp_all [CaptureEvent.isAnswer,
        CaptureEvent.usesCamera, CaptureEvent.isRead]

def StartsCapture (commonCmd : CommandData) (s : RawState) : Prop :=
  commonCmd.cmdID = cmdIdCaptureRawCapture ∧
    commonCmd.datAt 0 = dataIdCaptureRawStart ∧ Captures s

theorem rawCapCommand_safe
    (calls : HandlerCalls) (sendCmd commonCmd : CommandData)
    (s : ServerState) :
    SafePart s (StartsCapture commonCmd s.raw →
        s.app.gAppRunMode = .capture)
      (rawCapCommand calls sendCmd commonCmd s) := by
  have hdistinct : cmdIdCaptureStatus ≠ cmdIdCaptureRawCapture := by decide
  unfold rawCapCommand
  by_cases hstatus : commonCmd.cmdID = cmdIdCaptureStatus
  · have hnot : ¬ StartsCapture commonCmd s.raw := by
      rintro ⟨hraw, -⟩
      exact hdistinct (hstatus.symm.trans hraw)
    rw [if_pos hstatus]
    have hcondition : (StartsCapture commonCmd s.raw →
        s.app.gAppRunMode = .capture) ↔ True := by simp [hnot]
    split
    · exact (safePart_quiet s rfl (by simp)).congr hcondition
    · exact (safePart_quiet s rfl (by simp)).congr hcondition
  rw [if_neg hstatus]
  by_cases hraw : commonCmd.cmdID = cmdIdCaptureRawCapture
  · rw [if_pos hraw]
    have huses := rawCaptureCase_uses_iff calls.dev s.raw sendCmd commonCmd
    have hmoves := rawStep_moves s.raw
      { dev := calls.dev, sendCmd := sendCmd, commonCmd := commonCmd }
      captureGate captureGate_mem
    constructor
    · have hmap := Gate.afterAll_map openCapture captureGate
        (ServerEvent.capture s.app.gAppRunMode) (fun _ => rfl) (fun _ => rfl)
        s.raw.buffersLive
        (rawCaptureCase calls.dev s.raw sendCmd commonCmd).2
      rw [hmap]
      exact hmoves
    · simp only [StartsCapture, hraw, true_and, ← huses]
      constructor
      · rintro h ⟨event, hmem, hevent⟩
        exact h.mode _ event (List.mem_map_of_mem hmem) hevent
      · intro h
        constructor
        · intro mode event hmem hevent
          obtain ⟨event', hmem', heq⟩ := List.mem_map.mp hmem
          simp only [ServerEvent.capture.injEq] at heq
          obtain ⟨rfl, rfl⟩ := heq
          exact h ⟨_, hmem', hevent⟩
        · apply Gate.outside_of_unselected
          intro event hmem
          obtain ⟨event', -, rfl⟩ := List.mem_map.mp hmem
          rfl
  · rw [if_neg hraw]
    have hnone : ∀ event ∈ ([] : List ServerEvent),
        (∃ cmd, event = .app (.reply cmd)) ∨
          ∃ bytes, event = .handed bytes := by simp
    apply (safePart_quiet s rfl hnone).congr
    simp [StartsCapture, hraw]

/-! ## Whole messages -/

/-- The switch to capture succeeds, or there is nothing to switch. -/
def EntersCapture (calls : ModeCalls) (s : AppState) : Prop :=
  s.gAppRunMode = .capture ∨
    calls.linkToIsp = true ∧ (s.gRtspEn = true → calls.stopRTSP = true)

theorem doChangeAppMode_capture_iff (calls : ModeCalls) (s : AppState) :
    (doChangeAppMode calls s .capture).1.1.gAppRunMode = .capture ↔
      EntersCapture calls s := by
  have hcases := doChangeAppMode_cases calls s .capture
  generalize doChangeAppMode calls s .capture = r at hcases ⊢
  cases hcases with
  | same hmode => simp [EntersCapture, hmode]
  | refused t events hmode hcapture hcalls hinit hevents =>
      simp only [hinit, EntersCapture, hmode, false_or, reduceCtorEq,
        false_iff, not_and]
      intro hlink hstop
      rcases hcalls with hfailed | ⟨hrtsp, hstopped⟩
      · simp [hlink] at hfailed
      · simp [hstop hrtsp] at hstopped
  | captured hmode hcapture hlink hstop =>
      simp only [true_iff]
      exact .inr ⟨hlink, hstop⟩
  | appFailed hmode hcapture => exact absurd rfl hcapture
  | linked hmode hcapture => exact absurd rfl hcapture

theorem doChangeAppMode_streaming_ne (calls : ModeCalls) (s : AppState) :
    (doChangeAppMode calls s .streaming).1.1.gAppRunMode ≠ .capture := by
  have hcases := doChangeAppMode_cases calls s .streaming
  generalize doChangeAppMode calls s .streaming = r at hcases ⊢
  cases hcases with
  | same hmode => simp [hmode]
  | refused t events hmode hcapture => simp at hcapture
  | captured hmode hcapture => simp at hcapture
  | appFailed => simp
  | linked => simp

theorem onLineSet_safe
    (calls : HandlerCalls) (cmd : CommandData) (cmdId : UInt16)
    (s : ServerState) : SafePart s True (s, onLineSet calls cmd cmdId) := by
  apply safePart_quiet s rfl
  intro event hmem
  simp only [onLineSet, List.mem_cons, List.not_mem_nil, or_false] at hmem
  rcases hmem with rfl | rfl <;> exact .inl ⟨_, rfl⟩

theorem safePart_unchanged (s : ServerState) : SafePart s True (s, []) :=
  safePart_quiet s rfl (by simp)

def RawMessageSafe (calls : ModeCalls) (s : ServerState)
    (commonCmd : CommandData) : Prop :=
  (commonCmd.cmdType = cmdTypeCapture → StartsCapture commonCmd s.raw →
    EntersCapture calls s.app) ∧
  (commonCmd.cmdType = cmdTypeStreaming →
    SwitchSafe s .streaming ∧ ¬ StartsCapture commonCmd s.raw)

theorem streamedCommand_safe
    (calls : HandlerCalls) (streamed commonCmd : CommandData)
    {s : ServerState} (hmode : s.app.gAppRunMode ≠ .capture) :
    SafePart s (¬ StartsCapture commonCmd s.raw)
      (if commonCmd.cmdID = 0xffff then
          (s, onLineSet calls streamed commonCmd.cmdID)
        else rawCapCommand calls streamed commonCmd s) := by
  by_cases hset : commonCmd.cmdID = 0xffff
  · rw [if_pos hset]
    apply (onLineSet_safe calls streamed commonCmd.cmdID s).congr
    have hdistinct : (0xffff : UInt16) ≠ cmdIdCaptureRawCapture := by decide
    simp [StartsCapture, hset, hdistinct]
  · rw [if_neg hset]
    apply (rawCapCommand_safe calls streamed commonCmd s).congr
    simp [hmode]

theorem handlerRawCapMessage_safe
    (calls : HandlerCalls) (s : ServerState) (commonCmd : CommandData) :
    SafePart s (RawMessageSafe calls.mode s commonCmd)
      (handlerRawCapMessage calls s commonCmd) := by
  have hdistinct : cmdTypeStreaming ≠ cmdTypeCapture := by decide
  unfold handlerRawCapMessage
  by_cases hcapture : commonCmd.cmdType = cmdTypeCapture
  · rw [if_pos hcapture]
    have hswitch := switchMode_safe calls s .capture
    have hcommand := rawCapCommand_safe calls calls.sendCmd commonCmd
      (switchMode calls s .capture).1
    refine hswitch.andThen hcommand ?_
    have henters := doChangeAppMode_capture_iff calls.mode s.app
    simp only [RawMessageSafe, hcapture, hdistinct.symm, true_implies,
      false_implies, and_true, SwitchSafe, ne_eq, not_true_eq_false,
      true_and, switchMode, henters]
  rw [if_neg hcapture]
  by_cases hstream : commonCmd.cmdType = cmdTypeStreaming
  · rw [if_pos hstream]
    have hswitch := switchMode_safe calls s .streaming
    have hmode := doChangeAppMode_streaming_ne calls.mode s.app
    have hanswer : SafePart (switchMode calls s .streaming).1 True
        ((switchMode calls s .streaming).1,
          [.app (.reply (initCommandStreamingAns calls.sendCmd
            resSuccess))]) :=
      safePart_quiet _ rfl (by simp)
    have hcommand : SafePart (switchMode calls s .streaming).1
        (¬ StartsCapture commonCmd s.raw) _ :=
      streamedCommand_safe calls
        (initCommandStreamingAns calls.sendCmd resSuccess) commonCmd hmode
    have hcondition : RawMessageSafe calls.mode s commonCmd ↔
        SwitchSafe s .streaming ∧ ¬ StartsCapture commonCmd s.raw := by
      simp only [RawMessageSafe, hstream, hdistinct, false_implies, true_and,
        true_implies]
    refine hswitch.andThen ?_ hcondition
    refine hanswer.andThen ?_ (true_and _).symm.to_iff
    exact hcommand
  · rw [if_neg hstream]
    apply (safePart_unchanged s).congr
    simp [RawMessageSafe, hcapture, hstream]

theorem handlerOnLineMessage_safe
    (calls : HandlerCalls) (s : ServerState) (commonCmd : CommandData) :
    SafePart s (commonCmd.cmdType = cmdTypeStreaming → SwitchSafe s .tunring)
      (handlerOnLineMessage calls s commonCmd) := by
  unfold handlerOnLineMessage
  by_cases hstream : commonCmd.cmdType = cmdTypeStreaming
  · simp only [hstream, if_true, true_implies]
    have hswitch := switchMode_safe calls s .tunring
    refine hswitch.andThen ?_ (and_true _).symm.to_iff
    split
    · exact onLineSet_safe calls _ _ _
    · exact safePart_unchanged _
  · simp only [hstream, if_false, false_implies]
    split
    · exact safePart_quiet s rfl (by simp)
    split
    · exact onLineSet_safe calls _ _ s
    split
    · exact safePart_quiet s rfl (by simp)
    · exact safePart_unchanged s

theorem handlerCheckDevice_links_iff
    (calls : ModeCalls) (s : AppState) (sendCmd commonCmd : CommandData) :
    (∃ event ∈ (handlerCheckDevice calls s sendCmd commonCmd).2,
        ServerEvent.linksIsp (.app event) = true) ↔
      commonCmd.cmdID = cmdIdStartRtsp := by
  have hstart : ∀ t : AppState, AppEvent.linkToIsp
      { enable := true, succeeded := calls.linkToIsp } ∈
        (startRTSP calls t).1.2 := by
    intro t
    cases hlink : calls.linkToIsp <;> simp [startRTSP, linkToIsp, hlink]
  unfold handlerCheckDevice
  by_cases hrtsp : commonCmd.cmdID = cmdIdStartRtsp
  · simp only [hrtsp, iff_true]
    refine ⟨_, List.mem_append_left _ (hstart _), rfl⟩
  · simp only [hrtsp, if_false, iff_false]
    rintro ⟨event, hmem, hlinks⟩
    have hreply : ∃ cmd, event = .reply cmd := by
      split at hmem
      · split at hmem <;> exact ⟨_, List.mem_singleton.mp hmem⟩
      split at hmem
      · exact ⟨_, List.mem_singleton.mp hmem⟩
      split at hmem
      · exact ⟨_, List.mem_singleton.mp hmem⟩
      split at hmem
      · exact ⟨_, List.mem_singleton.mp hmem⟩
      · simp at hmem
    obtain ⟨cmd, rfl⟩ := hreply
    simp [ServerEvent.linksIsp] at hlinks

theorem checkDevice_safe
    (calls : HandlerCalls) (s : ServerState) (commonCmd : CommandData) :
    let checked := handlerCheckDevice calls.mode s.app calls.sendCmd commonCmd
    SafePart s
      (commonCmd.cmdID = cmdIdStartRtsp → s.raw.buffersLive = false)
      ({ s with app := checked.1 }, checked.2.map .app) := by
  intro checked
  have happ : ∀ event ∈ checked.2.map ServerEvent.app, ∀ mode inner,
      event ≠ .capture mode inner := by
    intro event hmem mode inner
    obtain ⟨event', -, rfl⟩ := List.mem_map.mp hmem
    simp
  have hlinks := handlerCheckDevice_links_iff calls.mode s.app calls.sendCmd
    commonCmd
  apply (safePart_of_app s rfl happ).congr
  constructor
  · rintro h ⟨event, hmem, hlinked⟩
    obtain ⟨event', hmem', rfl⟩ := List.mem_map.mp hmem
    exact h (hlinks.mp ⟨event', hmem', hlinked⟩)
  · intro h hstart
    obtain ⟨event, hmem, hlinked⟩ := hlinks.mpr hstart
    exact h ⟨_, List.mem_map_of_mem hmem, hlinked⟩

def MessageSafe (calls : HandlerCalls) (s : ServerState)
    (buffer : List UInt8) : Prop :=
  let commonCmd := CommandData.ofBuffer buffer
  match handlerFor buffer with
  | .rawCapture => calls.ispOnline = false →
      RawMessageSafe calls.mode s commonCmd
  | .onLine => commonCmd.cmdType = cmdTypeStreaming → SwitchSafe s .tunring
  | .checkDevice =>
      commonCmd.cmdID = cmdIdStartRtsp → s.raw.buffersLive = false
  | .receiveFile | .offlineRaw => True
  | .forward => SwitchSafe s .tunring

def InputSafe (s : ServerState) : ServerInput → Prop
  | .message calls buffer => MessageSafe calls s buffer
  | .offlineSend _ _ _ => True

theorem serverStep_safe (s : ServerState) (input : ServerInput) :
    SafePart s (InputSafe s input) (serverStep s input) := by
  cases input with
  | offlineSend errno calls packet =>
      exact safePart_quiet s rfl (by simp [serverStep])
  | message calls buffer =>
      simp only [InputSafe, MessageSafe, serverStep, handlerTCPMessage]
      cases handlerFor buffer with
      | rawCapture =>
          cases honline : calls.ispOnline with
          | true => exact (safePart_unchanged s).congr (by simp)
          | false =>
              simp only [Bool.false_eq_true, if_false, true_implies]
              exact handlerRawCapMessage_safe calls s _
      | onLine => exact handlerOnLineMessage_safe calls s _
      | checkDevice => exact checkDevice_safe calls s _
      | receiveFile => exact safePart_unchanged s
      | offlineRaw => exact safePart_unchanged s
      | forward =>
          have hswitch := switchMode_safe calls s .tunring
          by_cases hok :
              (doChangeAppMode calls.mode s.app .tunring).2 = true
          · simp only [hok, if_true]
            refine hswitch.andThen ?_ (and_true _).symm.to_iff
            exact safePart_quiet _ rfl (by simp [forwardMessage])
          · simp only [hok]
            exact hswitch

/-- A run of the dispatcher captures in capture mode only and never links the
ISP during a capture exactly when every input meets its condition. -/
theorem captureSafe_iff_inputsSafe
    (calls : ModeCalls) (mode : AppRunStatus) (gRtspEnFromCmdarg : ℤ)
    (streamDev : Option Bool) (hdrMode : UInt32) (client : DomainTCPClient)
    (inputs : List ServerInput) :
    let s := ServerState.boot calls mode gRtspEnFromCmdarg streamDev hdrMode
      client
    CaptureSafe false (trace serverStep s inputs) ↔
      Steps (next serverStep) InputSafe s inputs := by
  intro s
  have hsplit : ∀ (s : ServerState) (input : ServerInput) later,
      CaptureSafe s.raw.buffersLive ((serverStep s input).2 ++ later) ↔
        InputSafe s input ∧
          CaptureSafe (next serverStep s input).raw.buffersLive later := by
    intro s input later
    have hsafe := serverStep_safe s input
    rw [captureSafe_append, hsafe.moves, hsafe.safe]
    rfl
  have hruns := trace_iff_steps (fun _ : ServerState => True)
    (fun s trace => CaptureSafe s.raw.buffersLive trace)
    (fun s _ => captureSafe_nil s.raw.buffersLive)
    (fun s input _ hinput => ⟨trivial, fun later hlater =>
      (hsplit s input later).mpr ⟨hinput, hlater⟩⟩)
    (fun s input later _ hok => (hsplit s input later).mp hok)
    s trivial inputs
  exact hruns

/-- The switch to capture fails on its link, and the START that follows in the
same message opens the device in mode INIT. -/
theorem failedSwitch_captures :
    let calls : HandlerCalls := { workingCalls with
      mode := { workingModeCalls with linkToIsp := false } }
    ¬ CaptureSafe false (trace serverStep
      (ServerState.boot workingModeCalls .init 0 none noHdr { sock := -1 })
      [.message calls startRequest.toBuffer]) := by
  intro calls h
  have hmode := h.mode .init .startCapture (by decide) rfl
  contradiction

end RkaiqToolServer
