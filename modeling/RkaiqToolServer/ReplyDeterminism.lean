import RkaiqToolServer.OnLineCapture

/-!
# What the bytes of a reply depend on

The handlers build their replies in a local record that they do not
initialise.  A builder that writes every field makes a reply that is the same
whatever the record held; one that leaves `version` out, or a branch that
builds nothing, sends the old bytes.  The replies to a message are determined
exactly when the message takes none of those branches.
-/

namespace RkaiqToolServer

open ByteCodec StepRun

def HandlerCalls.withSendCmd (calls : HandlerCalls) (sendCmd : CommandData) :
    HandlerCalls :=
  { calls with sendCmd := sendCmd }

/-- Two runs that differ only in the initial contents of the local record send
the same bytes. -/
def RepliesDetermined (calls : HandlerCalls) (onLine : OnLineCalls)
    (s : ServerState) (onLineState : OnLineState) (buffer : List UInt8) :
    Prop :=
  ∀ first second,
    repliesTo (calls.withSendCmd first) onLine s onLineState buffer =
      repliesTo (calls.withSendCmd second) onLine s onLineState buffer

/-! ## The messages whose replies are filled in -/

def RawFilled (commonCmd : CommandData) : Prop :=
  commonCmd.cmdType ≠ cmdTypeStreaming ∧
    (commonCmd.cmdType = cmdTypeCapture →
      commonCmd.cmdID ≠ cmdIdCaptureStatus ∧
        (commonCmd.cmdID = cmdIdCaptureRawCapture →
          commonCmd.datAt 0 ≠ dataIdCaptureRawStatus ∧
            commonCmd.datAt 0 ≠ dataIdCaptureRawChecksum))

def OnLineFilled (onLine : OnLineCalls) (onLineState : OnLineState)
    (commonCmd : CommandData) : Prop :=
  commonCmd.cmdType = cmdTypeCapture →
    commonCmd.datAt 0 ≠ dataIdCaptureYuvStatus ∧
      (commonCmd.datAt 0 = dataIdCaptureOnlineRawStatus →
        ¬ (onLine.ispOnline = true ∧ onLineState.captureStatus = ready))

/-- The message takes no branch that leaves a field of the reply unset. -/
def RepliesFilled (calls : HandlerCalls) (onLine : OnLineCalls)
    (onLineState : OnLineState) (buffer : List UInt8) : Prop :=
  let commonCmd := CommandData.ofBuffer buffer
  match handlerFor buffer with
  | .rawCapture => calls.ispOnline = false → RawFilled commonCmd
  | .onLine => OnLineFilled onLine onLineState commonCmd
  | .checkDevice => commonCmd.cmdID ≠ cmdIdCaptureStatus
  | .receiveFile | .offlineRaw | .forward => True

/-! ## Replies that keep the version -/

/-- The replies, as a function of the local record, begin with one that keeps
the record's version. -/
def KeepsVersion (replies : CommandData → List CommandData) : Prop :=
  ∀ cmd, ∃ reply rest, replies cmd = reply :: rest ∧
    reply.version = cmd.version

theorem KeepsVersion.not_constant {replies : CommandData → List CommandData}
    (h : KeepsVersion replies) :
    ¬ ∀ first second, (replies first).map CommandData.toBuffer =
      (replies second).map CommandData.toBuffer := by
  intro hconstant
  obtain ⟨reply, rest, hreplies, hversion⟩ := h zeroCommand
  obtain ⟨reply', rest', hreplies', hversion'⟩ :=
    h { zeroCommand with version := strncpy8 rkaiqToolVersion }
  have hbytes := hconstant zeroCommand
    { zeroCommand with version := strncpy8 rkaiqToolVersion }
  rw [hreplies, hreplies', List.map_cons, List.map_cons] at hbytes
  have hreply := congrArg CommandData.ofBuffer (List.cons.inj hbytes).1
  rw [CommandData.ofBuffer_toBuffer, CommandData.ofBuffer_toBuffer] at hreply
  rw [hreply, hversion'] at hversion
  exact absurd hversion (by decide)

/-! ## Sent records -/

def sentBy (r : ServerState × List ServerEvent) : List CommandData :=
  r.2.filterMap ServerEvent.sent

theorem sentBy_andThen (first : ServerState × List ServerEvent)
    (second : ServerState → ServerState × List ServerEvent) :
    sentBy (andThen first second) =
      sentBy first ++ sentBy (second first.1) := by
  simp [sentBy, List.filterMap_append]

theorem doChangeAppMode_events (calls : ModeCalls) (s : AppState)
    (mode : AppRunStatus) :
    ∀ event ∈ (doChangeAppMode calls s mode).1.2,
      ∃ link, event = .linkToIsp link := by
  have hswitch := doChangeAppMode_cases calls s mode
  generalize doChangeAppMode calls s mode = switched at hswitch
  intro event hevent
  cases hswitch with
  | same => simp at hevent
  | refused t events _ _ _ _ hevents => exact ⟨_, hevents event hevent⟩
  | captured => exact ⟨_, List.mem_singleton.mp hevent⟩
  | appFailed => exact ⟨_, List.mem_singleton.mp hevent⟩
  | linked => exact ⟨_, List.mem_singleton.mp hevent⟩

theorem sentBy_switchMode (calls : HandlerCalls) (s : ServerState)
    (mode : AppRunStatus) : sentBy (switchMode calls s mode) = [] := by
  rw [sentBy, switchMode, List.filterMap_map, List.filterMap_eq_nil_iff]
  intro event hevent
  obtain ⟨link, rfl⟩ := doChangeAppMode_events calls.mode s.app mode event hevent
  rfl

/-! ## The raw-capture handler -/

theorem stopCapture_sent (mode : AppRunStatus) (s : RawState) :
    ((stopCapture s).2.map (ServerEvent.capture mode)).filterMap
      ServerEvent.sent = [] := by
  rw [stopCapture]
  split <;> rfl

theorem sendRawDataResult_keepsVersion (mode : AppRunStatus) (s : RawState)
    (recvCmd : CommandData) :
    KeepsVersion fun cmd =>
      ((sendRawDataResult s cmd recvCmd).2.map (.capture mode)).filterMap
        ServerEvent.sent := by
  intro cmd
  by_cases hsum : s.captureCheckSum = recvCmd.checksumValue
  · simp only [sendRawDataResult, if_pos hsum]
    exact ⟨_, _, rfl, rfl⟩
  · simp only [sendRawDataResult, if_neg hsum, andThen_snd, List.map_append,
      List.filterMap_append, stopCapture_sent]
    exact ⟨_, _, rfl, rfl⟩

theorem rawCaptureCase_keepsVersion (mode : AppRunStatus) (dev : Device)
    (s : RawState) {commonCmd : CommandData}
    (hdat : commonCmd.datAt 0 = dataIdCaptureRawStatus ∨
      commonCmd.datAt 0 = dataIdCaptureRawChecksum) :
    KeepsVersion fun cmd =>
      ((rawCaptureCase dev s cmd commonCmd).2.map (.capture mode)).filterMap
        ServerEvent.sent := by
  rcases hdat with hstatus | hchecksum
  · intro cmd
    by_cases hknock : commonCmd.datAt 1 = knockKnock
    · simp only [rawCaptureCase, if_pos hstatus, if_pos hknock]
      exact ⟨_, _, rfl, rfl⟩
    · simp only [rawCaptureCase, if_pos hstatus, if_neg hknock]
      exact ⟨_, _, rfl, rfl⟩
  · have hcase : ∀ cmd, rawCaptureCase dev s cmd commonCmd =
        sendRawDataResult s cmd commonCmd := by
      intro cmd
      simp only [rawCaptureCase, hchecksum]
      rfl
    simp only [hcase]
    exact sendRawDataResult_keepsVersion mode s commonCmd

/-- Only the status and checksum sub-commands look at the local record. -/
theorem rawCaptureCase_eq (dev : Device) (s : RawState)
    {commonCmd : CommandData}
    (hstatus : commonCmd.datAt 0 ≠ dataIdCaptureRawStatus)
    (hchecksum : commonCmd.datAt 0 ≠ dataIdCaptureRawChecksum)
    (first second : CommandData) :
    rawCaptureCase dev s first commonCmd =
      rawCaptureCase dev s second commonCmd := by
  simp only [rawCaptureCase, if_neg hstatus, if_neg hchecksum]

theorem rawCapCommand_keepsVersion (calls : HandlerCalls) (s : ServerState)
    {commonCmd : CommandData}
    (hcmd : commonCmd.cmdID = cmdIdCaptureStatus ∨
      commonCmd.cmdID = cmdIdCaptureRawCapture ∧
        (commonCmd.datAt 0 = dataIdCaptureRawStatus ∨
          commonCmd.datAt 0 = dataIdCaptureRawChecksum)) :
    KeepsVersion fun cmd => sentBy (rawCapCommand calls cmd commonCmd s) := by
  rcases hcmd with hstatus | ⟨hraw, hdat⟩
  · intro cmd
    by_cases hknock : commonCmd.datAt 0 = knockKnock
    · simp only [rawCapCommand, if_pos hstatus, if_pos hknock]
      exact ⟨_, _, rfl, rfl⟩
    · simp only [rawCapCommand, if_pos hstatus, if_neg hknock]
      exact ⟨_, _, rfl, rfl⟩
  · have hcase : ∀ cmd, sentBy (rawCapCommand calls cmd commonCmd s) =
        ((rawCaptureCase calls.dev s.raw cmd commonCmd).2.map
          (.capture s.app.gAppRunMode)).filterMap ServerEvent.sent := by
      intro cmd
      simp only [rawCapCommand, hraw]
      rfl
    simp only [hcase]
    exact rawCaptureCase_keepsVersion _ _ _ hdat

theorem rawCapCommand_eq (calls : HandlerCalls) (s : ServerState)
    {commonCmd : CommandData}
    (hstatus : commonCmd.cmdID ≠ cmdIdCaptureStatus)
    (hraw : commonCmd.cmdID = cmdIdCaptureRawCapture →
      commonCmd.datAt 0 ≠ dataIdCaptureRawStatus ∧
        commonCmd.datAt 0 ≠ dataIdCaptureRawChecksum)
    (first second : CommandData) :
    rawCapCommand calls first commonCmd s =
      rawCapCommand calls second commonCmd s := by
  simp only [rawCapCommand, if_neg hstatus]
  by_cases hcase : commonCmd.cmdID = cmdIdCaptureRawCapture
  · obtain ⟨hnotStatus, hnotChecksum⟩ := hraw hcase
    simp only [if_pos hcase,
      rawCaptureCase_eq calls.dev s.raw hnotStatus hnotChecksum first second]
  · simp only [if_neg hcase]

theorem handlerRawCapMessage_keepsVersion (calls : HandlerCalls)
    (s : ServerState) {commonCmd : CommandData}
    (hopen : ¬ RawFilled commonCmd) :
    KeepsVersion fun cmd =>
      sentBy (handlerRawCapMessage (calls.withSendCmd cmd) s commonCmd) := by
  by_cases hstreaming : commonCmd.cmdType = cmdTypeStreaming
  · have hcapture : commonCmd.cmdType ≠ cmdTypeCapture := by
      rw [hstreaming]
      decide
    intro cmd
    simp only [handlerRawCapMessage, if_neg hcapture, if_pos hstreaming,
      sentBy_andThen, sentBy_switchMode]
    exact ⟨initCommandStreamingAns cmd resSuccess, _, rfl, rfl⟩
  · have hcapture : commonCmd.cmdType = cmdTypeCapture := by
      by_contra hother
      exact hopen ⟨hstreaming, fun h => absurd h hother⟩
    have hcmd : commonCmd.cmdID = cmdIdCaptureStatus ∨
        commonCmd.cmdID = cmdIdCaptureRawCapture ∧
          (commonCmd.datAt 0 = dataIdCaptureRawStatus ∨
            commonCmd.datAt 0 = dataIdCaptureRawChecksum) := by
      by_contra hfilled
      simp only [not_or, not_and] at hfilled
      exact hopen ⟨hstreaming, fun _ => ⟨hfilled.1, fun hraw =>
        hfilled.2 hraw⟩⟩
    have hcase : ∀ cmd,
        sentBy (handlerRawCapMessage (calls.withSendCmd cmd) s commonCmd) =
          sentBy (rawCapCommand calls cmd commonCmd
            (switchMode calls s .capture).1) := by
      intro cmd
      simp only [handlerRawCapMessage, if_pos hcapture, sentBy_andThen,
        sentBy_switchMode, List.nil_append]
      rfl
    simp only [hcase]
    exact rawCapCommand_keepsVersion calls _ hcmd

theorem handlerRawCapMessage_eq (calls : HandlerCalls) (s : ServerState)
    {commonCmd : CommandData} (hfilled : RawFilled commonCmd)
    (first second : CommandData) :
    handlerRawCapMessage (calls.withSendCmd first) s commonCmd =
      handlerRawCapMessage (calls.withSendCmd second) s commonCmd := by
  obtain ⟨hstreaming, hcapture⟩ := hfilled
  by_cases hcase : commonCmd.cmdType = cmdTypeCapture
  · obtain ⟨hstatus, hraw⟩ := hcapture hcase
    simp only [handlerRawCapMessage, if_pos hcase]
    exact congrArg (andThen (switchMode calls s .capture))
      (funext fun s => rawCapCommand_eq calls s hstatus hraw first second)
  · simp only [handlerRawCapMessage, if_neg hcase, if_neg hstreaming]

/-! ## The online and check handlers -/

theorem handlerOnLineMessage_eq (calls : HandlerCalls) (s : ServerState)
    (commonCmd first second : CommandData) :
    handlerOnLineMessage (calls.withSendCmd first) s commonCmd =
      handlerOnLineMessage (calls.withSendCmd second) s commonCmd := rfl

theorem handlerOnLineCapture_keepsVersion (calls : OnLineCalls)
    (gSensorHdrMode : UInt32) (s : OnLineState) {commonCmd : CommandData}
    (hstatus : commonCmd.datAt 0 = dataIdCaptureYuvStatus ∨
      commonCmd.datAt 0 = dataIdCaptureOnlineRawStatus ∧
        calls.ispOnline = true ∧ s.captureStatus = ready) :
    KeepsVersion fun cmd =>
      (handlerOnLineCapture calls gSensorHdrMode s cmd commonCmd).2 := by
  intro cmd
  rcases hstatus with hyuv | ⟨hraw, hready⟩
  · simp only [handlerOnLineCapture, if_pos hyuv]
    exact ⟨_, _, rfl, rfl⟩
  · have hcase : handlerOnLineCapture calls gSensorHdrMode s cmd commonCmd =
        (s, [replyOnlineRawStatus cmd ready]) := by
      simp only [handlerOnLineCapture, hraw, if_pos hready]
      rfl
    simp only [hcase]
    exact ⟨_, _, rfl, rfl⟩

theorem handlerOnLineCapture_eq (calls : OnLineCalls)
    (gSensorHdrMode : UInt32) (s : OnLineState) {commonCmd : CommandData}
    (hyuv : commonCmd.datAt 0 ≠ dataIdCaptureYuvStatus)
    (hraw : commonCmd.datAt 0 = dataIdCaptureOnlineRawStatus →
      ¬ (calls.ispOnline = true ∧ s.captureStatus = ready))
    (first second : CommandData) :
    handlerOnLineCapture calls gSensorHdrMode s first commonCmd =
      handlerOnLineCapture calls gSensorHdrMode s second commonCmd := by
  by_cases hstatus : commonCmd.datAt 0 = dataIdCaptureOnlineRawStatus
  · simp only [handlerOnLineCapture, if_neg (hraw hstatus)]
    simp only [if_neg hyuv]
  · simp only [handlerOnLineCapture, if_neg hyuv, if_neg hstatus]

theorem handlerCheckDevice_keepsVersion (calls : ModeCalls) (s : AppState)
    {commonCmd : CommandData}
    (hstatus : commonCmd.cmdID = cmdIdCaptureStatus) :
    KeepsVersion fun cmd =>
      ((handlerCheckDevice calls s cmd commonCmd).2.map .app).filterMap
        ServerEvent.sent := by
  intro cmd
  by_cases hknock : commonCmd.datAt 0 = knockKnock
  · simp only [handlerCheckDevice, if_pos hstatus, if_pos hknock]
    exact ⟨_, _, rfl, rfl⟩
  · simp only [handlerCheckDevice, if_pos hstatus, if_neg hknock]
    exact ⟨_, _, rfl, rfl⟩

theorem handlerCheckDevice_eq (calls : ModeCalls) (s : AppState)
    {commonCmd : CommandData}
    (hstatus : commonCmd.cmdID ≠ cmdIdCaptureStatus)
    (first second : CommandData) :
    handlerCheckDevice calls s first commonCmd =
      handlerCheckDevice calls s second commonCmd := by
  simp only [handlerCheckDevice, if_neg hstatus]
  rfl

/-! ## Every message -/

section Replies

variable (calls : HandlerCalls) (onLine : OnLineCalls) (s : ServerState)
  (onLineState : OnLineState)

theorem repliesTo_rawCapture {buffer : List UInt8}
    (hhandler : handlerFor buffer = .rawCapture)
    (honline : calls.ispOnline = false) (sendCmd : CommandData) :
    repliesTo (calls.withSendCmd sendCmd) onLine s onLineState buffer =
      (sentBy (handlerRawCapMessage (calls.withSendCmd sendCmd) s
        (CommandData.ofBuffer buffer))).map CommandData.toBuffer := by
  have honline' : (calls.withSendCmd sendCmd).ispOnline = false := honline
  simp [repliesTo, handlerTCPMessage, hhandler, honline', sentBy]

theorem repliesTo_onLine {buffer : List UInt8}
    (hhandler : handlerFor buffer = .onLine)
    (hcapture : (CommandData.ofBuffer buffer).cmdType = cmdTypeCapture) :
    repliesTo calls onLine s onLineState buffer =
      (handlerOnLineCapture onLine s.raw.gSensorHdrMode onLineState
        calls.sendCmd (CommandData.ofBuffer buffer)).2.map
          CommandData.toBuffer := by
  have hnone : (handlerOnLineMessage calls s
      (CommandData.ofBuffer buffer)).2 = [] := by
    simp only [handlerOnLineMessage, hcapture]
    rfl
  simp [repliesTo, handlerTCPMessage, hhandler, hcapture, hnone]

theorem repliesTo_checkDevice {buffer : List UInt8}
    (hhandler : handlerFor buffer = .checkDevice) :
    repliesTo calls onLine s onLineState buffer =
      (((handlerCheckDevice calls.mode s.app calls.sendCmd
        (CommandData.ofBuffer buffer)).2.map .app).filterMap
          ServerEvent.sent).map CommandData.toBuffer := by
  simp [repliesTo, handlerTCPMessage, hhandler]

theorem RepliesFilled.determined {buffer : List UInt8}
    (h : RepliesFilled calls onLine onLineState buffer) :
    RepliesDetermined calls onLine s onLineState buffer := by
  intro first second
  rw [RepliesFilled] at h
  cases hhandler : handlerFor buffer with
  | rawCapture =>
      rw [hhandler] at h
      cases honline : calls.ispOnline with
      | true => simp [repliesTo, handlerTCPMessage, hhandler,
          HandlerCalls.withSendCmd, honline]
      | false =>
          rw [repliesTo_rawCapture _ _ _ _ hhandler honline first,
            repliesTo_rawCapture _ _ _ _ hhandler honline second,
            handlerRawCapMessage_eq calls s (h honline) first second]
  | onLine =>
      rw [hhandler] at h
      by_cases hcapture :
          (CommandData.ofBuffer buffer).cmdType = cmdTypeCapture
      · obtain ⟨hyuv, hraw⟩ := h hcapture
        rw [repliesTo_onLine _ _ _ _ hhandler hcapture,
          repliesTo_onLine _ _ _ _ hhandler hcapture,
          handlerOnLineCapture_eq onLine _ onLineState hyuv hraw]
      · simp only [repliesTo, handlerTCPMessage, hhandler, hcapture,
          handlerOnLineMessage_eq calls s _ first second, and_false, if_false]
  | checkDevice =>
      rw [hhandler] at h
      rw [repliesTo_checkDevice _ _ _ _ hhandler,
        repliesTo_checkDevice _ _ _ _ hhandler,
        handlerCheckDevice_eq _ s.app h]
      rfl
  | receiveFile => simp [repliesTo, handlerTCPMessage, hhandler]
  | offlineRaw => simp [repliesTo, handlerTCPMessage, hhandler]
  | forward =>
      have hmode : (calls.withSendCmd first).mode =
          (calls.withSendCmd second).mode := rfl
      have hswitch : switchMode (calls.withSendCmd first) s =
          switchMode (calls.withSendCmd second) s := rfl
      have hforward : forwardMessage (calls.withSendCmd first) buffer =
          forwardMessage (calls.withSendCmd second) buffer := rfl
      simp [repliesTo, handlerTCPMessage, hhandler, hmode, hswitch, hforward]

theorem RepliesDetermined.filled {buffer : List UInt8}
    (h : RepliesDetermined calls onLine s onLineState buffer) :
    RepliesFilled calls onLine onLineState buffer := by
  rw [RepliesFilled]
  cases hhandler : handlerFor buffer with
  | rawCapture =>
      intro honline
      by_contra hopen
      refine (handlerRawCapMessage_keepsVersion calls s hopen).not_constant ?_
      intro first second
      have hsame := h first second
      rwa [repliesTo_rawCapture _ _ _ _ hhandler honline first,
        repliesTo_rawCapture _ _ _ _ hhandler honline second] at hsame
  | onLine =>
      intro hcapture
      have hconstant : ∀ first second, _ := fun first second => by
        have hsame := h first second
        rw [repliesTo_onLine _ _ _ _ hhandler hcapture,
          repliesTo_onLine _ _ _ _ hhandler hcapture] at hsame
        exact hsame
      refine ⟨fun hyuv => ?_, fun hraw hready => ?_⟩
      · exact (handlerOnLineCapture_keepsVersion onLine s.raw.gSensorHdrMode
          onLineState (.inl hyuv)).not_constant hconstant
      · exact (handlerOnLineCapture_keepsVersion onLine s.raw.gSensorHdrMode
          onLineState (.inr ⟨hraw, hready⟩)).not_constant hconstant
  | checkDevice =>
      intro hstatus
      refine (handlerCheckDevice_keepsVersion calls.mode s.app
        hstatus).not_constant ?_
      intro first second
      have hsame := h first second
      rwa [repliesTo_checkDevice _ _ _ _ hhandler,
        repliesTo_checkDevice _ _ _ _ hhandler] at hsame
  | receiveFile => trivial
  | offlineRaw => trivial
  | forward => trivial

theorem repliesDetermined_iff_repliesFilled (buffer : List UInt8) :
    RepliesDetermined calls onLine s onLineState buffer ↔
      RepliesFilled calls onLine onLineState buffer :=
  ⟨RepliesDetermined.filled calls onLine s onLineState,
    RepliesFilled.determined calls onLine s onLineState⟩

end Replies

/-! ## A ping of the check protocol -/

def pingRequest : CommandData :=
  { zeroCommand with
    rkid := strncpy8 rkidCheck
    cmdID := cmdIdCaptureStatus
    dat := datOf [knockKnock] }

def pingedServer : ServerState :=
  .boot workingModeCalls .init 0 none noHdr { sock := -1 }

def quietOnLineCalls : OnLineCalls where
  ispOnline := false
  mediaNodes := fun _ => []
  streamDevGiven := false
  gDeviceId := 0
  videoFormat := { width := 0, height := 0, pixelFormat := [] }
  hdrMode := none
  bits := 0

theorem ping_not_determined :
    ¬ RepliesDetermined workingCalls quietOnLineCalls pingedServer
        { captureStatus := ready, gWidth := 1920, gHeight := 1080 }
        pingRequest.toBuffer := by
  intro hdetermined
  have hfilled := hdetermined.filled
  have hhandler : handlerFor pingRequest.toBuffer = .checkDevice := by decide
  rw [RepliesFilled, hhandler] at hfilled
  rw [CommandData.ofBuffer_toBuffer] at hfilled
  exact hfilled rfl

end RkaiqToolServer
