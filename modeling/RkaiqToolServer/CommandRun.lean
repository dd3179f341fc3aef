import RkaiqToolServer.TcpMessage

/-!
# What a command does

The command that is dispatched for a message, with the arguments its handler
reads out of the buffer, is all that a message does to the state and to the
replies, apart from the bytes that are copied or forwarded with their count.
For the handlers of a record this is the behaviour of the dispatcher on the
received bytes, as long as they hold the whole record.
-/

namespace RkaiqToolServer

open ByteCodec StepRun

def CaptureParams.request (params : CaptureParams) : CommandData :=
  captureRequest ([dataIdCaptureRawSetParam] ++
    (leBytes 4 params.gain.toNat ++ (leBytes 4 params.time.toNat ++
      ([params.lhcg, params.bits, params.framenumber, params.multiframe] ++
        (leBytes 4 params.vblank.toNat ++
          leBytes 4 params.focusPosition.toNat)))))

def RawCaptureCommand.run (dev : Device) (s : RawState)
    (sendCmd : CommandData) :
    RawCaptureCommand → RawState × List CaptureEvent
  | .knock =>
      (s, [.reply (initCommandRawCapAns sendCmd
        (if s.captureStatus = rawCap then busy else ready))])
  | .unknownStatus => (s, [.reply sendCmd])
  | .getParam width height =>
      getSensorPara dev (rawCaptureinit dev s (getParamRequest width height))
        resSuccess
  | .setParam params => setCapConf dev s params.request ready
  | .start =>
      andThen (rawCaputure dev { s with captureStatus := rawCap })
        fun s => ({ s with captureStatus := avaliable }, [])
  | .checksum value => sendRawDataResult s sendCmd (checksumRequest value)
  | .unknown => (s, [])

def CaptureMessage.run (calls : HandlerCalls) (sendCmd : CommandData)
    (s : ServerState) : CaptureMessage → ServerState × List ServerEvent
  | .knock => (s, [.app (.reply (initCommandRawPingAns sendCmd ready))])
  | .unknownStatus => (s, [.app (.reply sendCmd)])
  | .rawCapture command =>
      let captured := command.run calls.dev s.raw sendCmd
      ({ s with raw := captured.1 },
        captured.2.map (.capture s.app.gAppRunMode))
  | .unknown => (s, [])

def RawMessage.run (calls : TcpCalls) (s : ServerState) :
    RawMessage → ServerState × List ServerEvent
  | .capture command =>
      andThen (switchMode calls.handler s .capture)
        fun s => command.run calls.handler calls.handler.sendCmd s
  | .streaming command =>
      let streamed := initCommandStreamingAns calls.handler.sendCmd resSuccess
      andThen (switchMode calls.handler s .streaming) fun s =>
        andThen (s, [.app (.reply streamed)]) fun s =>
          command.run calls.handler streamed s
  | .streamingSet paramSize =>
      let streamed := initCommandStreamingAns calls.handler.sendCmd resSuccess
      andThen (switchMode calls.handler s .streaming) fun s =>
        andThen (s, [.app (.reply streamed)]) fun s =>
          (s, onLineSet (calls.withParam paramSize) streamed 0xffff)
  | .unknown => (s, [])

/-- The data of a message with this command. -/
def OnLineCaptureCommand.bytes : OnLineCaptureCommand → List UInt8
  | .yuvSetParam framenumber =>
      [dataIdCaptureYuvSetParam, 0, 0, 0, 0, 0, 0, 0, 0, 0, framenumber]
  | .onlineRawSetParam framenumber =>
      [dataIdCaptureOnlineRawSetParam, 0, 0, 0, 0, 0, 0, 0, 0, 0,
        framenumber]
  | .other dataId => [dataId]

def OnLineCaptureCommand.request (command : OnLineCaptureCommand) :
    CommandData :=
  { zeroCommand with dat := datOf command.bytes }

def OnLineMessage.run (calls : TcpCalls) (s : TcpState) :
    OnLineMessage → TcpState × List TcpEvent
  | .streaming => s.after (switchMode calls.handler s.server .tunring)
  | .streamingSet paramSize =>
      s.after (andThen (switchMode calls.handler s.server .tunring) fun s =>
        (s, onLineSet (calls.withParam paramSize) calls.handler.sendCmd
          0xffff))
  | .status cmdID =>
      s.after (s.server,
        [.app (.reply (doCaptureAnswer calls.handler.sendCmd cmdID ready))])
  | .uapiSet cmdID paramSize =>
      s.after (s.server, onLineSet (calls.withParam paramSize)
        calls.handler.sendCmd cmdID)
  | .uapiGet cmdID paramSize =>
      let got := calls.onLineGet paramSize
      (s, [.param got.1, .server (.app (.reply (doCaptureAnswer
        calls.handler.sendCmd cmdID
        (if got.2 then resSuccess else resFailed))))])
  | .capture command => onLineCaptureMessage calls s command.request
  | .unknown => (s, [])

def CheckMessage.run (calls : HandlerCalls) (s : AppState) :
    CheckMessage → AppState × List AppEvent
  | .knock => (s, [.reply (initCommandPingAns calls.sendCmd ready)])
  | .unknownStatus => (s, [.reply calls.sendCmd])
  | .getStatus => (s, [.reply (doAnswer calls.sendCmd cmdIdGetStatus ready)])
  | .getMode =>
      (s, [.reply (doAnswer calls.sendCmd cmdIdGetMode
        s.gAppRunMode.toByte)])
  | .startRtsp =>
      let s := if s.gRtspEnFromCmdarg = 1 then { s with gRtspEn := true } else s
      andThen (startRTSP calls.mode s).1 fun s =>
        (s, [.reply (doAnswer calls.sendCmd cmdIdStartRtsp
          s.gAppRunMode.toByte)])
  | .stopRtsp =>
      let s := if s.gRtspEnFromCmdarg = 1 then
        { s with gRtspEn := false } else s
      let s := { stopRTSP s with gAppRunMode := .init }
      (s, [.reply (doAnswer calls.sendCmd cmdIdStopRtsp
        s.gAppRunMode.toByte)])
  | .unknown => (s, [])

/-! ## The requests carry the arguments -/

theorem uint32At_append {offset : ℕ} {before : List UInt8}
    (hbefore : before.length = offset) (value : UInt32)
    (after : List UInt8) :
    uint32At offset (before ++ (leBytes 4 value.toNat ++ after)) = value := by
  rw [uint32At, slice_field hbefore (length_leBytes 4 _),
    leNat_leBytes value.toNat_lt]
  simp

theorem width_getParamRequest (width height : UInt16) :
    uint16At 1 (getParamRequest width height).dat.toList = width := by
  rw [getParamRequest, captureRequest, toList_datOf (by simp),
    List.append_assoc, List.append_assoc]
  exact uint16At_append List.length_singleton width _

theorem height_getParamRequest (width height : UInt16) :
    uint16At 3 (getParamRequest width height).dat.toList = height := by
  rw [getParamRequest, captureRequest, toList_datOf (by simp),
    List.append_assoc]
  exact uint16At_append (by simp) height _

theorem checksumValue_checksumRequest (value : UInt16) :
    (checksumRequest value).checksumValue = value := by
  rw [CommandData.checksumValue, checksumRequest, captureRequest,
    toList_datOf (by simp), List.append_assoc]
  exact uint16At_append List.length_singleton value _

theorem captureParams_request (params : CaptureParams) :
    params.request.captureParams = params := by
  have hdat : params.request.dat.toList = [dataIdCaptureRawSetParam] ++
      (leBytes 4 params.gain.toNat ++ (leBytes 4 params.time.toNat ++
        ([params.lhcg, params.bits, params.framenumber,
            params.multiframe] ++
          (leBytes 4 params.vblank.toNat ++
            (leBytes 4 params.focusPosition.toNat ++
              List.replicate 27 0))))) := by
    rw [CaptureParams.request, captureRequest, toList_datOf (by simp)]
    simp
  have hgain : uint32At 1 params.request.dat.toList = params.gain := by
    rw [hdat]
    exact uint32At_append List.length_singleton _ _
  have htime : uint32At 5 params.request.dat.toList = params.time := by
    rw [hdat, ← List.append_assoc]
    exact uint32At_append (by simp) _ _
  have hvblank : uint32At 13 params.request.dat.toList = params.vblank := by
    rw [hdat, ← List.append_assoc, ← List.append_assoc, ← List.append_assoc]
    exact uint32At_append (by simp) _ _
  have hfocus : uint32At 17 params.request.dat.toList =
      params.focusPosition := by
    rw [hdat, ← List.append_assoc, ← List.append_assoc, ← List.append_assoc,
      ← List.append_assoc]
    exact uint32At_append (by simp) _ _
  have hlhcg : params.request.datAt 9 = params.lhcg := by
    rw [CommandData.datAt, hdat]
    rfl
  have hbits : params.request.datAt 10 = params.bits := by
    rw [CommandData.datAt, hdat]
    rfl
  have hframenumber : params.request.datAt 11 = params.framenumber := by
    rw [CommandData.datAt, hdat]
    rfl
  have hmultiframe : params.request.datAt 12 = params.multiframe := by
    rw [CommandData.datAt, hdat]
    rfl
  rw [CommandData.captureParams, hgain, htime, hlhcg, hbits, hframenumber,
    hmultiframe, hvblank, hfocus]

/-! ## The handlers run the command -/

theorem rawCaptureinit_getParam (dev : Device) (s : RawState)
    (cmd : CommandData) :
    rawCaptureinit dev s cmd =
      rawCaptureinit dev s (getParamRequest (uint16At 1 cmd.dat.toList)
        (uint16At 3 cmd.dat.toList)) := by
  simp only [rawCaptureinit, width_getParamRequest, height_getParamRequest]

theorem setCapConf_setParam (dev : Device) (s : RawState)
    (cmd : CommandData) (retStatus : UInt8) :
    setCapConf dev s cmd retStatus =
      setCapConf dev s cmd.captureParams.request retStatus := by
  simp only [setCapConf, captureParams_request]

theorem sendRawDataResult_checksum (s : RawState)
    (sendCmd cmd : CommandData) :
    sendRawDataResult s sendCmd cmd =
      sendRawDataResult s sendCmd (checksumRequest cmd.checksumValue) := by
  simp only [sendRawDataResult, checksumValue_checksumRequest]

theorem rawCaptureCase_eq_run (dev : Device) (s : RawState)
    (sendCmd cmd : CommandData) :
    rawCaptureCase dev s sendCmd cmd =
      cmd.rawCaptureCommand.run dev s sendCmd := by
  unfold rawCaptureCase CommandData.rawCaptureCommand
  by_cases hstatus : cmd.datAt 0 = dataIdCaptureRawStatus
  · simp only [if_pos hstatus]
    by_cases hknock : cmd.datAt 1 = knockKnock
    · simp only [if_pos hknock]
      rfl
    · simp only [if_neg hknock]
      rfl
  by_cases hgetParam : cmd.datAt 0 = dataIdCaptureRawGetParam
  · simp only [if_neg hstatus, if_pos hgetParam]
    rw [rawCaptureinit_getParam]
    rfl
  by_cases hsetParam : cmd.datAt 0 = dataIdCaptureRawSetParam
  · simp only [if_neg hstatus, if_neg hgetParam, if_pos hsetParam]
    exact setCapConf_setParam dev s cmd ready
  by_cases hstart : cmd.datAt 0 = dataIdCaptureRawStart
  · simp only [if_neg hstatus, if_neg hgetParam, if_neg hsetParam,
      if_pos hstart]
    rfl
  by_cases hchecksum : cmd.datAt 0 = dataIdCaptureRawChecksum
  · simp only [if_neg hstatus, if_neg hgetParam, if_neg hsetParam,
      if_neg hstart, if_pos hchecksum]
    exact sendRawDataResult_checksum s sendCmd cmd
  simp only [if_neg hstatus, if_neg hgetParam, if_neg hsetParam,
    if_neg hstart, if_neg hchecksum]
  rfl

theorem rawCapCommand_eq_run (calls : HandlerCalls) (s : ServerState)
    (sendCmd cmd : CommandData) :
    rawCapCommand calls sendCmd cmd s =
      cmd.captureMessage.run calls sendCmd s := by
  unfold rawCapCommand CommandData.captureMessage
  split_ifs
  · rfl
  · rfl
  · simp only [rawCaptureCase_eq_run]
    rfl
  · rfl

/-- The parameters of a set command make no difference to a capture
command. -/
theorem rawCapCommand_withParam (calls : TcpCalls) (paramSize : ℤ)
    (sendCmd cmd : CommandData) (s : ServerState) :
    rawCapCommand (calls.withParam paramSize) sendCmd cmd s =
      cmd.captureMessage.run calls.handler sendCmd s := by
  rw [← rawCapCommand_eq_run]
  rfl

theorem handlerRawCapMessage_eq_run (calls : TcpCalls) (s : ServerState)
    (cmd : CommandData) :
    handlerRawCapMessage (calls.withParam cmd.paramSize) s cmd =
      cmd.rawMessage.run calls s := by
  unfold handlerRawCapMessage CommandData.rawMessage
  split_ifs with hcapture hstreaming hset
  · simp only [funext (rawCapCommand_withParam calls cmd.paramSize _ cmd)]
    rfl
  · simp only [hset]
    rfl
  · simp only [funext (rawCapCommand_withParam calls cmd.paramSize _ cmd)]
    rfl
  · rfl

theorem handlerCheckDevice_eq_run (calls : HandlerCalls) (s : AppState)
    (cmd : CommandData) :
    handlerCheckDevice calls.mode s calls.sendCmd cmd =
      cmd.checkMessage.run calls s := by
  unfold handlerCheckDevice CommandData.checkMessage
  by_cases hstatus : cmd.cmdID = cmdIdCaptureStatus
  · simp only [if_pos hstatus]
    split_ifs
    · rfl
    · rfl
  by_cases hgetStatus : cmd.cmdID = cmdIdGetStatus
  · simp only [hgetStatus]
    rfl
  by_cases hgetMode : cmd.cmdID = cmdIdGetMode
  · simp only [hgetMode]
    rfl
  by_cases hstart : cmd.cmdID = cmdIdStartRtsp
  · simp only [hstart]
    rfl
  by_cases hstop : cmd.cmdID = cmdIdStopRtsp
  · simp only [hstop]
    rfl
  simp only [if_neg hstatus, if_neg hgetStatus, if_neg hgetMode,
    if_neg hstart, if_neg hstop]
  rfl

/-- The handlers of the online captures look at the first byte only, and at
the number of frames when they set parameters. -/
theorem onLineCaptureMessage_congr (calls : TcpCalls) (s : TcpState)
    {first second : CommandData} (hdata : first.datAt 0 = second.datAt 0)
    (hframes : first.datAt 0 = dataIdCaptureYuvSetParam ∨
        first.datAt 0 = dataIdCaptureOnlineRawSetParam →
      first.framenumber = second.framenumber) :
    onLineCaptureMessage calls s first =
      onLineCaptureMessage calls s second := by
  have hcounted : onLineFrameCommand calls s.frames first =
      onLineFrameCommand calls s.frames second := by
    unfold onLineFrameCommand
    by_cases hset : first.datAt 0 = dataIdCaptureYuvSetParam ∨
        first.datAt 0 = dataIdCaptureOnlineRawSetParam
    · simp only [← hdata, if_pos hset, hframes hset]
    · simp only [← hdata, if_neg hset]
  simp only [onLineCaptureMessage, handlerOnLineCapture,
    initOnlineRawCapture, hcounted, hdata]

theorem datAt_request (command : OnLineCaptureCommand) {index : ℕ}
    (hindex : index < 48) :
    command.request.datAt index = command.bytes.getD index 0 :=
  datAt_of_dat rfl hindex

theorem onLineCaptureMessage_eq_run (calls : TcpCalls) (s : TcpState)
    (cmd : CommandData) :
    onLineCaptureMessage calls s cmd =
      onLineCaptureMessage calls s cmd.onLineCaptureCommand.request := by
  unfold CommandData.onLineCaptureCommand
  by_cases hyuv : cmd.datAt 0 = dataIdCaptureYuvSetParam
  · rw [if_pos hyuv]
    refine onLineCaptureMessage_congr calls s ?_ fun _ => ?_
    · rw [datAt_request _ (by omega)]
      exact hyuv
    · exact (datAt_request (.yuvSetParam cmd.framenumber)
        (show 10 < 48 by omega)).symm
  by_cases honline : cmd.datAt 0 = dataIdCaptureOnlineRawSetParam
  · rw [if_neg hyuv, if_pos honline]
    refine onLineCaptureMessage_congr calls s ?_ fun _ => ?_
    · rw [datAt_request _ (by omega)]
      exact honline
    · exact (datAt_request (.onlineRawSetParam cmd.framenumber)
        (show 10 < 48 by omega)).symm
  rw [if_neg hyuv, if_neg honline]
  refine onLineCaptureMessage_congr calls s ?_ fun hset => ?_
  · exact (datAt_request (.other (cmd.datAt 0))
      (show 0 < 48 by omega)).symm
  · exact absurd hset (not_or.mpr ⟨hyuv, honline⟩)

/-- The parameters of a set command make no difference to a mode switch. -/
theorem handlerOnLineMessage_eq_run (calls : TcpCalls) (s : TcpState)
    {cmd : CommandData} (hcapture : cmd.cmdType ≠ cmdTypeCapture)
    (hget : cmd.cmdType ≠ cmdTypeUapiGet) :
    s.after (handlerOnLineMessage (calls.withParam cmd.paramSize) s.server
      cmd) = cmd.onLineMessage.run calls s := by
  unfold handlerOnLineMessage CommandData.onLineMessage
  by_cases hstreaming : cmd.cmdType = cmdTypeStreaming
  · simp only [if_pos hstreaming]
    by_cases hset : cmd.cmdID = 0xffff
    · simp only [hset]
      rfl
    · simp only [if_neg hset]
      exact congrArg s.after (Prod.ext rfl (List.append_nil _))
  by_cases hstatus : cmd.cmdType = cmdTypeStatus
  · simp only [if_neg hstreaming, if_pos hstatus]
    rfl
  by_cases hset : cmd.cmdType = cmdTypeUapiSet
  · simp only [if_neg hstreaming, if_neg hstatus, if_pos hset]
    rfl
  simp only [if_neg hstreaming, if_neg hstatus, if_neg hset, if_neg hget,
    if_neg hcapture]
  rfl

theorem handlerOnLine_eq_run (calls : TcpCalls) (s : TcpState)
    (cmd : CommandData) :
    handlerOnLine calls s cmd = cmd.onLineMessage.run calls s := by
  unfold handlerOnLine
  by_cases hcapture : cmd.cmdType = cmdTypeCapture
  · rw [if_pos hcapture, onLineCaptureMessage_eq_run]
    simp [CommandData.onLineMessage, hcapture, cmdTypeCapture,
      cmdTypeStreaming, cmdTypeStatus, cmdTypeUapiSet, cmdTypeUapiGet,
      OnLineMessage.run]
  by_cases hget : cmd.cmdType = cmdTypeUapiGet
  · rw [if_neg hcapture]
    simp [CommandData.onLineMessage, handlerOnLineMessage, hget,
      cmdTypeStreaming, cmdTypeStatus, cmdTypeUapiSet, cmdTypeUapiGet,
      OnLineMessage.run]
    exact ⟨rfl, rfl⟩
  rw [if_neg hcapture, if_neg hget]
  exact handlerOnLineMessage_eq_run calls s hcapture hget

/-- What is received and copied for a file of the given sizes. -/
def runReceiveFile (calls : TcpCalls) (chunk : List UInt8) :
    Option (UInt64 × UInt64) → List FileEvent
  | none => [.reply (transferFailed "TransferError")]
  | some (packetSize, dataSize) =>
      if ¬ calls.host.packetMalloc.Holds packetSize ∨
          packetSize.toNat < chunk.length then [.fault]
      else
        match receiveLoop calls.host.startTime packetSize calls.arrivals
            (overlay 0 chunk (List.replicate packetSize.toNat 0))
            (packetSize - chunk.length.toUInt64) with
        | .complete receivedPacket =>
            checkPacket calls.host dataSize receivedPacket
        | .timeout => [.reply (transferFailed "Timeout")]
        | .waiting => [.waiting]
        | .fault => [.fault]

theorem handlerReceiveFile_eq_run (calls : TcpCalls)
    {chunk buffer : List UInt8} (hbegins : chunk <+: buffer) :
    handlerReceiveFile calls.host buffer chunk.length calls.arrivals =
      runReceiveFile calls chunk (fileSizes buffer) := by
  have htake : buffer.take chunk.length = chunk :=
    (List.prefix_iff_eq_take.mp hbegins).symm
  unfold handlerReceiveFile fileSizes
  by_cases hpass : SizesPass (uint64At 8 buffer) (uint64At 416 buffer)
  · simp only [hpass, not_true_eq_false, if_false, if_true, htake]
    rfl
  · simp only [hpass, not_false_eq_true, if_true, if_false]
    rfl

def runOfflineRaw (calls : TcpCalls) (s : TcpState) (chunk : List UInt8) :
    Option UInt64 → TcpState × List TcpEvent
  | none => (s, [])
  | some packetSize =>
      if packetSize.toNat < chunk.length then (s, [.fault])
      else
        match receiveLoop calls.host.startTime packetSize calls.arrivals
            (overlay 0 chunk (List.replicate packetSize.toNat 0))
            (packetSize - chunk.length.toUInt64) with
        | .complete receivedPacket =>
            let offlineRawModeControl := signed 32
              (leNat (slice 24 4 (receivedPacket ++ calls.host.heap)))
            ({ s with offline :=
                handlerOfflineRawProcess s.offline offlineRawModeControl },
              if offlineRawModeControl = 2 then [.removedConfig] else [])
        | .timeout => (s, [])
        | .waiting => (s, [.file .waiting])
        | .fault => (s, [.fault])

theorem handlerOfflineRaw_eq_run (calls : TcpCalls) (s : TcpState)
    {chunk buffer : List UInt8} (hbegins : chunk <+: buffer) :
    handlerOfflineRaw calls s buffer chunk.length =
      runOfflineRaw calls s chunk (offlineRawSize buffer) := by
  have htake : buffer.take chunk.length = chunk :=
    (List.prefix_iff_eq_take.mp hbegins).symm
  rw [handlerOfflineRaw, htake]
  rfl

/-- What a command does, with the bytes that came for it. -/
def TcpCommand.run (calls : TcpCalls) (s : TcpState) (chunk : List UInt8) :
    TcpCommand → TcpState × List TcpEvent
  | .raw message =>
      if calls.handler.ispOnline then (s, [])
      else s.after (message.run calls s.server)
  | .onLine message => message.run calls s
  | .check message =>
      let checked := message.run calls.handler s.server.app
      s.after ({ s.server with app := checked.1 }, checked.2.map .app)
  | .receiveFile sizes => (s, (runReceiveFile calls chunk sizes).map .file)
  | .offlineRaw packetSize => runOfflineRaw calls s chunk packetSize
  | .forward =>
      let switched := switchMode calls.handler s.server .tunring
      if (doChangeAppMode calls.handler.mode s.server.app .tunring).2 then
        s.after (andThen switched (forwardMessage calls.handler chunk))
      else s.after switched

/-- A message does what its command does. -/
theorem handleMessage_eq_run (calls : TcpCalls) (s : TcpState)
    {chunk buffer : List UInt8} (hbegins : chunk <+: buffer) :
    handleMessage calls s buffer chunk.length =
      (tcpCommand buffer).run calls s chunk := by
  have htake : buffer.take chunk.length = chunk :=
    (List.prefix_iff_eq_take.mp hbegins).symm
  unfold handleMessage tcpCommand
  cases handlerFor buffer with
  | rawCapture =>
      simp only [handlerRawCapMessage_eq_run]
      rfl
  | onLine => exact handlerOnLine_eq_run calls s _
  | checkDevice =>
      simp only [handlerCheckDevice_eq_run]
      rfl
  | receiveFile =>
      simp only [handlerReceiveFile_eq_run calls hbegins]
      rfl
  | offlineRaw => exact handlerOfflineRaw_eq_run calls s hbegins
  | forward =>
      simp only [htake]
      rfl

/-! ## The dispatcher on a whole record -/

theorem record_of_prefix {chunk buffer : List UInt8}
    (hrecord : commandDataSize ≤ chunk.length) (hbegins : chunk <+: buffer) :
    handlerFor buffer = handlerFor chunk ∧
      CommandData.ofBuffer buffer = CommandData.ofBuffer chunk := by
  obtain ⟨rest, rfl⟩ := hbegins
  have hsize : commandDataSize = 72 := rfl
  have htake : (chunk.take commandDataSize).length = commandDataSize := by
    rw [List.length_take]
    omega
  have hrecord' : ∀ more, CommandData.ofBuffer
      (chunk.take commandDataSize ++ (chunk.drop commandDataSize ++ more)) =
        CommandData.ofBuffer (chunk.take commandDataSize) :=
    fun more => CommandData.ofBuffer_append htake _
  refine ⟨handlerFor_append (by omega) rest, ?_⟩
  have hwhole := hrecord' []
  have hmore := hrecord' rest
  rw [List.append_nil, List.take_append_drop] at hwhole
  rw [← List.append_assoc, List.take_append_drop] at hmore
  rw [hmore, hwhole]

def TcpEvent.serverEvent : TcpEvent → Option ServerEvent
  | .server event => some event
  | _ => none

@[simp] theorem filterMap_serverEvent (events : List ServerEvent) :
    (events.map TcpEvent.server).filterMap TcpEvent.serverEvent = events := by
  simp [List.filterMap_map, Function.comp_def, TcpEvent.serverEvent]

@[simp] theorem filterMap_fileEvent (events : List FileEvent) :
    (events.map TcpEvent.file).filterMap TcpEvent.serverEvent = [] := by
  simp [List.filterMap_map, TcpEvent.serverEvent]

theorem handlerOfflineRaw_server (calls : TcpCalls) (s : TcpState)
    (buffer : List UInt8) (size : ℕ) :
    let handled := handlerOfflineRaw calls s buffer size
    handled.1.server = s.server ∧
      handled.2.filterMap TcpEvent.serverEvent = [] := by
  unfold handlerOfflineRaw
  split
  · exact ⟨rfl, rfl⟩
  · split
    · exact ⟨rfl, rfl⟩
    · dsimp only
      split
      · refine ⟨rfl, ?_⟩
        dsimp only
        split <;> rfl
      · exact ⟨rfl, rfl⟩
      · exact ⟨rfl, rfl⟩
      · exact ⟨rfl, rfl⟩

/-- On a whole record, the message does to the server what the dispatcher does
with the received bytes. -/
theorem handleMessage_server (calls : TcpCalls) (s : TcpState)
    {chunk buffer : List UInt8} (hrecord : commandDataSize ≤ chunk.length)
    (hbegins : chunk <+: buffer)
    (hcapture : handlerFor chunk = .onLine →
      (CommandData.ofBuffer chunk).cmdType ≠ cmdTypeCapture) :
    let handled := handleMessage calls s buffer chunk.length
    (handled.1.server, handled.2.filterMap TcpEvent.serverEvent) =
      handlerTCPMessage
        (calls.withParam (CommandData.ofBuffer chunk).paramSize) s.server
        chunk := by
  obtain ⟨hhandler, hcmd⟩ := record_of_prefix hrecord hbegins
  have htake : buffer.take chunk.length = chunk :=
    (List.prefix_iff_eq_take.mp hbegins).symm
  simp only [handleMessage, handlerTCPMessage, hhandler, hcmd, htake]
  generalize CommandData.ofBuffer chunk = cmd at hcapture
  have honline : (calls.withParam cmd.paramSize).ispOnline =
      calls.handler.ispOnline := rfl
  have hmode : (calls.withParam cmd.paramSize).mode = calls.handler.mode := rfl
  have hsend : (calls.withParam cmd.paramSize).sendCmd =
      calls.handler.sendCmd := rfl
  have hswitch : ∀ mode, switchMode (calls.withParam cmd.paramSize) s.server
      mode = switchMode calls.handler s.server mode := fun _ => rfl
  have hforward : forwardMessage (calls.withParam cmd.paramSize) chunk =
      forwardMessage calls.handler chunk := rfl
  cases hkind : handlerFor chunk with
  | rawCapture =>
      simp only [honline]
      split
      · rfl
      · simp only [TcpState.after, filterMap_serverEvent]
  | onLine =>
      simp only [handlerOnLine, if_neg (hcapture hkind)]
      split
      · simp only [TcpState.after]
        rw [List.filterMap_cons_none rfl, filterMap_serverEvent]
      · simp only [TcpState.after, filterMap_serverEvent]
  | checkDevice =>
      simp only [TcpState.after, filterMap_serverEvent, hmode, hsend]
  | receiveFile =>
      simp only [filterMap_fileEvent]
  | offlineRaw =>
      obtain ⟨hserver, hevents⟩ :=
        handlerOfflineRaw_server calls s buffer chunk.length
      rw [hserver, hevents]
  | forward =>
      simp only [hmode, hswitch, hforward]
      split
      · simp only [TcpState.after, filterMap_serverEvent]
      · simp only [TcpState.after, filterMap_serverEvent]

end RkaiqToolServer
