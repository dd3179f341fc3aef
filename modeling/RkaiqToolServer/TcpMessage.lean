import RkaiqToolServer.CaptureBuffers
import RkaiqToolServer.FileTransfer
import RkaiqToolServer.OfflineRaw
import RkaiqToolServer.YuvCapture

/-!
# One message in the receive buffer

`HandlerTCPMessage` is given the whole receive buffer and the number of bytes
that came.  This file follows one message through every handler with the state
of all of them.  The command that is dispatched, with the arguments its handler
reads out of the buffer, is all that a message does to the state and the
replies, apart from the bytes that are copied or forwarded with their count.
-/

namespace RkaiqToolServer

open ByteCodec StepRun

/-! ## Commands and their arguments -/

/-- The sub-commands of `CMD_ID_CAPTURE_RAW_CAPTURE`. -/
inductive RawCaptureCommand
  | knock
  | unknownStatus
  | getParam (width height : UInt16)
  | setParam (params : CaptureParams)
  | start
  | checksum (value : UInt16)
  | unknown

def CommandData.rawCaptureCommand (cmd : CommandData) : RawCaptureCommand :=
  if cmd.datAt 0 = dataIdCaptureRawStatus then
    if cmd.datAt 1 = knockKnock then .knock else .unknownStatus
  else if cmd.datAt 0 = dataIdCaptureRawGetParam then
    .getParam (uint16At 1 cmd.dat.toList) (uint16At 3 cmd.dat.toList)
  else if cmd.datAt 0 = dataIdCaptureRawSetParam then
    .setParam cmd.captureParams
  else if cmd.datAt 0 = dataIdCaptureRawStart then .start
  else if cmd.datAt 0 = dataIdCaptureRawChecksum then
    .checksum cmd.checksumValue
  else .unknown

/-- The cases of `cmdID` in `HandlerRawCapMessage`. -/
inductive CaptureMessage
  | knock
  | unknownStatus
  | rawCapture (command : RawCaptureCommand)
  | unknown

def CommandData.captureMessage (cmd : CommandData) : CaptureMessage :=
  if cmd.cmdID = cmdIdCaptureStatus then
    if cmd.datAt 0 = knockKnock then .knock else .unknownStatus
  else if cmd.cmdID = cmdIdCaptureRawCapture then
    .rawCapture cmd.rawCaptureCommand
  else .unknown

inductive RawMessage
  | capture (command : CaptureMessage)
  | streaming (command : CaptureMessage)
  | streamingSet (paramSize : ℤ)
  | unknown

def CommandData.rawMessage (cmd : CommandData) : RawMessage :=
  if cmd.cmdType = cmdTypeCapture then .capture cmd.captureMessage
  else if cmd.cmdType = cmdTypeStreaming then
    if cmd.cmdID = 0xffff then .streamingSet cmd.paramSize
    else .streaming cmd.captureMessage
  else .unknown

/-- The cases of `CMD_TYPE_CAPTURE` in `HandlerOnLineMessage`; only the two
that set parameters read more than the first byte. -/
inductive OnLineCaptureCommand
  | yuvSetParam (framenumber : UInt8)
  | onlineRawSetParam (framenumber : UInt8)
  | other (dataId : UInt8)

/-- `((Capture_Yuv_Params_t*)(recv_cmd->dat + 1))->framenumber`. -/
def CommandData.framenumber (cmd : CommandData) : UInt8 := cmd.datAt 10

def CommandData.onLineCaptureCommand (cmd : CommandData) :
    OnLineCaptureCommand :=
  if cmd.datAt 0 = dataIdCaptureYuvSetParam then .yuvSetParam cmd.framenumber
  else if cmd.datAt 0 = dataIdCaptureOnlineRawSetParam then
    .onlineRawSetParam cmd.framenumber
  else .other (cmd.datAt 0)

inductive OnLineMessage
  | streaming
  | streamingSet (paramSize : ℤ)
  | status (cmdID : UInt16)
  | uapiSet (cmdID : UInt16) (paramSize : ℤ)
  | uapiGet (cmdID : UInt16) (paramSize : ℤ)
  | capture (command : OnLineCaptureCommand)
  | unknown

def CommandData.onLineMessage (cmd : CommandData) : OnLineMessage :=
  if cmd.cmdType = cmdTypeStreaming then
    if cmd.cmdID = 0xffff then .streamingSet cmd.paramSize else .streaming
  else if cmd.cmdType = cmdTypeStatus then .status cmd.cmdID
  else if cmd.cmdType = cmdTypeUapiSet then .uapiSet cmd.cmdID cmd.paramSize
  else if cmd.cmdType = cmdTypeUapiGet then .uapiGet cmd.cmdID cmd.paramSize
  else if cmd.cmdType = cmdTypeCapture then .capture cmd.onLineCaptureCommand
  else .unknown

inductive CheckMessage
  | knock
  | unknownStatus
  | getStatus
  | getMode
  | startRtsp
  | stopRtsp
  | unknown

def CommandData.checkMessage (cmd : CommandData) : CheckMessage :=
  if cmd.cmdID = cmdIdCaptureStatus then
    if cmd.datAt 0 = knockKnock then .knock else .unknownStatus
  else if cmd.cmdID = cmdIdGetStatus then .getStatus
  else if cmd.cmdID = cmdIdGetMode then .getMode
  else if cmd.cmdID = cmdIdStartRtsp then .startRtsp
  else if cmd.cmdID = cmdIdStopRtsp then .stopRtsp
  else .unknown

/-- The sizes of a packet that is received, `none` when they are refused. -/
def fileSizes (buffer : List UInt8) : Option (UInt64 × UInt64) :=
  if SizesPass (uint64At 8 buffer) (uint64At 416 buffer) then
    some (uint64At 8 buffer, uint64At 416 buffer)
  else none

def offlineRawSize (buffer : List UInt8) : Option UInt64 :=
  if uint64At 8 buffer ≤ 0 ∨ uint64At 8 buffer > 50 then none
  else some (uint64At 8 buffer)

/-- What is dispatched for a message, with the arguments that are read out of
the buffer. -/
inductive TcpCommand
  | raw (message : RawMessage)
  | onLine (message : OnLineMessage)
  | check (message : CheckMessage)
  | receiveFile (sizes : Option (UInt64 × UInt64))
  | offlineRaw (packetSize : Option UInt64)
  | forward

def tcpCommand (buffer : List UInt8) : TcpCommand :=
  let commonCmd := CommandData.ofBuffer buffer
  match handlerFor buffer with
  | .rawCapture => .raw commonCmd.rawMessage
  | .onLine => .onLine commonCmd.onLineMessage
  | .checkDevice => .check commonCmd.checkMessage
  | .receiveFile => .receiveFile (fileSizes buffer)
  | .offlineRaw => .offlineRaw (offlineRawSize buffer)
  | .forward => .forward

/-! ## The state of all handlers -/

/-- The counters of the online captures. -/
structure OnLineFrames where
  captureFrames : ℕ
  captureFramesIndex : ℕ
  captureCheckSum : UInt16

structure TcpState where
  server : ServerState
  onLine : OnLineState
  frames : OnLineFrames
  offline : OfflineState

/-- What the calls made for one message return.  `arriving` are the bytes that
the client sends after the message; `onLineGet` is what `OnLineGet` sends for
a parameter size, and whether `DoCheckSum` then succeeds; `onlineRawFrame` is
the frame with this index that `SendRawData` is given, if any. -/
structure TcpCalls where
  handler : HandlerCalls
  arriving : List UInt8
  onLineGet : ℤ → List UInt8 × Bool
  onLine : OnLineCalls
  yuv : YuvCalls
  onlineRawFrame : ℕ → Option (List UInt8)
  host : FileHost
  arrivals : List Arrival

inductive TcpEvent
  | server (event : ServerEvent)
  | onLine (reply : CommandData)
  | param (bytes : List UInt8)
  | yuv (event : YuvEvent)
  | onlineRaw (bytes : List UInt8)
  | file (event : FileEvent)
  | removedConfig
  | fault

/-! ## The handlers -/

/-- The parameters of a set command are the next bytes of the client. -/
def TcpCalls.withParam (calls : TcpCalls) (paramSize : ℤ) : HandlerCalls :=
  { calls.handler with
    payload := calls.arriving.take paramSize.toNat
    checked := (calls.onLineGet paramSize).2 }

def TcpState.after (s : TcpState) (r : ServerState × List ServerEvent) :
    TcpState × List TcpEvent :=
  ({ s with server := r.1 }, r.2.map .server)

def OnLineFrames.setParam (s : OnLineFrames) (framenumber : UInt8) :
    OnLineFrames :=
  { s with
    captureFrames := framenumber.toNat
    captureFramesIndex := 0
    captureCheckSum := 0 }

/-- The loop of `DoCaptureOnlineRaw`; each frame that is sent leaves its
sum. -/
def OnLineFrames.doCaptureOnlineRaw (calls : TcpCalls) (s : OnLineFrames) :
    OnLineFrames × List TcpEvent :=
  let sent := (List.range' s.captureFramesIndex
    (s.captureFrames - s.captureFramesIndex)).filterMap calls.onlineRawFrame
  ({ s with
      captureFramesIndex := max s.captureFramesIndex s.captureFrames
      captureCheckSum :=
        match sent.getLast? with
        | some frame => charSum calls.handler.dev.charSigned frame
        | none => s.captureCheckSum },
    sent.map .onlineRaw)

/-- What a capture sub-command does to the counters, and the frames it
sends. -/
def onLineFrameCommand (calls : TcpCalls) (s : OnLineFrames)
    (commonCmd : CommandData) : OnLineFrames × List TcpEvent :=
  let dataId := commonCmd.datAt 0
  if dataId = dataIdCaptureYuvSetParam ∨
      dataId = dataIdCaptureOnlineRawSetParam then
    (s.setParam commonCmd.framenumber, [])
  else if dataId = dataIdCaptureYuvStart then
    let run := doCaptureYuv calls.yuv s.captureFrames s.captureFramesIndex
    ({ s with captureFramesIndex := run.captureFramesIndex },
      run.events.map .yuv)
  else if dataId = dataIdCaptureOnlineRawStart then
    s.doCaptureOnlineRaw calls
  else (s, [])

/-- `InitOnlineRawCapture` asks the sensor for its HDR mode. -/
def initOnlineRawCapture (calls : OnLineCalls) (s : RawState)
    (commonCmd : CommandData) : RawState :=
  if commonCmd.datAt 0 = dataIdCaptureOnlineRawGetParam ∧
      FindsRawNode calls then
    { s with gSensorHdrMode := calls.hdrMode.getD s.gSensorHdrMode }
  else s

def onLineCaptureMessage (calls : TcpCalls) (s : TcpState)
    (commonCmd : CommandData) : TcpState × List TcpEvent :=
  let answered := handlerOnLineCapture calls.onLine
    s.server.raw.gSensorHdrMode s.onLine calls.handler.sendCmd commonCmd
  let counted := onLineFrameCommand calls s.frames commonCmd
  ({ s with
      onLine := answered.1
      frames := counted.1
      server := { s.server with
        raw := initOnlineRawCapture calls.onLine s.server.raw commonCmd } },
    answered.2.map .onLine ++ counted.2)

def handlerOnLine (calls : TcpCalls) (s : TcpState)
    (commonCmd : CommandData) : TcpState × List TcpEvent :=
  if commonCmd.cmdType = cmdTypeCapture then
    onLineCaptureMessage calls s commonCmd
  else
    let handled := s.after (handlerOnLineMessage
      (calls.withParam commonCmd.paramSize) s.server commonCmd)
    if commonCmd.cmdType = cmdTypeUapiGet then
      (handled.1,
        .param (calls.onLineGet commonCmd.paramSize).1 :: handled.2)
    else handled

/-- `HandlerOfflineRawProcess` on the received buffer.  The fields are read
from the packet and what stands behind it on the heap. -/
def handlerOfflineRaw (calls : TcpCalls) (s : TcpState)
    (buffer : List UInt8) (size : ℕ) : TcpState × List TcpEvent :=
  match offlineRawSize buffer with
  | none => (s, [])
  | some packetSize =>
      if packetSize.toNat < size then (s, [.fault])
      else
        let receivedPacket :=
          overlay 0 (buffer.take size) (List.replicate packetSize.toNat 0)
        match receiveLoop calls.host.startTime packetSize calls.arrivals
            receivedPacket (packetSize - size.toUInt64) with
        | .complete receivedPacket =>
            let offlineRawModeControl := signed 32
              (leNat (slice 24 4 (receivedPacket ++ calls.host.heap)))
            ({ s with offline :=
                handlerOfflineRawProcess s.offline offlineRawModeControl },
              if offlineRawModeControl = 2 then [.removedConfig] else [])
        | .timeout => (s, [])
        | .waiting => (s, [.file .waiting])
        | .fault => (s, [.fault])

/-- `HandlerTCPMessage(sockfd, buffer, size)`. -/
def handleMessage (calls : TcpCalls) (s : TcpState) (buffer : List UInt8)
    (size : ℕ) : TcpState × List TcpEvent :=
  let commonCmd := CommandData.ofBuffer buffer
  match handlerFor buffer with
  | .rawCapture =>
      if calls.handler.ispOnline then (s, [])
      else
        s.after (handlerRawCapMessage (calls.withParam commonCmd.paramSize)
          s.server commonCmd)
  | .onLine => handlerOnLine calls s commonCmd
  | .checkDevice =>
      let checked := handlerCheckDevice calls.handler.mode s.server.app
        calls.handler.sendCmd commonCmd
      s.after ({ s.server with app := checked.1 }, checked.2.map .app)
  | .receiveFile =>
      (s, (handlerReceiveFile calls.host buffer size calls.arrivals).map
        .file)
  | .offlineRaw => handlerOfflineRaw calls s buffer size
  | .forward =>
      let switched := switchMode calls.handler s.server .tunring
      if (doChangeAppMode calls.handler.mode s.server.app .tunring).2 then
        s.after (andThen switched
          (forwardMessage calls.handler (buffer.take size)))
      else s.after switched

end RkaiqToolServer
