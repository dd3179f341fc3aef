import RkaiqToolServer.AppMode
import RkaiqToolServer.MessageForward
import RkaiqToolServer.RawCaptureLifecycle

/-!
# The message dispatcher

`HandlerTCPMessage` hands a received message to the raw-capture handler, the
online handler, the check handler or the tuning service.  The handlers share
the application mode, which is why the state here joins it with the state of
the raw protocol and the connection to the service.  A capture event is
published with the mode it happened in.
-/

namespace RkaiqToolServer

open ByteCodec
open StepRun

structure ServerState where
  app : AppState
  raw : RawState
  client : DomainTCPClient

inductive ServerEvent
  | app (event : AppEvent)
  | capture (mode : AppRunStatus) (event : CaptureEvent)
  | handed (bytes : List UInt8)
  deriving DecidableEq

/-- What the calls made while one message is handled return, and what the
uninitialised locals of the handlers hold.  `ispOnline` is whether
`/proc/rkisp0-vir0` reports an online ISP; `payload` is what the handler
receives after the record; `checked` is whether `DoCheckSum` succeeds. -/
structure HandlerCalls where
  dev : Device
  mode : ModeCalls
  ispOnline : Bool
  payload : List UInt8
  checked : Bool
  forward : ForwardCalls
  isRecvRunning : Bool
  errno : ℕ
  sendCmd : CommandData
  checkSum : UInt16
  result : UInt32

/-! ## Answers of the capture handlers -/

def initCommandStreamingAns (cmd : CommandData) (retStatus : UInt8) :
    CommandData :=
  { cmd with
    rkid := strncpy8 rkidIspOff
    cmdType := cmdTypeStreaming
    cmdID := 0xffff
    datLen := 1
    dat := datOf [retStatus] }.withCheckSum

def initCommandRawPingAns (cmd : CommandData) (retStatus : UInt8) :
    CommandData :=
  initCommandPingAnsAs rkidIspOff cmd retStatus

def doCaptureAnswer (cmd : CommandData) (cmdId : UInt16)
    (retStatus : UInt8) : CommandData :=
  doAnswerAs cmdTypeCapture cmd cmdId retStatus

def doAnswer2 (cmd : CommandData) (cmdId checkSum : UInt16)
    (result : UInt8) : CommandData :=
  { cmd with
    rkid := strncpy8 rkidIspOn
    cmdType := cmdTypeCapture
    cmdID := cmdId
    version := strncpy8 rkaiqToolVersion
    datLen := 4
    dat := datOf ([result] ++ leBytes 2 checkSum.toNat) }.withCheckSum

/-- `OnLineSet` between its two answers; the sum starts from the value of an
uninitialised local. -/
def onLineSet (calls : HandlerCalls) (cmd : CommandData)
    (cmdId : UInt16) : List ServerEvent :=
  let ready := doCaptureAnswer cmd cmdId ready
  let checkSum := calls.payload.foldl
    (fun sum byte => sum + charValue calls.dev.charSigned byte) calls.checkSum
  [.app (.reply ready),
    .app (.reply (doAnswer2 ready cmdId checkSum
      (if calls.result ≠ 0 then resFailed else resSuccess)))]

/-! ## The handlers -/

def switchMode (calls : HandlerCalls) (s : ServerState)
    (mode : AppRunStatus) : ServerState × List ServerEvent :=
  let switched := doChangeAppMode calls.mode s.app mode
  ({ s with app := switched.1.1 }, switched.1.2.map .app)

def rawCapCommand (calls : HandlerCalls) (sendCmd commonCmd : CommandData)
    (s : ServerState) : ServerState × List ServerEvent :=
  if commonCmd.cmdID = cmdIdCaptureStatus then
    if commonCmd.datAt 0 = knockKnock then
      (s, [.app (.reply (initCommandRawPingAns sendCmd ready))])
    else (s, [.app (.reply sendCmd)])
  else if commonCmd.cmdID = cmdIdCaptureRawCapture then
    let captured := rawCaptureCase calls.dev s.raw sendCmd commonCmd
    ({ s with raw := captured.1 },
      captured.2.map (.capture s.app.gAppRunMode))
  else (s, [])

def handlerRawCapMessage (calls : HandlerCalls) (s : ServerState)
    (commonCmd : CommandData) : ServerState × List ServerEvent :=
  if commonCmd.cmdType = cmdTypeCapture then
    andThen (switchMode calls s .capture)
      (rawCapCommand calls calls.sendCmd commonCmd)
  else if commonCmd.cmdType = cmdTypeStreaming then
    let streamed := initCommandStreamingAns calls.sendCmd resSuccess
    andThen (switchMode calls s .streaming) fun s =>
      andThen (s, [.app (.reply streamed)]) fun s =>
        if commonCmd.cmdID = 0xffff then
          (s, onLineSet calls streamed commonCmd.cmdID)
        else rawCapCommand calls streamed commonCmd s
  else (s, [])

/-- `HandlerOnLineMessage`; the online captures behind `CMD_TYPE_CAPTURE` keep
their own state and switch no mode. -/
def handlerOnLineMessage (calls : HandlerCalls) (s : ServerState)
    (commonCmd : CommandData) : ServerState × List ServerEvent :=
  let answer := fun status : UInt8 =>
    [.app (.reply (doCaptureAnswer calls.sendCmd commonCmd.cmdID status))]
  if commonCmd.cmdType = cmdTypeStreaming then
    andThen (switchMode calls s .tunring) fun s =>
      if commonCmd.cmdID = 0xffff then
        (s, onLineSet calls calls.sendCmd commonCmd.cmdID)
      else (s, [])
  else if commonCmd.cmdType = cmdTypeStatus then (s, answer ready)
  else if commonCmd.cmdType = cmdTypeUapiSet then
    (s, onLineSet calls calls.sendCmd commonCmd.cmdID)
  else if commonCmd.cmdType = cmdTypeUapiGet then
    (s, answer (if calls.checked then resSuccess else resFailed))
  else (s, [])

def forwardMessage (calls : HandlerCalls) (buffer : List UInt8)
    (s : ServerState) : ServerState × List ServerEvent :=
  let result := messageForward s.client calls.errno calls.isRecvRunning
    buffer calls.forward
  ({ s with
      client := result.client
      app := if result.resetMode then { s.app with gAppRunMode := .init }
        else s.app },
    [.handed result.handed])

/-- `HandlerTCPMessage`; file transfers and offline control touch none of the
state modelled here. -/
def handlerTCPMessage (calls : HandlerCalls) (s : ServerState)
    (buffer : List UInt8) : ServerState × List ServerEvent :=
  let commonCmd := CommandData.ofBuffer buffer
  match handlerFor buffer with
  | .rawCapture =>
      if calls.ispOnline then (s, [])
      else handlerRawCapMessage calls s commonCmd
  | .onLine => handlerOnLineMessage calls s commonCmd
  | .checkDevice =>
      let checked := handlerCheckDevice calls.mode s.app calls.sendCmd
        commonCmd
      ({ s with app := checked.1 }, checked.2.map .app)
  | .receiveFile | .offlineRaw => (s, [])
  | .forward =>
      let switched := switchMode calls s .tunring
      if (doChangeAppMode calls.mode s.app .tunring).2 then
        andThen switched (forwardMessage calls buffer)
      else switched

/-! ## Runs -/

/-- Between two messages the offline thread may send to the service, which
resets the mode when the service cannot be reached. -/
inductive ServerInput
  | message (calls : HandlerCalls) (buffer : List UInt8)
  | offlineSend (errno : ℕ) (calls : ForwardCalls) (packet : List UInt8)

def serverStep (s : ServerState) :
    ServerInput → ServerState × List ServerEvent
  | .message calls buffer => handlerTCPMessage calls s buffer
  | .offlineSend errno calls packet =>
      let sent := sendToAiq s.client errno packet calls
      ({ s with
          client := sent.client
          app := if sent.failed then { s.app with gAppRunMode := .init }
            else s.app },
        [.handed sent.handed])

def ServerState.boot (calls : ModeCalls) (mode : AppRunStatus)
    (gRtspEnFromCmdarg : ℤ) (streamDev : Option Bool) (hdrMode : UInt32)
    (client : DomainTCPClient) : ServerState where
  app := RkaiqToolServer.boot calls mode gRtspEnFromCmdarg streamDev
  raw := RawState.initial hdrMode
  client := client

/-! ## A server without faults -/

def workingModeCalls : ModeCalls where
  stopRTSP := true
  linkToIsp := true
  startApp := true
  initRtsp := true
  flowsLeft := false

def workingCalls : HandlerCalls where
  dev := workingDevice .vicap fun _ => [1, 2]
  mode := workingModeCalls
  ispOnline := false
  payload := []
  checked := true
  forward :=
    { send := .sent 72, setup := { created := some 7, connected := true } }
  isRecvRunning := false
  errno := 0
  sendCmd := zeroCommand
  checkSum := 0
  result := 0

end RkaiqToolServer
