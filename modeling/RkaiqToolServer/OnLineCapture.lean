import RkaiqToolServer.ServerControl

/-!
# The online captures

`HandlerOnLineMessage` answers the messages of type `CMD_TYPE_CAPTURE` from a
state of its own: YUV frames and raw frames taken while the ISP is online.
Each sub-command that is answered builds its reply in the handler's local
record; the builders of the parameters clear the record first, the two status
builders do not.
-/

namespace RkaiqToolServer

open ByteCodec

def cmdIdCaptureYuvCapture : UInt16 := 0x0006
def cmdIdCaptureOnlineRawCapture : UInt16 := 0x0007

def dataIdCaptureYuvStatus : UInt8 := 0x00
def dataIdCaptureYuvGetParam : UInt8 := 0x01
def dataIdCaptureYuvSetParam : UInt8 := 0x02
def dataIdCaptureYuvStart : UInt8 := 0x03

def dataIdCaptureOnlineRawStatus : UInt8 := 0x10
def dataIdCaptureOnlineRawGetParam : UInt8 := 0x11
def dataIdCaptureOnlineRawSetParam : UInt8 := 0x12
def dataIdCaptureOnlineRawStart : UInt8 := 0x13

def rkispFormatNv12 : UInt8 := 0x0
def rkispFormatYuyv : UInt8 := 0x2

structure OnLineState where
  captureStatus : UInt8
  gWidth : ℤ
  gHeight : ℤ

structure VideoFormat where
  width : ℤ
  height : ℤ
  pixelFormat : List UInt8

/-- What the calls of an online capture message return.  `ispOnline` is whether
one of the four `/proc` files reports an online ISP; `mediaNodes` are the
outputs of `media-ctl` for `/dev/media0`, `/dev/media1` and `/dev/media2`;
`videoFormat` is what is read from the output of `v4l2-ctl`. -/
structure OnLineCalls where
  ispOnline : Bool
  mediaNodes : Fin 3 → List UInt8
  streamDevGiven : Bool
  gDeviceId : ℤ
  videoFormat : VideoFormat
  hdrMode : Option UInt32
  bits : UInt32

/-- The node in the first output that names one, up to the end of its line. -/
def captureDevNode (outputs : List (List UInt8)) : Option (List UInt8) :=
  (outputs.find? fun output => ascii "/dev/video" <:+: output).bind
    fun output =>
      let node := output.takeWhile fun byte => byte != 10
      if node = [] then none else some node

/-! ## The replies -/

def replyStatusAs (cmdId : UInt16) (dataId : UInt8) (cmd : CommandData)
    (retStatus : UInt8) : CommandData :=
  { cmd with
    rkid := strncpy8 rkidIspOn
    cmdType := cmdTypeCapture
    cmdID := cmdId
    datLen := 2
    dat := datOf [dataId, retStatus] }.withCheckSum

def replyStatus (cmd : CommandData) (retStatus : UInt8) : CommandData :=
  replyStatusAs cmdIdCaptureYuvCapture dataIdCaptureRawStatus cmd retStatus

def replyOnlineRawStatus (cmd : CommandData) (retStatus : UInt8) :
    CommandData :=
  replyStatusAs cmdIdCaptureOnlineRawCapture dataIdCaptureOnlineRawStatus cmd
    retStatus

/-- A number stored into a `uint16_t`. -/
def uint16Bytes (value : ℤ) : List UInt8 :=
  leBytes 2 (value % 2 ^ 16).toNat

def paramReply (cmdId : UInt16) (bytes : List UInt8) : CommandData :=
  { zeroCommand with
    rkid := strncpy8 rkidIspOn
    cmdType := cmdTypeCapture
    cmdID := cmdId
    datLen := 3
    dat := datOf bytes }.withCheckSum

def replySensorPara (calls : OnLineCalls) (s : OnLineState) :
    OnLineState × List CommandData :=
  match captureDevNode (List.ofFn calls.mediaNodes) with
  | none => (s, [])
  | some _ =>
      let s := if calls.streamDevGiven then s
        else { s with
          gWidth := calls.videoFormat.width
          gHeight := calls.videoFormat.height }
      let format := if calls.videoFormat.pixelFormat = ascii "YUYV"
        then rkispFormatYuyv else rkispFormatNv12
      (s, [paramReply cmdIdCaptureYuvCapture
        ([dataIdCaptureYuvGetParam] ++ uint16Bytes s.gWidth ++
          uint16Bytes s.gHeight ++ [format])])

def onlineRawFormat (hdrMode : UInt32) : ℕ :=
  if hdrMode = hdrX2 then 0x93
  else if hdrMode = hdrX3 then 0xa3
  else 0x00

/-- The HDR mode is the process's; `InitOnlineRawCapture` asks the sensor for
it again. -/
def replyOnlineRawSensorPara (calls : OnLineCalls) (gSensorHdrMode : UInt32)
    (s : OnLineState) : OnLineState × List CommandData :=
  let outputs :=
    if calls.gDeviceId = 0 then [calls.mediaNodes 0]
    else if calls.gDeviceId = 1 then [calls.mediaNodes 1]
    else []
  match captureDevNode outputs with
  | none => (s, [])
  | some _ =>
      let s := { s with
        gWidth := calls.videoFormat.width
        gHeight := calls.videoFormat.height }
      let hdrMode := calls.hdrMode.getD gSensorHdrMode
      (s, [paramReply cmdIdCaptureOnlineRawCapture
        ([dataIdCaptureOnlineRawGetParam] ++ uint16Bytes s.gWidth ++
          uint16Bytes s.gHeight ++ leBytes 4 calls.bits.toNat ++
          leBytes 2 (onlineRawFormat hdrMode))])

def setParaReply (cmdId : UInt16) (dataId : UInt8) : CommandData :=
  { zeroCommand with
    rkid := strncpy8 rkidIspOn
    cmdType := pcToDevice
    cmdID := cmdId
    datLen := 2
    dat := datOf [dataId, resSuccess] }.withCheckSum

def setSensorPara : CommandData :=
  setParaReply cmdIdCaptureYuvCapture dataIdCaptureRawSetParam

def setOnlineRawSensorPara : CommandData :=
  setParaReply cmdIdCaptureOnlineRawCapture dataIdCaptureOnlineRawSetParam

/-- The `CMD_TYPE_CAPTURE` case of `HandlerOnLineMessage`; the two checksum
sub-commands do nothing, and a capture sends frames but no record. -/
def handlerOnLineCapture (calls : OnLineCalls) (gSensorHdrMode : UInt32)
    (s : OnLineState) (sendCmd commonCmd : CommandData) :
    OnLineState × List CommandData :=
  let dataId := commonCmd.datAt 0
  if dataId = dataIdCaptureYuvStatus then (s, [replyStatus sendCmd ready])
  else if dataId = dataIdCaptureYuvGetParam then replySensorPara calls s
  else if dataId = dataIdCaptureYuvSetParam then (s, [setSensorPara])
  else if dataId = dataIdCaptureYuvStart then
    ({ s with captureStatus := ready }, [])
  else if dataId = dataIdCaptureOnlineRawStatus then
    if calls.ispOnline = true ∧ s.captureStatus = ready then
      (s, [replyOnlineRawStatus sendCmd ready])
    else (s, [])
  else if dataId = dataIdCaptureOnlineRawGetParam then
    replyOnlineRawSensorPara calls gSensorHdrMode s
  else if dataId = dataIdCaptureOnlineRawSetParam then
    (s, [setOnlineRawSensorPara])
  else if dataId = dataIdCaptureOnlineRawStart then
    ({ s with captureStatus := ready }, [])
  else (s, [])

/-! ## Every record sent for a message -/

def ServerEvent.sent : ServerEvent → Option CommandData
  | .app (.reply cmd) => some cmd
  | .capture _ (.reply cmd) => some cmd
  | _ => none

/-- The bytes of the records the three command handlers send for a message. -/
def repliesTo (calls : HandlerCalls) (onLine : OnLineCalls)
    (s : ServerState) (onLineState : OnLineState) (buffer : List UInt8) :
    List (List UInt8) :=
  let commonCmd := CommandData.ofBuffer buffer
  let captures :=
    if handlerFor buffer = .onLine ∧ commonCmd.cmdType = cmdTypeCapture then
      (handlerOnLineCapture onLine s.raw.gSensorHdrMode onLineState
        calls.sendCmd commonCmd).2
    else []
  ((handlerTCPMessage calls s buffer).2.filterMap ServerEvent.sent ++
    captures).map CommandData.toBuffer

end RkaiqToolServer
