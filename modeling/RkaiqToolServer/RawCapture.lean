import RkaiqToolServer.CommandData
import RkaiqToolServer.MultiFrameProcess
import RkaiqToolServer.StepRun

/-!
# The raw-capture protocol

The static state of `rkaiq_raw_protocol.cpp` and the functions behind the
sub-commands of a raw capture.  A command runs against a `Device`, which holds
what the device calls made by that command return; everything the command does
to the device or sends to the client is published as `CaptureEvent`s.

A frame is the memory of a capture buffer: the bytes the driver filled and
whatever lies behind them.  The accumulators are the words `InitMultiFrame`
allocates.
-/

namespace RkaiqToolServer

open ByteCodec
open StepRun

inductive SensorLink
  | vicap
  | isp
  | dvp
  deriving DecidableEq

inductive IoMethod
  | read
  | mmap
  | userptr
  deriving DecidableEq

structure CaptureInfo where
  devFd : ℤ
  subdevFd : ℤ
  lensdevFd : ℤ
  io : IoMethod
  lensPresent : Bool
  width : UInt16
  height : UInt16
  lhcg : UInt8
  link : SensorLink
  frameCount : UInt8

/-- A dequeued buffer and what lies behind it.  The callbacks get its size as
an `int`. -/
structure Frame where
  bytes : List UInt8
  beyond : ℕ → UInt8
  fits : bytes.length < 2 ^ 31 := by simp

def Frame.byte (frame : Frame) (index : ℕ) : UInt8 :=
  if h : index < frame.bytes.length then frame.bytes[index]
  else frame.beyond (index - frame.bytes.length)

/-- The bytes, as many of them as an `int` counts, and zeros behind them. -/
def Frame.ofBytes (bytes : List UInt8) : Frame where
  bytes := bytes.take (2 ^ 31 - 1)
  beyond := fun _ => 0
  fits := by
    rw [List.length_take]
    omega

/-- `((uint16_t*)buffer)[n]`. -/
def Frame.sample (frame : Frame) (n : ℕ) : UInt16 :=
  UInt16.ofNat (leNat [frame.byte (2 * n), frame.byte (2 * n + 1)])

structure SensorReadings where
  fps : UInt32
  hts : UInt32
  vts : UInt32
  bits : UInt32

/-- What the device calls of one command return.  `reads k` is the outcome of
the `k`-th `read_frame` of the command, `none` when it delivers no buffer;
`hdrMode` is `none` when the sensor cannot be opened; `readings` is `none`
when one of the queries of `GetSensorPara` fails. -/
structure Device where
  charSigned : Bool
  devFd : ℤ
  subdevFd : ℤ
  lensdevFd : ℤ
  link : SensorLink
  lensPresent : Bool
  hdrMode : Option UInt32
  readings : Option SensorReadings
  ispOnline : Bool
  focusRange : Option (UInt32 × UInt32)
  vblankWritten : Bool
  exposureWritten : Bool
  gainWritten : Bool
  focusWritten : Bool
  reads : ℕ → Option Frame

structure RawState where
  captureStatus : UInt8
  captureMode : UInt8
  captureFrames : ℕ
  captureFramesIndex : ℕ
  captureCheckSum : UInt16
  capInfo : CaptureInfo
  avergeFrame0 : Option (List UInt32)
  avergeFrame1 : Option (List UInt16)
  needSetParamFlag : Bool
  gSensorHdrMode : UInt32
  /-- The buffers array of the last `init_device` has not been freed since. -/
  buffersLive : Bool

def rawCap : UInt8 := 0x00
def avaliable : UInt8 := 0x01

def captureNormal : UInt8 := 0

def noHdr : UInt32 := 0
def hdrX2 : UInt32 := 5
def hdrX3 : UInt32 := 6

/-- The static state of the process; `main` has already asked the sensor for
its HDR mode. -/
def RawState.initial (hdrMode : UInt32) : RawState where
  captureStatus := ready
  captureMode := captureNormal
  captureFrames := 1
  captureFramesIndex := 0
  captureCheckSum := 0
  capInfo :=
    { devFd := 0, subdevFd := 0, lensdevFd := 0, io := .read,
      lensPresent := false, width := 0, height := 0, lhcg := 0,
      link := .vicap, frameCount := 0 }
  avergeFrame0 := none
  avergeFrame1 := none
  needSetParamFlag := true
  gSensorHdrMode := hdrMode
  buffersLive := false

inductive Control
  | vblank
  | exposure
  | analogueGain
  | focusAbsolute
  deriving DecidableEq

inductive CaptureEvent
  | startCapture
  | initDevice
  | startCapturing
  | initMultiFrame
  | setLHcg (mode : UInt8)
  | setCtrl (control : Control) (value : UInt32)
  | readFrame (index : ℕ)
  | addFrame (nonNull : Bool)
  | payload (bytes : List UInt8)
  | stopCapture
  | stopCapturing
  | uninitDevice
  | freeBuffers
  | rawCaptureDeinit
  | deInitMultiFrame
  | reply (cmd : CommandData)
  deriving DecidableEq

/-! ## Sending a payload -/

/-- A byte as the platform's `char`, added to a `uint16_t`. -/
def charValue (charSigned : Bool) (byte : UInt8) : UInt16 :=
  if charSigned && decide (128 ≤ byte.toNat) then
    UInt16.ofNat byte.toNat + (0xff00 : UInt16)
  else UInt16.ofNat byte.toNat

def charSum (charSigned : Bool) (bytes : List UInt8) : UInt16 :=
  bytes.foldl (fun sum byte => sum + charValue charSigned byte) 0

def sendRawData (dev : Device) (s : RawState) (bytes : List UInt8) :
    RawState × List CaptureEvent :=
  ({ s with captureCheckSum := charSum dev.charSigned bytes },
    [.payload bytes])

/-! ## Frame callbacks -/

/-- `width * height * 2`, an `int`. -/
def frameLimit (s : RawState) : ℤ :=
  wrapInt ((s.capInfo.width.toNat : ℤ) * s.capInfo.height.toNat * 2)

theorem frameLimit_eq {s : RawState}
    (hsize : 2 * (s.capInfo.width.toNat * s.capInfo.height.toNat) < 2 ^ 31) :
    frameLimit s =
      (2 * (s.capInfo.width.toNat * s.capInfo.height.toNat) : ℕ) := by
  have hproduct :
      (s.capInfo.width.toNat : ℤ) * s.capInfo.height.toNat * 2 =
        (2 * (s.capInfo.width.toNat * s.capInfo.height.toNat) : ℕ) := by
    push_cast
    ring
  rw [frameLimit, hproduct]
  exact wrapInt_of_range (by omega) (by omega)

def doCaptureCallBack (dev : Device) (s : RawState) (frame : Frame) :
    RawState × List CaptureEvent :=
  if s.gSensorHdrMode = noHdr ∧ frameLimit s < frame.bytes.length then
    (s, [])
  else sendRawData dev s frame.bytes

def pixelBytes (pixels : List UInt16) : List UInt8 :=
  pixels.flatMap fun pixel => leBytes 2 pixel.toNat

def doMultiFrameCallBack
    (dev : Device) (s : RawState) (index : ℕ) (frame : Frame) :
    RawState × List CaptureEvent :=
  if frameLimit s < frame.bytes.length then (s, [])
  else
    match s.avergeFrame0 with
    -- the addition would go through a null pointer
    | none => (s, [.addFrame false])
    | some accumulator =>
        let width := s.capInfo.width.toNat
        let height := s.capInfo.height.toNat
        let added := multiFrameAddition accumulator frame.sample width height
          (decide (s.capInfo.link ≠ .vicap))
        let s := { s with avergeFrame0 := some added }
        if index + 1 = s.captureFrames then
          let averaged := multiFrameAverage added
            (s.avergeFrame1.getD []) width height (s.captureFrames % 256)
          let s := { s with
            avergeFrame0 := some averaged.1
            avergeFrame1 := some averaged.2 }
          andThen (s, [.addFrame true]) fun s =>
            sendRawData dev s
              ((pixelBytes averaged.2).take frame.bytes.length)
        else if index + 1 = s.captureFrames / 2 then
          andThen (s, [.addFrame true]) fun s =>
            sendRawData dev s frame.bytes
        else (s, [.addFrame true])

/-! ## The two capture loops -/

/-- `read_frame` with a callback: the callback runs when a buffer was
delivered. -/
def readFrame
    (outcome : Option Frame) (s : RawState) (index : ℕ)
    (callback : RawState → Frame → RawState × List CaptureEvent) :
    RawState × List CaptureEvent :=
  andThen (s, [.readFrame index]) fun s =>
    match outcome with
    | none => (s, [])
    | some frame => callback s frame

def skipFrame : ℕ := 5

def setLHcg (s : RawState) : List CaptureEvent :=
  if s.capInfo.lhcg ≠ 2 ∧ s.needSetParamFlag = true then
    [.setLHcg s.capInfo.lhcg]
  else []

def skipFrames (s : RawState) : List CaptureEvent :=
  if s.captureFramesIndex = 0 then
    setLHcg s ++ (List.range skipFrame).map .readFrame
  else []

def skipped (s : RawState) : ℕ :=
  if s.captureFramesIndex = 0 then skipFrame else 0

def doCapture (dev : Device) (s : RawState) :
    RawState × List CaptureEvent :=
  let read := dev.reads (skipped s)
  andThen (s, skipFrames s) fun s =>
    let r := readFrame read s s.captureFramesIndex (doCaptureCallBack dev)
    ({ r.1 with captureFramesIndex := r.1.captureFramesIndex + 1 }, r.2)

/-- `for (i = first; i < first + count; i++)` over `read_frame` with the
multi-frame callback. -/
def multiFrameLoop (dev : Device) :
    ℕ → ℕ → ℕ → RawState → RawState × List CaptureEvent
  | _, _, 0, s => (s, [])
  | read, index, count + 1, s =>
      let r := readFrame (dev.reads read) s index fun s frame =>
        doMultiFrameCallBack dev s index frame
      andThen
        ({ r.1 with captureFramesIndex := r.1.captureFramesIndex + 1 }, r.2)
        (multiFrameLoop dev (read + 1) (index + 1) count)

def doMultiFrameCapture (dev : Device) (s : RawState) :
    RawState × List CaptureEvent :=
  let half := s.captureFrames / 2
  let read := skipped s
  andThen (s, skipFrames s) fun s =>
    if s.captureFramesIndex = 0 then multiFrameLoop dev read 0 half s
    else if s.captureFramesIndex = half then
      multiFrameLoop dev read half (s.captureFrames - half) s
    else (s, [])

/-! ## Start and stop -/

/-- The words of `one_frame_size` bytes, a `uint32_t`. -/
def averageWords (s : RawState) : ℕ :=
  s.capInfo.width.toNat * s.capInfo.height.toNat * 4 % 2 ^ 32 / 4

def startCapture (dev : Device) (s : RawState) :
    RawState × List CaptureEvent :=
  let s := { s with
    buffersLive := true
    capInfo := { s.capInfo with devFd := dev.devFd } }
  if s.captureMode ≠ captureNormal then
    ({ s with
        avergeFrame0 := some (List.replicate (averageWords s) 0)
        avergeFrame1 := some (List.replicate (averageWords s) 0) },
      [.startCapture, .initDevice, .startCapturing, .initMultiFrame])
  else (s, [.startCapture, .initDevice, .startCapturing])

/-- `if (fd > 0) { device_close(fd); fd = -1; }` -/
def closeFd (fd : ℤ) : ℤ := if 0 < fd then -1 else fd

def stopCapture (s : RawState) : RawState × List CaptureEvent :=
  let s := { s with
    buffersLive := false
    capInfo := { s.capInfo with
      devFd := -1
      subdevFd := closeFd s.capInfo.subdevFd } }
  if s.captureMode ≠ captureNormal then
    ({ s with avergeFrame0 := none, avergeFrame1 := none },
      [.stopCapture, .stopCapturing, .uninitDevice, .freeBuffers,
        .rawCaptureDeinit, .deInitMultiFrame])
  else
    (s, [.stopCapture, .stopCapturing, .uninitDevice, .freeBuffers,
      .rawCaptureDeinit])

def rawCaputure (dev : Device) (s : RawState) :
    RawState × List CaptureEvent :=
  let started :=
    if s.captureFramesIndex = 0 then startCapture dev s else (s, [])
  let captured := andThen started fun s =>
    if s.captureMode = captureNormal then doCapture dev s
    else doMultiFrameCapture dev s
  andThen captured fun s =>
    if s.captureFramesIndex = s.captureFrames then stopCapture s
    else (s, [])

/-! ## The sub-commands -/

structure CaptureParams where
  gain : UInt32
  time : UInt32
  lhcg : UInt8
  bits : UInt8
  framenumber : UInt8
  multiframe : UInt8
  vblank : UInt32
  focusPosition : UInt32

def uint32At (offset : ℕ) (bytes : List UInt8) : UInt32 :=
  UInt32.ofNat (leNat (slice offset 4 bytes))

/-- `(Capture_Params_t*)(recv_cmd->dat + 1)`. -/
def CommandData.captureParams (recvCmd : CommandData) : CaptureParams where
  gain := uint32At 1 recvCmd.dat.toList
  time := uint32At 5 recvCmd.dat.toList
  lhcg := recvCmd.datAt 9
  bits := recvCmd.datAt 10
  framenumber := recvCmd.datAt 11
  multiframe := recvCmd.datAt 12
  vblank := uint32At 13 recvCmd.dat.toList
  focusPosition := uint32At 17 recvCmd.dat.toList

def initCommandRawCapAns (cmd : CommandData) (retStatus : UInt8) :
    CommandData :=
  { cmd with
    rkid := strncpy8 rkidIspOff
    cmdType := deviceToPc
    cmdID := cmdIdCaptureRawCapture
    datLen := 2
    dat := datOf [0x00, retStatus] }.withCheckSum

def zeroCommand : CommandData where
  rkid := strncpy8 []
  cmdType := 0
  cmdID := 0
  version := strncpy8 []
  datLen := 0
  dat := datOf []
  checkSum := 0

def rawCaptureinit (dev : Device) (s : RawState) (cmd : CommandData) :
    RawState :=
  { s with
    capInfo := { s.capInfo with
      link := dev.link
      lensPresent := dev.lensPresent
      devFd := -1
      subdevFd := -1
      lensdevFd := -1
      io := .mmap
      width := uint16At 1 cmd.dat.toList
      height := uint16At 3 cmd.dat.toList }
    gSensorHdrMode := dev.hdrMode.getD s.gSensorHdrMode }

def sensorImageFormat (s : RawState) : ℕ :=
  if s.gSensorHdrMode = hdrX2 then 0x93
  else if s.gSensorHdrMode = hdrX3 then 0xa3
  else 0x00

def getSensorPara (dev : Device) (s : RawState) (retStatus : UInt8) :
    RawState × List CaptureEvent :=
  match dev.readings with
  | some readings =>
      let endianness : UInt8 := if s.capInfo.link = .isp then 1 else 0
      let cmd := { zeroCommand with
        rkid := strncpy8 rkidIspOff
        cmdType := deviceToPc
        cmdID := cmdIdCaptureRawCapture
        datLen := 20
        dat := datOf ([0x01, retStatus] ++ leBytes 4 readings.fps.toNat ++
          leBytes 4 readings.hts.toNat ++ leBytes 4 readings.vts.toNat ++
          leBytes 4 readings.bits.toNat ++ [endianness] ++
          leBytes 2 (sensorImageFormat s)) }
      ({ s with capInfo := { s.capInfo with
          subdevFd := closeFd dev.subdevFd
          devFd := closeFd s.capInfo.devFd } },
        [.reply cmd.withCheckSum])
  | none =>
      let cmd := { zeroCommand with
        rkid := strncpy8 rkidIspOff
        cmdType := pcToDevice
        cmdID := cmdIdCaptureRawCapture
        datLen := 20
        dat := datOf [0x01, resFailed] }
      ({ s with capInfo := { s.capInfo with
          subdevFd := closeFd dev.subdevFd } },
        [.reply cmd.withCheckSum])

/-- The requested focus position against the driver's range; the comparisons
are unsigned because the position is. -/
def clampFocus (position minimum maximum : UInt32) : UInt32 :=
  if position < minimum then minimum
  else if maximum < position then maximum
  else position

/-- The control writes of `SetCapConf` with the outcome of each. -/
def controlWrites (dev : Device) (lensPresent : Bool)
    (params : CaptureParams) : List (Control × UInt32 × Bool) :=
  [(.vblank, params.vblank, dev.vblankWritten),
    (.exposure, params.time, dev.exposureWritten),
    (.analogueGain, params.gain, dev.gainWritten)] ++
  match lensPresent, dev.focusRange with
  | true, some (minimum, maximum) =>
      [(.focusAbsolute, clampFocus params.focusPosition minimum maximum,
        dev.focusWritten)]
  | _, _ => []

def setCapConf
    (dev : Device) (s : RawState) (recvCmd : CommandData)
    (retStatus : UInt8) : RawState × List CaptureEvent :=
  let params := recvCmd.captureParams
  let writes :=
    if dev.ispOnline then []
    else controlWrites dev s.capInfo.lensPresent params
  let status := if writes.all fun write => write.2.2 then retStatus
    else resFailed
  let cmd := { zeroCommand with
    rkid := strncpy8 rkidIspOff
    cmdType := deviceToPc
    cmdID := cmdIdCaptureRawCapture
    datLen := 2
    dat := datOf [0x02, status] }
  ({ s with
      needSetParamFlag := !dev.ispOnline
      captureFrames := params.framenumber.toNat
      captureFramesIndex := 0
      captureMode := params.multiframe
      captureCheckSum := 0
      capInfo := { s.capInfo with
        subdevFd := closeFd dev.subdevFd
        lensdevFd :=
          if s.capInfo.lensPresent then dev.lensdevFd
          else s.capInfo.lensdevFd
        frameCount := params.framenumber
        lhcg := params.lhcg } },
    writes.map (fun write => .setCtrl write.1 write.2.1) ++
      [.reply cmd.withCheckSum])

/-- `*(unsigned short*)&recv_cmd->dat[1]`. -/
def CommandData.checksumValue (recvCmd : CommandData) : UInt16 :=
  uint16At 1 recvCmd.dat.toList

def sendRawDataResult (s : RawState) (sendCmd recvCmd : CommandData) :
    RawState × List CaptureEvent :=
  let answer := fun status : UInt8 =>
    ({ sendCmd with
      rkid := strncpy8 rkidIspOff
      cmdType := deviceToPc
      cmdID := cmdIdCaptureRawCapture
      datLen := 2
      dat := datOf [0x04, status] } : CommandData).withCheckSum
  if s.captureCheckSum = recvCmd.checksumValue then
    (s, [.reply (answer resSuccess)])
  else
    andThen (stopCapture s) fun s => (s, [.reply (answer resFailed)])

/-- The `CMD_ID_CAPTURE_RAW_CAPTURE` case of `HandlerRawCapMessage`.  `sendCmd`
is what the handler's local reply record held before. -/
def rawCaptureCase
    (dev : Device) (s : RawState) (sendCmd commonCmd : CommandData) :
    RawState × List CaptureEvent :=
  let dataId := commonCmd.datAt 0
  if dataId = dataIdCaptureRawStatus then
    let answer :=
      if commonCmd.datAt 1 = knockKnock then
        initCommandRawCapAns sendCmd
          (if s.captureStatus = rawCap then busy else ready)
      else sendCmd
    (s, [.reply answer])
  else if dataId = dataIdCaptureRawGetParam then
    getSensorPara dev (rawCaptureinit dev s commonCmd) resSuccess
  else if dataId = dataIdCaptureRawSetParam then
    setCapConf dev s commonCmd ready
  else if dataId = dataIdCaptureRawStart then
    andThen (rawCaputure dev { s with captureStatus := rawCap })
      fun s => ({ s with captureStatus := avaliable }, [])
  else if dataId = dataIdCaptureRawChecksum then
    sendRawDataResult s sendCmd commonCmd
  else (s, [])

/-! ## What a client sends -/

def captureRequest (dat : List UInt8) : CommandData :=
  { zeroCommand with
    rkid := strncpy8 rkidIspOff
    cmdType := cmdTypeCapture
    cmdID := cmdIdCaptureRawCapture
    datLen := 48
    dat := datOf dat }

def getParamRequest (width height : UInt16) : CommandData :=
  captureRequest ([dataIdCaptureRawGetParam] ++ leBytes 2 width.toNat ++
    leBytes 2 height.toNat)

/-- A SET_PARAM for `framenumber` frames; the sensor controls are left at
zero and LHCG is not used. -/
def setParamRequest (framenumber multiframe : UInt8) : CommandData :=
  captureRequest [dataIdCaptureRawSetParam, 0, 0, 0, 0, 0, 0, 0, 0, 2, 0,
    framenumber, multiframe]

def startRequest : CommandData := captureRequest [dataIdCaptureRawStart]

def checksumRequest (checksum : UInt16) : CommandData :=
  captureRequest ([dataIdCaptureRawChecksum] ++ leBytes 2 checksum.toNat)

structure Device.Succeeds (dev : Device) : Prop where
  hdrMode : dev.hdrMode.isSome = true
  readings : dev.readings.isSome = true
  focusRange : dev.focusRange.isSome = true
  vblankWritten : dev.vblankWritten = true
  exposureWritten : dev.exposureWritten = true
  gainWritten : dev.gainWritten = true
  focusWritten : dev.focusWritten = true
  reads : ∀ k, (dev.reads k).isSome = true

/-- A device without faults that delivers `frames k` to the `k`-th read of a
command. -/
def workingDevice (link : SensorLink) (frames : ℕ → List UInt8) : Device where
  charSigned := false
  devFd := 3
  subdevFd := 4
  lensdevFd := 5
  link := link
  lensPresent := true
  hdrMode := some noHdr
  readings := some { fps := 30, hts := 1000, vts := 1000, bits := 12 }
  ispOnline := false
  focusRange := some (0, 64)
  vblankWritten := true
  exposureWritten := true
  gainWritten := true
  focusWritten := true
  reads := fun k => some (.ofBytes (frames k))

theorem workingDevice_succeeds
    (link : SensorLink) (frames : ℕ → List UInt8) :
    (workingDevice link frames).Succeeds :=
  ⟨rfl, rfl, rfl, rfl, rfl, rfl, rfl, fun _ => rfl⟩

end RkaiqToolServer
