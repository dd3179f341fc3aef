import RkaiqToolServer.BitRates
import RkaiqToolServer.ByteCodec

/-!
# The settings of the encoder

`MPPCommonConfig` sets up the H.264 and H.265 encoders and changes the settings
of a running one.  A setting is stored in the configuration object of the
library first; the call `MPP_ENC_SET_CFG` hands the whole object to the
encoder.  What the encoder was given last is kept beside the object, because
the code keeps a third copy, the `VideoConfig` that `GetConfig` returns.

The library takes every key that is stored here.  Its calls can fail, and their
results are inputs.
-/

namespace RkaiqToolServer

open ByteCodec

/-! ## Keys and values -/

/-- The two codecs of `MPPCommonConfig`; their quantizer keys differ in the
prefix `h264:` or `h265:` only. -/
inductive MppCodingType
  | avc
  | hevc
  deriving DecidableEq

inductive MppKey
  | prepWidth
  | prepHeight
  | prepHorStride
  | prepVerStride
  | prepFormat
  | prepRotation
  | prepRange
  | rcMode
  | rcBpsMin
  | rcBpsMax
  | rcBpsTarget
  | rcFpsInFlex
  | rcFpsInNum
  | rcFpsInDenorm
  | rcFpsOutFlex
  | rcFpsOutNum
  | rcFpsOutDenorm
  | rcGop
  | codecType
  | h264Profile
  | h264Level
  | h264CabacEn
  | h264CabacIdc
  | h264Trans8x8
  | qpInit (codec : MppCodingType)
  | qpMax (codec : MppCodingType)
  | qpMin (codec : MppCodingType)
  | qpStep (codec : MppCodingType)
  | qpMaxI (codec : MppCodingType)
  | qpMinI (codec : MppCodingType)
  | qpDeltaIp (codec : MppCodingType)
  | splitMode
  | splitArg
  deriving DecidableEq

inductive MppFrameFormat
  | yuv420p
  | yuv420sp
  | yuv420spVu
  | yuv422p
  | yuv422sp
  | yuv422spVu
  | yuv422Yuyv
  | yuv422Uyvy
  | rgb565
  | bgr565
  | rgb888
  | bgr888
  | argb8888
  | abgr8888
  | yuv420spAfbc
  | yuv422spAfbc
  deriving DecidableEq

/-- The invalid format `-1` is `none`. -/
def convertToMppPixFmt : PixelFormat → Option MppFrameFormat
  | .yuv420p => some .yuv420p
  | .nv12 => some .yuv420sp
  | .nv21 => some .yuv420spVu
  | .yuv422p => some .yuv422p
  | .nv16 => some .yuv422sp
  | .nv61 => some .yuv422spVu
  | .yuyv422 => some .yuv422Yuyv
  | .uyvy422 => some .yuv422Uyvy
  | .rgb565 => some .rgb565
  | .bgr565 => some .bgr565
  | .rgb888 => some .rgb888
  | .bgr888 => some .bgr888
  | .argb8888 => some .argb8888
  | .abgr8888 => some .abgr8888
  | .fbc0 => some .yuv420spAfbc
  | .fbc2 => some .yuv422spAfbc
  | .none | .rgb332 | .nb => none

inductive MppEncRotationCfg
  | rot0
  | rot90
  | rot180
  | rot270
  deriving DecidableEq

/-- The values keep the names that the enumerators of the library have. -/
inductive MppValue
  | s32 (value : Int32)
  | u32 (value : UInt32)
  | mode (mode : MppEncRcMode)
  | format (format : MppFrameFormat)
  | rotation (rotation : MppEncRotationCfg)
  | coding (type : MppCodingType)
  | rangeJpeg
  deriving DecidableEq

abbrev MppEncCfg := MppKey → MppValue

/-! ## The encoder -/

inductive EncGopMode
  | normalp
  | tsvc2
  | tsvc3
  | tsvc4
  | smartp
  deriving DecidableEq

/-- The arguments a reference structure is generated from. -/
structure MppEncRefCfg where
  gopMode : EncGopMode
  gopLen : Int32
  viLen : Int32
  deriving DecidableEq

structure EncRoiRegion where
  x : UInt16
  y : UInt16
  w : UInt16
  h : UInt16
  intra : UInt16
  quality : Int16
  qpAreaIdx : UInt16
  areaMapEn : UInt8
  absQpEn : UInt8
  deriving DecidableEq

/-- `userdata_len` is the length of the bytes. -/
structure UserData where
  userdata : List UInt8
  frameId : UInt16
  allFrameEn : Bool
  deriving DecidableEq

structure MppEncoder where
  codeType : MppCodingType
  encCfg : MppEncCfg
  /-- The object as `MPP_ENC_SET_CFG` last handed it over. -/
  device : MppEncCfg
  refCfg : Option MppEncRefCfg
  vidCfg : VideoConfig
  rcApiBriefName : String
  encoderStaEn : Bool
  roiCfg : List EncRoiRegion
  userData : UserData

/-- The results of the calls to the library and of the OSD functions. -/
structure MppAnswers where
  setOutputTimeout : Bool
  setInputTimeout : Bool
  setHeaderMode : Bool
  setCfg : Bool
  refCfgInit : Bool
  refCfgGen : Bool
  setRefCfg : Bool
  setIdrFrame : Bool
  setRcApi : Bool
  osd : Bool
  deriving DecidableEq

def MppEncCfg.store (cfg : MppEncCfg) (writes : List (MppKey × MppValue)) :
    MppEncCfg :=
  writes.foldl (fun cfg write => Function.update cfg write.1 write.2) cfg

def MppEncoder.store (enc : MppEncoder) (writes : List (MppKey × MppValue)) :
    MppEncoder :=
  { enc with encCfg := enc.encCfg.store writes }

/-- The settings are stored and handed over; once the encoder has taken them
they are saved in the configuration. -/
def MppEncoder.setCfg (enc : MppEncoder) (answers : MppAnswers)
    (writes : List (MppKey × MppValue)) (save : VideoConfig → VideoConfig) :
    Bool × MppEncoder :=
  let stored := enc.store writes
  if answers.setCfg then
    (true, { stored with device := stored.encCfg, vidCfg := save enc.vidCfg })
  else (false, stored)

def MppEncoder.restartUserData (enc : MppEncoder) : MppEncoder :=
  { enc with userData := { enc.userData with frameId := 0 } }

/-! ## Quantizers -/

structure VideoEncoderQp where
  qpInit : Int32
  qpStep : Int32
  qpMin : Int32
  qpMax : Int32
  qpMinI : Int32
  qpMaxI : Int32
  deriving DecidableEq

def qpTable : List (ParamString × VideoEncoderQp) :=
  [("highest".toList, ⟨-1, 6, 20, 51, 24, 51⟩),
    ("higher".toList, ⟨-1, 6, 24, 51, 24, 51⟩),
    ("high".toList, ⟨-1, 6, 26, 51, 24, 51⟩),
    ("medium".toList, ⟨-1, 6, 29, 51, 24, 51⟩),
    ("low".toList, ⟨-1, 6, 30, 51, 24, 51⟩),
    ("lower".toList, ⟨-1, 6, 35, 51, 24, 51⟩),
    ("lowest".toList, ⟨-1, 6, 38, 51, 24, 51⟩)]

/-- `strcmp`: the case counts here. -/
def calcQpWithRcQuality (level : ParamString) : Option VideoEncoderQp :=
  (qpTable.find? fun entry => entry.1 = level).map Prod.snd

def VideoConfig.withQp (cfg : VideoConfig) (qps : VideoEncoderQp) :
    VideoConfig :=
  { cfg with
    qpInit := qps.qpInit
    qpStep := qps.qpStep
    qpMin := qps.qpMin
    qpMax := qps.qpMax
    qpMinI := qps.qpMinI
    qpMaxI := qps.qpMaxI }

def VideoConfig.qps (cfg : VideoConfig) : VideoEncoderQp :=
  { qpInit := cfg.qpInit
    qpStep := cfg.qpStep
    qpMin := cfg.qpMin
    qpMax := cfg.qpMax
    qpMinI := cfg.qpMinI
    qpMaxI := cfg.qpMaxI }

/-- The H.265 encoder forgets its difference between I and P frames when the
quantizers change, so it is set again. -/
def qpWrites (codec : MppCodingType) (qps : VideoEncoderQp) :
    List (MppKey × MppValue) :=
  [(.qpInit codec, .s32 qps.qpInit), (.qpMax codec, .s32 qps.qpMax),
    (.qpMin codec, .s32 qps.qpMin), (.qpStep codec, .s32 qps.qpStep),
    (.qpMaxI codec, .s32 qps.qpMaxI), (.qpMinI codec, .s32 qps.qpMinI)] ++
    match codec with
    | .avc => []
    | .hevc => [(.qpDeltaIp .hevc, .s32 3)]

def bpsWrites (rates : BitRates) : List (MppKey × MppValue) :=
  [(.rcBpsMin, .s32 rates.min), (.rcBpsMax, .s32 rates.max),
    (.rcBpsTarget, .s32 rates.target)]

def VideoConfig.bitRates (cfg : VideoConfig) : BitRates :=
  { max := cfg.bitRateMax, min := cfg.bitRateMin, target := cfg.bitRate }

def VideoConfig.withBitRates (cfg : VideoConfig) (rates : BitRates) :
    VideoConfig :=
  { cfg with
    bitRate := rates.target
    bitRateMax := rates.max
    bitRateMin := rates.min }

/-! ## The configuration of a new encoder -/

/-- `ENCODER_CFG_CHECK`; the default `ENCODER_CFG_INVALID` is `none`. -/
def encoderCfgCheck (value min max : Int32) (defValue : Option Int32) :
    Option Int32 :=
  if value = 0 then defValue
  else if value > max ∨ value < min then none
  else some value

def valueMin (a b : Int32) : Int32 := if a < b then a else b

def keyVbr : ParamString := "vbr".toList

/-- In the mode `vbr` the quantizers come from the quality unless the caller has
set them. -/
def VideoConfig.qualityQp (cfg : VideoConfig) : Option VideoConfig :=
  match cfg.rcMode, cfg.rcQuality with
  | some mode, some quality =>
      if mode = keyVbr ∧ (cfg.qpMax = 0 ∨ cfg.qpMin = 0) then
        (calcQpWithRcQuality quality).map cfg.withQp
      else some cfg
  | _, _ => some cfg

def VideoConfig.checkedRates (cfg : VideoConfig) : Option VideoConfig := do
  let frameRate ← encoderCfgCheck cfg.frameRate 1 60 none
  let frameRateDen ← encoderCfgCheck cfg.frameRateDen 1 16 (some 1)
  let frameInRate ← encoderCfgCheck cfg.frameInRate 1 60 none
  let frameInRateDen ← encoderCfgCheck cfg.frameInRateDen 1 16 (some 1)
  let gopSize ← encoderCfgCheck cfg.gopSize 1 3000
    (some (if frameRate > 10 then frameRate else 30))
  some { cfg with
    frameRate := frameRate
    frameRateDen := frameRateDen
    frameInRate := frameInRate
    frameInRateDen := frameInRateDen
    gopSize := gopSize }

/-- With `qp_init = -1` the encoder finds a value itself. -/
def checkedQpInit (qpInit qpMin qpMax : Int32) : Option Int32 :=
  if qpInit ≠ -1 then
    encoderCfgCheck qpInit qpMin qpMax (some ((qpMin + qpMax) / 2))
  else some qpInit

def VideoConfig.checkedQp (cfg : VideoConfig) : Option VideoConfig := do
  let qpMax ← encoderCfgCheck cfg.qpMax 8 51 (some 48)
  let qpMin ← encoderCfgCheck cfg.qpMin 1 (valueMin qpMax 48)
    (some (valueMin qpMax 8))
  let qpInit ← checkedQpInit cfg.qpInit qpMin qpMax
  let qpStep ← encoderCfgCheck cfg.qpStep 1 (qpMax - qpMin)
    (some (valueMin (qpMax - qpMin) 2))
  some { cfg with
    qpInit := qpInit
    qpStep := qpStep
    qpMin := qpMin
    qpMax := qpMax }

def ImageInfo.checked (info : ImageInfo) : Option ImageInfo := do
  let width ← encoderCfgCheck info.width 1 8192 none
  let height ← encoderCfgCheck info.height 1 8192 none
  let virWidth ← encoderCfgCheck info.virWidth 1 8192 (some width)
  let virHeight ← encoderCfgCheck info.virHeight 1 8192 (some height)
  some { info with
    width := width
    height := height
    virWidth := virWidth
    virHeight := virHeight }

def VideoConfig.checkedQpI (cfg : VideoConfig) : Option VideoConfig := do
  let qpMaxI ← encoderCfgCheck cfg.qpMaxI 8 51 (some 48)
  let qpMinI ← encoderCfgCheck cfg.qpMinI 1 (valueMin qpMaxI 48)
    (some (valueMin qpMaxI 8))
  some { cfg with qpMaxI := qpMaxI, qpMinI := qpMinI }

/-- The parameter checks of `InitConfig`, in the order in which they are made;
a failed one ends the function. -/
def VideoConfig.checked (given : VideoConfig) : Option VideoConfig := do
  let cfg ← given.checkedRates >>= VideoConfig.checkedQp
  let info ← cfg.imageCfg.imageInfo.checked
  { cfg with imageCfg := { cfg.imageCfg with imageInfo := info } }.checkedQpI

def rotationOf (rotation : Int32) : Option MppEncRotationCfg :=
  if rotation = 0 then some .rot0
  else if rotation = 90 then some .rot90
  else if rotation = 180 then some .rot180
  else if rotation = 270 then some .rot270
  else none

/-- The encoder does not rotate compressed frames: there a quarter turn changes
the sides and no rotation is left. -/
def turnedFrame (info : ImageInfo) (rotation : MppEncRotationCfg) :
    ImageInfo × MppEncRotationCfg :=
  if info.pixFmt = .fbc0 ∨ info.pixFmt = .fbc2 then
    if rotation = .rot90 ∨ rotation = .rot270 then
      ({ info with
          width := info.height
          height := info.width
          virWidth := info.virHeight
          virHeight := info.virWidth }, .rot0)
    else (info, .rot0)
  else (info, rotation)

def prepWrites (info : ImageInfo) (format : MppFrameFormat)
    (rotation : MppEncRotationCfg) (fullRange : Int32) :
    List (MppKey × MppValue) :=
  let lineSize :=
    if format = .yuv422Yuyv ∨ format = .yuv422Uyvy then info.virWidth * 2
    else info.virWidth
  [(.prepWidth, .s32 info.width), (.prepHeight, .s32 info.height),
    (.prepHorStride, .s32 lineSize), (.prepVerStride, .s32 info.virHeight),
    (.prepFormat, .format format), (.prepRotation, .rotation rotation)] ++
    if fullRange ≠ 0 then [(.prepRange, .rangeJpeg)] else []

def rcWrites (mode : MppEncRcMode) (rates : BitRates) (cfg : VideoConfig) :
    List (MppKey × MppValue) :=
  (.rcMode, .mode mode) :: bpsWrites rates ++
    [(.rcFpsInFlex, .s32 0), (.rcFpsInNum, .s32 cfg.frameInRate),
      (.rcFpsInDenorm, .s32 cfg.frameInRateDen), (.rcFpsOutFlex, .s32 0),
      (.rcFpsOutNum, .s32 cfg.frameRate),
      (.rcFpsOutDenorm, .s32 cfg.frameRateDen), (.rcGop, .s32 cfg.gopSize)]

def cabacEn (profile : Int32) : Int32 := if profile = 100 then 1 else 0

/-- The 8x8 transform is for the high profile only. -/
def trans8x8En (trans8x8 profile : Int32) : Int32 :=
  if trans8x8 ≠ 0 ∧ profile = 100 then 1 else 0

def codecWrites (codec : MppCodingType) (cfg : VideoConfig) :
    List (MppKey × MppValue) :=
  (.codecType, .coding codec) ::
    (match codec with
      | .avc =>
          [(.h264Profile, .s32 cfg.profile), (.h264Level, .s32 cfg.level),
            (.h264CabacEn, .s32 (cabacEn cfg.profile)),
            (.h264CabacIdc, .s32 0),
            (.h264Trans8x8, .s32 (trans8x8En cfg.trans8x8 cfg.profile))]
      | .hevc => []) ++ qpWrites codec cfg.qps

/-- Other profiles than baseline and main become the high profile. -/
def VideoConfig.withProfile (cfg : VideoConfig) (codec : MppCodingType) :
    VideoConfig :=
  match codec with
  | .avc =>
      if cfg.profile ≠ 66 ∧ cfg.profile ≠ 77 then { cfg with profile := 100 }
      else cfg
  | .hevc => cfg

def codecTypeOf : MppCodingType → CodecType
  | .avc => .h264
  | .hevc => .h265

/-- The reference structure of a new encoder; the result of the last call is
dropped. -/
def initRefCfg (answers : MppAnswers) (refFrmCfg : Int32) :
    Option (Option MppEncRefCfg) :=
  if refFrmCfg = 0 then some none
  else if answers.refCfgInit ∧ answers.refCfgGen then
    some (if answers.setRefCfg then some ⟨.tsvc3, 0, 0⟩ else none)
  else none

/-- `MPPFinalEncoder::InitConfig` with `MPPCommonConfig::InitConfig`, on an
encoder with the defaults of the library; `none` is the answer `false`.  The
members of the union share the image information, so the function checks and
completes a copy of it and hands over the given one. -/
def initConfig (answers : MppAnswers) (codec : MppCodingType)
    (defaults : MppEncCfg) (given : VideoConfig) : Option MppEncoder := do
  let newCfg :=
    { given with
      imageCfg := { given.imageCfg with codecType := codecTypeOf codec } }
  let cfg ← newCfg.qualityQp >>= VideoConfig.checked
  let format ← convertToMppPixFmt newCfg.imageCfg.imageInfo.pixFmt
  let rcMode := cfg.rcMode.getD keyVbr
  let mode ← getMppRcMode (some rcMode)
  let rotation ← rotationOf cfg.rotation
  let frame := turnedFrame newCfg.imageCfg.imageInfo rotation
  let rates ← chooseBitRates mode cfg.bitRates
  let cfg := { cfg with rcMode := some rcMode }.withProfile codec
  let encCfg := defaults.store
    (prepWrites frame.1 format frame.2 cfg.fullRange ++
      rcWrites mode rates cfg ++ codecWrites codec cfg)
  let refCfg ← initRefCfg answers cfg.refFrmCfg
  if answers.setOutputTimeout ∧ answers.setInputTimeout ∧ answers.setCfg ∧
      answers.setHeaderMode then
    some
      { codeType := codec
        encCfg := encCfg
        device := encCfg
        refCfg := refCfg
        vidCfg :=
          { cfg with frameRate := cfg.frameInRate }.withBitRates rates
        rcApiBriefName := "default"
        encoderStaEn := false
        roiCfg := []
        userData := { userdata := [], frameId := 0, allFrameEn := false } }
  else none

/-! ## The encoder of the RTSP server -/

def videoFps : Int32 := 30

/-- What the parameters of the RTSP server come to; a denominator of 0 asks for
the default. -/
def rtspVideoConfig (codec : MppCodingType) (width height : Int32) :
    VideoConfig :=
  let bps := width * height * videoFps / 14
  { imageCfg :=
      { imageInfo :=
          { pixFmt := .nv12
            width := width
            height := height
            virWidth := width
            virHeight := height }
        codecType := codecTypeOf codec
        qfactor := 0 }
    qpInit := 0
    qpStep := 0
    qpMin := 0
    qpMax := 0
    qpMaxI := 0
    qpMinI := 0
    bitRate := bps
    bitRateMax := bps * 17 / 16
    bitRateMin := bps / 16
    frameRate := videoFps
    frameRateDen := 0
    frameInRate := videoFps
    frameInRateDen := 0
    trans8x8 := 0
    level := 0
    gopSize := 0
    profile := 0
    fullRange := 1
    refFrmCfg := 0
    rotation := 0
    rcQuality := none
    rcMode := none }

/-- A library whose calls succeed. -/
def takingAnswers : MppAnswers :=
  { setOutputTimeout := true
    setInputTimeout := true
    setHeaderMode := true
    setCfg := true
    refCfgInit := true
    refCfgGen := true
    setRefCfg := true
    setIdrFrame := true
    setRcApi := true
    osd := true }

theorem fullHdEncoder_starts :
    (initConfig takingAnswers .avc (fun _ => .s32 0)
      (rtspVideoConfig .avc 1920 1080)).isSome = true := by
  decide

/-- The H.264 encoder of the RTSP server for a camera of 1920 by 1080. -/
def fullHdEncoder : MppEncoder :=
  (initConfig takingAnswers .avc (fun _ => .s32 0)
    (rtspVideoConfig .avc 1920 1080)).get fullHdEncoder_starts

theorem initConfig_fullHd :
    initConfig takingAnswers .avc (fun _ => .s32 0)
      (rtspVideoConfig .avc 1920 1080) = some fullHdEncoder :=
  (Option.some_get fullHdEncoder_starts).symm

end RkaiqToolServer
