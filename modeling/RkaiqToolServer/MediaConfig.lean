import RkaiqToolServer.ParamText

/-!
# The configuration text of an encoder

`to_param_string` writes the configuration of an encoder as a text of lines
`key=value`, and `ParseMediaConfigFromMap` reads it from the map that
`parse_media_param_map` makes of such a text.  The tables of the pixel formats
and the codecs, the keys and the tests of the reader are those of the source.
The audio branch works on floating point numbers; what it writes and reads is
left open here.
-/

namespace RkaiqToolServer

open ParamText

abbrev ParamString := List Char

/-! ## Formats and codecs -/

inductive PixelFormat
  | none
  | yuv420p
  | nv12
  | nv21
  | yuv422p
  | nv16
  | nv61
  | yuyv422
  | uyvy422
  | rgb332
  | rgb565
  | bgr565
  | rgb888
  | bgr888
  | argb8888
  | abgr8888
  | fbc0
  | fbc2
  | nb
  deriving DecidableEq

/-- The last entry gives `PIX_FMT_FBC0` a second name, that of
`PIX_FMT_FBC2`. -/
def pixFmtStringMap : List (PixelFormat × ParamString) :=
  [(.yuv420p, "image:yuv420p".toList), (.nv12, "image:nv12".toList),
    (.nv21, "image:nv21".toList), (.yuv422p, "image:yuv422p".toList),
    (.nv16, "image:nv16".toList), (.nv61, "image:nv61".toList),
    (.yuyv422, "image:yuyv422".toList), (.uyvy422, "image:uyvy422".toList),
    (.rgb332, "image:rgb332".toList), (.rgb565, "image:rgb565".toList),
    (.bgr565, "image:bgr565".toList), (.rgb888, "image:rgb888".toList),
    (.bgr888, "image:bgr888".toList), (.argb8888, "image:argb8888".toList),
    (.abgr8888, "image:abgr8888".toList), (.fbc0, "image:fbc0".toList),
    (.fbc0, "image:fbc2".toList)]

def stringToPixFmt (type : ParamString) : PixelFormat :=
  match pixFmtStringMap.find? fun entry => entry.2 = type with
  | some entry => entry.1
  | none => .none

def pixFmtToString (fmt : PixelFormat) : Option ParamString :=
  (pixFmtStringMap.find? fun entry => entry.1 = fmt).map Prod.snd

inductive CodecType
  | none
  | aac
  | mp2
  | vorbis
  | g711a
  | g711u
  | g726
  | h264
  | h265
  | jpeg
  | nb
  deriving DecidableEq

/-- The number of the enumerator. -/
def CodecType.toInt : CodecType → ℤ
  | .none => -1
  | .aac => 0
  | .mp2 => 1
  | .vorbis => 2
  | .g711a => 3
  | .g711u => 4
  | .g726 => 5
  | .h264 => 6
  | .h265 => 7
  | .jpeg => 8
  | .nb => 9

def codecTypeStringMap : List (CodecType × ParamString) :=
  [(.aac, "audio:aac".toList), (.mp2, "audio:mp2".toList),
    (.vorbis, "audio:vorbis".toList), (.g711a, "audio:g711a".toList),
    (.g711u, "audio:g711U".toList), (.g726, "audio:g726".toList),
    (.h264, "video:h264".toList), (.h265, "video:h265".toList),
    (.jpeg, "video:mjpeg".toList), (.jpeg, "image:jpeg".toList)]

def stringToCodecType (fmtStr : ParamString) : CodecType :=
  match codecTypeStringMap.find? fun entry => entry.2 = fmtStr with
  | some entry => entry.1
  | none => .none

def imagePrefix : ParamString := "image:".toList
def videoPrefix : ParamString := "video:".toList
def audioPrefix : ParamString := "audio:".toList

def stringStartWiths (fullString starting : ParamString) : Bool :=
  starting.isPrefixOf fullString

def rcQualityStrings : List ParamString :=
  ["lowest".toList, "lower".toList, "low".toList, "medium".toList,
    "high".toList, "higher".toList, "highest".toList]

def rcModeStrings : List ParamString :=
  ["vbr".toList, "cbr".toList, "fixqp".toList]

/-- The comparison ignores the case, as `strcasecmp` does. -/
def convert2constchar (s : ParamString) (array : List ParamString) :
    Option ParamString :=
  array.find? fun entry => s.map Char.toLower = entry.map Char.toLower

/-! ## Keys -/

def keyInputDataType : ParamString := "input_data_type".toList
def keyOutputDataType : ParamString := "output_data_type".toList
def keyBufferWidth : ParamString := "width".toList
def keyBufferHeight : ParamString := "height".toList
def keyBufferVirWidth : ParamString := "virtual_width".toList
def keyBufferVirHeight : ParamString := "virtual_height".toList
def keyCodecType : ParamString := "codec_type".toList
def keyJpegQfactor : ParamString := "jpeg_qfactor".toList
def keyCompressQpInit : ParamString := "qp_init".toList
def keyCompressQpStep : ParamString := "qp_step".toList
def keyCompressQpMin : ParamString := "qp_min".toList
def keyCompressQpMax : ParamString := "qp_max".toList
def keyCompressQpMaxI : ParamString := "qp_max_i".toList
def keyCompressQpMinI : ParamString := "qp_min_i".toList
def keyCompressBitrate : ParamString := "bitrate".toList
def keyCompressBitrateMax : ParamString := "bitrate_max".toList
def keyCompressBitrateMin : ParamString := "bitrate_min".toList
def keyFps : ParamString := "framerate".toList
def keyFpsIn : ParamString := "framerate_in".toList
def keyLevel : ParamString := "level".toList
def keyVideoGop : ParamString := "gop".toList
def keyProfile : ParamString := "profile".toList
def keyRotation : ParamString := "rotation".toList
def keyCompressRcQuality : ParamString := "rc_quality".toList
def keyCompressRcMode : ParamString := "rc_mode".toList
def keyFullRange : ParamString := "full_range".toList
def keyH264Trans8x8 : ParamString := "h264_trans_8x8".toList
def keyRefFrmCfg : ParamString := "reference_frame_config".toList

/-! ## Configurations -/

structure ImageInfo where
  pixFmt : PixelFormat
  width : Int32
  height : Int32
  virWidth : Int32
  virHeight : Int32
  deriving DecidableEq

structure ImageConfig where
  imageInfo : ImageInfo
  codecType : CodecType
  qfactor : Int32
  deriving DecidableEq

/-- A null pointer for `rc_quality` or `rc_mode` is `none`. -/
structure VideoConfig where
  imageCfg : ImageConfig
  qpInit : Int32
  qpStep : Int32
  qpMin : Int32
  qpMax : Int32
  qpMaxI : Int32
  qpMinI : Int32
  bitRate : Int32
  bitRateMax : Int32
  bitRateMin : Int32
  frameRate : Int32
  frameRateDen : Int32
  frameInRate : Int32
  frameInRateDen : Int32
  trans8x8 : Int32
  level : Int32
  gopSize : Int32
  profile : Int32
  fullRange : Int32
  refFrmCfg : Int32
  rotation : Int32
  rcQuality : Option ParamString
  rcMode : Option ParamString
  deriving DecidableEq

inductive MediaType
  | none
  | audio
  | image
  | video
  | text
  deriving DecidableEq

/-- The members of the union lie side by side; every function works on the one
that its type names. -/
structure MediaConfig (AudioConfig : Type) where
  vidCfg : VideoConfig
  imgCfg : ImageConfig
  audCfg : AudioConfig
  type : MediaType

/-! ## Writing -/

/-- `std::to_string` of an `int`. -/
def intToString (value : Int32) : ParamString := decimal value.toInt

def fpsToString (num den : Int32) : ParamString :=
  intToString num ++ '/' :: intToString den

/-- One entry for each `PARAM_STRING_APPEND`. -/
def ImageInfo.toParams (info : ImageInfo) (input : Bool) :
    List (ParamString × ParamString) :=
  match pixFmtToString info.pixFmt with
  | none => []
  | some fmt =>
      [(if input then keyInputDataType else keyOutputDataType, fmt),
        (keyBufferWidth, intToString info.width),
        (keyBufferHeight, intToString info.height),
        (keyBufferVirWidth, intToString info.virWidth),
        (keyBufferVirHeight, intToString info.virHeight)]

def ImageConfig.toParams (imgCfg : ImageConfig) :
    List (ParamString × ParamString) :=
  imgCfg.imageInfo.toParams true ++
    [(keyJpegQfactor, intToString imgCfg.qfactor),
      (keyCodecType, decimal imgCfg.codecType.toInt)]

def VideoConfig.toParams (vidCfg : VideoConfig) :
    List (ParamString × ParamString) :=
  vidCfg.imageCfg.toParams ++
    [(keyCompressQpInit, intToString vidCfg.qpInit),
      (keyCompressQpStep, intToString vidCfg.qpStep),
      (keyCompressQpMin, intToString vidCfg.qpMin),
      (keyCompressQpMax, intToString vidCfg.qpMax),
      (keyCompressBitrate, intToString vidCfg.bitRate),
      (keyCompressBitrateMax, intToString vidCfg.bitRateMax),
      (keyCompressBitrateMin, intToString vidCfg.bitRateMin),
      (keyFps, fpsToString vidCfg.frameRate vidCfg.frameRateDen),
      (keyFpsIn, fpsToString vidCfg.frameInRate vidCfg.frameInRateDen),
      (keyLevel, intToString vidCfg.level),
      (keyVideoGop, intToString vidCfg.gopSize),
      (keyProfile, intToString vidCfg.profile)] ++
    (vidCfg.rcQuality.toList.map fun text => (keyCompressRcQuality, text)) ++
    (vidCfg.rcMode.toList.map fun text => (keyCompressRcMode, text)) ++
    [(keyCompressQpMaxI, intToString vidCfg.qpMaxI),
      (keyCompressQpMinI, intToString vidCfg.qpMinI),
      (keyH264Trans8x8, intToString vidCfg.trans8x8),
      (keyFullRange, intToString vidCfg.fullRange),
      (keyRefFrmCfg, intToString vidCfg.refFrmCfg),
      (keyRotation, intToString vidCfg.rotation)]

/-- `to_param_string` for a whole configuration: the codec is that of the type
that is put out. -/
def MediaConfig.toParamString {AudioConfig : Type}
    (audioParams : AudioConfig → CodecType →
      List (ParamString × ParamString))
    (mc : MediaConfig AudioConfig) (outType : ParamString) : ParamString :=
  let imageIn := stringStartWiths outType imagePrefix
  let videoIn := stringStartWiths outType videoPrefix
  let audioIn := stringStartWiths outType audioPrefix
  let codecType := stringToCodecType outType
  if !imageIn && !videoIn && !audioIn then []
  else
    writeText '\n' '=' ((keyOutputDataType, outType) ::
      ((if imageIn then
          { mc.imgCfg with codecType := codecType }.toParams
        else []) ++
      (if videoIn then
          { mc.vidCfg with imageCfg :=
              { mc.vidCfg.imageCfg with codecType := codecType } }.toParams
        else []) ++
      (if audioIn then audioParams mc.audCfg codecType else [])))

/-! ## Reading -/

/-- `params[key]` for every key; an absent one has the empty text. -/
abbrev ParamMap := ParamString → ParamString

def parseMediaParamMap (param : ParamString) : ParamMap :=
  readText '\n' '=' param

/-- A function that returns false, or an exception of `std::stoi`. -/
inductive ParamFailure
  | refused
  | thrown
  deriving DecidableEq

def stoi (value : ParamString) : Except ParamFailure Int32 :=
  match readDecimal value with
  | none => .error .thrown
  | some number =>
      if -2 ^ 31 ≤ number ∧ number < 2 ^ 31 then .ok (Int32.ofInt number)
      else .error .thrown

def atoi (text : ParamString) : Int32 :=
  Int32.ofInt ((readDecimal text).getD 0)

/-- `GET_STRING_TO_INT` with the default 0. -/
def getStringToInt (params : ParamMap) (key : ParamString) :
    Except ParamFailure Int32 :=
  if params key ≠ [] then stoi (params key) else .ok 0

/-- `CHECK_EMPTY`. -/
def checkEmpty (params : ParamMap) (key : ParamString) :
    Except ParamFailure ParamString :=
  if params key = [] then .error .refused else .ok (params key)

def parseImageInfoFromMap (params : ParamMap) (input : Bool) :
    Except ParamFailure ImageInfo := do
  let value ← checkEmpty params
    (if input then keyInputDataType else keyOutputDataType)
  let pixFmt := stringToPixFmt value
  if pixFmt = .none then .error .refused
  else
    let width ← checkEmpty params keyBufferWidth >>= stoi
    let height ← checkEmpty params keyBufferHeight >>= stoi
    let virWidth ← checkEmpty params keyBufferVirWidth >>= stoi
    let virHeight ← checkEmpty params keyBufferVirHeight >>= stoi
    return { pixFmt, width, height, virWidth, virHeight }

/-- Numerator and denominator, of at most two letters each. -/
def parseFps (params : ParamMap) (key : ParamString) :
    Except ParamFailure (Int32 × Int32) := do
  let value ← checkEmpty params key
  match fields '/' value with
  | num :: den :: _ =>
      if num.length > 2 ∨ den.length > 2 then .error .refused
      else .ok (atoi num, atoi den)
  | _ => .error .refused

def parseMediaConfigFps (params : ParamMap) (vidCfg : VideoConfig) :
    Except ParamFailure VideoConfig := do
  let fps ← parseFps params keyFps
  let fpsIn ← parseFps params keyFpsIn
  return { vidCfg with
    frameRate := fps.1
    frameRateDen := fps.2
    frameInRate := fpsIn.1
    frameInRateDen := fpsIn.2 }

/-- The numbers that `ParseMediaConfigFromMap` reads for a video encoder. -/
def parseVideoNumbers (params : ParamMap) (vidCfg : VideoConfig) :
    Except ParamFailure VideoConfig := do
  let qfactor ← getStringToInt params keyJpegQfactor
  let qpInit ← getStringToInt params keyCompressQpInit
  let qpStep ← getStringToInt params keyCompressQpStep
  let qpMin ← getStringToInt params keyCompressQpMin
  let qpMax ← getStringToInt params keyCompressQpMax
  let bitRate ← getStringToInt params keyCompressBitrate
  let bitRateMin ← getStringToInt params keyCompressBitrateMin
  let bitRateMax ← getStringToInt params keyCompressBitrateMax
  let qpMaxI ← getStringToInt params keyCompressQpMaxI
  let qpMinI ← getStringToInt params keyCompressQpMinI
  let trans8x8 ← getStringToInt params keyH264Trans8x8
  let level ← getStringToInt params keyLevel
  let gopSize ← getStringToInt params keyVideoGop
  let profile ← getStringToInt params keyProfile
  let fullRange ← getStringToInt params keyFullRange
  let refFrmCfg ← getStringToInt params keyRefFrmCfg
  let rotation ← getStringToInt params keyRotation
  return { vidCfg with
    imageCfg := { vidCfg.imageCfg with qfactor }
    qpInit, qpStep, qpMin, qpMax, bitRate, bitRateMin, bitRateMax, qpMaxI,
    qpMinI, trans8x8, level, gopSize, profile, fullRange, refFrmCfg,
    rotation }

def rcString (array : List ParamString) (value : ParamString) :
    Option ParamString :=
  if value = [] then none else convert2constchar value array

/-- The video branch of `ParseMediaConfigFromMap`. -/
def parseVideoConfigFromMap (params : ParamMap) (vidCfg : VideoConfig) :
    Except ParamFailure VideoConfig := do
  let vidCfg ← parseVideoNumbers params vidCfg
  let vidCfg ← parseMediaConfigFps params vidCfg
  return { vidCfg with
    rcQuality := rcString rcQualityStrings (params keyCompressRcQuality)
    rcMode := rcString rcModeStrings (params keyCompressRcMode) }

def parseMediaConfigFromMap {AudioConfig : Type}
    (parseAudio : ParamMap → CodecType → Except ParamFailure AudioConfig)
    (params : ParamMap) (mc : MediaConfig AudioConfig) :
    Except ParamFailure (MediaConfig AudioConfig) := do
  let value ← checkEmpty params keyOutputDataType
  let imageIn := stringStartWiths value imagePrefix
  let videoIn := stringStartWiths value videoPrefix
  let audioIn := stringStartWiths value audioPrefix
  let codecType := stringToCodecType value
  if !imageIn && !videoIn && !audioIn then .error .refused
  else if codecType = .none then .error .refused
  else if imageIn then
    let imageInfo ← parseImageInfoFromMap params true
    let qfactor ← getStringToInt params keyJpegQfactor
    return { mc with
      imgCfg := { imageInfo, codecType, qfactor }
      type := .image }
  else if videoIn then
    let imageInfo ← parseImageInfoFromMap params true
    let vidCfg ← parseVideoConfigFromMap params
      { mc.vidCfg with imageCfg :=
          { mc.vidCfg.imageCfg with imageInfo, codecType } }
    return { mc with vidCfg := vidCfg, type := .video }
  else
    let audCfg ← parseAudio params codecType
    return { mc with audCfg := audCfg, type := .audio }

end RkaiqToolServer
