import RkaiqToolServer.ConfigRoundTrip
import RkaiqToolServer.EncoderQueue
import RkaiqToolServer.FlowParam
import RkaiqToolServer.RoiText

/-!
# The encoder flow of the RTSP server

The RTSP server describes its encoder with the parameters of a flow.  The flow
takes the text apart, checks the types of data, reads the configuration of the
encoder from the text of its element and sets the encoder up.  When that fails
the server exits, so the sizes of a picture for which an encoder starts are the
sizes that the server can stream.
-/

namespace RkaiqToolServer

open ParamText

/-! ## The encoder `rkmpp` -/

def typeNear (type : ParamString) : ParamString := type ++ ['\n']

def imageNv12 : ParamString := "image:nv12".toList
def videoH264 : ParamString := "video:h264".toList
def videoH265 : ParamString := "video:h265".toList

def mppSupportTypes : List ParamString :=
  ["image:yuv420p".toList, imageNv12, "image:nv21".toList,
    "image:yuv422p".toList, "image:nv16".toList, "image:nv61".toList,
    "image:yuyv422".toList, "image:uyvy422".toList, "image:rgb565".toList,
    "image:bgr565".toList, "image:rgb888".toList, "image:bgr888".toList,
    "image:argb8888".toList, "image:abgr8888".toList, "image:fbc0".toList,
    "image:fbc2".toList]

def mppAcceptImageFmts : ParamString := mppSupportTypes.flatMap typeNear

def videoEncOutput : ParamString :=
  [videoH264, videoH265, "video:mjpeg".toList, "image:jpeg".toList].flatMap
    typeNear

def rkmpp : ParamString := "rkmpp".toList

/-- The only encoder that the repository registers. -/
def encoderFactories : List (ParamString × MediaFactory) :=
  [(rkmpp,
    { expectedInputDataType := some mppAcceptImageFmts
      outPutDataType := some videoEncOutput })]

/-- The codecs of `MPPCommonConfig`; the JPEG types have another
configuration, which is left out. -/
def getMppCodingType (dataType : ParamString) : Option MppCodingType :=
  if dataType = videoH264 then some .avc
  else if dataType = videoH265 then some .hevc
  else none

/-! ## The flow -/

def keyNeedExtraMerge : ParamString := "need_extra_merge".toList
def keyRoiRegions : ParamString := "roi_regions".toList

/-- The text for the encoder gets the type that is put out, unless it mentions
the key somewhere. -/
def encoderParam (encParamStr outType : ParamString) : ParamString :=
  if keyOutputDataType <:+: encParamStr then encParamStr
  else encParamStr ++ writeText '\n' '=' [(keyOutputDataType, outType)]

/-- The types of the flow are those of an encoder that has none. -/
def encoderParams (params encParams : ParamMap) : ParamMap :=
  let withInput :=
    if encParams keyInputDataType = [] then
      Function.update encParams keyInputDataType (params keyInputDataType)
    else encParams
  if withInput keyOutputDataType = [] then
    Function.update withInput keyOutputDataType (params keyOutputDataType)
  else withInput

/-- What a new encoder is made from: its text, its parameters and its
configuration. -/
structure EncoderSource where
  param : ParamString
  params : ParamMap
  config : MediaConfig Unit

def orRefused {α : Type} : Option α → Except ParamFailure α
  | none => .error .refused
  | some value => .ok value

/-- Audio codecs are no encoders of this flow. -/
def noAudio (_ : ParamMap) (_ : CodecType) : Except ParamFailure Unit :=
  .error .refused

/-- The constructor as far as the configuration; `start` is the memory that
`ParseMediaConfigFromMap` fills. -/
def videoEncoderSource (param : ParamString) (start : MediaConfig Unit) :
    Except ParamFailure EncoderSource := do
  let (params, separateList) ← orRefused (parseWrapFlowParams param)
  let _ ← getStringToInt params keyNeedExtraMerge
  let rule ← orRefused (genDatatypeRule params)
  if isMatch encoderFactories (params keyName) rule then
    let encParamStr ← orRefused separateList.getLast?
    let encParams := encoderParams params (parseMediaParamMap encParamStr)
    let config ← parseMediaConfigFromMap noAudio encParams start
    return {
      param := encoderParam encParamStr (params keyOutputDataType)
      params := encParams
      config := config }
  else .error .refused

/-- The results of the library for a new encoder, whose settings it gives
their defaults. -/
structure EncoderCalls where
  init : Bool
  defaults : MppEncCfg
  answers : MppAnswers

/-- The encoder that a flow makes and the changes that wait for it. -/
def videoEncoder (calls : EncoderCalls) (source : EncoderSource) :
    Option EncoderThreads := do
  let codec ← getMppCodingType (parseMediaParamMap source.param keyOutputDataType)
  if calls.init then
    let enc ← initConfig calls.answers codec calls.defaults source.config.vidCfg
    let regions := stringToRoiRegions (source.params keyRoiRegions)
    some
      { changeList :=
          if regions = [] then [] else [videoEncoderSetRoiRegions regions]
        enc := enc
        stage := .idle }
  else none

def videoEncoderFlow (calls : EncoderCalls) (param : ParamString)
    (start : MediaConfig Unit) : Except ParamFailure EncoderThreads := do
  let source ← videoEncoderSource param start
  orRefused (videoEncoder calls source)

/-! ## The server -/

def getVideoEncFlowParam (pixelFormat videoEncType : ParamString) :
    List (ParamString × ParamString) :=
  [(keyName, rkmpp), (keyInputDataType, pixelFormat),
    (keyOutputDataType, videoEncType)]

/-- The numbers are those of `int`; the rate of the text is always 30. -/
def getVideoEncStreamParam (videoWidth videoHeight videoFps : Int32) :
    List (ParamString × ParamString) :=
  let bps := videoWidth * videoHeight * videoFps / 14
  [(keyBufferWidth, intToString videoWidth),
    (keyBufferHeight, intToString videoHeight),
    (keyBufferVirWidth, intToString videoWidth),
    (keyBufferVirHeight, intToString videoHeight),
    (keyCompressBitrate, intToString bps),
    (keyCompressBitrateMax, intToString (bps * 17 / 16)),
    (keyCompressBitrateMin, intToString (bps / 16)),
    (keyFps, "30/0".toList), (keyFpsIn, "30/0".toList),
    (keyFullRange, intToString 1)]

/-- A failure ends the server. -/
def createVideoEncFlow (calls : EncoderCalls) (start : MediaConfig Unit)
    (pixelFormat videoEncType : ParamString)
    (videoWidth videoHeight videoFps : Int32) :
    Except ParamFailure EncoderThreads :=
  videoEncoderFlow calls
    (joinFlowParam
      (writeText '\n' '=' (getVideoEncFlowParam pixelFormat videoEncType))
      [writeText '\n' '='
        (getVideoEncStreamParam videoWidth videoHeight videoFps)])
    start

/-- A number that is not given is 0. -/
theorem getStringToInt_nil {params : ParamMap} {key : ParamString}
    (hkey : params key = []) : getStringToInt params key = .ok 0 := by
  rw [getStringToInt, hkey, if_neg (by simp)]

/-! ## What the encoder is given -/

def videoEncType : MppCodingType → ParamString
  | .avc => videoH264
  | .hevc => videoH265

/-- The text of the element and the types of the flow. -/
def encoderEntries (codec : MppCodingType) (width height : Int32) :
    List (ParamString × ParamString) :=
  getVideoEncStreamParam width height videoFps ++
    [(keyInputDataType, imageNv12), (keyOutputDataType, videoEncType codec)]

def streamKeys : List ParamString :=
  [keyBufferWidth, keyBufferHeight, keyBufferVirWidth, keyBufferVirHeight,
    keyCompressBitrate, keyCompressBitrateMax, keyCompressBitrateMin, keyFps,
    keyFpsIn, keyFullRange]

def encoderKeys : List ParamString :=
  streamKeys ++ [keyInputDataType, keyOutputDataType]

section

variable (codec : MppCodingType) (width height : Int32)

theorem streamParam_keys (fps : Int32) :
    (getVideoEncStreamParam width height fps).map Prod.fst = streamKeys := rfl

theorem encoderKeys_nodup : encoderKeys.Nodup := by decide

/-- Letters that no parameter of the element has: those that separate texts,
lines and names, and one of the key that a text might already mention. -/
def foreignLetters : List Char := [' ', '\n', '=', 'o']

theorem streamParam_foreign {letter : Char} (hletter : letter ∈ foreignLetters)
    (fps : Int32) :
    ∀ entry ∈ getVideoEncStreamParam width height fps,
      letter ∉ entry.1 ∧ letter ∉ entry.2 := by
  obtain ⟨hsign, hdigit, hrate, hkeys⟩ : letter ≠ '-' ∧
      letter.isDigit = false ∧ letter ∉ "30/0".toList ∧
        ∀ key ∈ streamKeys, letter ∉ key := by
    simp only [foreignLetters, List.mem_cons, List.not_mem_nil, or_false]
      at hletter
    rcases hletter with rfl | rfl | rfl | rfl <;> decide
  have hnumber : ∀ value : Int32, letter ∉ intToString value := fun value =>
    not_mem_decimal hsign hdigit value.toInt
  intro entry hentry
  constructor
  · apply hkeys
    rw [← streamParam_keys width height fps]
    exact List.mem_map_of_mem hentry
  · simp only [getVideoEncStreamParam, List.mem_cons, List.not_mem_nil,
      or_false] at hentry
    rcases hentry with rfl | rfl | rfl | rfl | rfl | rfl | rfl | rfl | rfl | rfl
    · exact hnumber _
    · exact hnumber _
    · exact hnumber _
    · exact hnumber _
    · exact hnumber _
    · exact hnumber _
    · exact hnumber _
    · exact hrate
    · exact hrate
    · exact hnumber 1

theorem streamParam_writable (fps : Int32) :
    ∀ entry ∈ getVideoEncStreamParam width height fps,
      Writable '\n' '=' entry := by
  intro entry hentry
  have hsign := streamParam_foreign width height
    (show '=' ∈ foreignLetters by decide) fps entry hentry
  exact ⟨hsign.1, streamParam_foreign width height
    (show '\n' ∈ foreignLetters by decide) fps entry hentry⟩

/-- The text of the element. -/
def streamText (fps : Int32) : ParamString :=
  writeText '\n' '=' (getVideoEncStreamParam width height fps)

theorem streamText_foreign {letter : Char} (hletter : letter ∈ [' ', 'o'])
    (fps : Int32) : letter ∉ streamText width height fps := by
  obtain ⟨hnewline, hsign, hforeign⟩ : letter ≠ '\n' ∧ letter ≠ '=' ∧
      letter ∈ foreignLetters := by
    simp only [List.mem_cons, List.not_mem_nil, or_false] at hletter
    rcases hletter with rfl | rfl <;> decide
  exact not_mem_writeText hnewline hsign
    (streamParam_foreign width height hforeign fps)

/-- The text of the flow. -/
def flowText : ParamString :=
  writeText '\n' '=' (getVideoEncFlowParam imageNv12 (videoEncType codec))

theorem flowText_blank : flowParamSeparateChar ∉ flowText codec := by
  cases codec <;> decide

def flowEntries : List (ParamString × ParamString) :=
  getVideoEncFlowParam imageNv12 (videoEncType codec)

theorem flowEntries_letters : ∀ entry ∈ flowEntries codec,
    '=' ∉ entry.1 ∧ '\n' ∉ entry.1 ∧ '\n' ∉ entry.2 := by
  cases codec <;> decide

theorem flowEntries_nodup : ((flowEntries codec).map Prod.fst).Nodup := by
  cases codec <;> decide

theorem assign_flowEntries :
    assign (flowEntries codec) keyName = rkmpp ∧
      assign (flowEntries codec) keyInputDataType = imageNv12 ∧
      assign (flowEntries codec) keyOutputDataType = videoEncType codec ∧
      assign (flowEntries codec) keyNeedExtraMerge = [] := by
  have hnames := flowEntries_nodup codec
  have hheld {key value : ParamString}
      (hentry : (key, value) ∈ flowEntries codec) :
      assign (flowEntries codec) key = value :=
    assign_of_mem hnames hentry
  refine ⟨hheld (by simp [flowEntries, getVideoEncFlowParam]),
    hheld (by simp [flowEntries, getVideoEncFlowParam]),
    hheld (by simp [flowEntries, getVideoEncFlowParam]), assign_of_not_mem ?_⟩
  cases codec <;> decide

theorem parseWrapFlowParams_eq (fps : Int32) :
    parseWrapFlowParams
        (joinFlowParam (flowText codec) [streamText width height fps]) =
      some (assign (flowEntries codec), [streamText width height fps]) := by
  have hlist : parseFlowParamToList
      (joinFlowParam (flowText codec) [streamText width height fps]) =
        [flowText codec, streamText width height fps] := by
    rw [parseFlowParamToList_joinFlowParam_iff]
    refine ⟨?_, _, rfl, ?_⟩
    · simp only [List.forall_mem_cons]
      exact ⟨flowText_blank codec,
        streamText_foreign width height (by decide) fps, by simp⟩
    · simp [streamText, writeText, getVideoEncStreamParam]
  have hparams : parseMediaParamMap (flowText codec) =
      assign (flowEntries codec) :=
    readText_writeText (fun entry hentry =>
      have hletters := flowEntries_letters codec entry hentry
      ⟨hletters.1, hletters.2⟩) (by decide)
  have hname : rkmpp ≠ [] := by decide
  simp only [parseWrapFlowParams, hlist, hparams,
    (assign_flowEntries codec).1, if_neg hname]

/-- The types suit the encoder. -/
theorem isMatch_rkmpp :
    ∃ rule, genDatatypeRule (assign (flowEntries codec)) = some rule ∧
      isMatch encoderFactories rkmpp rule = true := by
  obtain ⟨-, hinput, houtput, -⟩ := assign_flowEntries codec
  have hinputSome : imageNv12 ≠ [] := by decide
  have houtputSome : videoEncType codec ≠ [] := by
    cases codec <;> decide
  refine ⟨writeText '\n' '='
    [(keyInputDataType, imageNv12),
      (keyOutputDataType, videoEncType codec)], ?_, ?_⟩
  · simp only [genDatatypeRule, hinput, houtput, if_neg hinputSome,
      if_neg houtputSome]
  · cases codec <;> decide

/-- The map of the encoder holds its entries and nothing else. -/
theorem encoderParams_eq :
    encoderParams (assign (flowEntries codec))
        (parseMediaParamMap (streamText width height videoFps)) =
      assign (encoderEntries codec width height) := by
  obtain ⟨-, hinput, houtput, -⟩ := assign_flowEntries codec
  have hstream : parseMediaParamMap (streamText width height videoFps) =
      assign (getVideoEncStreamParam width height videoFps) :=
    readText_writeText (streamParam_writable width height videoFps) (by decide)
  have habsent {key : ParamString} (hkey : key ∉ streamKeys) :
      assign (getVideoEncStreamParam width height videoFps) key = [] :=
    assign_of_not_mem hkey
  have hkeys : keyOutputDataType ≠ keyInputDataType := by decide
  have hnoOutput : Function.update
      (assign (getVideoEncStreamParam width height videoFps)) keyInputDataType
        imageNv12 keyOutputDataType = [] := by
    rw [Function.update_of_ne hkeys]
    exact habsent (by decide)
  have hentries : encoderEntries codec width height =
      (getVideoEncStreamParam width height videoFps ++
        [(keyInputDataType, imageNv12)]) ++
        [(keyOutputDataType, videoEncType codec)] := by
    simp [encoderEntries]
  unfold encoderParams
  rw [hstream, hinput, houtput, if_pos (habsent (by decide)), hentries,
    assign_concat, assign_concat]
  exact if_pos hnoOutput

theorem encoderParam_eq :
    parseMediaParamMap (encoderParam (streamText width height videoFps)
      (videoEncType codec)) keyOutputDataType = videoEncType codec := by
  have hletter : 'o' ∉ streamText width height videoFps :=
    streamText_foreign width height (by decide) videoFps
  have hfind : ¬ keyOutputDataType <:+: streamText width height videoFps := by
    intro hmentioned
    exact hletter (hmentioned.subset (by decide))
  have htext : encoderParam (streamText width height videoFps)
      (videoEncType codec) =
        writeText '\n' '=' (getVideoEncStreamParam width height videoFps ++
          [(keyOutputDataType, videoEncType codec)]) := by
    rw [encoderParam, if_neg hfind]
    simp [streamText, writeText]
  have hlast : Writable '\n' '=' (keyOutputDataType, videoEncType codec) := by
    cases codec <;> exact ⟨by decide, by decide⟩
  rw [htext, parseMediaParamMap, readText_writeText _ (by decide),
    assign_concat, Function.update_self]
  intro entry hentry
  rcases List.mem_append.mp hentry with hstream | htype
  · exact streamParam_writable width height videoFps entry hstream
  · rw [List.mem_singleton.mp htype]
    exact hlast

theorem assign_encoderEntries {key value : ParamString}
    (hentry : (key, value) ∈ encoderEntries codec width height) :
    assign (encoderEntries codec width height) key = value := by
  have hnames : ((encoderEntries codec width height).map Prod.fst).Nodup :=
    encoderKeys_nodup
  exact assign_of_mem hnames hentry

theorem assign_encoderEntries_absent {key : ParamString}
    (hkey : key ∉ encoderKeys) :
    assign (encoderEntries codec width height) key = [] :=
  assign_of_not_mem hkey

theorem parseImageInfoFromMap_rtsp :
    parseImageInfoFromMap (assign (encoderEntries codec width height)) true =
      .ok (rtspVideoConfig codec width height).imageCfg.imageInfo := by
  have hheld {key value : ParamString} :=
    @assign_encoderEntries codec width height key value
  have htype := hheld (show (keyInputDataType, imageNv12) ∈ _ by
    simp [encoderEntries])
  have hwidth := hheld (show (keyBufferWidth, intToString width) ∈ _ by
    simp [encoderEntries, getVideoEncStreamParam])
  have hheight := hheld (show (keyBufferHeight, intToString height) ∈ _ by
    simp [encoderEntries, getVideoEncStreamParam])
  have hvirWidth := hheld (show (keyBufferVirWidth, intToString width) ∈ _ by
    simp [encoderEntries, getVideoEncStreamParam])
  have hvirHeight := hheld (show (keyBufferVirHeight, intToString height) ∈ _ by
    simp [encoderEntries, getVideoEncStreamParam])
  have hfmt : stringToPixFmt imageNv12 = .nv12 := by decide
  rw [parseImageInfoFromMap, if_pos rfl, checkEmpty_eq htype (by decide),
    checkEmpty_stoi_eq hwidth, checkEmpty_stoi_eq hheight,
    checkEmpty_stoi_eq hvirWidth, checkEmpty_stoi_eq hvirHeight]
  simp only [bind, Except.bind, hfmt]
  rw [if_neg (by decide)]
  rfl

theorem parseVideoConfigFromMap_rtsp (start : VideoConfig) :
    parseVideoConfigFromMap (assign (encoderEntries codec width height)) start =
      .ok
        { rtspVideoConfig codec width height with
          imageCfg := { start.imageCfg with qfactor := 0 } } := by
  have hheld {key value : ParamString} :=
    @assign_encoderEntries codec width height key value
  have habsent {key : ParamString} :=
    @assign_encoderEntries_absent codec width height key
  have hnumber {key : ParamString} {value : Int32}
      (hentry : (key, intToString value) ∈
        encoderEntries codec width height) :
      getStringToInt (assign (encoderEntries codec width height)) key =
        .ok value :=
    getStringToInt_eq (hheld hentry)
  have hzero {key : ParamString} (hkey : key ∉ encoderKeys) :
      getStringToInt (assign (encoderEntries codec width height)) key =
        .ok 0 :=
    getStringToInt_nil (habsent hkey)
  have hrate : "30/0".toList = fpsToString videoFps 0 := by decide
  have hfits : FitsFps videoFps ∧ FitsFps 0 := by decide
  have hfps {key : ParamString} (hentry : (key, "30/0".toList) ∈
      encoderEntries codec width height) :
      parseFps (assign (encoderEntries codec width height)) key =
        .ok (videoFps, 0) := by
    rw [parseFps_eq ((hheld hentry).trans hrate), if_pos hfits]
  rw [parseVideoConfigFromMap, parseVideoNumbers,
    hzero (show keyJpegQfactor ∉ _ by decide),
    hzero (show keyCompressQpInit ∉ _ by decide),
    hzero (show keyCompressQpStep ∉ _ by decide),
    hzero (show keyCompressQpMin ∉ _ by decide),
    hzero (show keyCompressQpMax ∉ _ by decide),
    hnumber (show (keyCompressBitrate,
      intToString (width * height * videoFps / 14)) ∈ _ by
        simp [encoderEntries, getVideoEncStreamParam]),
    hnumber (show (keyCompressBitrateMin,
      intToString (width * height * videoFps / 14 / 16)) ∈ _ by
        simp [encoderEntries, getVideoEncStreamParam]),
    hnumber (show (keyCompressBitrateMax,
      intToString (width * height * videoFps / 14 * 17 / 16)) ∈ _ by
        simp [encoderEntries, getVideoEncStreamParam]),
    hzero (show keyCompressQpMaxI ∉ _ by decide),
    hzero (show keyCompressQpMinI ∉ _ by decide),
    hzero (show keyH264Trans8x8 ∉ _ by decide),
    hzero (show keyLevel ∉ _ by decide),
    hzero (show keyVideoGop ∉ _ by decide),
    hzero (show keyProfile ∉ _ by decide),
    hnumber (show (keyFullRange, intToString 1) ∈ _ by
      simp [encoderEntries, getVideoEncStreamParam]),
    hzero (show keyRefFrmCfg ∉ _ by decide),
    hzero (show keyRotation ∉ _ by decide)]
  simp only [bind, Except.bind, pure, Except.pure, parseMediaConfigFps,
    hfps (show (keyFps, "30/0".toList) ∈ _ by
      simp [encoderEntries, getVideoEncStreamParam]),
    hfps (show (keyFpsIn, "30/0".toList) ∈ _ by
      simp [encoderEntries, getVideoEncStreamParam]),
    habsent (show keyCompressRcQuality ∉ _ by decide),
    habsent (show keyCompressRcMode ∉ _ by decide)]
  rfl

/-- The reader finds the configuration that the server asks for. -/
theorem parseMediaConfigFromMap_rtsp (start : MediaConfig Unit) :
    parseMediaConfigFromMap noAudio
        (assign (encoderEntries codec width height)) start =
      .ok { start with
        vidCfg := rtspVideoConfig codec width height
        type := .video } := by
  have htype := @assign_encoderEntries codec width height keyOutputDataType
    (videoEncType codec) (by simp [encoderEntries])
  have hout : videoEncType codec ∈ videoTypes := by
    cases codec <;> decide
  have hcodec : stringToCodecType (videoEncType codec) = codecTypeOf codec := by
    cases codec <;> decide
  obtain ⟨himage, hvideo, haudio, hknown, hnonempty, -⟩ :=
    videoTypes_start hout
  rw [parseMediaConfigFromMap, checkEmpty_eq htype hnonempty]
  simp only [bind, Except.bind, himage, hvideo, haudio]
  simp only [Bool.not_false, Bool.not_true, Bool.and_false, Bool.and_true,
    Bool.false_eq_true, if_false, if_true, parseImageInfoFromMap_rtsp,
    parseVideoConfigFromMap_rtsp, hcodec]
  rw [if_neg (hcodec ▸ hknown)]
  rfl

/-- What the flow makes of the texts of the server. -/
def rtspSource (start : MediaConfig Unit) : EncoderSource :=
  { param := encoderParam (streamText width height videoFps)
      (videoEncType codec)
    params := assign (encoderEntries codec width height)
    config := { start with
      vidCfg := rtspVideoConfig codec width height
      type := .video } }

theorem videoEncoderSource_rtsp (start : MediaConfig Unit) :
    videoEncoderSource
        (joinFlowParam (flowText codec) [streamText width height videoFps])
        start =
      .ok (rtspSource codec width height start) := by
  obtain ⟨hname, hinput, houtput, hmerge⟩ := assign_flowEntries codec
  obtain ⟨rule, hrule, hmatch⟩ := isMatch_rkmpp codec
  have hextra : getStringToInt (assign (flowEntries codec)) keyNeedExtraMerge =
      .ok 0 :=
    getStringToInt_nil hmerge
  rw [videoEncoderSource, parseWrapFlowParams_eq]
  simp only [orRefused, bind, Except.bind, hextra, hrule, hname, hmatch,
    if_true, List.getLast?_singleton, encoderParams_eq,
    parseMediaConfigFromMap_rtsp, houtput]
  rfl

/-- The server asks for no regions. -/
theorem videoEncoder_rtsp (calls : EncoderCalls) (start : MediaConfig Unit) :
    videoEncoder calls (rtspSource codec width height start) = (do
      let enc ← if calls.init then
        initConfig calls.answers codec calls.defaults
          (rtspVideoConfig codec width height)
        else none
      some { changeList := [], enc := enc, stage := .idle }) := by
  have hcodec : getMppCodingType (videoEncType codec) = some codec := by
    cases codec <;> decide
  have hroi : assign (encoderEntries codec width height) keyRoiRegions = [] :=
    assign_encoderEntries_absent codec width height (by decide)
  have hregions : stringToRoiRegions [] = [] :=
    roiLoop_unclosed List.not_mem_nil []
  simp only [videoEncoder, rtspSource, encoderParam_eq, hcodec, hroi, hregions]
  cases calls.init <;> rfl

/-- From the texts of the server to the encoder: nothing is lost and nothing
refused on the way, so the encoder decides by the configuration alone. -/
theorem createVideoEncFlow_eq (calls : EncoderCalls)
    (start : MediaConfig Unit) :
    createVideoEncFlow calls start imageNv12 (videoEncType codec) width height
        videoFps =
      orRefused (do
        let enc ← if calls.init then
          initConfig calls.answers codec calls.defaults
            (rtspVideoConfig codec width height)
          else none
        some { changeList := [], enc := enc, stage := .idle }) := by
  change videoEncoderFlow calls
    (joinFlowParam (flowText codec) [streamText width height videoFps])
      start = _
  rw [videoEncoderFlow, videoEncoderSource_rtsp, ← videoEncoder_rtsp]
  rfl

end

end RkaiqToolServer
