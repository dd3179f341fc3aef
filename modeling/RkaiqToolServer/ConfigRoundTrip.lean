import RkaiqToolServer.MediaConfig

/-!
# What the configuration text keeps

The reader of a configuration text finds every number that the writer put
there.  It refuses a frame rate with more than two letters, takes the codec
from the type that is put out, and knows only the names of its own tables.
Within these limits the configuration comes back as it was.
-/

namespace RkaiqToolServer

open ParamText

/-! ## Single values -/

theorem stoi_intToString (value : Int32) :
    stoi (intToString value) = .ok value := by
  rw [stoi, intToString, readDecimal_decimal]
  simp only
  rw [if_pos ⟨value.le_toInt, value.toInt_lt⟩, Int32.ofInt_toInt]

theorem atoi_intToString (value : Int32) :
    atoi (intToString value) = value := by
  rw [atoi, intToString, readDecimal_decimal, Option.getD_some,
    Int32.ofInt_toInt]

theorem getStringToInt_eq {params : ParamMap} {key : ParamString}
    {value : Int32} (hkey : params key = intToString value) :
    getStringToInt params key = .ok value := by
  have hwritten : intToString value ≠ [] := decimal_ne_nil _
  rw [getStringToInt, hkey, if_pos hwritten, stoi_intToString]

theorem checkEmpty_eq {params : ParamMap} {key text : ParamString}
    (hkey : params key = text) (htext : text ≠ []) :
    checkEmpty params key = .ok text := by
  rw [checkEmpty, hkey, if_neg htext]

theorem checkEmpty_stoi_eq {params : ParamMap} {key : ParamString}
    {value : Int32} (hkey : params key = intToString value) :
    checkEmpty params key >>= stoi = .ok value := by
  rw [checkEmpty_eq hkey (decimal_ne_nil _)]
  exact stoi_intToString value

/-- The numbers that are written with one or two letters. -/
def FitsFps (rate : Int32) : Prop := -9 ≤ rate.toInt ∧ rate.toInt ≤ 99

instance (rate : Int32) : Decidable (FitsFps rate) :=
  inferInstanceAs (Decidable (_ ∧ _))

theorem parseFps_eq {params : ParamMap} {key : ParamString}
    {num den : Int32} (hkey : params key = fpsToString num den) :
    parseFps params key =
      if FitsFps num ∧ FitsFps den then .ok (num, den)
      else .error .refused := by
  have hslash : ∀ value : Int32, '/' ∉ intToString value := fun value =>
    not_mem_decimal (by decide) (by decide) value.toInt
  have hnonempty : ∀ value : Int32, intToString value ≠ [] := fun value =>
    decimal_ne_nil value.toInt
  have hlength : ∀ value : Int32,
      (intToString value).length > 2 ↔ ¬ FitsFps value := by
    intro value
    rw [FitsFps, ← length_decimal_le_two_iff, not_le, intToString]
  have hfields : fields '/' (fpsToString num den) =
      [intToString num, intToString den] :=
    fields_pair (hslash num) (hslash den) ⟨hnonempty num, hnonempty den⟩
  have htext : fpsToString num den ≠ [] := by
    simp [fpsToString]
  rw [parseFps, checkEmpty_eq hkey htext]
  simp only [Except.bind, bind, hfields, hlength, atoi_intToString,
    ← not_and_or, ite_not]

theorem stringToPixFmt_pixFmtToString {fmt : PixelFormat}
    {text : ParamString} (htext : pixFmtToString fmt = some text) :
    stringToPixFmt text = fmt ∧ fmt ≠ .none ∧ text ≠ [] := by
  have hall : ∀ fmt : PixelFormat, ∀ text ∈ (pixFmtToString fmt).toList,
      stringToPixFmt text = fmt ∧ fmt ≠ .none ∧ text ≠ [] := by
    intro fmt
    cases fmt <;> decide
  exact hall fmt text (by rw [htext]; exact List.mem_singleton_self text)

/-- An entry of one of the tables is read as itself. -/
theorem rcString_of_mem {text : ParamString} :
    (text ∈ rcQualityStrings → rcString rcQualityStrings text = some text) ∧
      (text ∈ rcModeStrings → rcString rcModeStrings text = some text) := by
  have hquality : ∀ entry ∈ rcQualityStrings,
      rcString rcQualityStrings entry = some entry := by
    decide
  have hmode : ∀ entry ∈ rcModeStrings,
      rcString rcModeStrings entry = some entry := by
    decide
  exact ⟨hquality text, hmode text⟩

theorem mem_of_rcString {array : List ParamString} {value text : ParamString}
    (htext : rcString array value = some text) : text ∈ array := by
  rw [rcString] at htext
  split at htext
  · contradiction
  · exact List.mem_of_find?_eq_some htext

/-! ## The text of a video encoder -/

def imageKeys : List ParamString :=
  [keyInputDataType, keyBufferWidth, keyBufferHeight, keyBufferVirWidth,
    keyBufferVirHeight]

/-- The keys in the order in which they are written; those of the image and of
the rate control may be absent. -/
def configKeysOf (image quality mode : List ParamString) :
    List ParamString :=
  keyOutputDataType :: (image ++ [keyJpegQfactor, keyCodecType] ++
    [keyCompressQpInit, keyCompressQpStep, keyCompressQpMin,
      keyCompressQpMax, keyCompressBitrate, keyCompressBitrateMax,
      keyCompressBitrateMin, keyFps, keyFpsIn, keyLevel, keyVideoGop,
      keyProfile] ++ quality ++ mode ++
    [keyCompressQpMaxI, keyCompressQpMinI, keyH264Trans8x8, keyFullRange,
      keyRefFrmCfg, keyRotation])

def configKeys : List ParamString :=
  configKeysOf imageKeys [keyCompressRcQuality] [keyCompressRcMode]

theorem configKeysOf_sublist {image quality mode : List ParamString}
    {image' quality' mode' : List ParamString} (himage : image.Sublist image')
    (hquality : quality.Sublist quality') (hmode : mode.Sublist mode') :
    (configKeysOf image quality mode).Sublist
      (configKeysOf image' quality' mode') := by
  apply List.Sublist.cons_cons
  exact ((((himage.append (List.Sublist.refl _)).append
    (List.Sublist.refl _)).append hquality).append hmode).append
      (List.Sublist.refl _)

theorem configKeys_nodup : configKeys.Nodup := by
  decide +kernel

theorem configKeys_writable :
    ∀ key ∈ configKeys, '=' ∉ key ∧ '\n' ∉ key := by
  decide +kernel

def configEntries (outType : ParamString) (vidCfg : VideoConfig) :
    List (ParamString × ParamString) :=
  (keyOutputDataType, outType) :: vidCfg.toParams

theorem imageInfo_keys (info : ImageInfo) :
    ((info.toParams true).map Prod.fst).Sublist imageKeys := by
  rw [ImageInfo.toParams]
  split
  · exact List.nil_sublist _
  · exact List.Sublist.refl _

theorem optional_keys (key : ParamString) (text : Option ParamString) :
    ((text.toList.map fun text => (key, text)).map Prod.fst).Sublist
      [key] := by
  cases text with
  | none => exact List.nil_sublist _
  | some text => exact List.Sublist.refl _

theorem configEntries_keys_eq (outType : ParamString)
    (vidCfg : VideoConfig) :
    (configEntries outType vidCfg).map Prod.fst =
      configKeysOf ((vidCfg.imageCfg.imageInfo.toParams true).map Prod.fst)
        ((vidCfg.rcQuality.toList.map fun text =>
          (keyCompressRcQuality, text)).map Prod.fst)
        ((vidCfg.rcMode.toList.map fun text =>
          (keyCompressRcMode, text)).map Prod.fst) := by
  simp only [configEntries, VideoConfig.toParams, ImageConfig.toParams,
    List.map_cons, List.map_append, configKeysOf, List.map_nil]

theorem configEntries_keys (outType : ParamString) (vidCfg : VideoConfig) :
    ((configEntries outType vidCfg).map Prod.fst).Sublist configKeys := by
  rw [configEntries_keys_eq]
  exact configKeysOf_sublist (imageInfo_keys _) (optional_keys _ _)
    (optional_keys _ _)

/-- What is not named is not in the text. -/
theorem configEntries_absent (outType : ParamString)
    (vidCfg : VideoConfig) :
    (pixFmtToString vidCfg.imageCfg.imageInfo.pixFmt = none →
      keyInputDataType ∉ (configEntries outType vidCfg).map Prod.fst) ∧
    (vidCfg.rcQuality = none →
      keyCompressRcQuality ∉ (configEntries outType vidCfg).map Prod.fst) ∧
    (vidCfg.rcMode = none →
      keyCompressRcMode ∉ (configEntries outType vidCfg).map Prod.fst) := by
  rw [configEntries_keys_eq]
  refine ⟨fun hnone hmem => ?_, fun hnone hmem => ?_, fun hnone hmem => ?_⟩
  · have hkeys := (configKeysOf_sublist (List.Sublist.refl _)
      (optional_keys _ vidCfg.rcQuality)
        (optional_keys _ vidCfg.rcMode)).subset hmem
    have hempty : vidCfg.imageCfg.imageInfo.toParams true = [] := by
      rw [ImageInfo.toParams, hnone]
    rw [hempty] at hkeys
    exact absurd hkeys (by decide)
  · have hkeys := (configKeysOf_sublist (imageInfo_keys _)
      (List.Sublist.refl _) (optional_keys _ vidCfg.rcMode)).subset hmem
    rw [hnone] at hkeys
    exact absurd hkeys (by decide)
  · have hkeys := (configKeysOf_sublist (imageInfo_keys _)
      (optional_keys _ vidCfg.rcQuality) (List.Sublist.refl _)).subset hmem
    rw [hnone] at hkeys
    exact absurd hkeys (by decide)

@[simp] theorem newline_not_mem_intToString (value : Int32) :
    '\n' ∉ intToString value :=
  not_mem_decimal (by decide) (by decide) value.toInt

@[simp] theorem newline_not_mem_fpsToString (num den : Int32) :
    '\n' ∉ fpsToString num den := by
  simp [fpsToString]

@[simp] theorem newline_not_mem_codecType (codecType : CodecType) :
    '\n' ∉ decimal codecType.toInt :=
  not_mem_decimal (by decide) (by decide) codecType.toInt

theorem newline_not_mem_imageInfo (info : ImageInfo) :
    ∀ entry ∈ info.toParams true, '\n' ∉ entry.2 := by
  have hnames : ∀ entry ∈ pixFmtStringMap, '\n' ∉ entry.2 := by
    decide
  rw [ImageInfo.toParams]
  split
  · simp
  case _ fmt hfmt =>
    have hname : '\n' ∉ fmt := by
      obtain ⟨entry, hentry, rfl⟩ := Option.map_eq_some_iff.mp hfmt
      exact hnames entry (List.mem_of_find?_eq_some hentry)
    simp [hname]

/-- The names of the rate control are in the tables. -/
structure RcNamed (vidCfg : VideoConfig) : Prop where
  quality : ∀ text, vidCfg.rcQuality = some text → text ∈ rcQualityStrings
  mode : ∀ text, vidCfg.rcMode = some text → text ∈ rcModeStrings

theorem newline_not_mem_rcStrings :
    ∀ text ∈ rcQualityStrings ++ rcModeStrings, '\n' ∉ text := by
  decide

theorem configEntries_writable {outType : ParamString}
    {vidCfg : VideoConfig} (hout : '\n' ∉ outType)
    (hrc : RcNamed vidCfg) :
    ∀ entry ∈ configEntries outType vidCfg, Writable '\n' '=' entry := by
  have hvalues : ∀ entry ∈ configEntries outType vidCfg,
      '\n' ∉ entry.2 := by
    have himage := newline_not_mem_imageInfo vidCfg.imageCfg.imageInfo
    have hquality : ∀ text, vidCfg.rcQuality = some text → '\n' ∉ text :=
      fun text htext => newline_not_mem_rcStrings text
        (List.mem_append_left _ (hrc.quality text htext))
    have hmode : ∀ text, vidCfg.rcMode = some text → '\n' ∉ text :=
      fun text htext => newline_not_mem_rcStrings text
        (List.mem_append_right _ (hrc.mode text htext))
    simp only [configEntries, VideoConfig.toParams, ImageConfig.toParams,
      List.forall_mem_cons, List.forall_mem_append]
    simpa [hout] using
      ⟨⟨fun key value => himage (key, value), hquality⟩, hmode⟩
  intro entry hentry
  have hkey := configKeys_writable entry.1
    ((configEntries_keys outType vidCfg).subset
      (List.mem_map_of_mem hentry))
  exact ⟨hkey.1, hkey.2, hvalues entry hentry⟩

/-! ## Reading it -/

/-- The map holds what was written, and nothing else. -/
structure HoldsEntries (outType : ParamString) (vidCfg : VideoConfig)
    (params : ParamMap) : Prop where
  held : ∀ key value, (key, value) ∈ configEntries outType vidCfg →
    params key = value
  absent : ∀ key, key ∉ (configEntries outType vidCfg).map Prod.fst →
    params key = []

theorem holdsEntries_parseMediaParamMap {outType : ParamString}
    {vidCfg : VideoConfig} (hout : '\n' ∉ outType)
    (hrc : RcNamed vidCfg) :
    HoldsEntries outType vidCfg (parseMediaParamMap
      (writeText '\n' '=' (configEntries outType vidCfg))) := by
  have hmap : parseMediaParamMap
      (writeText '\n' '=' (configEntries outType vidCfg)) =
        assign (configEntries outType vidCfg) :=
    readText_writeText (configEntries_writable hout hrc) (by decide)
  rw [hmap]
  constructor
  · intro key value hentry
    exact assign_of_mem (configKeys_nodup.sublist
      (configEntries_keys outType vidCfg)) hentry
  · intro key hkey
    exact assign_of_not_mem hkey

theorem parseVideoNumbers_eq {outType : ParamString} {vidCfg : VideoConfig}
    {params : ParamMap} (hparams : HoldsEntries outType vidCfg params)
    (start : VideoConfig) :
    parseVideoNumbers params start = .ok
      { vidCfg with
        imageCfg :=
          { start.imageCfg with qfactor := vidCfg.imageCfg.qfactor }
        frameRate := start.frameRate
        frameRateDen := start.frameRateDen
        frameInRate := start.frameInRate
        frameInRateDen := start.frameInRateDen
        rcQuality := start.rcQuality
        rcMode := start.rcMode } := by
  have hint : ∀ key value,
      (key, intToString value) ∈ vidCfg.toParams →
        getStringToInt params key = .ok value := fun key value hentry =>
    getStringToInt_eq
      (hparams.held key _ (List.mem_cons_of_mem _ hentry))
  simp only [VideoConfig.toParams, ImageConfig.toParams] at hint
  rw [parseVideoNumbers,
    hint keyJpegQfactor vidCfg.imageCfg.qfactor (by simp),
    hint keyCompressQpInit vidCfg.qpInit (by simp),
    hint keyCompressQpStep vidCfg.qpStep (by simp),
    hint keyCompressQpMin vidCfg.qpMin (by simp),
    hint keyCompressQpMax vidCfg.qpMax (by simp),
    hint keyCompressBitrate vidCfg.bitRate (by simp),
    hint keyCompressBitrateMin vidCfg.bitRateMin (by simp),
    hint keyCompressBitrateMax vidCfg.bitRateMax (by simp),
    hint keyCompressQpMaxI vidCfg.qpMaxI (by simp),
    hint keyCompressQpMinI vidCfg.qpMinI (by simp),
    hint keyH264Trans8x8 vidCfg.trans8x8 (by simp),
    hint keyLevel vidCfg.level (by simp),
    hint keyVideoGop vidCfg.gopSize (by simp),
    hint keyProfile vidCfg.profile (by simp),
    hint keyFullRange vidCfg.fullRange (by simp),
    hint keyRefFrmCfg vidCfg.refFrmCfg (by simp),
    hint keyRotation vidCfg.rotation (by simp)]
  rfl

/-- Both rates are written with at most two letters a number. -/
def RatesFit (vidCfg : VideoConfig) : Prop :=
  (FitsFps vidCfg.frameRate ∧ FitsFps vidCfg.frameRateDen) ∧
    FitsFps vidCfg.frameInRate ∧ FitsFps vidCfg.frameInRateDen

instance (vidCfg : VideoConfig) : Decidable (RatesFit vidCfg) :=
  inferInstanceAs (Decidable (_ ∧ _))

theorem parseMediaConfigFps_eq {outType : ParamString}
    {vidCfg : VideoConfig} {params : ParamMap}
    (hparams : HoldsEntries outType vidCfg params) (start : VideoConfig) :
    parseMediaConfigFps params start =
      if RatesFit vidCfg then .ok
        { start with
          frameRate := vidCfg.frameRate
          frameRateDen := vidCfg.frameRateDen
          frameInRate := vidCfg.frameInRate
          frameInRateDen := vidCfg.frameInRateDen }
      else .error .refused := by
  have hfps := hparams.held keyFps
    (fpsToString vidCfg.frameRate vidCfg.frameRateDen)
    (by simp [configEntries, VideoConfig.toParams])
  have hfpsIn := hparams.held keyFpsIn
    (fpsToString vidCfg.frameInRate vidCfg.frameInRateDen)
    (by simp [configEntries, VideoConfig.toParams])
  rw [parseMediaConfigFps, parseFps_eq hfps, parseFps_eq hfpsIn]
  by_cases hout : FitsFps vidCfg.frameRate ∧ FitsFps vidCfg.frameRateDen
  · by_cases hin : FitsFps vidCfg.frameInRate ∧
        FitsFps vidCfg.frameInRateDen
    · have hrates : RatesFit vidCfg := ⟨hout, hin⟩
      rw [if_pos hout, if_pos hin, if_pos hrates]
      rfl
    · have hrates : ¬ RatesFit vidCfg := fun h => hin h.2
      rw [if_pos hout, if_neg hin, if_neg hrates]
      rfl
  · have hrates : ¬ RatesFit vidCfg := fun h => hout h.1
    rw [if_neg hout, if_neg hrates]
    rfl

theorem rcString_params {outType : ParamString} {vidCfg : VideoConfig}
    {params : ParamMap} (hparams : HoldsEntries outType vidCfg params)
    (hrc : RcNamed vidCfg) :
    rcString rcQualityStrings (params keyCompressRcQuality) =
        vidCfg.rcQuality ∧
      rcString rcModeStrings (params keyCompressRcMode) = vidCfg.rcMode := by
  obtain ⟨-, hquality, hmode⟩ := configEntries_absent outType vidCfg
  constructor
  · cases htext : vidCfg.rcQuality with
    | none =>
        rw [hparams.absent _ (hquality htext)]
        rfl
    | some text =>
        rw [hparams.held keyCompressRcQuality text
          (by simp [configEntries, VideoConfig.toParams, htext])]
        exact rcString_of_mem.1 (hrc.quality text htext)
  · cases htext : vidCfg.rcMode with
    | none =>
        rw [hparams.absent _ (hmode htext)]
        rfl
    | some text =>
        rw [hparams.held keyCompressRcMode text
          (by simp [configEntries, VideoConfig.toParams, htext])]
        exact rcString_of_mem.2 (hrc.mode text htext)

theorem parseImageInfoFromMap_eq {outType : ParamString}
    {vidCfg : VideoConfig} {params : ParamMap}
    (hparams : HoldsEntries outType vidCfg params) :
    parseImageInfoFromMap params true =
      if pixFmtToString vidCfg.imageCfg.imageInfo.pixFmt = none then
        .error .refused
      else .ok vidCfg.imageCfg.imageInfo := by
  cases hname : pixFmtToString vidCfg.imageCfg.imageInfo.pixFmt with
  | none =>
      have hkey := hparams.absent _
        ((configEntries_absent outType vidCfg).1 hname)
      rw [parseImageInfoFromMap, checkEmpty, if_pos (by simpa using hkey)]
      rfl
  | some text =>
      obtain ⟨hfmt, hnone, htext⟩ := stringToPixFmt_pixFmtToString hname
      have himage : ∀ key value,
          (key, value) ∈ vidCfg.imageCfg.imageInfo.toParams true →
            params key = value := by
        intro key value hentry
        apply hparams.held
        simp [configEntries, VideoConfig.toParams, ImageConfig.toParams,
          hentry]
      simp only [ImageInfo.toParams, hname, if_true] at himage
      have htype := himage keyInputDataType text (by simp)
      have hwidth := himage keyBufferWidth
        (intToString vidCfg.imageCfg.imageInfo.width) (by simp)
      have hheight := himage keyBufferHeight
        (intToString vidCfg.imageCfg.imageInfo.height) (by simp)
      have hvirWidth := himage keyBufferVirWidth
        (intToString vidCfg.imageCfg.imageInfo.virWidth) (by simp)
      have hvirHeight := himage keyBufferVirHeight
        (intToString vidCfg.imageCfg.imageInfo.virHeight) (by simp)
      rw [parseImageInfoFromMap, if_pos rfl, checkEmpty_eq htype htext,
        checkEmpty_stoi_eq hwidth, checkEmpty_stoi_eq hheight,
        checkEmpty_stoi_eq hvirWidth, checkEmpty_stoi_eq hvirHeight]
      simp only [bind, Except.bind, hfmt]
      rw [if_neg hnone, if_neg (by simp)]
      rfl

theorem parseVideoConfigFromMap_eq {outType : ParamString}
    {vidCfg : VideoConfig} {params : ParamMap}
    (hparams : HoldsEntries outType vidCfg params) (hrc : RcNamed vidCfg)
    (start : VideoConfig) :
    parseVideoConfigFromMap params start =
      if RatesFit vidCfg then .ok
        { vidCfg with imageCfg :=
            { start.imageCfg with qfactor := vidCfg.imageCfg.qfactor } }
      else .error .refused := by
  obtain ⟨hquality, hmode⟩ := rcString_params hparams hrc
  rw [parseVideoConfigFromMap, parseVideoNumbers_eq hparams, hquality, hmode]
  simp only [bind, Except.bind]
  rw [parseMediaConfigFps_eq hparams]
  by_cases hrates : RatesFit vidCfg
  · rw [if_pos hrates, if_pos hrates]
    rfl
  · rw [if_neg hrates, if_neg hrates]

/-! ## The round trip -/

section

variable {AudioConfig : Type}
  {audioParams : AudioConfig → CodecType → List (ParamString × ParamString)}
  {parseAudio : ParamMap → CodecType → Except ParamFailure AudioConfig}

def videoTypes : List ParamString :=
  ["video:h264".toList, "video:h265".toList]

theorem videoTypes_start {outType : ParamString}
    (hout : outType ∈ videoTypes) :
    stringStartWiths outType imagePrefix = false ∧
      stringStartWiths outType videoPrefix = true ∧
      stringStartWiths outType audioPrefix = false ∧
      stringToCodecType outType ≠ .none ∧ outType ≠ [] ∧
      '\n' ∉ outType := by
  have hall : ∀ outType ∈ videoTypes,
      stringStartWiths outType imagePrefix = false ∧
        stringStartWiths outType videoPrefix = true ∧
        stringStartWiths outType audioPrefix = false ∧
        stringToCodecType outType ≠ .none ∧ outType ≠ [] ∧
        '\n' ∉ outType := by
    decide
  exact hall outType hout

/-- The configuration as it is written, with the codec of the type. -/
def VideoConfig.withType (vidCfg : VideoConfig) (outType : ParamString) :
    VideoConfig :=
  { vidCfg with imageCfg :=
      { vidCfg.imageCfg with codecType := stringToCodecType outType } }

theorem toParamString_video {outType : ParamString}
    (hout : outType ∈ videoTypes) (mc : MediaConfig AudioConfig) :
    mc.toParamString audioParams outType =
      writeText '\n' '='
        (configEntries outType (mc.vidCfg.withType outType)) := by
  obtain ⟨himage, hvideo, haudio, -⟩ := videoTypes_start hout
  simp only [MediaConfig.toParamString, himage, hvideo, haudio]
  simp only [Bool.not_false, Bool.not_true, Bool.and_false, Bool.and_true,
    Bool.false_eq_true, if_false, if_true, List.nil_append, List.append_nil]
  rfl

/-- What is read from a text whose names are in the tables. -/
theorem parseMediaConfigFromMap_video {outType : ParamString}
    (hout : outType ∈ videoTypes) {vidCfg : VideoConfig}
    {params : ParamMap} (hparams : HoldsEntries outType vidCfg params)
    (hrc : RcNamed vidCfg) (mc : MediaConfig AudioConfig) :
    parseMediaConfigFromMap parseAudio params mc =
      if pixFmtToString vidCfg.imageCfg.imageInfo.pixFmt ≠ none ∧
          RatesFit vidCfg then
        .ok { mc with vidCfg := vidCfg.withType outType, type := .video }
      else .error .refused := by
  obtain ⟨himage, hvideo, haudio, hcodec, hnonempty, -⟩ :=
    videoTypes_start hout
  have htype := hparams.held keyOutputDataType outType
    (by simp [configEntries])
  rw [parseMediaConfigFromMap, checkEmpty_eq htype hnonempty]
  simp only [bind, Except.bind, himage, hvideo, haudio]
  simp only [Bool.not_false, Bool.not_true, Bool.and_false, Bool.and_true,
    Bool.false_eq_true, if_false, if_true, hcodec,
    parseImageInfoFromMap_eq hparams]
  by_cases hname : pixFmtToString vidCfg.imageCfg.imageInfo.pixFmt = none
  · rw [if_pos hname, if_neg fun h => h.1 hname]
  rw [if_neg hname]
  simp only [parseVideoConfigFromMap_eq hparams hrc]
  by_cases hrates : RatesFit vidCfg
  · rw [if_pos hrates, if_pos ⟨hname, hrates⟩]
    rfl
  · rw [if_neg hrates, if_neg fun h => hrates h.2]

theorem exists_of_bind_eq_ok {α β : Type} {x : Except ParamFailure α}
    {f : α → Except ParamFailure β} {result : β}
    (hresult : x >>= f = .ok result) :
    ∃ value, x = .ok value ∧ f value = .ok result := by
  cases x with
  | error failure => contradiction
  | ok value => exact ⟨value, rfl, hresult⟩

/-- Whatever text a video configuration was read from, the names of its rate
control are those of the tables. -/
theorem rcNamed_of_parse {params : ParamMap}
    {mc restored : MediaConfig AudioConfig}
    (hparse : parseMediaConfigFromMap parseAudio params mc = .ok restored)
    (htype : restored.type = .video) : RcNamed restored.vidCfg := by
  rw [parseMediaConfigFromMap] at hparse
  obtain ⟨value, -, hparse⟩ := exists_of_bind_eq_ok hparse
  simp only at hparse
  split at hparse
  · contradiction
  split at hparse
  · contradiction
  split at hparse
  · obtain ⟨imageInfo, -, hparse⟩ := exists_of_bind_eq_ok hparse
    obtain ⟨qfactor, -, hparse⟩ := exists_of_bind_eq_ok hparse
    rw [← Except.ok.inj hparse] at htype
    contradiction
  split at hparse
  · obtain ⟨imageInfo, -, hparse⟩ := exists_of_bind_eq_ok hparse
    obtain ⟨vidCfg, hvideo, hparse⟩ := exists_of_bind_eq_ok hparse
    obtain ⟨numbers, -, hvideo⟩ := exists_of_bind_eq_ok hvideo
    obtain ⟨rates, -, hvideo⟩ := exists_of_bind_eq_ok hvideo
    rw [← Except.ok.inj hparse, ← Except.ok.inj hvideo]
    exact ⟨fun text => mem_of_rcString, fun text => mem_of_rcString⟩
  · obtain ⟨audCfg, -, hparse⟩ := exists_of_bind_eq_ok hparse
    rw [← Except.ok.inj hparse] at htype
    contradiction

/-- What the text of a type can keep: rates of at most two letters a number,
the codec of the type, and names of the rate control that are in the
tables. -/
structure ConfigReadable (outType : ParamString) (vidCfg : VideoConfig) :
    Prop where
  rates : RatesFit vidCfg
  codec : vidCfg.imageCfg.codecType = stringToCodecType outType
  rc : RcNamed vidCfg

theorem ConfigReadable.withType_eq {outType : ParamString}
    {vidCfg : VideoConfig} (hreadable : ConfigReadable outType vidCfg) :
    vidCfg.withType outType = vidCfg := by
  rw [VideoConfig.withType, ← hreadable.codec]

/-- With a pixel format that has a name, the text of a configuration is read
back as this configuration exactly when the text can keep it. -/
theorem parseMediaConfigFromMap_toParamString_iff
    (audioParams : AudioConfig → CodecType →
      List (ParamString × ParamString))
    (parseAudio : ParamMap → CodecType → Except ParamFailure AudioConfig)
    {outType : ParamString} (hout : outType ∈ videoTypes)
    {mc : MediaConfig AudioConfig}
    (hname : pixFmtToString mc.vidCfg.imageCfg.imageInfo.pixFmt ≠ none)
    (start : MediaConfig AudioConfig) :
    (∃ restored, parseMediaConfigFromMap parseAudio (parseMediaParamMap
        (mc.toParamString audioParams outType)) start = .ok restored ∧
      restored.type = .video ∧ restored.vidCfg = mc.vidCfg) ↔
      ConfigReadable outType mc.vidCfg := by
  obtain ⟨-, -, -, -, -, hline⟩ := videoTypes_start hout
  have hread : RcNamed mc.vidCfg →
      parseMediaConfigFromMap parseAudio (parseMediaParamMap
          (mc.toParamString audioParams outType)) start =
        if RatesFit mc.vidCfg then
          .ok { start with
            vidCfg := mc.vidCfg.withType outType, type := .video }
        else .error .refused := by
    intro hrc
    have hwritten : RcNamed (mc.vidCfg.withType outType) :=
      ⟨hrc.quality, hrc.mode⟩
    rw [toParamString_video hout, parseMediaConfigFromMap_video hout
      (holdsEntries_parseMediaParamMap hline hwritten) hwritten start]
    exact if_congr (and_iff_right hname) rfl rfl
  constructor
  · rintro ⟨restored, hparse, htype, hrestored⟩
    have hrc : RcNamed mc.vidCfg := by
      rw [← hrestored]
      exact rcNamed_of_parse hparse htype
    rw [hread hrc] at hparse
    split at hparse
    case isTrue hrates =>
      refine ⟨hrates, ?_, hrc⟩
      rw [← hrestored, ← Except.ok.inj hparse]
      rfl
    case isFalse => contradiction
  · intro hreadable
    exact ⟨{ start with
        vidCfg := mc.vidCfg.withType outType, type := .video },
      by rw [hread hreadable.rc, if_pos hreadable.rates], rfl,
      hreadable.withType_eq⟩

end

/-- A configuration of 1920 by 1080 pixels with the given frame rate. -/
def nv12Config (frameRate : Int32) : MediaConfig Unit where
  vidCfg :=
    { imageCfg :=
        { imageInfo :=
            { pixFmt := .nv12, width := 1920, height := 1080,
              virWidth := 1920, virHeight := 1088 }
          codecType := .h264
          qfactor := 0 }
      qpInit := 26, qpStep := 4, qpMin := 8, qpMax := 48, qpMaxI := 48
      qpMinI := 8, bitRate := 2000000, bitRateMax := 3000000
      bitRateMin := 1000000, frameRate := frameRate, frameRateDen := 1
      frameInRate := 30, frameInRateDen := 1, trans8x8 := 1, level := 41
      gopSize := 60, profile := 100, fullRange := 1, refFrmCfg := 0
      rotation := 90, rcQuality := some "high".toList
      rcMode := some "vbr".toList }
  imgCfg :=
    { imageInfo :=
        { pixFmt := .nv12, width := 1920, height := 1080, virWidth := 1920,
          virHeight := 1088 }
      codecType := .jpeg
      qfactor := 70 }
  audCfg := ()
  type := .video

/-- Thirty frames a second. -/
theorem parseMediaConfigFromMap_thirty_frames :
    ∃ restored, parseMediaConfigFromMap (fun _ _ => .error .refused)
        (parseMediaParamMap ((nv12Config 30).toParamString (fun _ _ => [])
          "video:h264".toList)) (nv12Config 25) = .ok restored ∧
      restored.type = .video ∧ restored.vidCfg = (nv12Config 30).vidCfg := by
  have hout : "video:h264".toList ∈ videoTypes := by decide
  have hname : pixFmtToString
      (nv12Config 30).vidCfg.imageCfg.imageInfo.pixFmt ≠ none := by
    decide
  apply (parseMediaConfigFromMap_toParamString_iff _ _ hout hname _).mpr
  constructor
  · decide
  · decide
  · constructor
    · rintro text ⟨⟩
      decide
    · rintro text ⟨⟩
      decide

/-- A frame rate of 120 is written and not read. -/
theorem parseMediaConfigFromMap_fast_frames :
    pixFmtToString (nv12Config 120).vidCfg.imageCfg.imageInfo.pixFmt ≠ none ∧
      ¬ ∃ restored, parseMediaConfigFromMap (fun _ _ => .error .refused)
          (parseMediaParamMap ((nv12Config 120).toParamString (fun _ _ => [])
            "video:h264".toList)) (nv12Config 25) = .ok restored ∧
        restored.type = .video ∧
          restored.vidCfg = (nv12Config 120).vidCfg := by
  refine ⟨by decide, ?_⟩
  rintro ⟨restored, hparse, -⟩
  have hrefused : (parseMediaConfigFromMap (fun _ _ => .error .refused)
      (parseMediaParamMap ((nv12Config 120).toParamString (fun _ _ => [])
        "video:h264".toList)) (nv12Config 25)).isOk = false := by
    decide +kernel
  rw [hparse] at hrefused
  exact Bool.noConfusion hrefused

end RkaiqToolServer
