import RkaiqToolServer.MppChanges
import RkaiqToolServer.StepRun

/-!
# What the saved configuration says about the encoder

`GetConfig` returns the configuration that the encoder object keeps of its
settings.  Of a changed frame rate only the output number is saved, and nothing
of the rates that come with a new rate control mode, of the group length of the
smart mode and of the transform that a new profile allows; a new encoder has
its input rate saved as its output rate.  Apart from these the saved mode,
rates, frame rates, group length, quantizers and profile are those the encoder
was given, in every run of changes whose calls to the library succeed.  The
settings of the picture, which no change touches, are not looked at here.
-/

namespace RkaiqToolServer

open StepRun

/-! ## Stored settings -/

@[simp] theorem MppEncCfg.store_nil (cfg : MppEncCfg) : cfg.store [] = cfg :=
  rfl

@[simp] theorem MppEncCfg.store_cons
    (cfg : MppEncCfg) (key : MppKey) (value : MppValue)
    (writes : List (MppKey × MppValue)) :
    cfg.store ((key, value) :: writes) =
      MppEncCfg.store (Function.update cfg key value) writes := rfl

@[simp] theorem MppEncCfg.store_append
    (cfg : MppEncCfg) (first second : List (MppKey × MppValue)) :
    cfg.store (first ++ second) = (cfg.store first).store second :=
  List.foldl_append

/-- A key that is not written keeps its value. -/
theorem MppEncCfg.store_of_notMem
    {cfg : MppEncCfg} {writes : List (MppKey × MppValue)} {key : MppKey}
    (hkey : key ∉ writes.map Prod.fst) : cfg.store writes key = cfg key := by
  induction writes generalizing cfg with
  | nil => rfl
  | cons write rest ih =>
      rw [List.map_cons, List.mem_cons, not_or] at hkey
      obtain ⟨first, value⟩ := write
      rw [MppEncCfg.store_cons, ih hkey.2]
      exact Function.update_of_ne hkey.1 value cfg

/-! ## Settings that are not saved -/

/-- The groups of settings that the saved configuration may have wrong. -/
structure Stale where
  bitRates : Bool
  frameRate : Bool
  /-- The input rate and the two denominators. -/
  fps : Bool
  gop : Bool
  trans8x8 : Bool
  deriving DecidableEq

/-- A change that was carried out makes a group stale or settles it. -/
def Stale.after (stale : Stale) : ConfigChange → Stale
  | .rcMode _ => { stale with bitRates := true }
  | .bitRate _ => { stale with bitRates := false }
  | .frameRate .. => { stale with frameRate := false, fps := true }
  | .profile .. => { stale with trans8x8 := true }
  | .gop _ => { stale with gop := false }
  | .moveDetection flow => if flow then { stale with gop := false } else stale
  | .gopMode param =>
      match gopModeOf param.mode with
      | some .smartp => { stale with gop := true }
      | some .normalp => { stale with gop := false }
      | _ => stale
  | _ => stale

/-- A new encoder has its input rate saved as its output rate. -/
def Stale.initial (given : VideoConfig) : Stale :=
  { bitRates := false
    frameRate := decide (given.frameRate ≠ given.frameInRate)
    fps := false
    gop := false
    trans8x8 := false }

/-- The encoder `enc` was given the mode, the rates, the group length, the
quantizers and the profile that its configuration says, the stale groups apart,
and nothing is stored that was not handed over. -/
structure MppEncoder.Mirrors (enc : MppEncoder) (stale : Stale) : Prop where
  settled : enc.encCfg = enc.device
  codec : enc.vidCfg.imageCfg.codecType = codecTypeOf enc.codeType
  mode : ∃ mode, getMppRcMode enc.vidCfg.rcMode = some mode ∧
    enc.device .rcMode = .mode mode
  bpsMax : enc.device .rcBpsMax = .s32 enc.vidCfg.bitRateMax
  bitRates : stale.bitRates = false →
    enc.device .rcBpsMin = .s32 enc.vidCfg.bitRateMin ∧
      enc.device .rcBpsTarget = .s32 enc.vidCfg.bitRate
  frameRate : stale.frameRate = false →
    enc.device .rcFpsOutNum = .s32 enc.vidCfg.frameRate
  fps : stale.fps = false →
    enc.device .rcFpsInNum = .s32 enc.vidCfg.frameInRate ∧
      enc.device .rcFpsInDenorm = .s32 enc.vidCfg.frameInRateDen ∧
      enc.device .rcFpsOutDenorm = .s32 enc.vidCfg.frameRateDen
  gop : stale.gop = false → enc.device .rcGop = .s32 enc.vidCfg.gopSize
  qpRange : enc.device (.qpMin enc.codeType) = .s32 enc.vidCfg.qpMin ∧
    enc.device (.qpMax enc.codeType) = .s32 enc.vidCfg.qpMax ∧
    enc.device (.qpMinI enc.codeType) = .s32 enc.vidCfg.qpMinI ∧
    enc.device (.qpMaxI enc.codeType) = .s32 enc.vidCfg.qpMaxI
  qpStart : enc.device (.qpInit enc.codeType) = .s32 enc.vidCfg.qpInit ∧
    enc.device (.qpStep enc.codeType) = .s32 enc.vidCfg.qpStep
  profile : enc.codeType = .avc →
    enc.device .h264Profile = .s32 enc.vidCfg.profile ∧
      enc.device .h264Level = .s32 enc.vidCfg.level ∧
      enc.device .h264CabacEn = .s32 (cabacEn enc.vidCfg.profile)
  trans8x8 : enc.codeType = .avc → stale.trans8x8 = false →
    enc.device .h264Trans8x8 =
      .s32 (trans8x8En enc.vidCfg.trans8x8 enc.vidCfg.profile)

/-- The calls that every change needs are answered with success. -/
structure MppAnswers.Accepts (answers : MppAnswers) : Prop where
  setCfg : answers.setCfg = true
  setRefCfg : answers.setRefCfg = true
  setRcApi : answers.setRcApi = true

theorem MppEncoder.setCfg_of_accepts
    {answers : MppAnswers} (haccepts : answers.Accepts) (enc : MppEncoder)
    (writes : List (MppKey × MppValue)) (save : VideoConfig → VideoConfig) :
    enc.setCfg answers writes save =
      (true, { enc with
        encCfg := enc.encCfg.store writes
        device := enc.encCfg.store writes
        vidCfg := save enc.vidCfg }) := by
  simp [MppEncoder.setCfg, MppEncoder.store, haccepts.setCfg]

/-! ## What one change preserves -/

/-- The result of a change together with the groups that are stale then. -/
def MirrorsAfter (stale : Stale) (request : ConfigChange)
    (result : Bool × MppEncoder) : Prop :=
  result.2.Mirrors (if result.1 then stale.after request else stale)

section

variable {enc : MppEncoder} {stale : Stale} {answers : MppAnswers}

theorem MppEncoder.Mirrors.refused (h : enc.Mirrors stale)
    (request : ConfigChange) : MirrorsAfter stale request (false, enc) := h

/-- What is stored under a key that is not written is what was given. -/
theorem MppEncoder.Mirrors.kept (h : enc.Mirrors stale)
    {writes : List (MppKey × MppValue)} {key : MppKey}
    (hkey : key ∉ writes.map Prod.fst) :
    enc.encCfg.store writes key = enc.device key := by
  rw [MppEncCfg.store_of_notMem hkey, h.settled]

/-- Other parts of the encoder do not matter. -/
theorem MppEncoder.Mirrors.congr {other : MppEncoder} (h : enc.Mirrors stale)
    (hcodec : other.codeType = enc.codeType)
    (hencCfg : other.encCfg = enc.encCfg) (hdevice : other.device = enc.device)
    (hvidCfg : other.vidCfg = enc.vidCfg) : other.Mirrors stale := by
  obtain ⟨hsettled, hcode, hmode, hmax, hrates, hrate, hfps, hgop, hrange,
    hstart, hprofile, htrans⟩ := h
  constructor <;> simp only [hcodec, hencCfg, hdevice, hvidCfg] <;> assumption

theorem MppEncoder.Mirrors.setFrameRate (h : enc.Mirrors stale)
    (haccepts : answers.Accepts) (inNum inDen outNum outDen : UInt8) :
    MirrorsAfter stale (.frameRate inNum inDen outNum outDen)
      (enc.setFrameRate answers inNum inDen outNum outDen) := by
  unfold MppEncoder.setFrameRate
  split
  · exact h.refused _
  rw [MppEncoder.setCfg_of_accepts haccepts]
  have hframe : ∀ key, key ≠ .rcFpsInNum → key ≠ .rcFpsInDenorm →
      key ≠ .rcFpsOutNum → key ≠ .rcFpsOutDenorm →
      enc.encCfg.store ((if inNum ≠ 0 ∧ inDen ≠ 0 then
          [(.rcFpsInNum, .s32 (Int32.ofNat inNum.toNat)),
            (.rcFpsInDenorm, .s32 (Int32.ofNat inDen.toNat))]
        else []) ++
        [(.rcFpsOutNum, .s32 (Int32.ofNat outNum.toNat)),
          (.rcFpsOutDenorm, .s32 (Int32.ofNat outDen.toNat))]) key =
        enc.device key := by
    intro key hinNum hinDen houtNum houtDen
    apply h.kept
    split <;> simp [hinNum, hinDen, houtNum, houtDen]
  constructor <;>
    simp only [ne_eq, reduceCtorEq, not_false_eq_true, hframe, if_true,
      Stale.after]
  · exact h.codec
  · exact h.mode
  · exact h.bpsMax
  · exact h.bitRates
  · simp
  · simp
  · exact h.gop
  · exact h.qpRange
  · exact h.qpStart
  · exact h.profile
  · exact h.trans8x8

theorem MppEncoder.Mirrors.setBitRate (h : enc.Mirrors stale)
    (haccepts : answers.Accepts) (rates : BitRates) :
    MirrorsAfter stale (.bitRate rates) (enc.setBitRate answers rates) := by
  unfold MppEncoder.setBitRate
  split
  · exact h.refused _
  split
  · exact h.refused _
  rename_i chosen hchosen
  rw [MppEncoder.setCfg_of_accepts haccepts]
  have hframe : ∀ key, key ≠ .rcBpsMin → key ≠ .rcBpsMax →
      key ≠ .rcBpsTarget →
      enc.encCfg.store (bpsWrites chosen) key = enc.device key := by
    intro key hmin hmax htarget
    apply h.kept
    simp [bpsWrites, hmin, hmax, htarget]
  constructor <;>
    simp only [ne_eq, reduceCtorEq, not_false_eq_true, hframe, if_true,
      Stale.after, VideoConfig.withBitRates]
  · exact h.codec
  · exact h.mode
  · simp [bpsWrites]
  · simp [bpsWrites]
  · exact h.frameRate
  · exact h.fps
  · exact h.gop
  · exact h.qpRange
  · exact h.qpStart
  · exact h.profile
  · exact h.trans8x8

theorem MppEncoder.Mirrors.setRcMode (h : enc.Mirrors stale)
    (haccepts : answers.Accepts) (newMode : ParamString) :
    MirrorsAfter stale (.rcMode newMode) (enc.setRcMode answers newMode) := by
  unfold MppEncoder.setRcMode
  split
  · exact h.refused _
  rename_i mode hmode
  split
  · exact h.refused _
  rename_i rates hrates
  have hmax : rates.max = enc.vidCfg.bitRateMax := calcMppBpsWithMax_max hrates
  rw [MppEncoder.setCfg_of_accepts haccepts]
  have hframe : ∀ key, key ≠ .rcMode → key ≠ .rcBpsMin → key ≠ .rcBpsMax →
      key ≠ .rcBpsTarget →
      enc.encCfg.store ((.rcMode, .mode mode) :: bpsWrites rates) key =
        enc.device key := by
    intro key hne hmin hmax htarget
    apply h.kept
    simp [bpsWrites, hne, hmin, hmax, htarget]
  constructor <;>
    simp only [ne_eq, reduceCtorEq, not_false_eq_true, hframe, if_true,
      Stale.after]
  · exact h.codec
  · rw [getMppRcMode_convertRcMode]
    exact ⟨mode, hmode, by simp [bpsWrites]⟩
  · simp [bpsWrites, hmax]
  · simp
  · exact h.frameRate
  · exact h.fps
  · exact h.gop
  · exact h.qpRange
  · exact h.qpStart
  · exact h.profile
  · exact h.trans8x8

theorem MppEncoder.Mirrors.setProfile (h : enc.Mirrors stale)
    (haccepts : answers.Accepts) (profileIdc level : Int32) :
    MirrorsAfter stale (.profile profileIdc level)
      (enc.setProfile answers profileIdc level) := by
  unfold MppEncoder.setProfile
  split
  · exact h.refused _
  split
  · exact h.refused _
  rw [MppEncoder.setCfg_of_accepts haccepts]
  have hframe : ∀ key, key ≠ .h264Profile → key ≠ .h264CabacEn →
      key ≠ .h264Level →
      enc.encCfg.store [(.h264Profile, .s32 profileIdc),
        (.h264CabacEn, .s32 (cabacEn profileIdc)),
        (.h264Level, .s32 level)] key = enc.device key := by
    intro key hprofile hcabac hlevel
    apply h.kept
    simp [hprofile, hcabac, hlevel]
  constructor <;>
    simp only [ne_eq, reduceCtorEq, not_false_eq_true, hframe, if_true,
      Stale.after]
  · exact h.codec
  · exact h.mode
  · exact h.bpsMax
  · exact h.bitRates
  · exact h.frameRate
  · exact h.fps
  · exact h.gop
  · exact h.qpRange
  · exact h.qpStart
  · intro
    simp
  · simp

/-- The quantizer settings of one codec lie under keys of their own. -/
theorem store_qpWrites (cfg : MppEncCfg) (codec : MppCodingType)
    (qps : VideoEncoderQp) :
    cfg.store (qpWrites codec qps) (.qpInit codec) = .s32 qps.qpInit ∧
      cfg.store (qpWrites codec qps) (.qpStep codec) = .s32 qps.qpStep ∧
      cfg.store (qpWrites codec qps) (.qpMin codec) = .s32 qps.qpMin ∧
      cfg.store (qpWrites codec qps) (.qpMax codec) = .s32 qps.qpMax ∧
      cfg.store (qpWrites codec qps) (.qpMinI codec) = .s32 qps.qpMinI ∧
      cfg.store (qpWrites codec qps) (.qpMaxI codec) = .s32 qps.qpMaxI := by
  cases codec <;> simp [qpWrites]

/-- The keys that the quantizers are not stored under. -/
def MppKey.NoQp (key : MppKey) : Prop :=
  ∀ codec : MppCodingType, key ≠ .qpInit codec ∧ key ≠ .qpMax codec ∧
    key ≠ .qpMin codec ∧ key ≠ .qpStep codec ∧ key ≠ .qpMaxI codec ∧
    key ≠ .qpMinI codec ∧ key ≠ .qpDeltaIp codec

theorem store_qpWrites_of_noQp {cfg : MppEncCfg} {codec : MppCodingType}
    {qps : VideoEncoderQp} {key : MppKey} (hkey : key.NoQp) :
    cfg.store (qpWrites codec qps) key = cfg key := by
  apply MppEncCfg.store_of_notMem
  have hne := hkey codec
  cases codec <;> simp [qpWrites, hne]

/-- New quantizers, whatever else is saved with them. -/
theorem MppEncoder.Mirrors.storeQp (h : enc.Mirrors stale)
    (haccepts : answers.Accepts) (qps : VideoEncoderQp)
    (quality : VideoConfig → Option ParamString) :
    (enc.setCfg answers (qpWrites enc.codeType qps) fun cfg =>
      { cfg.withQp qps with rcQuality := quality cfg }).2.Mirrors stale := by
  rw [MppEncoder.setCfg_of_accepts haccepts]
  obtain ⟨hinit, hstep, hmin, hmax, hminI, hmaxI⟩ :=
    store_qpWrites enc.encCfg enc.codeType qps
  have hframe : ∀ key : MppKey, key.NoQp →
      enc.encCfg.store (qpWrites enc.codeType qps) key = enc.device key := by
    intro key hkey
    rw [store_qpWrites_of_noQp hkey, h.settled]
  constructor <;> simp only [VideoConfig.withQp]
  · exact h.codec
  · rw [hframe .rcMode (by simp [MppKey.NoQp])]
    exact h.mode
  · rw [hframe .rcBpsMax (by simp [MppKey.NoQp])]
    exact h.bpsMax
  · rw [hframe .rcBpsMin (by simp [MppKey.NoQp]),
      hframe .rcBpsTarget (by simp [MppKey.NoQp])]
    exact h.bitRates
  · rw [hframe .rcFpsOutNum (by simp [MppKey.NoQp])]
    exact h.frameRate
  · rw [hframe .rcFpsInNum (by simp [MppKey.NoQp]),
      hframe .rcFpsInDenorm (by simp [MppKey.NoQp]),
      hframe .rcFpsOutDenorm (by simp [MppKey.NoQp])]
    exact h.fps
  · rw [hframe .rcGop (by simp [MppKey.NoQp])]
    exact h.gop
  · exact ⟨hmin, hmax, hminI, hmaxI⟩
  · exact ⟨hinit, hstep⟩
  · rw [hframe .h264Profile (by simp [MppKey.NoQp]),
      hframe .h264Level (by simp [MppKey.NoQp]),
      hframe .h264CabacEn (by simp [MppKey.NoQp])]
    exact h.profile
  · rw [hframe .h264Trans8x8 (by simp [MppKey.NoQp])]
    exact h.trans8x8

theorem MppEncoder.Mirrors.setRcQuality (h : enc.Mirrors stale)
    (haccepts : answers.Accepts) {quality : Option ParamString}
    {result : Bool × MppEncoder}
    (hresult : enc.setRcQuality answers quality = some result) :
    MirrorsAfter stale (.rcQuality quality) result := by
  unfold MppEncoder.setRcQuality at hresult
  split at hresult
  · contradiction
  split at hresult
  · cases hresult
    exact h.refused _
  split at hresult
  · contradiction
  rename_i text
  split at hresult
  · cases hresult
    exact h.refused _
  rename_i qps hqps
  cases hresult
  have hset := h.storeQp haccepts qps fun _ => convertRcQuality text
  rw [MppEncoder.setCfg_of_accepts haccepts] at hset ⊢
  exact hset

theorem MppEncoder.Mirrors.setQp (h : enc.Mirrors stale)
    (haccepts : answers.Accepts) (qps : VideoEncoderQp) :
    MirrorsAfter stale (.qp qps) (enc.setQp answers qps) := by
  have hset := h.storeQp haccepts qps VideoConfig.rcQuality
  unfold MppEncoder.setQp
  rw [MppEncoder.setCfg_of_accepts haccepts] at hset ⊢
  exact hset

/-- A group length that is handed over and saved. -/
theorem MppEncoder.Mirrors.setGop (h : enc.Mirrors stale)
    (haccepts : answers.Accepts) (newGopSize : Int32) :
    MirrorsAfter stale (.gop newGopSize) (enc.setGop answers newGopSize) := by
  unfold MppEncoder.setGop
  split
  · exact h.refused _
  rw [MppEncoder.setCfg_of_accepts haccepts]
  simp only [onSuccess, if_true, MppEncoder.restartUserData]
  have hframe : ∀ key, key ≠ .rcGop →
      enc.encCfg.store [(.rcGop, .s32 newGopSize)] key = enc.device key := by
    intro key hgop
    apply h.kept
    simp [hgop]
  constructor <;>
    simp only [ne_eq, reduceCtorEq, not_false_eq_true, hframe, if_true,
      Stale.after]
  · exact h.codec
  · exact h.mode
  · exact h.bpsMax
  · exact h.bitRates
  · exact h.frameRate
  · exact h.fps
  · simp
  · exact h.qpRange
  · exact h.qpStart
  · exact h.profile
  · exact h.trans8x8

theorem MppEncoder.Mirrors.forceIdrFrame (h : enc.Mirrors stale) :
    MirrorsAfter stale .forceIdr (enc.forceIdrFrame answers) := by
  unfold MppEncoder.forceIdrFrame
  split
  · exact h.congr rfl rfl rfl rfl
  · exact h.refused _

/-- Settings that no group of the configuration is about. -/
theorem MppEncoder.Mirrors.setOther (h : enc.Mirrors stale)
    (haccepts : answers.Accepts) {writes : List (MppKey × MppValue)}
    (hother : ∀ key ∈ writes.map Prod.fst, key = .splitMode ∨ key = .splitArg ∨
      ∃ codec, key = .qpDeltaIp codec) :
    (enc.setCfg answers writes id).2.Mirrors stale := by
  rw [MppEncoder.setCfg_of_accepts haccepts]
  have hframe : ∀ key, key ≠ .splitMode → key ≠ .splitArg →
      (∀ codec, key ≠ .qpDeltaIp codec) →
      enc.encCfg.store writes key = enc.device key := by
    intro key hmode harg hdelta
    apply h.kept
    intro hmem
    obtain hkey | hkey | ⟨codec, hkey⟩ := hother key hmem
    · exact hmode hkey
    · exact harg hkey
    · exact hdelta codec hkey
  constructor <;>
    simp only [ne_eq, reduceCtorEq, not_false_eq_true, implies_true, hframe, id]
  · exact h.codec
  · exact h.mode
  · exact h.bpsMax
  · exact h.bitRates
  · exact h.frameRate
  · exact h.fps
  · exact h.gop
  · exact h.qpRange
  · exact h.qpStart
  · exact h.profile
  · exact h.trans8x8

theorem MppEncoder.Mirrors.setSplit (h : enc.Mirrors stale)
    (haccepts : answers.Accepts) (splitMode splitArg : UInt32) :
    MirrorsAfter stale (.split splitMode splitArg)
      (enc.setSplit answers splitMode splitArg) := by
  have hset : (enc.setSplit answers splitMode splitArg).2.Mirrors stale :=
    h.setOther haccepts (by simp)
  simpa only [MirrorsAfter, Stale.after, ite_self] using hset

theorem MppEncoder.store_setCfg (enc : MppEncoder) (answers : MppAnswers)
    (first second : List (MppKey × MppValue))
    (save : VideoConfig → VideoConfig) :
    (enc.store first).setCfg answers second save =
      enc.setCfg answers (first ++ second) save := by
  simp [MppEncoder.setCfg, MppEncoder.store]

theorem qpDeltaWrites_keys {codec : CodecType} {delta : Int32} {key : MppKey}
    (hkey : ∀ coding, key ≠ .qpDeltaIp coding) :
    key ∉ (qpDeltaWrites codec delta).map Prod.fst := by
  cases codec <;> simp [qpDeltaWrites, hkey]

/-- A reference structure with a group length of its own. -/
theorem MppEncoder.Mirrors.setGopLength (h : enc.Mirrors stale)
    (haccepts : answers.Accepts) (refCfg : Option MppEncRefCfg)
    (gopSize ipQpDelta : Int32) {fresh : Bool}
    (hfresh : fresh = false → gopSize = enc.vidCfg.gopSize) :
    (enc.setGopLength answers refCfg gopSize ipQpDelta).1 = true ∧
      (enc.setGopLength answers refCfg gopSize ipQpDelta).2.Mirrors
        { stale with gop := fresh } := by
  simp only [MppEncoder.setGopLength, MppEncoder.setRefCfg,
    haccepts.setRefCfg, if_true, MppEncoder.store_setCfg]
  rw [MppEncoder.setCfg_of_accepts haccepts]
  refine ⟨rfl, ?_⟩
  have hframe : ∀ key, key ≠ .rcGop →
      (∀ codec, key ≠ .qpDeltaIp codec) →
      enc.encCfg.store ([(.rcGop, .s32 gopSize)] ++
        qpDeltaWrites enc.vidCfg.imageCfg.codecType ipQpDelta) key =
        enc.device key := by
    intro key hgop hdelta
    rw [MppEncCfg.store_append,
      MppEncCfg.store_of_notMem (qpDeltaWrites_keys hdelta)]
    apply h.kept
    simp [hgop]
  constructor <;>
    simp only [ne_eq, reduceCtorEq, not_false_eq_true, implies_true, hframe, id]
  · exact h.codec
  · exact h.mode
  · exact h.bpsMax
  · exact h.bitRates
  · exact h.frameRate
  · exact h.fps
  · intro hgop
    rw [MppEncCfg.store_append, MppEncCfg.store_of_notMem
      (qpDeltaWrites_keys (by simp)), ← hfresh hgop]
    simp
  · exact h.qpRange
  · exact h.qpStart
  · exact h.profile
  · exact h.trans8x8

theorem MppEncoder.Mirrors.setGopMode (h : enc.Mirrors stale)
    (haccepts : answers.Accepts) (param : EncGopModeParam) :
    MirrorsAfter stale (.gopMode param) (enc.setGopMode answers param) := by
  unfold MppEncoder.setGopMode MirrorsAfter
  split
  · exact h
  · rename_i hmode
    obtain ⟨htrue, hset⟩ := @MppEncoder.Mirrors.setGopLength _ _ _ h haccepts
      none enc.vidCfg.gopSize param.ipQpDelta false fun _ => rfl
    simpa only [htrue, if_true, Stale.after, hmode] using hset
  · rename_i hmode
    split
    · obtain ⟨htrue, hset⟩ := @MppEncoder.Mirrors.setGopLength _ _ _ h haccepts
        (some ⟨.smartp, param.interval, param.gopSize⟩) param.interval
        param.ipQpDelta true (by simp)
      simpa only [htrue, if_true, Stale.after, hmode] using hset
    · exact h
  · rename_i mode hnormal hsmart hmode
    have hstale : stale.after (.gopMode param) = stale := by
      cases mode with
      | normalp => exact (hnormal rfl).elim
      | smartp => exact (hsmart rfl).elim
      | tsvc2 => simp only [Stale.after, hmode]
      | tsvc3 => simp only [Stale.after, hmode]
      | tsvc4 => simp only [Stale.after, hmode]
    split
    · simp only [MppEncoder.setRefCfg, haccepts.setRefCfg, if_true, hstale]
      exact h.congr rfl rfl rfl rfl
    · exact h

/-- The smart mode sets the rate control mode and the group length. -/
theorem MppEncoder.Mirrors.setMoveDetection (h : enc.Mirrors stale)
    (haccepts : answers.Accepts) (flow : Bool) :
    MirrorsAfter stale (.moveDetection flow)
      (enc.setMoveDetection answers flow) := by
  unfold MppEncoder.setMoveDetection
  cases flow with
  | false =>
      simp only [Bool.false_eq_true, if_false, MppEncoder.setRcApi,
        haccepts.setRcApi, if_true, MirrorsAfter, Stale.after]
      exact h.congr rfl rfl rfl rfl
  | true =>
      simp only [if_true, MppEncoder.setCfg_of_accepts haccepts, onSuccess,
        MppEncoder.setRcApi, haccepts.setRcApi, MppEncoder.restartUserData]
      have hframe : ∀ key, key ≠ .rcMode → key ≠ .rcGop →
          enc.encCfg.store [(.rcMode, .mode .vbr), (.rcGop, .s32 300)] key =
            enc.device key := by
        intro key hmode hgop
        apply h.kept
        simp [hmode, hgop]
      constructor <;>
        simp only [ne_eq, reduceCtorEq, not_false_eq_true, hframe, if_true,
          Stale.after]
      · exact h.codec
      · exact ⟨.vbr, by decide, by simp⟩
      · exact h.bpsMax
      · exact h.bitRates
      · exact h.frameRate
      · exact h.fps
      · simp
      · exact h.qpRange
      · exact h.qpStart
      · exact h.profile
      · exact h.trans8x8

/-- What one change preserves. -/
theorem MppEncoder.Mirrors.apply (h : enc.Mirrors stale)
    (haccepts : answers.Accepts) {request : ConfigChange}
    {result : Bool × MppEncoder}
    (hresult : enc.apply answers request = some result) :
    MirrorsAfter stale request result := by
  cases request with
  | frameRate inNum inDen outNum outDen =>
      cases hresult
      exact h.setFrameRate haccepts inNum inDen outNum outDen
  | bitRate rates =>
      cases hresult
      exact h.setBitRate haccepts rates
  | rcMode newMode =>
      cases hresult
      exact h.setRcMode haccepts newMode
  | profile profileIdc level =>
      cases hresult
      exact h.setProfile haccepts profileIdc level
  | rcQuality quality => exact h.setRcQuality haccepts hresult
  | gop newGopSize =>
      cases hresult
      exact h.setGop haccepts newGopSize
  | qp qps =>
      cases hresult
      exact h.setQp haccepts qps
  | forceIdr =>
      cases hresult
      exact h.forceIdrFrame
  | split splitMode splitArg =>
      cases hresult
      exact h.setSplit haccepts splitMode splitArg
  | gopMode param =>
      cases hresult
      exact h.setGopMode haccepts param
  | moveDetection flow =>
      cases hresult
      exact h.setMoveDetection haccepts flow
  | statistics value =>
      cases hresult
      exact h.congr rfl rfl rfl rfl
  | userData enableAllFrames data =>
      cases hresult
      exact h.congr rfl rfl rfl rfl
  | osd =>
      cases hresult
      simpa only [MirrorsAfter, Stale.after, ite_self] using h
  | roi regions =>
      simp only [MppEncoder.apply, MppEncoder.roiUpdateRegions,
        Option.map_eq_some_iff] at hresult
      obtain ⟨updated, hupdated, rfl⟩ := hresult
      split at hupdated
      · cases hupdated
        exact h.congr rfl rfl rfl rfl
      · contradiction

end

/-! ## A new encoder -/

/-- Without a default a value that passes its check is the given one. -/
theorem encoderCfgCheck_noDefault {value min max checked : Int32}
    (h : encoderCfgCheck value min max none = some checked) :
    checked = value := by
  unfold encoderCfgCheck at h
  split at h
  · contradiction
  split at h
  · contradiction
  · exact (Option.some.inj h).symm

/-- What the checks of a configuration leave as it was given. -/
structure VideoConfig.Keeps (checked given : VideoConfig) : Prop where
  frameRate : checked.frameRate = given.frameRate
  frameInRate : checked.frameInRate = given.frameInRate
  codecType : checked.imageCfg.codecType = given.imageCfg.codecType
  rcMode : checked.rcMode = given.rcMode

theorem VideoConfig.Keeps.trans {checked between given : VideoConfig}
    (h : checked.Keeps between) (hbetween : between.Keeps given) :
    checked.Keeps given :=
  ⟨h.frameRate.trans hbetween.frameRate,
    h.frameInRate.trans hbetween.frameInRate,
    h.codecType.trans hbetween.codecType, h.rcMode.trans hbetween.rcMode⟩

theorem VideoConfig.checkedRates_keeps {cfg checked : VideoConfig}
    (h : cfg.checkedRates = some checked) : checked.Keeps cfg := by
  simp only [VideoConfig.checkedRates, Option.bind_eq_bind,
    Option.bind_eq_some_iff] at h
  obtain ⟨frameRate, hrate, _, _, frameInRate, hinRate, _, _, _, _, h⟩ := h
  cases h
  exact ⟨encoderCfgCheck_noDefault hrate, encoderCfgCheck_noDefault hinRate,
    rfl, rfl⟩

theorem VideoConfig.checkedQp_keeps {cfg checked : VideoConfig}
    (h : cfg.checkedQp = some checked) : checked.Keeps cfg := by
  simp only [VideoConfig.checkedQp, Option.bind_eq_bind,
    Option.bind_eq_some_iff] at h
  obtain ⟨_, _, _, _, _, _, _, _, h⟩ := h
  cases h
  exact ⟨rfl, rfl, rfl, rfl⟩

theorem VideoConfig.checkedQpI_keeps {cfg checked : VideoConfig}
    (h : cfg.checkedQpI = some checked) : checked.Keeps cfg := by
  simp only [VideoConfig.checkedQpI, Option.bind_eq_bind,
    Option.bind_eq_some_iff] at h
  obtain ⟨_, _, _, _, h⟩ := h
  cases h
  exact ⟨rfl, rfl, rfl, rfl⟩

/-- The checks leave the frame rates, the codec and the mode as they are. -/
theorem VideoConfig.checked_keeps {given checked : VideoConfig}
    (h : given.checked = some checked) : checked.Keeps given := by
  simp only [VideoConfig.checked, Option.bind_eq_bind,
    Option.bind_eq_some_iff] at h
  obtain ⟨cfg, ⟨rated, hrates, hqp⟩, info, -, hqpI⟩ := h
  -- Only the picture's sizes change between the two checks of quantizers.
  have hinfo : VideoConfig.Keeps
      { cfg with imageCfg := { cfg.imageCfg with imageInfo := info } } cfg :=
    ⟨rfl, rfl, rfl, rfl⟩
  exact (VideoConfig.checkedQpI_keeps hqpI).trans (hinfo.trans
    ((VideoConfig.checkedQp_keeps hqp).trans
      (VideoConfig.checkedRates_keeps hrates)))

theorem VideoConfig.qualityQp_keeps {cfg filled : VideoConfig}
    (h : cfg.qualityQp = some filled) : filled.Keeps cfg := by
  unfold VideoConfig.qualityQp at h
  split at h
  · split at h
    · obtain ⟨qps, -, rfl⟩ := Option.map_eq_some_iff.mp h
      exact ⟨rfl, rfl, rfl, rfl⟩
    · cases h
      exact ⟨rfl, rfl, rfl, rfl⟩
  · cases h
    exact ⟨rfl, rfl, rfl, rfl⟩

theorem VideoConfig.withProfile_eq (cfg : VideoConfig)
    (codec : MppCodingType) :
    ∃ profile, cfg.withProfile codec = { cfg with profile := profile } := by
  unfold VideoConfig.withProfile
  cases codec with
  | avc =>
      dsimp only
      split
      · exact ⟨100, rfl⟩
      · exact ⟨cfg.profile, rfl⟩
  | hevc => exact ⟨cfg.profile, rfl⟩

/-- What a new encoder was made from. -/
theorem initConfig_cases {answers : MppAnswers} {codec : MppCodingType}
    {defaults : MppEncCfg} {given : VideoConfig} {enc : MppEncoder}
    (h : initConfig answers codec defaults given = some enc) :
    ∃ (cfg : VideoConfig) (info : ImageInfo) (format : MppFrameFormat)
      (rotation : MppEncRotationCfg) (mode : MppEncRcMode) (rates : BitRates),
      cfg.frameRate = given.frameRate ∧
        cfg.frameInRate = given.frameInRate ∧
        cfg.imageCfg.codecType = codecTypeOf codec ∧
        cfg.rcMode = some (given.rcMode.getD keyVbr) ∧
        getMppRcMode cfg.rcMode = some mode ∧
        chooseBitRates mode cfg.bitRates = some rates ∧
        enc.codeType = codec ∧
        enc.encCfg = defaults.store
          (prepWrites info format rotation cfg.fullRange ++
            rcWrites mode rates cfg ++ codecWrites codec cfg) ∧
        enc.device = enc.encCfg ∧
        enc.vidCfg =
          { cfg with frameRate := cfg.frameInRate }.withBitRates rates ∧
        enc.userData = { userdata := [], frameId := 0, allFrameEn := false } := by
  simp only [initConfig, Option.bind_eq_bind, Option.bind_eq_some_iff] at h
  obtain ⟨cfg, ⟨filled, hfilled, hchecked⟩, format, -, mode, hmode, rotation, -,
    rates, hrates, refCfg, -, h⟩ := h
  split at h
  swap
  · contradiction
  cases h
  have hkeeps := (VideoConfig.checked_keeps hchecked).trans
    (VideoConfig.qualityQp_keeps hfilled)
  obtain ⟨profile, hprofile⟩ := VideoConfig.withProfile_eq
    { cfg with rcMode := some (cfg.rcMode.getD keyVbr) } codec
  rw [hprofile]
  refine ⟨{ cfg with
      rcMode := some (cfg.rcMode.getD keyVbr)
      profile := profile }, _, format, _, mode, rates, hkeeps.frameRate,
    hkeeps.frameInRate, hkeeps.codecType, ?_, hmode, hrates, rfl, rfl, rfl,
    rfl, rfl⟩
  rw [hkeeps.rcMode]

/-- A new encoder has what its configuration says, its output rate apart. -/
theorem initConfig_mirrors {answers : MppAnswers} {codec : MppCodingType}
    {defaults : MppEncCfg} {given : VideoConfig} {enc : MppEncoder}
    (h : initConfig answers codec defaults given = some enc) :
    enc.Mirrors (Stale.initial given) := by
  obtain ⟨cfg, info, format, rotation, mode, rates, hrate, hinRate, hcode, -,
    hmode, hrates, rfl, hencCfg, hdevice, hvidCfg, -⟩ := initConfig_cases h
  have hrc : enc.device .rcMode = .mode mode ∧
      enc.device .rcBpsMin = .s32 rates.min ∧
      enc.device .rcBpsMax = .s32 rates.max ∧
      enc.device .rcBpsTarget = .s32 rates.target ∧
      enc.device .rcFpsOutNum = .s32 cfg.frameRate ∧
      (enc.device .rcFpsInNum = .s32 cfg.frameInRate ∧
        enc.device .rcFpsInDenorm = .s32 cfg.frameInRateDen ∧
        enc.device .rcFpsOutDenorm = .s32 cfg.frameRateDen) ∧
      enc.device .rcGop = .s32 cfg.gopSize := by
    rw [hdevice, hencCfg]
    cases enc.codeType <;>
      simp [rcWrites, bpsWrites, codecWrites, qpWrites]
  obtain ⟨hdeviceMode, hmin, hmax, htarget, hfps, hother, hgop⟩ := hrc
  have hqps : (enc.device (.qpMin enc.codeType) = .s32 cfg.qpMin ∧
        enc.device (.qpMax enc.codeType) = .s32 cfg.qpMax ∧
        enc.device (.qpMinI enc.codeType) = .s32 cfg.qpMinI ∧
        enc.device (.qpMaxI enc.codeType) = .s32 cfg.qpMaxI) ∧
      enc.device (.qpInit enc.codeType) = .s32 cfg.qpInit ∧
      enc.device (.qpStep enc.codeType) = .s32 cfg.qpStep := by
    rw [hdevice, hencCfg]
    cases enc.codeType <;>
      simp [codecWrites, qpWrites, VideoConfig.qps]
  have hprofile : enc.codeType = .avc →
      enc.device .h264Profile = .s32 cfg.profile ∧
        enc.device .h264Level = .s32 cfg.level ∧
        enc.device .h264CabacEn = .s32 (cabacEn cfg.profile) ∧
        enc.device .h264Trans8x8 =
          .s32 (trans8x8En cfg.trans8x8 cfg.profile) := by
    intro havc
    rw [hdevice, hencCfg, havc]
    simp [codecWrites, qpWrites]
  refine ⟨hdevice.symm, ?_, ?_, ?_, ?_, ?_, ?_, ?_, ?_, ?_, ?_, ?_⟩ <;>
    simp only [hvidCfg, hdeviceMode, hmin, hmax, htarget, hfps, hgop,
      VideoConfig.withBitRates, Stale.initial]
  · exact hcode
  · exact ⟨mode, hmode, rfl⟩
  · simp
  · intro hsame
    have hrates : given.frameRate = given.frameInRate := by simpa using hsame
    rw [hrate, hinRate, hrates]
  · exact fun _ => hother
  · simp
  · exact hqps.1
  · exact hqps.2
  · intro havc
    obtain ⟨hidc, hlevel, hcabac, -⟩ := hprofile havc
    exact ⟨hidc, hlevel, hcabac⟩
  · exact fun havc _ => (hprofile havc).2.2.2

/-! ## Runs -/

/-- A request together with the answers of the library to it. -/
structure ChangeCall where
  answers : MppAnswers
  change : UInt32
  val : ParameterBuffer
  deriving DecidableEq

/-- An encoder and the groups of its configuration that are stale. -/
structure TrackedEncoder where
  enc : MppEncoder
  stale : Stale

/-- The groups after a request: a refused one changes none. -/
def Stale.afterCall (stale : Stale) (call : ChangeCall) (accepted : Bool) :
    Stale :=
  match readChange call.change call.val with
  | .change request => if accepted then stale.after request else stale
  | _ => stale

/-- `CheckConfigChange` on a tracked encoder; no encoder stands for a read
outside a buffer. -/
def changeStep (state : Option TrackedEncoder) (call : ChangeCall) :
    Option TrackedEncoder := do
  let tracked ← state
  let (accepted, enc) ←
    tracked.enc.checkConfigChange call.answers call.change call.val
  some { enc := enc, stale := tracked.stale.afterCall call accepted }

def InMirror (state : Option TrackedEncoder) : Prop :=
  ∀ tracked, state = some tracked → tracked.enc.Mirrors tracked.stale

/-- What one request preserves. -/
theorem InMirror.step {state : Option TrackedEncoder} {call : ChangeCall}
    (h : InMirror state) (haccepts : call.answers.Accepts) :
    InMirror (changeStep state call) := by
  intro next hnext
  simp only [changeStep, Option.bind_eq_bind, Option.bind_eq_some_iff] at hnext
  obtain ⟨tracked, htracked, ⟨accepted, enc⟩, hcheck, hnext⟩ := hnext
  cases hnext
  have hmirrors := h tracked htracked
  unfold MppEncoder.checkConfigChange at hcheck
  unfold Stale.afterCall
  split at hcheck
  · contradiction
  · rename_i hread
    cases hcheck
    simpa only [hread] using hmirrors
  · rename_i request hread
    have happlied := hmirrors.apply haccepts hcheck
    simpa only [MirrorsAfter, hread] using happlied

/-- In every run of changes of an encoder that was set up, the configuration
says what the encoder was given, the stale groups apart. -/
theorem changeRun_mirrors {answers : MppAnswers} {codec : MppCodingType}
    {defaults : MppEncCfg} {given : VideoConfig} {enc : MppEncoder}
    (hinit : initConfig answers codec defaults given = some enc)
    {calls : List ChangeCall}
    (haccepts : ∀ call ∈ calls, call.answers.Accepts) :
    States changeStep InMirror
      (some { enc := enc, stale := Stale.initial given }) calls := by
  have hmirrors : InMirror
      (some { enc := enc, stale := Stale.initial given }) := by
    intro tracked htracked
    cases htracked
    exact initConfig_mirrors hinit
  exact states_of_steps (fun _ _ hstate hcall => hstate.step hcall)
    hmirrors (steps_of_forall haccepts)

/-- The mode `cbr`, new quantizers, other frame rates and the smart mode, asked
of the encoder of the RTSP server. -/
def fullHdCalls : List ChangeCall :=
  [⟨takingAnswers, kRcModeChange, ⟨3, 0, some [99, 98, 114, 0]⟩⟩,
    ⟨takingAnswers, kQPChange,
      ⟨24, 0, some [30, 0, 0, 0, 4, 0, 0, 0, 10, 0, 0, 0, 40, 0, 0, 0,
        12, 0, 0, 0, 40, 0, 0, 0]⟩⟩,
    ⟨takingAnswers, kFrameRateChange, ⟨4, 0, some [25, 1, 15, 2]⟩⟩,
    ⟨takingAnswers, kMoveDetectionFlow, ⟨8, 0, some [0, 0, 0, 0]⟩⟩]

theorem changeRun_mirrors_fullHd :
    States changeStep InMirror
      (some
        { enc := fullHdEncoder
          stale := Stale.initial (rtspVideoConfig .avc 1920 1080) })
      fullHdCalls := by
  apply changeRun_mirrors initConfig_fullHd
  intro call hcall
  simp only [fullHdCalls, List.mem_cons, List.not_mem_nil, or_false] at hcall
  rcases hcall with rfl | rfl | rfl | rfl <;> exact ⟨rfl, rfl, rfl⟩

end RkaiqToolServer
