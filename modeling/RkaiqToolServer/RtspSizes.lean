import RkaiqToolServer.VideoEncoderFlow

/-!
# The sizes of a picture that the RTSP server can stream

The server computes the bit rates from the size of a picture.  The encoder
refuses sides outside of its limits, and rates outside of its own: small
pictures ask for too low a rate, large ones for too high a rate.  Together this
leaves sizes between two numbers of pixels.
-/

namespace RkaiqToolServer

/-! ## Sides -/

/-- The sides that the encoder takes. -/
def SideFits (side : Int32) : Prop := 1 ≤ side.toInt ∧ side.toInt ≤ 8192

instance : DecidablePred SideFits := fun _ =>
  inferInstanceAs (Decidable (_ ∧ _))

theorem encoderCfgCheck_side (side : Int32) (defValue : Option Int32) :
    encoderCfgCheck side 1 8192 defValue =
      if SideFits side then some side
      else if side = 0 then defValue else none := by
  have hone : (1 : Int32).toInt = 1 := by decide
  have hlimit : (8192 : Int32).toInt = 8192 := by decide
  have hzero : side = 0 ↔ side.toInt = 0 := by
    rw [← Int32.toInt_inj]
    rfl
  unfold encoderCfgCheck SideFits
  simp only [gt_iff_lt, Int32.lt_iff_toInt_lt, hone, hlimit, hzero]
  split
  · rw [if_neg (by omega)]
  · split
    · rw [if_neg (by omega)]
    · rw [if_pos (by omega)]

section

variable (codec : MppCodingType) (width height : Int32)

theorem checked_rtspInfo :
    (rtspVideoConfig codec width height).imageCfg.imageInfo.checked =
      if SideFits width ∧ SideFits height then
        some (rtspVideoConfig codec width height).imageCfg.imageInfo
      else none := by
  simp only [ImageInfo.checked, rtspVideoConfig, encoderCfgCheck_side]
  by_cases hwidth : SideFits width
  · by_cases hheight : SideFits height
    · simp [hwidth, hheight]
    · simp [hwidth, hheight]
  · simp [hwidth]

/-- The configuration with the defaults for what the server leaves out. -/
def rtspChecked : VideoConfig :=
  { rtspVideoConfig codec width height with
    frameRateDen := 1
    frameInRateDen := 1
    gopSize := 30
    qpInit := 28
    qpStep := 2
    qpMin := 8
    qpMax := 48
    qpMinI := 8
    qpMaxI := 48 }

theorem checked_rtspVideoConfig :
    (rtspVideoConfig codec width height).checked =
      if SideFits width ∧ SideFits height then
        some (rtspChecked codec width height)
      else none := by
  have hquantizers : (rtspVideoConfig codec width height).checkedRates >>=
      VideoConfig.checkedQp =
        some { rtspChecked codec width height with qpMinI := 0, qpMaxI := 0 } :=
    rfl
  have hinfo := checked_rtspInfo codec width height
  rw [VideoConfig.checked, hquantizers]
  change (do
    let info ← (rtspVideoConfig codec width height).imageCfg.imageInfo.checked
    VideoConfig.checkedQpI
      { rtspChecked codec width height with
        qpMinI := 0
        qpMaxI := 0
        imageCfg := { (rtspVideoConfig codec width height).imageCfg with
          imageInfo := info } }) = _
  rw [hinfo]
  split <;> rfl

end

/-- A library whose calls succeed takes every configuration that passes the
checks and whose format, mode, rotation and rates it knows. -/
theorem initConfig_starts_iff {codec : MppCodingType} {defaults : MppEncCfg}
    {given : VideoConfig}
    (hcodec : given.imageCfg.codecType = codecTypeOf codec) :
    (∃ enc, initConfig takingAnswers codec defaults given = some enc) ↔
      ∃ cfg format mode rotation rates,
        given.qualityQp >>= VideoConfig.checked = some cfg ∧
          convertToMppPixFmt given.imageCfg.imageInfo.pixFmt = some format ∧
          getMppRcMode (some (cfg.rcMode.getD keyVbr)) = some mode ∧
          rotationOf cfg.rotation = some rotation ∧
          chooseBitRates mode cfg.bitRates = some rates := by
  have hgiven : { given with
      imageCfg := { given.imageCfg with codecType := codecTypeOf codec } } =
        given := by
    rw [← hcodec]
  have hrefCfg (refFrmCfg : Int32) :
      ∃ refCfg, initRefCfg takingAnswers refFrmCfg = some refCfg := by
    unfold initRefCfg
    split
    · exact ⟨_, rfl⟩
    · exact ⟨_, rfl⟩
  simp only [initConfig, hgiven, Option.bind_eq_bind, Option.bind_eq_some_iff]
  constructor
  · rintro ⟨enc, cfg, hcfg, format, hformat, mode, hmode, rotation, hrotation,
      rates, hrates, -⟩
    exact ⟨cfg, format, mode, rotation, rates, hcfg, hformat, hmode, hrotation,
      hrates⟩
  · rintro ⟨cfg, format, mode, rotation, rates, hcfg, hformat, hmode,
      hrotation, hrates⟩
    obtain ⟨refCfg, href⟩ := hrefCfg
      ({ cfg with rcMode := some (cfg.rcMode.getD keyVbr) }.withProfile
        codec).refFrmCfg
    exact ⟨_, cfg, hcfg, format, hformat, mode, hmode, rotation, hrotation,
      rates, hrates, refCfg, href, if_pos ⟨rfl, rfl, rfl, rfl⟩⟩

/-! ## Pixels -/

section

variable {width height : Int32}

theorem pixels_bounds (hwidth : SideFits width) (hheight : SideFits height) :
    1 ≤ width.toInt * height.toInt ∧
      width.toInt * height.toInt ≤ 8192 * 8192 := by
  obtain ⟨hw1, hw2⟩ := hwidth
  obtain ⟨hh1, hh2⟩ := hheight
  exact ⟨by nlinarith, mul_le_mul hw2 hh2 (by omega) (by norm_num)⟩

/-- The target rate of a picture whose sides the encoder takes. -/
theorem toInt_rtspRate (hwidth : SideFits width) (hheight : SideFits height) :
    (width * height * videoFps / 14).toInt =
      width.toInt * height.toInt * 30 / 14 := by
  obtain ⟨hpos, hbound⟩ := pixels_bounds hwidth hheight
  have hfps : videoFps.toInt = 30 := by decide
  have hden : (14 : Int32).toInt = 14 := by decide
  have harea : (width * height).toInt = width.toInt * height.toInt :=
    int32_of_bounds (Int32.toInt_mul width height) (by omega) (by omega)
  have hrate : (width * height * videoFps).toInt =
      width.toInt * height.toInt * 30 := by
    have hmul := Int32.toInt_mul (width * height) videoFps
    rw [harea, hfps] at hmul
    exact int32_of_bounds hmul (by omega) (by omega)
  have hdiv := Int32.toInt_div (width * height * videoFps) 14
  rw [hrate, hden, Int.tdiv_eq_ediv_of_nonneg (by omega)] at hdiv
  exact int32_of_bounds hdiv (by omega) (by omega)

end

/-- The seventeenfold of a great rate leaves the `int` and becomes negative. -/
theorem toInt_greatestRate {bps : Int32} (hlow : 0 ≤ bps.toInt)
    (hhigh : bps.toInt ≤ 143804708) :
    (bps.toInt * 17 < 2 ^ 31 ∧
        (bps * 17 / 16).toInt = bps.toInt * 17 / 16) ∨
      (2 ^ 31 ≤ bps.toInt * 17 ∧ (bps * 17 / 16).toInt < 0) := by
  have hnum : (17 : Int32).toInt = 17 := by decide
  have hden : (16 : Int32).toInt = 16 := by decide
  have hmul := Int32.toInt_mul bps 17
  have hdiv := Int32.toInt_div (bps * 17) 16
  rw [hnum] at hmul
  rw [hden] at hdiv
  by_cases hsmall : bps.toInt * 17 < 2 ^ 31
  · have hproduct := int32_of_bounds hmul (by omega) (by omega)
    rw [hproduct, Int.tdiv_eq_ediv_of_nonneg (by omega)] at hdiv
    exact .inl ⟨hsmall, int32_of_bounds hdiv (by omega) (by omega)⟩
  · have hwrapped : (bps * 17).toInt = -(2 ^ 32 - bps.toInt * 17) := by
      have hperiod := Int.sub_bmod_right (bps.toInt * 17) (2 ^ 32)
      rw [hmul, ← hperiod, Int.bmod_eq_of_le (by omega) (by omega)]
      omega
    rw [hwrapped, Int.neg_tdiv, Int.tdiv_eq_ediv_of_nonneg (by omega)] at hdiv
    have hquotient := int32_of_bounds hdiv (by omega) (by omega)
    exact .inr ⟨by omega, by omega⟩

theorem chooseBitRates_rtsp_iff {bps : Int32} (hlow : 0 ≤ bps.toInt)
    (hhigh : bps.toInt ≤ 143804708) :
    (∃ rates, chooseBitRates .vbr
        { max := bps * 17 / 16, min := bps / 16, target := bps } =
          some rates) ↔
      32000 ≤ bps.toInt ∧ bps.toInt ≤ 94117647 := by
  have hmax := toInt_greatestRate hlow hhigh
  have hden : (16 : Int32).toInt = 16 := by decide
  have hdiv := Int32.toInt_div bps 16
  rw [hden, Int.tdiv_eq_ediv_of_nonneg hlow] at hdiv
  have hmin : (bps / 16).toInt = bps.toInt / 16 :=
    int32_of_bounds hdiv (by omega) (by omega)
  have hzero (rate : Int32) : rate = 0 ↔ rate.toInt = 0 := by
    rw [← Int32.toInt_inj]
    rfl
  unfold chooseBitRates
  simp only [ne_eq, hzero, gt_iff_lt, Int32.lt_iff_toInt_lt,
    toInt_mppMinBpsValue, toInt_mppMaxBpsValue, hmin]
  split
  · split
    · simp only [reduceCtorEq, exists_false, false_iff]
      omega
    · simp only [Option.some.injEq, exists_eq', true_iff]
      omega
  rw [if_neg (by omega), if_neg (by omega)]
  simp only [reduceCtorEq, exists_false, false_iff]
  omega

/-- An encoder starts for a picture exactly when its sides and the number of
its pixels lie between these numbers: from the texts of the server over their
reading to the checks of the encoder. -/
theorem createVideoEncFlow_starts_iff (codec : MppCodingType)
    (width height : Int32) (defaults : MppEncCfg) (start : MediaConfig Unit) :
    (∃ threads, createVideoEncFlow ⟨true, defaults, takingAnswers⟩ start
        imageNv12 (videoEncType codec) width height videoFps = .ok threads) ↔
      (SideFits width ∧ SideFits height) ∧
        14934 ≤ width.toInt * height.toInt ∧
        width.toInt * height.toInt ≤ 43921569 := by
  have hcreated : (∃ threads, createVideoEncFlow ⟨true, defaults, takingAnswers⟩
      start imageNv12 (videoEncType codec) width height videoFps =
        .ok threads) ↔
      ∃ enc, initConfig takingAnswers codec defaults
        (rtspVideoConfig codec width height) = some enc := by
    rw [createVideoEncFlow_eq]
    cases hinit : initConfig takingAnswers codec defaults
      (rtspVideoConfig codec width height) <;>
      simp [orRefused]
  have hchecked : (rtspVideoConfig codec width height).qualityQp >>=
      VideoConfig.checked =
        if SideFits width ∧ SideFits height then
          some (rtspChecked codec width height)
        else none :=
    checked_rtspVideoConfig codec width height
  have hmode : getMppRcMode (some keyVbr) = some .vbr := by decide
  rw [hcreated, initConfig_starts_iff rfl, hchecked]
  by_cases hfits : SideFits width ∧ SideFits height
  swap
  · simp [hfits]
  have hrate := toInt_rtspRate hfits.1 hfits.2
  have hpixels := pixels_bounds hfits.1 hfits.2
  have hchosen := @chooseBitRates_rtsp_iff (width * height * videoFps / 14)
    (by omega) (by omega)
  rw [hrate] at hchosen
  rw [if_pos hfits]
  constructor
  · rintro ⟨cfg, format, mode, rotation, rates, hcfg, -, hcfgMode, -, hrates⟩
    cases hcfg
    have hvbr : mode = .vbr := Option.some_injective _ (hcfgMode.symm.trans hmode)
    rw [hvbr] at hrates
    have hbounds := hchosen.mp ⟨rates, hrates⟩
    exact ⟨hfits, by omega, by omega⟩
  · rintro ⟨-, hlow, hhigh⟩
    obtain ⟨rates, hrates⟩ := hchosen.mpr ⟨by omega, by omega⟩
    exact ⟨_, .yuv420sp, .vbr, .rot0, rates, rfl, rfl, hmode, rfl, hrates⟩

end RkaiqToolServer
