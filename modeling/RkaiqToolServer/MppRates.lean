import RkaiqToolServer.MppMirror
import RkaiqToolServer.MppRequests

/-!
# The rates an encoder runs with

The functions that ask for changes cannot ask for the mode with a fixed
quantizer.  An encoder that was not set up in it is given a window of bit rates
inside the limits at every time, whatever it is asked and whichever calls to
the library fail, because the rates are stored together and are computed for
the saved mode.
-/

namespace RkaiqToolServer

open StepRun

/-- The three rates as a configuration object holds them. -/
structure MppEncCfg.Rates (cfg : MppEncCfg) (rates : BitRates) : Prop where
  min : cfg .rcBpsMin = .s32 rates.min
  max : cfg .rcBpsMax = .s32 rates.max
  target : cfg .rcBpsTarget = .s32 rates.target

def MppEncCfg.InWindow (cfg : MppEncCfg) : Prop :=
  ∃ rates, rates.Window ∧ cfg.Rates rates

/-- Stored and handed over are windows of rates, and the saved mode is one for
which the next rates will be computed as such. -/
structure MppEncoder.Rated (enc : MppEncoder) : Prop where
  mode : ∃ mode, getMppRcMode enc.vidCfg.rcMode = some mode ∧ mode ≠ .fixqp
  stored : enc.encCfg.InWindow
  given : enc.device.InWindow

/-- Writes that do not touch the rates. -/
def NoRates (writes : List (MppKey × MppValue)) : Prop :=
  MppKey.rcBpsMin ∉ writes.map Prod.fst ∧
    MppKey.rcBpsMax ∉ writes.map Prod.fst ∧
    MppKey.rcBpsTarget ∉ writes.map Prod.fst

theorem MppEncCfg.InWindow.store {cfg : MppEncCfg} (h : cfg.InWindow)
    {writes : List (MppKey × MppValue)} (hwrites : NoRates writes) :
    (cfg.store writes).InWindow := by
  obtain ⟨rates, hwindow, hrates⟩ := h
  obtain ⟨hmin, hmax, htarget⟩ := hwrites
  refine ⟨rates, hwindow, ?_, ?_, ?_⟩
  · rw [MppEncCfg.store_of_notMem hmin, hrates.min]
  · rw [MppEncCfg.store_of_notMem hmax, hrates.max]
  · rw [MppEncCfg.store_of_notMem htarget, hrates.target]

theorem inWindow_bpsWrites {rates : BitRates} (hwindow : rates.Window)
    (cfg : MppEncCfg) : (cfg.store (bpsWrites rates)).InWindow := by
  refine ⟨rates, hwindow, ?_, ?_, ?_⟩ <;> simp [bpsWrites]

section

variable {enc : MppEncoder} {answers : MppAnswers}

theorem MppEncoder.Rated.congr {other : MppEncoder} (h : enc.Rated)
    (hencCfg : other.encCfg = enc.encCfg) (hdevice : other.device = enc.device)
    (hvidCfg : other.vidCfg = enc.vidCfg) : other.Rated := by
  constructor
  · rw [hvidCfg]
    exact h.mode
  · rw [hencCfg]
    exact h.stored
  · rw [hdevice]
    exact h.given

/-- Handing over what is stored, or failing to. -/
theorem MppEncoder.Rated.setCfg (h : enc.Rated)
    {writes : List (MppKey × MppValue)} {save : VideoConfig → VideoConfig}
    (hstored : (enc.encCfg.store writes).InWindow)
    (hmode : ∃ mode, getMppRcMode (save enc.vidCfg).rcMode = some mode ∧
      mode ≠ .fixqp) :
    (enc.setCfg answers writes save).2.Rated := by
  unfold MppEncoder.setCfg
  dsimp only
  split
  · exact ⟨hmode, hstored, hstored⟩
  · exact ⟨h.mode, hstored, h.given⟩

/-- A change of other settings that keeps the mode. -/
theorem MppEncoder.Rated.setOther (h : enc.Rated)
    {writes : List (MppKey × MppValue)} {save : VideoConfig → VideoConfig}
    (hwrites : NoRates writes)
    (hmode : (save enc.vidCfg).rcMode = enc.vidCfg.rcMode) :
    (enc.setCfg answers writes save).2.Rated := by
  apply h.setCfg (h.stored.store hwrites)
  rw [hmode]
  exact h.mode

theorem getMppRcMode_keyVbr : getMppRcMode (some keyVbr) = some .vbr := by
  decide

theorem noRates_qpWrites (codec : MppCodingType) (qps : VideoEncoderQp) :
    NoRates (qpWrites codec qps) := by
  cases codec <;> simp [NoRates, qpWrites]

theorem noRates_qpDeltaWrites (codec : CodecType) (delta : Int32) :
    NoRates (qpDeltaWrites codec delta) := by
  cases codec <;> simp [NoRates, qpDeltaWrites]

theorem MppEncoder.Rated.setFrameRate (h : enc.Rated)
    (inNum inDen outNum outDen : UInt8) :
    (enc.setFrameRate answers inNum inDen outNum outDen).2.Rated := by
  unfold MppEncoder.setFrameRate
  split
  · exact h
  apply h.setOther _ rfl
  split <;> simp [NoRates]

theorem MppEncoder.Rated.setBitRate (h : enc.Rated) (rates : BitRates) :
    (enc.setBitRate answers rates).2.Rated := by
  obtain ⟨mode, hmode, hnot⟩ := h.mode
  unfold MppEncoder.setBitRate
  rw [hmode]
  dsimp only
  split
  · exact h
  rename_i chosen hchosen
  exact h.setCfg
    (inWindow_bpsWrites (chooseBitRates_window hnot hchosen) enc.encCfg)
    ⟨mode, hmode, hnot⟩

/-- The rates of a new mode come with it. -/
theorem MppEncoder.Rated.setRcMode (h : enc.Rated) {newMode : ParamString}
    (hnew : getMppRcMode (some newMode) ≠ some .fixqp) :
    (enc.setRcMode answers newMode).2.Rated := by
  unfold MppEncoder.setRcMode
  split
  · exact h
  rename_i mode hmode
  have hnot : mode ≠ .fixqp := by
    intro hfixqp
    exact hnew (hfixqp ▸ hmode)
  split
  · exact h
  rename_i rates hrates
  have hstored : (enc.encCfg.store
      ((.rcMode, .mode mode) :: bpsWrites rates)).InWindow :=
    inWindow_bpsWrites (calcMppBpsWithMax_window hnot hrates) _
  apply h.setCfg hstored
  rw [getMppRcMode_convertRcMode]
  exact ⟨mode, hmode, hnot⟩

theorem MppEncoder.Rated.setRefCfg (h : enc.Rated)
    (refCfg : Option MppEncRefCfg) : (enc.setRefCfg answers refCfg).2.Rated := by
  obtain hset | hset := enc.setRefCfg_cases answers refCfg <;> rw [hset]
  · exact h
  · exact h.congr rfl rfl rfl

theorem MppEncoder.Rated.setGopLength (h : enc.Rated)
    (refCfg : Option MppEncRefCfg) (gopSize ipQpDelta : Int32) :
    (enc.setGopLength answers refCfg gopSize ipQpDelta).2.Rated := by
  have hset : (enc.setRefCfg answers refCfg).2.Rated := h.setRefCfg refCfg
  have hstored : ((enc.setRefCfg answers refCfg).2.store
      [(.rcGop, .s32 gopSize)]).Rated :=
    ⟨hset.mode, hset.stored.store (by simp [NoRates]), hset.given⟩
  unfold MppEncoder.setGopLength
  dsimp only
  split
  · exact hstored.setOther (noRates_qpDeltaWrites _ _) rfl
  · exact hstored

theorem MppEncoder.Rated.setGopMode (h : enc.Rated) (param : EncGopModeParam) :
    (enc.setGopMode answers param).2.Rated := by
  obtain hset | ⟨refCfg, gopSize, hset⟩ | ⟨refCfg, hset⟩ :=
    enc.setGopMode_cases answers param <;> rw [hset]
  · exact h
  · exact h.setGopLength refCfg gopSize param.ipQpDelta
  · exact h.setRefCfg refCfg

theorem MppEncoder.Rated.setRcApi (h : enc.Rated) (name : String) :
    (enc.setRcApi answers name).2.Rated := by
  obtain hset | hset := enc.setRcApi_cases answers name <;> rw [hset]
  · exact h
  · exact h.congr rfl rfl rfl

/-- The smart mode keeps the rates and sets a mode that they may have. -/
theorem MppEncoder.Rated.setMoveDetection (h : enc.Rated) (flow : Bool) :
    (enc.setMoveDetection answers flow).2.Rated := by
  have hset : (enc.setCfg answers [(.rcMode, .mode .vbr), (.rcGop, .s32 300)]
      fun cfg => { cfg with gopSize := 300, rcMode := some keyVbr }).2.Rated :=
    h.setCfg (h.stored.store (by simp [NoRates]))
      ⟨.vbr, getMppRcMode_keyVbr, by decide⟩
  unfold MppEncoder.setMoveDetection
  split
  · unfold onSuccess
    split
    · apply MppEncoder.Rated.setRcApi
      exact hset.congr rfl rfl rfl
    · exact hset
  · exact h.setRcApi "defalut"

/-- Requests whose regions pass the assertions. -/
def EncoderRequest.Asserted : EncoderRequest → Prop
  | .setRoiRegions regions =>
      ∀ region ∈ regions, region.aligned.Asserted
  | _ => True

instance : DecidablePred EncoderRequest.Asserted
  | .setRoiRegions regions => inferInstanceAs
      (Decidable (∀ region ∈ regions, region.aligned.Asserted))
  | .setBps .. | .setRcQuality _ | .setRcMode _ | .setQp _ | .forceIdr
  | .setFps .. | .setGopSize _ | .setMoveDetection _ | .setSplit ..
  | .setGopMode _ | .setAvcProfile .. | .setUserdata ..
  | .enableStatistics _ => .isTrue trivial

/-- What one request of the functions preserves; it is not a fault either. -/
theorem MppEncoder.Rated.apply (h : enc.Rated) {request : EncoderRequest}
    {control : EncoderControl} (hcontrol : request.control = some control)
    (hasserted : request.Asserted) :
    ∃ result, enc.apply answers request.read = some result ∧
      result.2.Rated := by
  cases request with
  | setBps target min max => exact ⟨_, rfl, h.setBitRate _⟩
  | setRcQuality rcQuality =>
      obtain ⟨mode, hmode, -⟩ := h.mode
      obtain ⟨text, htext⟩ : ∃ text, enc.vidCfg.rcMode = some text := by
        cases hrc : enc.vidCfg.rcMode with
        | none => simp [hrc, getMppRcMode] at hmode
        | some text => exact ⟨text, rfl⟩
      simp only [EncoderRequest.read, EncoderRequest.asked,
        MppEncoder.apply, MppEncoder.setRcQuality, htext]
      split
      · exact ⟨_, rfl, h⟩
      split
      · exact ⟨_, rfl, h⟩
      · exact ⟨_, rfl, h.setOther (noRates_qpWrites _ _) rfl⟩
  | setRcMode rcMode =>
      refine ⟨_, rfl, h.setRcMode ?_⟩
      simp only [EncoderRequest.control, videoEncoderSetRcMode] at hcontrol
      split at hcontrol
      · rename_i hmode
        rcases hmode with rfl | rfl <;> decide
      · contradiction
  | setQp qps => exact ⟨_, rfl, h.setOther (noRates_qpWrites _ _) rfl⟩
  | forceIdr =>
      refine ⟨_, rfl, ?_⟩
      unfold MppEncoder.forceIdrFrame
      split
      · exact h.congr rfl rfl rfl
      · exact h
  | setFps outNum outDen inNum inDen =>
      exact ⟨_, rfl, h.setFrameRate inNum inDen outNum outDen⟩
  | setGopSize gop =>
      refine ⟨_, rfl, ?_⟩
      have hset : (enc.setCfg answers [(.rcGop, .s32 gop)] fun cfg =>
          { cfg with gopSize := gop }).2.Rated :=
        h.setOther (by simp [NoRates]) rfl
      unfold MppEncoder.setGop onSuccess
      split
      · exact h
      split
      · exact hset.congr rfl rfl rfl
      · exact hset
  | setMoveDetection mdFlow => exact ⟨_, rfl, h.setMoveDetection true⟩
  | setRoiRegions regions =>
      have hregions : ∀ region ∈ regions, region.aligned.Asserted := hasserted
      have hall : (regions.map EncRoiRegion.aligned).all (fun region =>
          decide region.Asserted) = true := by
        simpa [List.all_eq_true] using hregions
      refine ⟨_, by simp only [EncoderRequest.read, EncoderRequest.asked,
        MppEncoder.apply, MppEncoder.roiUpdateRegions, hall, if_true]; rfl,
        ?_⟩
      exact h.congr rfl rfl rfl
  | setSplit mode size =>
      exact ⟨_, rfl, h.setOther (by simp [NoRates]) rfl⟩
  | setGopMode param => exact ⟨_, rfl, h.setGopMode param⟩
  | setAvcProfile profileIdc level =>
      refine ⟨_, rfl, ?_⟩
      unfold MppEncoder.setProfile
      split
      · exact h
      split
      · exact h
      · exact h.setOther (by simp [NoRates]) rfl
  | setUserdata data allFrames => exact ⟨_, rfl, h.congr rfl rfl rfl⟩
  | enableStatistics enable => exact ⟨_, rfl, h.congr rfl rfl rfl⟩

end

/-! ## Runs -/

def RunsRated (state : Option MppEncoder) : Prop :=
  ∃ enc, state = some enc ∧ enc.Rated

theorem RunsRated.step {state : Option MppEncoder} {call : RequestCall}
    (h : RunsRated state) (hasserted : call.request.Asserted) :
    RunsRated (mediaRequestStep state call) := by
  unfold mediaRequestStep
  split
  · exact h
  rename_i control hcontrol
  obtain ⟨enc, rfl, hrated⟩ := h
  obtain ⟨result, hresult, hnext⟩ :=
    @MppEncoder.Rated.apply _ call.answers hrated _ _ hcontrol hasserted
  refine ⟨result.2, ?_, hnext⟩
  rw [← checkConfigChange_control hcontrol] at hresult
  simp [hresult]

theorem initConfig_rated {answers : MppAnswers} {codec : MppCodingType}
    {defaults : MppEncCfg} {given : VideoConfig} {enc : MppEncoder}
    (h : initConfig answers codec defaults given = some enc)
    (hmode : getMppRcMode given.rcMode ≠ some .fixqp) : enc.Rated := by
  obtain ⟨cfg, info, format, rotation, mode, rates, -, -, -, hrc, hcfg, hrates,
    rfl, hencCfg, hdevice, hvidCfg, -⟩ := initConfig_cases h
  have hnot : mode ≠ .fixqp := by
    rintro rfl
    rw [hrc] at hcfg
    cases hgiven : given.rcMode with
    | none =>
        rw [hgiven, Option.getD_none, getMppRcMode_keyVbr] at hcfg
        cases hcfg
    | some text =>
        rw [hgiven, Option.getD_some] at hcfg
        exact hmode (hgiven ▸ hcfg)
  have hstored : enc.encCfg.InWindow := by
    refine ⟨rates, chooseBitRates_window hnot hrates, ?_, ?_, ?_⟩ <;>
      rw [hencCfg] <;> cases enc.codeType <;>
      simp [rcWrites, bpsWrites, codecWrites, qpWrites]
  refine ⟨⟨mode, ?_, hnot⟩, hstored, hdevice ▸ hstored⟩
  rw [hvidCfg]
  exact hcfg

/-- Whatever is asked of an encoder that was not set up with a fixed quantizer,
and whichever calls to the library fail, it stays in use and is given a window
of rates inside the limits at every time. -/
theorem requestRun_rated {answers : MppAnswers} {codec : MppCodingType}
    {defaults : MppEncCfg} {given : VideoConfig} {enc : MppEncoder}
    (hinit : initConfig answers codec defaults given = some enc)
    (hmode : getMppRcMode given.rcMode ≠ some .fixqp)
    {calls : List RequestCall}
    (hasserted : ∀ call ∈ calls, call.request.Asserted) :
    States mediaRequestStep RunsRated (some enc) calls :=
  states_of_steps (fun _ _ hstate hcall => hstate.step hcall)
    ⟨enc, rfl, initConfig_rated hinit hmode⟩ (steps_of_forall hasserted)

theorem requestRun_rated_fullHd :
    States mediaRequestStep RunsRated (some fullHdEncoder)
      [⟨takingAnswers, .setRcMode "cbr".toList⟩,
        ⟨{ takingAnswers with setCfg := false }, .setBps 4000000 0 0⟩,
        ⟨takingAnswers, .setRoiRegions [⟨0, 0, 64, 64, 1, -10, 0, 0, 0⟩]⟩] := by
  apply requestRun_rated initConfig_fullHd (by decide)
  decide

end RkaiqToolServer
