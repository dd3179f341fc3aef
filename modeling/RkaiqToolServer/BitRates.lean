import RkaiqToolServer.MediaConfig

/-!
# The bit rates of the encoder

The encoder is given three bit rates, of which a caller may leave two to be
computed from the third.  `CalcMppBpsWithMax` and `CalcMppBpsWithTarget` do so
in `int` arithmetic, and both places that set the rates, the configuration of a
new encoder and the change of the rates of a running one, choose among the same
three methods.  Whatever they accept outside the mode with a fixed quantizer is
a window of rates inside the limits of the encoder.
-/

namespace RkaiqToolServer

inductive MppEncRcMode
  | vbr
  | cbr
  | fixqp
  deriving DecidableEq

def mppRcModes : List MppEncRcMode := [.vbr, .cbr, .fixqp]

/-- `MPP_ENC_RC_MODE_BUTT`, the answer to a null pointer and to a text that
names no mode, is `none`. -/
def getMppRcMode (rcMode : Option ParamString) : Option MppEncRcMode :=
  match rcMode with
  | none => none
  | some text =>
      ((rcModeStrings.zip mppRcModes).find? fun entry =>
        text.map Char.toLower = entry.1.map Char.toLower).map Prod.snd

def convertRcMode (s : ParamString) : Option ParamString :=
  convert2constchar s rcModeStrings

def convertRcQuality (s : ParamString) : Option ParamString :=
  convert2constchar s rcQualityStrings

/-- The text kept for a mode names the mode of the text it was made from. -/
theorem getMppRcMode_convertRcMode (text : ParamString) :
    getMppRcMode (convertRcMode text) = getMppRcMode (some text) := by
  simp only [convertRcMode, convert2constchar, getMppRcMode, rcModeStrings,
    mppRcModes, List.zip_cons_cons, List.zip_nil_right, List.find?_cons]
  by_cases hvbr : text.map Char.toLower = ['v', 'b', 'r']
  · simp [hvbr]
  by_cases hcbr : text.map Char.toLower = ['c', 'b', 'r']
  · simp [hcbr]
  by_cases hfixqp : text.map Char.toLower = ['f', 'i', 'x', 'q', 'p']
  · simp [hfixqp]
  · simp [hvbr, hcbr, hfixqp]

/-! ## The two computations -/

structure BitRates where
  max : Int32
  min : Int32
  target : Int32
  deriving DecidableEq

def mppMinBpsValue : Int32 := 2000
def mppMaxBpsValue : Int32 := 100000000

/-- The two tests behind the `switch` of `CalcMppBpsWithMax`. -/
def BitRates.raised (rates : BitRates) : BitRates :=
  let min := if rates.min < mppMinBpsValue then mppMinBpsValue else rates.min
  { max := rates.max
    min := min
    target :=
      if rates.target < min then (min + rates.max) / 2 else rates.target }

def calcMppBpsWithMax (rcMode : MppEncRcMode) (bpsMax : Int32) :
    Option BitRates :=
  if rcMode ≠ .fixqp ∧ (bpsMax > mppMaxBpsValue ∨ bpsMax < mppMinBpsValue) then
    none
  else
    match rcMode with
    | .cbr =>
        some (BitRates.raised
          { max := bpsMax, min := bpsMax * 15 / 17, target := bpsMax * 16 / 17 })
    | .vbr =>
        some (BitRates.raised
          { max := bpsMax, min := bpsMax * 1 / 17, target := bpsMax * 16 / 17 })
    | .fixqp => some { max := bpsMax, min := bpsMax, target := bpsMax }

/-- The two tests behind the `switch` of `CalcMppBpsWithTarget`. -/
def BitRates.limited (rates : BitRates) : BitRates :=
  { max := if rates.max > mppMaxBpsValue then mppMaxBpsValue else rates.max
    min := if rates.min < mppMinBpsValue then mppMinBpsValue else rates.min
    target := rates.target }

def calcMppBpsWithTarget (rcMode : MppEncRcMode) (rates : BitRates) :
    Option BitRates :=
  let target := rates.target
  if rcMode ≠ .fixqp ∧ (target > mppMaxBpsValue ∨ target < mppMinBpsValue) then
    none
  else
    match rcMode with
    | .cbr =>
        some (BitRates.limited
          { max := target * 17 / 16, min := target * 15 / 16, target := target })
    | .vbr =>
        some (BitRates.limited
          { max := target * 17 / 16, min := target * 1 / 16, target := target })
    | .fixqp =>
        some { max := rates.max, min := rates.max, target := rates.max }

/-- The three methods: all rates given, only the greatest given, only the
target given. -/
def chooseBitRates (rcMode : MppEncRcMode) (rates : BitRates) :
    Option BitRates :=
  if rates.max ≠ 0 ∧ rates.min ≠ 0 ∧ rates.target ≠ 0 then
    if rates.max < mppMinBpsValue ∨ rates.max > mppMaxBpsValue ∨
        rates.min < mppMinBpsValue ∨ rates.min > mppMaxBpsValue ∨
        rates.target < rates.min ∨ rates.target > rates.max then
      none
    else some rates
  else if rates.max ≠ 0 ∧ rates.target = 0 ∧ rates.min = 0 then
    calcMppBpsWithMax rcMode rates.max
  else if rates.target ≠ 0 ∧ rates.max = 0 ∧ rates.min = 0 then
    calcMppBpsWithTarget rcMode rates
  else none

/-! ## The window of rates -/

/-- The rates are in order and inside the limits of the encoder. -/
structure BitRates.Window (rates : BitRates) : Prop where
  minLimit : 2000 ≤ rates.min.toInt
  minTarget : rates.min.toInt ≤ rates.target.toInt
  targetMax : rates.target.toInt ≤ rates.max.toInt
  maxLimit : rates.max.toInt ≤ 100000000

instance (rates : BitRates) : Decidable rates.Window :=
  decidable_of_iff
    (2000 ≤ rates.min.toInt ∧ rates.min.toInt ≤ rates.target.toInt ∧
      rates.target.toInt ≤ rates.max.toInt ∧ rates.max.toInt ≤ 100000000)
    ⟨fun h => ⟨h.1, h.2.1, h.2.2.1, h.2.2.2⟩,
      fun h => ⟨h.minLimit, h.minTarget, h.targetMax, h.maxLimit⟩⟩

theorem toInt_mppMinBpsValue : mppMinBpsValue.toInt = 2000 := by decide

theorem toInt_mppMaxBpsValue : mppMaxBpsValue.toInt = 100000000 := by decide

theorem int32_of_bounds {value : Int32} {exact : ℤ}
    (hvalue : value.toInt = exact.bmod (2 ^ 32))
    (hlow : -2 ^ 31 ≤ exact) (hhigh : exact < 2 ^ 31) :
    value.toInt = exact := by
  rw [hvalue]
  exact Int.bmod_eq_of_le (by omega) (by omega)

/-- A rate times a small number over another does not leave the `int`. -/
theorem int32_scale {rate num den : Int32}
    (hrate : 0 ≤ rate.toInt) (hlimit : rate.toInt ≤ 100000000)
    (hnum : 0 ≤ num.toInt) (hsmall : num.toInt ≤ 17) (hden : 0 < den.toInt) :
    (rate * num / den).toInt = rate.toInt * num.toInt / den.toInt := by
  have hproduct : 0 ≤ rate.toInt * num.toInt := Int.mul_nonneg hrate hnum
  have hbound : rate.toInt * num.toInt ≤ 100000000 * 17 :=
    mul_le_mul hlimit hsmall hnum (by norm_num)
  have hmul : (rate * num).toInt = rate.toInt * num.toInt :=
    int32_of_bounds (Int32.toInt_mul rate num) (by omega) (by omega)
  have hquotient : 0 ≤ rate.toInt * num.toInt / den.toInt :=
    Int.ediv_nonneg hproduct hden.le
  have hle : rate.toInt * num.toInt / den.toInt ≤ rate.toInt * num.toInt :=
    Int.ediv_le_self _ hproduct
  have hdiv : (rate * num / den).toInt =
      (rate.toInt * num.toInt / den.toInt).bmod (2 ^ 32) := by
    rw [Int32.toInt_div, hmul, Int.tdiv_eq_ediv_of_nonneg hproduct]
  exact int32_of_bounds hdiv (by omega) (by omega)

/-- Half of the sum of two rates does not leave the `int`. -/
theorem int32_middle {low high : Int32}
    (hlow : 0 ≤ low.toInt) (horder : low.toInt ≤ high.toInt)
    (hlimit : high.toInt ≤ 100000000) :
    ((low + high) / 2).toInt = (low.toInt + high.toInt) / 2 := by
  have hadd : (low + high).toInt = low.toInt + high.toInt :=
    int32_of_bounds (Int32.toInt_add low high) (by omega) (by omega)
  have htwo : (2 : Int32).toInt = 2 := by decide
  have hdiv : ((low + high) / 2).toInt =
      ((low.toInt + high.toInt) / 2).bmod (2 ^ 32) := by
    rw [Int32.toInt_div, hadd, htwo,
      Int.tdiv_eq_ediv_of_nonneg (by omega)]
  exact int32_of_bounds hdiv (by omega) (by omega)

/-- Rates below a greatest one that the encoder takes. -/
theorem BitRates.raised_window {rates : BitRates}
    (hlow : 2000 ≤ rates.max.toInt) (hhigh : rates.max.toInt ≤ 100000000)
    (hmin : rates.min.toInt ≤ rates.max.toInt)
    (htarget : rates.target.toInt ≤ rates.max.toInt) :
    rates.raised.Window := by
  have hminimum : 2000 ≤ rates.raised.min.toInt ∧
      rates.raised.min.toInt ≤ rates.max.toInt := by
    simp only [BitRates.raised, Int32.lt_iff_toInt_lt, toInt_mppMinBpsValue]
    split
    · rw [toInt_mppMinBpsValue]
      omega
    · omega
  have hmiddle :=
    int32_middle (by omega) hminimum.2 hhigh
  refine ⟨hminimum.1, ?_, ?_, hhigh⟩
  · change rates.raised.min.toInt ≤ (if rates.target < rates.raised.min then
      (rates.raised.min + rates.max) / 2 else rates.target).toInt
    split
    · omega
    · rename_i hkeep
      rw [Int32.not_lt, Int32.le_iff_toInt_le] at hkeep
      exact hkeep
  · change (if rates.target < rates.raised.min then
      (rates.raised.min + rates.max) / 2 else rates.target).toInt ≤
      rates.max.toInt
    split
    · omega
    · exact htarget

/-- Rates around a target that the encoder takes. -/
theorem BitRates.limited_window {rates : BitRates}
    (hlow : 2000 ≤ rates.target.toInt)
    (hhigh : rates.target.toInt ≤ 100000000)
    (hmin : rates.min.toInt ≤ rates.target.toInt)
    (hmax : rates.target.toInt ≤ rates.max.toInt) :
    rates.limited.Window := by
  have hminimum : 2000 ≤ rates.limited.min.toInt ∧
      rates.limited.min.toInt ≤ rates.target.toInt := by
    simp only [BitRates.limited, Int32.lt_iff_toInt_lt, toInt_mppMinBpsValue]
    split
    · rw [toInt_mppMinBpsValue]
      omega
    · omega
  have hmaximum : rates.target.toInt ≤ rates.limited.max.toInt ∧
      rates.limited.max.toInt ≤ 100000000 := by
    simp only [BitRates.limited, gt_iff_lt, Int32.lt_iff_toInt_lt,
      toInt_mppMaxBpsValue]
    split
    · rw [toInt_mppMaxBpsValue]
      omega
    · omega
  exact ⟨hminimum.1, hminimum.2, hmaximum.1, hmaximum.2⟩

theorem rate_limits {rcMode : MppEncRcMode} {rate : Int32}
    (hmode : rcMode ≠ .fixqp)
    (htest : ¬(rcMode ≠ .fixqp ∧
      (rate > mppMaxBpsValue ∨ rate < mppMinBpsValue))) :
    2000 ≤ rate.toInt ∧ rate.toInt ≤ 100000000 := by
  have hrate : ¬(rate > mppMaxBpsValue ∨ rate < mppMinBpsValue) :=
    fun h => htest ⟨hmode, h⟩
  simp only [gt_iff_lt, Int32.lt_iff_toInt_lt, toInt_mppMinBpsValue,
    toInt_mppMaxBpsValue, not_or, not_lt] at hrate
  exact ⟨hrate.2, hrate.1⟩

theorem calcMppBpsWithMax_max {rcMode : MppEncRcMode} {bpsMax : Int32}
    {rates : BitRates} (h : calcMppBpsWithMax rcMode bpsMax = some rates) :
    rates.max = bpsMax := by
  unfold calcMppBpsWithMax at h
  split at h
  · contradiction
  cases rcMode <;> cases h <;> rfl

theorem calcMppBpsWithMax_window {rcMode : MppEncRcMode} {bpsMax : Int32}
    {rates : BitRates} (hmode : rcMode ≠ .fixqp)
    (h : calcMppBpsWithMax rcMode bpsMax = some rates) :
    rates.Window := by
  unfold calcMppBpsWithMax at h
  split at h
  · contradiction
  rename_i htest
  obtain ⟨hlow, hhigh⟩ := rate_limits hmode htest
  have hscale (num : Int32) (hnum : 0 ≤ num.toInt) (hsmall : num.toInt ≤ 16) :
      (bpsMax * num / 17).toInt ≤ bpsMax.toInt := by
    have hden : (17 : Int32).toInt = 17 := by decide
    rw [int32_scale (by omega) hhigh hnum (by omega) (by omega), hden]
    have : bpsMax.toInt * num.toInt ≤ bpsMax.toInt * 16 :=
      mul_le_mul_of_nonneg_left hsmall (by omega)
    omega
  have htarget := hscale 16 (by decide) (by decide)
  cases rcMode with
  | cbr =>
      cases h
      exact BitRates.raised_window hlow hhigh
        (hscale 15 (by decide) (by decide)) htarget
  | vbr =>
      cases h
      exact BitRates.raised_window hlow hhigh
        (hscale 1 (by decide) (by decide)) htarget
  | fixqp => contradiction

theorem calcMppBpsWithTarget_window {rcMode : MppEncRcMode}
    {given rates : BitRates} (hmode : rcMode ≠ .fixqp)
    (h : calcMppBpsWithTarget rcMode given = some rates) :
    rates.Window := by
  simp only [calcMppBpsWithTarget] at h
  split at h
  · contradiction
  rename_i htest
  obtain ⟨hlow, hhigh⟩ := rate_limits hmode htest
  have hden : (16 : Int32).toInt = 16 := by decide
  have hscale (num : Int32) (hnum : 0 ≤ num.toInt) (hsmall : num.toInt ≤ 17) :
      (given.target * num / 16).toInt =
        given.target.toInt * num.toInt / 16 := by
    rw [int32_scale (by omega) hhigh hnum hsmall (by omega), hden]
  have hmax : given.target.toInt ≤ (given.target * 17 / 16).toInt := by
    have hnum : (17 : Int32).toInt = 17 := by decide
    rw [hscale 17 (by decide) (by decide), hnum]
    omega
  cases rcMode with
  | cbr =>
      cases h
      refine BitRates.limited_window hlow hhigh ?_ hmax
      change (given.target * 15 / 16).toInt ≤ given.target.toInt
      have hnum : (15 : Int32).toInt = 15 := by decide
      rw [hscale 15 (by decide) (by decide), hnum]
      omega
  | vbr =>
      cases h
      refine BitRates.limited_window hlow hhigh ?_ hmax
      change (given.target * 1 / 16).toInt ≤ given.target.toInt
      have hnum : (1 : Int32).toInt = 1 := by decide
      rw [hscale 1 (by decide) (by decide), hnum]
      omega
  | fixqp => contradiction

theorem chooseBitRates_window {rcMode : MppEncRcMode} {given rates : BitRates}
    (hmode : rcMode ≠ .fixqp) (h : chooseBitRates rcMode given = some rates) :
    rates.Window := by
  unfold chooseBitRates at h
  split at h
  · split at h
    · contradiction
    rename_i htest
    cases h
    simp only [gt_iff_lt, Int32.lt_iff_toInt_lt, toInt_mppMinBpsValue,
      toInt_mppMaxBpsValue, not_or, not_lt] at htest
    obtain ⟨-, hmax, hmin, -, horder, htarget⟩ := htest
    exact ⟨hmin, horder, htarget, hmax⟩
  split at h
  · exact calcMppBpsWithMax_window hmode h
  split at h
  · exact calcMppBpsWithTarget_window hmode h
  · contradiction

end RkaiqToolServer
