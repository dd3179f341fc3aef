import RkaiqToolServer.MppChanges

/-!
# Requests to the encoder

The `video_encoder_set_` functions check what they are asked, put it into a
buffer and leave the buffer with the encoder.  What the encoder reads from such
a buffer is what the caller asked for.
-/

namespace RkaiqToolServer

open ByteCodec

/-! ## Buffers -/

/-- An array of 32-bit numbers in memory. -/
def wordBlock (values : List UInt32) : List UInt8 :=
  values.flatMap fun value => leBytes 4 value.toNat

def intBlock (values : List Int32) : List UInt8 :=
  wordBlock (values.map Int32.toUInt32)

def EncRoiRegion.block (region : EncRoiRegion) : List UInt8 :=
  leBytes 2 region.x.toNat ++ leBytes 2 region.y.toNat ++
    leBytes 2 region.w.toNat ++ leBytes 2 region.h.toNat ++
    leBytes 2 region.intra.toNat ++ leBytes 2 region.quality.toUInt16.toNat ++
    leBytes 2 region.qpAreaIdx.toNat ++ [region.areaMapEn, region.absQpEn]

/-- A buffer whose block is set together with its size. -/
def ParameterBuffer.ofBlock (block : List UInt8) : ParameterBuffer :=
  { size := block.length, value := 0, ptr := some block }

/-- The size of a text does not count its zero byte. -/
def ParameterBuffer.ofText (text : ParamString) : ParameterBuffer :=
  { size := text.length
    value := 0
    ptr := some (text.map (fun c => UInt8.ofNat c.toNat) ++ [0]) }

def ParameterBuffer.ofValue (value : Int32) : ParameterBuffer :=
  { size := 0, value := value, ptr := none }

/-! ## The functions -/

/-- The kind of a request and its buffer; a refusal with `-EINVAL` is `none`. -/
abbrev EncoderControl := UInt32 × ParameterBuffer

def videoEncoderSetBps (target min max : UInt32) : EncoderControl :=
  (kBitRateChange, .ofBlock (wordBlock [min, target, max]))

def videoEncoderSetRcQuality (rcQuality : ParamString) :
    Option EncoderControl :=
  if rcQualityStrings.contains rcQuality then
    some (kRcQualityChange, .ofText rcQuality)
  else none

/-- The third mode cannot be asked for. -/
def videoEncoderSetRcMode (rcMode : ParamString) : Option EncoderControl :=
  if rcMode = "vbr".toList ∨ rcMode = "cbr".toList then
    some (kRcModeChange, .ofText rcMode)
  else none

def videoEncoderSetQp (qps : VideoEncoderQp) : Option EncoderControl :=
  if (qps.qpMax ≠ 0 ∧ (qps.qpMax > 51 ∨ qps.qpMax < 8)) ∨
      (qps.qpMaxI ≠ 0 ∧ (qps.qpMaxI > 51 ∨ qps.qpMaxI < 8)) ∨
      qps.qpMin < 0 ∨ qps.qpMin > 48 ∨ qps.qpMinI < 0 ∨ qps.qpMinI > 48 ∨
      qps.qpMin > qps.qpMax ∨ qps.qpMinI > qps.qpMaxI then
    none
  else if qps.qpInit > qps.qpMax ∨ qps.qpInit < qps.qpMin then none
  else if qps.qpStep = 0 ∨ qps.qpStep > qps.qpMax - qps.qpMin then none
  else
    some (kQPChange, .ofBlock (intBlock [qps.qpInit, qps.qpStep, qps.qpMin,
      qps.qpMax, qps.qpMinI, qps.qpMaxI]))

def videoEncoderForceIdr : EncoderControl := (kForceIdrFrame, .ofValue 0)

def videoEncoderSetFps (outNum outDen inNum inDen : UInt8) :
    Option EncoderControl :=
  if outDen = 0 ∨ outNum = 0 ∨ outDen > 16 ∨ outNum > 120 ∨ inDen > 16 ∨
      inNum > 120 then
    none
  else some (kFrameRateChange, .ofBlock [inNum, inDen, outNum, outDen])

def videoEncoderSetGopSize (gop : Int32) : Option EncoderControl :=
  if gop < 0 then none else some (kGopChange, .ofValue gop)

/-- The block is the address of the flow, which may be null. -/
def videoEncoderSetMoveDetection (mdFlow : UInt64) : EncoderControl :=
  (kMoveDetectionFlow, .ofBlock (leBytes 8 mdFlow.toNat))

/-- Without regions there is no block. -/
def videoEncoderSetRoiRegions (regions : List EncRoiRegion) : EncoderControl :=
  (kROICfgChange,
    if regions = [] then .ofValue 0
    else .ofBlock (regions.flatMap EncRoiRegion.block))

def videoEncoderSetSplit (mode size : UInt32) : EncoderControl :=
  (kSplitChange, .ofBlock (wordBlock [mode, size]))

def videoEncoderSetGopMode (param : EncGopModeParam) : EncoderControl :=
  (kGopModeChange, .ofBlock (intBlock [param.mode, param.gopSize,
    param.ipQpDelta, param.interval, param.viQpDelta]))

def videoEncoderSetAvcProfile (profileIdc level : Int32) :
    Option EncoderControl :=
  if profileIdc ≠ 66 ∧ profileIdc ≠ 77 ∧ profileIdc ≠ 100 then none
  else some (kProfileChange, .ofBlock (intBlock [profileIdc, level]))

def videoEncoderSetUserdata (data : List UInt8) (allFrames : Int32) :
    EncoderControl :=
  (kUserDataChange, .ofBlock ((if allFrames ≠ 0 then 1 else 0) :: data))

def videoEncoderEnableStatistics (enable : Int32) : EncoderControl :=
  (kEnableStatistics, .ofValue enable)

/-- A call of one of the functions. -/
inductive EncoderRequest
  | setBps (target min max : UInt32)
  | setRcQuality (rcQuality : ParamString)
  | setRcMode (rcMode : ParamString)
  | setQp (qps : VideoEncoderQp)
  | forceIdr
  | setFps (outNum outDen inNum inDen : UInt8)
  | setGopSize (gop : Int32)
  | setMoveDetection (mdFlow : UInt64)
  | setRoiRegions (regions : List EncRoiRegion)
  | setSplit (mode size : UInt32)
  | setGopMode (param : EncGopModeParam)
  | setAvcProfile (profileIdc level : Int32)
  | setUserdata (data : List UInt8) (allFrames : Int32)
  | enableStatistics (enable : Int32)
  deriving DecidableEq

def EncoderRequest.control : EncoderRequest → Option EncoderControl
  | .setBps target min max => some (videoEncoderSetBps target min max)
  | .setRcQuality rcQuality => videoEncoderSetRcQuality rcQuality
  | .setRcMode rcMode => videoEncoderSetRcMode rcMode
  | .setQp qps => videoEncoderSetQp qps
  | .forceIdr => some videoEncoderForceIdr
  | .setFps outNum outDen inNum inDen =>
      videoEncoderSetFps outNum outDen inNum inDen
  | .setGopSize gop => videoEncoderSetGopSize gop
  | .setMoveDetection mdFlow => some (videoEncoderSetMoveDetection mdFlow)
  | .setRoiRegions regions => some (videoEncoderSetRoiRegions regions)
  | .setSplit mode size => some (videoEncoderSetSplit mode size)
  | .setGopMode param => some (videoEncoderSetGopMode param)
  | .setAvcProfile profileIdc level => videoEncoderSetAvcProfile profileIdc level
  | .setUserdata data allFrames => some (videoEncoderSetUserdata data allFrames)
  | .enableStatistics enable => some (videoEncoderEnableStatistics enable)

/-- A rate in the encoder's `int`s: above the largest of them, that one. -/
def rateAsked (rate : UInt32) : Int32 := Int32.ofIntClamp rate.toNat

/-- The change that a caller asks for: the smart mode with a flow, and its end
without one. -/
def EncoderRequest.asked : EncoderRequest → ConfigChange
  | .setBps target min max =>
      .bitRate
        { max := rateAsked max, min := rateAsked min
          target := rateAsked target }
  | .setRcQuality rcQuality => .rcQuality (some rcQuality)
  | .setRcMode rcMode => .rcMode rcMode
  | .setQp qps => .qp qps
  | .forceIdr => .forceIdr
  | .setFps outNum outDen inNum inDen => .frameRate inNum inDen outNum outDen
  | .setGopSize gop => .gop gop
  | .setMoveDetection mdFlow => .moveDetection (mdFlow ≠ 0)
  | .setRoiRegions regions => .roi regions
  | .setSplit mode size => .split mode size
  | .setGopMode param => .gopMode param
  | .setAvcProfile profileIdc level => .profile profileIdc level
  | .setUserdata data allFrames =>
      .userData (if allFrames ≠ 0 then 1 else 0) data
  | .enableStatistics enable => .statistics enable

/-- What the encoder reads from the buffer instead: rates from 2 ^ 31 on are
negative, the address of a flow is there when the flow is not, and the length
of the user data is a 16-bit number. -/
def EncoderRequest.read : EncoderRequest → ConfigChange
  | .setBps target min max =>
      .bitRate
        { max := max.toInt32, min := min.toInt32, target := target.toInt32 }
  | .setMoveDetection _ => .moveDetection true
  | .setUserdata data allFrames =>
      .userData (if allFrames ≠ 0 then 1 else 0)
        (data.take (data.length % 65536))
  | request => request.asked

/-- The buffer carries the request: each rate is an `int`, there is a flow, and
16 bits hold the length of the user data. -/
def EncoderRequest.Carried : EncoderRequest → Prop
  | .setBps target min max =>
      target.toNat < 2 ^ 31 ∧ min.toNat < 2 ^ 31 ∧ max.toNat < 2 ^ 31
  | .setMoveDetection mdFlow => mdFlow ≠ 0
  | .setUserdata data _ => data.length < 65536
  | _ => True

theorem toInt32_eq_rateAsked {rate : UInt32} (hrate : rate.toNat < 2 ^ 31) :
    rate.toInt32 = rateAsked rate := by
  have hbits : rate.toInt32.toInt = rate.toBitVec.toInt := rfl
  have hnat : rate.toBitVec.toNat = rate.toNat := rfl
  have hsigned : rate.toInt32.toInt = rate.toNat := by
    rw [hbits, BitVec.toInt_eq_toNat_of_lt (by omega), hnat]
  rw [rateAsked, ← hsigned, Int32.ofIntClamp_toInt]

theorem EncoderRequest.Carried.read_eq {request : EncoderRequest}
    (hcarried : request.Carried) : request.read = request.asked := by
  cases request with
  | setBps target min max =>
      obtain ⟨htarget, hmin, hmax⟩ := hcarried
      simp only [EncoderRequest.read, EncoderRequest.asked,
        toInt32_eq_rateAsked htarget, toInt32_eq_rateAsked hmin,
        toInt32_eq_rateAsked hmax]
  | setMoveDetection mdFlow =>
      have hflow : mdFlow ≠ 0 := hcarried
      simp [EncoderRequest.read, EncoderRequest.asked, hflow]
  | setUserdata data allFrames =>
      have hdata : data.length % 65536 = data.length :=
        Nat.mod_eq_of_lt hcarried
      simp only [EncoderRequest.read, EncoderRequest.asked, hdata,
        List.take_length]
  | setRcQuality _ | setRcMode _ | setQp _ | forceIdr | setFps _ _ _ _
  | setGopSize _ | setRoiRegions _ | setSplit _ _ | setGopMode _
  | setAvcProfile _ _ | enableStatistics _ => rfl

/-! ## Reading what was written -/

theorem length_wordBlock (values : List UInt32) :
    (wordBlock values).length = 4 * values.length :=
  length_flatMap_of_width
    (fun value : UInt32 => length_leBytes 4 value.toNat) values

theorem length_intBlock (values : List Int32) :
    (intBlock values).length = 4 * values.length := by
  rw [intBlock, length_wordBlock, List.length_map]

theorem blockUint_wordBlock (values : List UInt32) (index : ℕ) :
    blockUint (wordBlock values) index = values[index]? := by
  unfold blockUint blockNat
  rw [length_wordBlock]
  by_cases hindex : index < values.length
  · have hslice : slice (4 * index) 4 (wordBlock values) =
        leBytes 4 values[index].toNat := by
      have hfield := slice_flatMap
        (fun value : UInt32 => length_leBytes 4 value.toNat) hindex
        (show 0 + 4 ≤ 4 by omega)
      rw [Nat.add_zero] at hfield
      rw [wordBlock, hfield]
      exact List.take_of_length_le (by simp)
    have hvalue : values[index].toNat < 256 ^ 4 := values[index].toNat_lt
    rw [if_pos (by omega), hslice, leNat_leBytes hvalue,
      List.getElem?_eq_getElem hindex]
    simp
  · rw [if_neg (by omega), List.getElem?_eq_none (by omega)]
    rfl

theorem blockInt_intBlock (values : List Int32) (index : ℕ) :
    blockInt (intBlock values) index = values[index]? := by
  have hint : blockInt (intBlock values) index =
      (blockUint (intBlock values) index).map UInt32.toInt32 := by
    simp only [blockInt, blockUint, Option.map_map]
    rfl
  rw [hint, intBlock, blockUint_wordBlock, List.getElem?_map, Option.map_map]
  exact congrFun Option.map_id _

theorem blockInt_wordBlock (values : List UInt32) (index : ℕ) :
    blockInt (wordBlock values) index =
      values[index]?.map UInt32.toInt32 := by
  have hint : blockInt (wordBlock values) index =
      (blockUint (wordBlock values) index).map UInt32.toInt32 := by
    simp only [blockInt, blockUint, Option.map_map]
    rfl
  rw [hint, blockUint_wordBlock]

theorem EncRoiRegion.length_block (region : EncRoiRegion) :
    region.block.length = roiRegionSize := by
  simp [EncRoiRegion.block, roiRegionSize]

theorem roiField_flatMap {regions : List EncRoiRegion} {index width : ℕ}
    (hindex : index < regions.length) {offset : ℕ}
    (hbound : offset + width ≤ roiRegionSize) :
    roiField (regions.flatMap EncRoiRegion.block) index width offset =
      some (leNat (slice offset width regions[index].block)) := by
  have hlength := length_flatMap_of_width EncRoiRegion.length_block regions
  have hroom : roiRegionSize * (index + 1) ≤ roiRegionSize * regions.length :=
    Nat.mul_le_mul_left _ hindex
  rw [Nat.mul_succ] at hroom
  rw [roiField, blockNat, if_pos (by omega),
    slice_flatMap EncRoiRegion.length_block hindex hbound]

theorem uint16_leBytes (value : UInt16) :
    UInt16.ofNat (leNat (leBytes 2 value.toNat)) = value := by
  have hvalue : value.toNat < 256 ^ 2 := value.toNat_lt
  rw [leNat_leBytes hvalue]
  simp

theorem int16_leBytes (value : Int16) :
    Int16.ofNat (leNat (leBytes 2 value.toUInt16.toNat)) = value := by
  have hword : Int16.ofNat (leNat (leBytes 2 value.toUInt16.toNat)) =
      (UInt16.ofNat (leNat (leBytes 2 value.toUInt16.toNat))).toInt16 := rfl
  rw [hword, uint16_leBytes]
  rfl

/-- The fields of a region at their places in its block. -/
theorem EncRoiRegion.slice_block (region : EncRoiRegion) :
    slice 0 2 region.block = leBytes 2 region.x.toNat ∧
      slice 2 2 region.block = leBytes 2 region.y.toNat ∧
      slice 4 2 region.block = leBytes 2 region.w.toNat ∧
      slice 6 2 region.block = leBytes 2 region.h.toNat ∧
      slice 8 2 region.block = leBytes 2 region.intra.toNat ∧
      slice 10 2 region.block = leBytes 2 region.quality.toUInt16.toNat ∧
      slice 12 2 region.block = leBytes 2 region.qpAreaIdx.toNat ∧
      slice 14 1 region.block = [region.areaMapEn] ∧
      slice 15 1 region.block = [region.absQpEn] := by
  refine ⟨rfl, rfl, rfl, rfl, rfl, rfl, rfl, rfl, rfl⟩

theorem readRoiRegion_flatMap {regions : List EncRoiRegion} {index : ℕ}
    (hindex : index < regions.length) :
    readRoiRegion (regions.flatMap EncRoiRegion.block) index =
      some regions[index] := by
  have hfield {width : ℕ} (offset : ℕ)
      (hbound : offset + width ≤ roiRegionSize) :=
    @roiField_flatMap regions index width hindex offset hbound
  obtain ⟨hx, hy, hw, hh, hintra, hquality, hidx, hmap, hqp⟩ :=
    EncRoiRegion.slice_block regions[index]
  unfold readRoiRegion
  rw [hfield 0 (by decide), hfield 2 (by decide), hfield 4 (by decide),
    hfield 6 (by decide), hfield 8 (by decide), hfield 10 (by decide),
    hfield 12 (by decide), hfield 14 (by decide), hfield 15 (by decide),
    hx, hy, hw, hh, hintra, hquality, hidx, hmap, hqp]
  simp [uint16_leBytes, int16_leBytes, leNat]

theorem mapM_range {α : Type*} {f : ℕ → Option α} {xs : List α}
    (hf : ∀ index (hindex : index < xs.length), f index = some xs[index]) :
    (List.range xs.length).mapM f = some xs := by
  induction xs using List.reverseRecOn with
  | nil => rfl
  | append_singleton xs x ih =>
      have hfront : (List.range xs.length).mapM f = some xs := by
        apply ih
        intro index hindex
        rw [hf index (by simp; omega), List.getElem_append_left hindex]
      have hlast : f xs.length = some x := by
        rw [hf xs.length (by simp)]
        simp
      rw [List.length_append, List.length_singleton, List.range_succ,
        List.mapM_append, hfront]
      simp [hlast]

theorem atLeast_ofBlock {block : List UInt8} {size : ℕ}
    {read : List UInt8 → Option ConfigChange} {request : ConfigChange}
    (hsize : size ≤ block.length) (hread : read block = some request) :
    (ParameterBuffer.ofBlock block).atLeast size read = .change request := by
  simp only [ParameterBuffer.atLeast, ParameterBuffer.ofBlock,
    if_neg (Nat.not_lt.mpr hsize), Option.bind_eq_bind, Option.bind_some, hread]
  rfl

theorem readRoi_setRoiRegions (regions : List EncRoiRegion) :
    readRoi (videoEncoderSetRoiRegions regions).2 =
      .change (.roi regions) := by
  unfold videoEncoderSetRoiRegions
  by_cases hnil : regions = []
  · simp [hnil, readRoi, ParameterBuffer.ofValue]
  have hpos : 0 < regions.length := List.length_pos_iff.mpr hnil
  have hlength := length_flatMap_of_width EncRoiRegion.length_block regions
  have hroom : roiRegionSize * 1 ≤ roiRegionSize * regions.length :=
    Nat.mul_le_mul_left _ hpos
  have hread := mapM_range (fun index (hindex : index < regions.length) =>
    readRoiRegion_flatMap hindex)
  simp only [if_neg hnil, readRoi, ParameterBuffer.ofBlock]
  rw [if_neg (by omega), hlength,
    Nat.mul_div_cancel_left _ (show 0 < roiRegionSize by decide), hread]
  rfl

theorem readUserData_setUserdata (flag : UInt8) (data : List UInt8) :
    (ParameterBuffer.ofBlock (flag :: data)).atLeast 1
        (readUserData (flag :: data).length) =
      .change (.userData flag (data.take (data.length % 65536))) := by
  apply atLeast_ofBlock (by simp)
  have hmod : data.length % 65536 ≤ data.length := Nat.mod_le _ _
  have hroom : 1 + min (data.length % 65536) 1024 ≤ data.length + 1 := by
    omega
  simp [readUserData, blockByte, slice, hroom]

/-- The texts that may be asked for are read as they are. -/
theorem blockText_ofText : ∀ text ∈ rcQualityStrings ++ rcModeStrings,
    (ParameterBuffer.ofText text).ptr >>= blockText = some text := by
  decide

theorem readChange_control {request : EncoderRequest}
    {control : EncoderControl} (h : request.control = some control) :
    readChange control.1 control.2 = .change request.read := by
  cases request with
  | setBps target min max =>
      cases h
      apply @readChange_known kBitRateChange .bitRate (by decide)
      apply atLeast_ofBlock (by simp [length_wordBlock])
      simp [readBitRate, blockInt_wordBlock, EncoderRequest.read]
  | setRcQuality rcQuality =>
      simp only [EncoderRequest.control, videoEncoderSetRcQuality] at h
      split at h
      · rename_i hcontains
        cases h
        have hmem : rcQuality ∈ rcQualityStrings :=
          List.contains_iff_mem.mp hcontains
        have htext := blockText_ofText rcQuality
          (List.mem_append_left _ hmem)
        apply @readChange_known kRcQualityChange .rcQuality (by decide)
        rw [readKind, htext]
        rfl
      · contradiction
  | setRcMode rcMode =>
      simp only [EncoderRequest.control, videoEncoderSetRcMode] at h
      split at h
      · rename_i hmode
        cases h
        have hmem : rcMode ∈ rcModeStrings := by
          rcases hmode with rfl | rfl <;> decide
        have htext := blockText_ofText rcMode (List.mem_append_right _ hmem)
        apply @readChange_known kRcModeChange .rcMode (by decide)
        rw [readKind, htext]
        rfl
      · contradiction
  | setQp qps =>
      simp only [EncoderRequest.control, videoEncoderSetQp] at h
      split at h
      · contradiction
      split at h
      · contradiction
      split at h
      · contradiction
      cases h
      apply @readChange_known kQPChange .qp (by decide)
      apply atLeast_ofBlock (by simp [length_intBlock])
      simp [readQp, blockInt_intBlock, EncoderRequest.read,
        EncoderRequest.asked]
  | forceIdr =>
      cases h
      apply @readChange_known kForceIdrFrame .forceIdr (by decide)
      rfl
  | setFps outNum outDen inNum inDen =>
      simp only [EncoderRequest.control, videoEncoderSetFps] at h
      split at h
      · contradiction
      cases h
      apply @readChange_known kFrameRateChange .frameRate (by decide)
      exact atLeast_ofBlock (by simp) rfl
  | setGopSize gop =>
      simp only [EncoderRequest.control, videoEncoderSetGopSize] at h
      split at h
      · contradiction
      cases h
      apply @readChange_known kGopChange .gop (by decide)
      rfl
  | setMoveDetection mdFlow =>
      cases h
      apply @readChange_known kMoveDetectionFlow .moveDetection (by decide)
      rfl
  | setRoiRegions regions =>
      cases h
      exact @readChange_known kROICfgChange .roi (by decide) _ _
        (readRoi_setRoiRegions regions)
  | setSplit mode size =>
      cases h
      apply @readChange_known kSplitChange .split (by decide)
      apply atLeast_ofBlock (by simp [length_wordBlock])
      simp [readSplit, blockUint_wordBlock, EncoderRequest.read,
        EncoderRequest.asked]
  | setGopMode param =>
      cases h
      apply @readChange_known kGopModeChange .gopMode (by decide)
      apply atLeast_ofBlock (by simp [length_intBlock])
      simp [readGopMode, blockInt_intBlock, EncoderRequest.read,
        EncoderRequest.asked]
  | setAvcProfile profileIdc level =>
      simp only [EncoderRequest.control, videoEncoderSetAvcProfile] at h
      split at h
      · contradiction
      cases h
      apply @readChange_known kProfileChange .profile (by decide)
      apply atLeast_ofBlock (by simp [length_intBlock])
      simp [readProfile, blockInt_intBlock, EncoderRequest.read,
        EncoderRequest.asked]
  | setUserdata data allFrames =>
      cases h
      apply @readChange_known kUserDataChange .userData (by decide)
      exact readUserData_setUserdata _ data
  | enableStatistics enable =>
      cases h
      apply @readChange_known kEnableStatistics .statistics (by decide)
      rfl

/-- The change that is carried out is the one that the buffer says. -/
theorem checkConfigChange_control {request : EncoderRequest}
    {control : EncoderControl} (h : request.control = some control)
    (enc : MppEncoder) (answers : MppAnswers) :
    enc.checkConfigChange answers control.1 control.2 =
      enc.apply answers request.read := by
  rw [MppEncoder.checkConfigChange, readChange_control h]

/-! ## Runs -/

structure RequestCall where
  answers : MppAnswers
  request : EncoderRequest
  deriving DecidableEq

/-- A request as far as the encoder; one refused with `-EINVAL` does not get
there, and no encoder stands for the end of the program. -/
def mediaRequestStep (state : Option MppEncoder) (call : RequestCall) :
    Option MppEncoder :=
  match call.request.control with
  | none => state
  | some control => do
      let enc ← state
      let (_, updated) ←
        enc.checkConfigChange call.answers control.1 control.2
      some updated

/-- A request without its way through a buffer: one that is not refused is
carried out as it was asked. -/
def askedStep (state : Option MppEncoder) (call : RequestCall) :
    Option MppEncoder :=
  if call.request.control.isSome then do
    let enc ← state
    let (_, updated) ← enc.apply call.answers call.request.asked
    some updated
  else state

theorem mediaRequestStep_eq_askedStep (state : Option MppEncoder)
    {call : RequestCall} (hcarried : call.request.Carried) :
    mediaRequestStep state call = askedStep state call := by
  unfold mediaRequestStep askedStep
  cases hcontrol : call.request.control with
  | none => rfl
  | some control =>
      simp only [checkConfigChange_control hcontrol, hcarried.read_eq]
      rfl

/-- Rates, two bytes of user data for every frame, and the smart mode. -/
def threeRequests : List RequestCall :=
  [⟨takingAnswers, .setBps 2000000 1000000 4000000⟩,
    ⟨takingAnswers, .setUserdata [82, 75] 1⟩,
    ⟨takingAnswers, .setMoveDetection 4096⟩]

end RkaiqToolServer
