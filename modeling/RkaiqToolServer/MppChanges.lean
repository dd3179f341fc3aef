import RkaiqToolServer.MppSettings

/-!
# Changes of a running encoder

A change is requested with a number whose bits name its kind and with a buffer
of parameters.  `CheckConfigChange` reads the buffer and carries the change
out.  The requests are made by the `video_encoder_set_` functions, which fill
the buffers.
-/

namespace RkaiqToolServer

open ByteCodec

/-! ## Requests -/

/-- The block is what `GetPtr` points to; a null pointer is `none`. -/
structure ParameterBuffer where
  size : ℕ
  value : Int32
  ptr : Option (List UInt8)
  deriving DecidableEq

def kQPChange : UInt32 := 1
def kFrameRateChange : UInt32 := 2
def kBitRateChange : UInt32 := 4
def kForceIdrFrame : UInt32 := 8
def kOSDDataChange : UInt32 := 16
def kOSDPltChange : UInt32 := 32
def kMoveDetectionFlow : UInt32 := 64
def kROICfgChange : UInt32 := 128
def kRcModeChange : UInt32 := 256
def kRcQualityChange : UInt32 := 512
def kSplitChange : UInt32 := 1024
def kGopChange : UInt32 := 2048
def kGopModeChange : UInt32 := 4096
def kProfileChange : UInt32 := 8192
def kUserDataChange : UInt32 := 16384
def kEnableStatistics : UInt32 := 2147483648

structure EncGopModeParam where
  mode : Int32
  gopSize : Int32
  ipQpDelta : Int32
  interval : Int32
  viQpDelta : Int32
  deriving DecidableEq

/-- A request with its parameters read.  The text of a quality is read only
once the mode has been found to allow it, so an unreadable one is `none`. -/
inductive ConfigChange
  | statistics (value : Int32)
  | frameRate (inNum inDen outNum outDen : UInt8)
  | bitRate (rates : BitRates)
  | rcMode (newMode : ParamString)
  | profile (profileIdc level : Int32)
  | rcQuality (rcQuality : Option ParamString)
  | gop (newGopSize : Int32)
  | qp (qps : VideoEncoderQp)
  | roi (regions : List EncRoiRegion)
  | forceIdr
  | split (splitMode splitArg : UInt32)
  | gopMode (param : EncGopModeParam)
  | osd
  | userData (enableAllFrames : UInt8) (data : List UInt8)
  | moveDetection (flow : Bool)
  deriving DecidableEq

/-- What the reading of a buffer comes to: a read outside its block, a buffer
that is too small or of no kind, or a change. -/
inductive ChangeReading
  | fault
  | refused
  | change (request : ConfigChange)
  deriving DecidableEq

def ChangeReading.ofOption : Option ConfigChange → ChangeReading
  | none => .fault
  | some request => .change request

def blockNat (width : ℕ) (block : List UInt8) (offset : ℕ) : Option ℕ :=
  if offset + width ≤ block.length then some (leNat (slice offset width block))
  else none

def blockInt (block : List UInt8) (index : ℕ) : Option Int32 :=
  (blockNat 4 block (4 * index)).map Int32.ofNat

def blockUint (block : List UInt8) (index : ℕ) : Option UInt32 :=
  (blockNat 4 block (4 * index)).map UInt32.ofNat

def blockByte (block : List UInt8) (index : ℕ) : Option UInt8 := block[index]?

/-- A text ends at its zero byte, which lies in the block. -/
def blockText (block : List UInt8) : Option ParamString :=
  if 0 ∈ block then
    some ((cString block).map fun byte => Char.ofNat byte.toNat)
  else none

def roiRegionSize : ℕ := 16

def roiField (block : List UInt8) (index width offset : ℕ) : Option ℕ :=
  blockNat width block (roiRegionSize * index + offset)

def readRoiRegion (block : List UInt8) (index : ℕ) : Option EncRoiRegion := do
  let x ← roiField block index 2 0
  let y ← roiField block index 2 2
  let w ← roiField block index 2 4
  let h ← roiField block index 2 6
  let intra ← roiField block index 2 8
  let quality ← roiField block index 2 10
  let qpAreaIdx ← roiField block index 2 12
  let areaMapEn ← roiField block index 1 14
  let absQpEn ← roiField block index 1 15
  some
    { x := UInt16.ofNat x
      y := UInt16.ofNat y
      w := UInt16.ofNat w
      h := UInt16.ofNat h
      intra := UInt16.ofNat intra
      quality := Int16.ofNat quality
      qpAreaIdx := UInt16.ofNat qpAreaIdx
      areaMapEn := UInt8.ofNat areaMapEn
      absQpEn := UInt8.ofNat absQpEn }

def readFrameRate (block : List UInt8) : Option ConfigChange := do
  some (.frameRate (← blockByte block 0) (← blockByte block 1)
    (← blockByte block 2) (← blockByte block 3))

/-- The order in the buffer is least, target, greatest. -/
def readBitRate (block : List UInt8) : Option ConfigChange := do
  let bpsMin ← blockInt block 0
  let bpsTarget ← blockInt block 1
  let bpsMax ← blockInt block 2
  some (.bitRate { max := bpsMax, min := bpsMin, target := bpsTarget })

def readProfile (block : List UInt8) : Option ConfigChange := do
  some (.profile (← blockInt block 0) (← blockInt block 1))

def readQp (block : List UInt8) : Option ConfigChange := do
  let qpInit ← blockInt block 0
  let qpStep ← blockInt block 1
  let qpMin ← blockInt block 2
  let qpMax ← blockInt block 3
  let qpMinI ← blockInt block 4
  let qpMaxI ← blockInt block 5
  some (.qp
    { qpInit := qpInit
      qpStep := qpStep
      qpMin := qpMin
      qpMax := qpMax
      qpMinI := qpMinI
      qpMaxI := qpMaxI })

def readSplit (block : List UInt8) : Option ConfigChange := do
  some (.split (← blockUint block 0) (← blockUint block 1))

def readGopMode (block : List UInt8) : Option ConfigChange := do
  let mode ← blockInt block 0
  let gopSize ← blockInt block 1
  let ipQpDelta ← blockInt block 2
  let interval ← blockInt block 3
  let viQpDelta ← blockInt block 4
  some (.gopMode
    { mode := mode
      gopSize := gopSize
      ipQpDelta := ipQpDelta
      interval := interval
      viQpDelta := viQpDelta })

/-- `data_len` is the size without the flag in 16 bits. -/
def readUserData (size : ℕ) (block : List UInt8) : Option ConfigChange := do
  let enableAllFrames ← blockByte block 0
  let dataLen := (size - 1) % 65536
  if 1 + min dataLen 1024 ≤ block.length then
    some (.userData enableAllFrames (slice 1 dataLen block))
  else none

/-- A buffer of at least `size` bytes, whose block `read` reads. -/
def ParameterBuffer.atLeast (val : ParameterBuffer) (size : ℕ)
    (read : List UInt8 → Option ConfigChange) : ChangeReading :=
  if val.size < size then .refused else .ofOption (val.ptr >>= read)

inductive ChangeKind
  | statistics
  | frameRate
  | bitRate
  | rcMode
  | profile
  | rcQuality
  | gop
  | qp
  | roi
  | forceIdr
  | split
  | gopMode
  | osd
  | userData
  | moveDetection
  deriving DecidableEq

/-- The bits in the order in which they are tested. -/
def changeKinds : List (UInt32 × ChangeKind) :=
  [(kEnableStatistics, .statistics), (kFrameRateChange, .frameRate),
    (kBitRateChange, .bitRate), (kRcModeChange, .rcMode),
    (kProfileChange, .profile), (kRcQualityChange, .rcQuality),
    (kGopChange, .gop), (kQPChange, .qp), (kROICfgChange, .roi),
    (kForceIdrFrame, .forceIdr), (kSplitChange, .split),
    (kGopModeChange, .gopMode), (kOSDDataChange, .osd), (kOSDPltChange, .osd),
    (kUserDataChange, .userData), (kMoveDetectionFlow, .moveDetection)]

def changeKind (change : UInt32) : Option ChangeKind :=
  (changeKinds.find? fun entry => change &&& entry.1 ≠ 0).map Prod.snd

def readRoi (val : ParameterBuffer) : ChangeReading :=
  if val.size ≠ 0 ∧ val.size < roiRegionSize then .refused
  else
    match val.ptr with
    | none => .change (.roi [])
    | some block =>
        .ofOption (((List.range (val.size / roiRegionSize)).mapM
          (readRoiRegion block)).map .roi)

def readKind (val : ParameterBuffer) : ChangeKind → ChangeReading
  | .statistics => .change (.statistics val.value)
  | .frameRate => val.atLeast 4 readFrameRate
  | .bitRate => val.atLeast 12 readBitRate
  | .rcMode => .ofOption ((val.ptr >>= blockText).map .rcMode)
  | .profile => val.atLeast 8 readProfile
  | .rcQuality => .change (.rcQuality (val.ptr >>= blockText))
  | .gop => .change (.gop val.value)
  | .qp => val.atLeast 24 readQp
  | .roi => readRoi val
  | .forceIdr => .change .forceIdr
  | .split => val.atLeast 8 readSplit
  | .gopMode => val.atLeast 20 readGopMode
  | .osd => .change .osd
  | .userData => val.atLeast 1 (readUserData val.size)
  | .moveDetection => .change (.moveDetection val.ptr.isSome)

def readChange (change : UInt32) (val : ParameterBuffer) : ChangeReading :=
  match changeKind change with
  | none => .refused
  | some kind => readKind val kind

/-- Each of the numbers names its own kind. -/
theorem changeKind_known : ∀ entry ∈ changeKinds,
    changeKind entry.1 = some entry.2 := by
  decide

theorem readChange_known {change : UInt32} {kind : ChangeKind}
    (hknown : (change, kind) ∈ changeKinds) {val : ParameterBuffer}
    {reading : ChangeReading} (hread : readKind val kind = reading) :
    readChange change val = reading := by
  rw [readChange, changeKind_known _ hknown]
  exact hread

/-! ## Carrying a change out -/

def MppEncoder.setFrameRate (enc : MppEncoder) (answers : MppAnswers)
    (inNum inDen outNum outDen : UInt8) : Bool × MppEncoder :=
  if outNum = 0 ∨ outDen = 0 ∨ outNum > 60 then (false, enc)
  else
    enc.setCfg answers
      ((if inNum ≠ 0 ∧ inDen ≠ 0 then
          [(.rcFpsInNum, .s32 (Int32.ofNat inNum.toNat)),
            (.rcFpsInDenorm, .s32 (Int32.ofNat inDen.toNat))]
        else []) ++
        [(.rcFpsOutNum, .s32 (Int32.ofNat outNum.toNat)),
          (.rcFpsOutDenorm, .s32 (Int32.ofNat outDen.toNat))])
      fun cfg => { cfg with frameRate := Int32.ofNat outNum.toNat }

def MppEncoder.setBitRate (enc : MppEncoder) (answers : MppAnswers)
    (rates : BitRates) : Bool × MppEncoder :=
  match getMppRcMode enc.vidCfg.rcMode with
  | none => (false, enc)
  | some mode =>
      match chooseBitRates mode rates with
      | none => (false, enc)
      | some chosen =>
          enc.setCfg answers (bpsWrites chosen) fun cfg =>
            cfg.withBitRates chosen

/-- The new rates are handed over and not saved. -/
def MppEncoder.setRcMode (enc : MppEncoder) (answers : MppAnswers)
    (newMode : ParamString) : Bool × MppEncoder :=
  match getMppRcMode (some newMode) with
  | none => (false, enc)
  | some mode =>
      match calcMppBpsWithMax mode enc.vidCfg.bitRateMax with
      | none => (false, enc)
      | some rates =>
          enc.setCfg answers ((.rcMode, .mode mode) :: bpsWrites rates)
            fun cfg => { cfg with rcMode := convertRcMode newMode }

def MppEncoder.setProfile (enc : MppEncoder) (answers : MppAnswers)
    (profileIdc level : Int32) : Bool × MppEncoder :=
  if enc.vidCfg.imageCfg.codecType ≠ .h264 then (false, enc)
  else if profileIdc ≠ 66 ∧ profileIdc ≠ 77 ∧ profileIdc ≠ 100 then
    (false, enc)
  else
    enc.setCfg answers
      [(.h264Profile, .s32 profileIdc),
        (.h264CabacEn, .s32 (cabacEn profileIdc)), (.h264Level, .s32 level)]
      fun cfg => { cfg with profile := profileIdc, level := level }

/-- Comparing a null mode, like reading a null text, is a fault. -/
def MppEncoder.setRcQuality (enc : MppEncoder) (answers : MppAnswers)
    (rcQuality : Option ParamString) : Option (Bool × MppEncoder) :=
  match enc.vidCfg.rcMode with
  | none => none
  | some mode =>
      if mode ≠ keyVbr then some (false, enc)
      else
        match rcQuality with
        | none => none
        | some quality =>
            match calcQpWithRcQuality quality with
            | none => some (false, enc)
            | some qps =>
                some (enc.setCfg answers (qpWrites enc.codeType qps) fun cfg =>
                  { cfg.withQp qps with rcQuality := convertRcQuality quality })

/-- What follows a call that was answered with `true`. -/
def onSuccess (result : Bool × MppEncoder)
    (next : MppEncoder → Bool × MppEncoder) : Bool × MppEncoder :=
  if result.1 then next result.2 else result

def MppEncoder.setGop (enc : MppEncoder) (answers : MppAnswers)
    (newGopSize : Int32) : Bool × MppEncoder :=
  if newGopSize < 0 then (false, enc)
  else
    onSuccess
      (enc.setCfg answers [(.rcGop, .s32 newGopSize)] fun cfg =>
        { cfg with gopSize := newGopSize })
      fun set => (true, set.restartUserData)

def MppEncoder.setQp (enc : MppEncoder) (answers : MppAnswers)
    (qps : VideoEncoderQp) : Bool × MppEncoder :=
  enc.setCfg answers (qpWrites enc.codeType qps) fun cfg => cfg.withQp qps

/-- `UPALIGNTO16` of a 16-bit value, stored in 16 bits. -/
def roiUpAlignTo16 (value : UInt16) : UInt16 :=
  UInt16.ofNat ((value.toNat + 15) / 16 * 16)

def EncRoiRegion.aligned (region : EncRoiRegion) : EncRoiRegion :=
  if region.x % 16 ≠ 0 ∨ region.y % 16 ≠ 0 ∨ region.w % 16 ≠ 0 ∨
      region.h % 16 ≠ 0 then
    { region with
      x := roiUpAlignTo16 region.x
      y := roiUpAlignTo16 region.y
      w := roiUpAlignTo16 region.w
      h := roiUpAlignTo16 region.h }
  else region

/-- The assertions of `RoiUpdateRegions`. -/
def EncRoiRegion.Asserted (region : EncRoiRegion) : Prop :=
  region.x < 8192 ∧ region.y < 8192 ∧ region.w < 8192 ∧ region.h < 8192 ∧
    region.intra ≤ 1 ∧ region.absQpEn ≤ 1 ∧ region.qpAreaIdx ≤ 7 ∧
    region.areaMapEn ≤ 1 ∧ -48 ≤ region.quality ∧ region.quality ≤ 51

instance (region : EncRoiRegion) : Decidable region.Asserted :=
  inferInstanceAs (Decidable (_ ∧ _))

/-- No regions switch the function off; a failed assertion ends the program. -/
def MppEncoder.roiUpdateRegions (enc : MppEncoder)
    (regions : List EncRoiRegion) : Option MppEncoder :=
  if (regions.map EncRoiRegion.aligned).all fun region =>
      decide region.Asserted then
    some { enc with roiCfg := regions.map EncRoiRegion.aligned }
  else none

def MppEncoder.forceIdrFrame (enc : MppEncoder) (answers : MppAnswers) :
    Bool × MppEncoder :=
  if answers.setIdrFrame then (true, enc.restartUserData) else (false, enc)

def MppEncoder.setSplit (enc : MppEncoder) (answers : MppAnswers)
    (splitMode splitArg : UInt32) : Bool × MppEncoder :=
  enc.setCfg answers
    [(.splitMode, .u32 splitMode), (.splitArg, .u32 splitArg)] id

def gopModeOf (mode : Int32) : Option EncGopMode :=
  if mode = 0 then some .normalp
  else if mode = 1 then some .tsvc2
  else if mode = 2 then some .tsvc3
  else if mode = 3 then some .tsvc4
  else if mode = 4 then some .smartp
  else none

/-- `MPP_ENC_SET_REF_CFG` with a structure generated from the arguments, or with
the null pointer that takes the structure away. -/
def MppEncoder.setRefCfg (enc : MppEncoder) (answers : MppAnswers)
    (refCfg : Option MppEncRefCfg) : Bool × MppEncoder :=
  if answers.setRefCfg then (true, { enc with refCfg := refCfg })
  else (false, enc)

/-- The difference between I and P frames goes by the saved codec. -/
def qpDeltaWrites (codec : CodecType) (delta : Int32) :
    List (MppKey × MppValue) :=
  match codec with
  | .h265 => [(.qpDeltaIp .hevc, .s32 delta)]
  | .h264 => [(.qpDeltaIp .avc, .s32 delta)]
  | _ => []

/-- The reference structure is set and the length of a group stored whatever
the answer; the rest needs the answer `true`. -/
def MppEncoder.setGopLength (enc : MppEncoder) (answers : MppAnswers)
    (refCfg : Option MppEncRefCfg) (gopSize ipQpDelta : Int32) :
    Bool × MppEncoder :=
  let set := enc.setRefCfg answers refCfg
  let stored := set.2.store [(.rcGop, .s32 gopSize)]
  if set.1 then
    stored.setCfg answers
      (qpDeltaWrites enc.vidCfg.imageCfg.codecType ipQpDelta) id
  else (false, stored)

def MppEncoder.setGopMode (enc : MppEncoder) (answers : MppAnswers)
    (param : EncGopModeParam) : Bool × MppEncoder :=
  match gopModeOf param.mode with
  | none => (false, enc)
  | some .normalp =>
      enc.setGopLength answers none enc.vidCfg.gopSize param.ipQpDelta
  | some .smartp =>
      if answers.refCfgInit ∧ answers.refCfgGen then
        enc.setGopLength answers
          (some ⟨.smartp, param.interval, param.gopSize⟩) param.interval
          param.ipQpDelta
      else (false, enc)
  | some mode =>
      if answers.refCfgInit ∧ answers.refCfgGen then
        enc.setRefCfg answers (some ⟨mode, 0, 0⟩)
      else (false, enc)

theorem MppEncoder.setRefCfg_cases (enc : MppEncoder) (answers : MppAnswers)
    (refCfg : Option MppEncRefCfg) :
    enc.setRefCfg answers refCfg = (false, enc) ∨
      enc.setRefCfg answers refCfg = (true, { enc with refCfg := refCfg }) := by
  unfold MppEncoder.setRefCfg
  split
  · exact .inr rfl
  · exact .inl rfl

/-- A mode of groups is refused, sets a length or sets a reference structure
only. -/
theorem MppEncoder.setGopMode_cases (enc : MppEncoder) (answers : MppAnswers)
    (param : EncGopModeParam) :
    enc.setGopMode answers param = (false, enc) ∨
      (∃ refCfg gopSize, enc.setGopMode answers param =
        enc.setGopLength answers refCfg gopSize param.ipQpDelta) ∨
      ∃ refCfg, enc.setGopMode answers param =
        enc.setRefCfg answers refCfg := by
  unfold MppEncoder.setGopMode
  split
  · exact .inl rfl
  · exact .inr (.inl ⟨_, _, rfl⟩)
  · split
    · exact .inr (.inl ⟨_, _, rfl⟩)
    · exact .inl rfl
  · split
    · exact .inr (.inr ⟨_, rfl⟩)
    · exact .inl rfl

def mppEncoderUserdataMaxSize : ℕ := 1024

/-- `EnableUserDataAllFrame` and `SetUserData`. -/
def MppEncoder.setUserData (enc : MppEncoder) (enableAllFrames : UInt8)
    (data : List UInt8) : MppEncoder :=
  { enc with
    userData :=
      { enc.userData with
        allFrameEn := decide (enableAllFrames ≠ 0)
        userdata := data.take mppEncoderUserdataMaxSize } }

def MppEncoder.setRcApi (enc : MppEncoder) (answers : MppAnswers)
    (name : String) : Bool × MppEncoder :=
  if answers.setRcApi then (true, { enc with rcApiBriefName := name })
  else (false, enc)

theorem MppEncoder.setRcApi_cases (enc : MppEncoder) (answers : MppAnswers)
    (name : String) :
    enc.setRcApi answers name = (false, enc) ∨
      enc.setRcApi answers name = (true, { enc with rcApiBriefName := name }) := by
  unfold MppEncoder.setRcApi
  split
  · exact .inr rfl
  · exact .inl rfl

/-- The name for the disabled mode is spelt as in the source. -/
def MppEncoder.setMoveDetection (enc : MppEncoder) (answers : MppAnswers)
    (flow : Bool) : Bool × MppEncoder :=
  if flow then
    onSuccess
      (enc.setCfg answers [(.rcMode, .mode .vbr), (.rcGop, .s32 300)]
        fun cfg => { cfg with gopSize := 300, rcMode := some keyVbr })
      fun set => set.restartUserData.setRcApi answers "smart"
  else enc.setRcApi answers "defalut"

/-- `none` is a fault, the flag the answer of `CheckConfigChange`. -/
def MppEncoder.apply (enc : MppEncoder) (answers : MppAnswers) :
    ConfigChange → Option (Bool × MppEncoder)
  | .statistics value => some (true, { enc with encoderStaEn := value ≠ 0 })
  | .frameRate inNum inDen outNum outDen =>
      some (enc.setFrameRate answers inNum inDen outNum outDen)
  | .bitRate rates => some (enc.setBitRate answers rates)
  | .rcMode newMode => some (enc.setRcMode answers newMode)
  | .profile profileIdc level => some (enc.setProfile answers profileIdc level)
  | .rcQuality quality => enc.setRcQuality answers quality
  | .gop newGopSize => some (enc.setGop answers newGopSize)
  | .qp qps => some (enc.setQp answers qps)
  | .roi regions =>
      (enc.roiUpdateRegions regions).map fun updated => (true, updated)
  | .forceIdr => some (enc.forceIdrFrame answers)
  | .split splitMode splitArg => some (enc.setSplit answers splitMode splitArg)
  | .gopMode param => some (enc.setGopMode answers param)
  | .osd => some (answers.osd, enc)
  | .userData enableAllFrames data =>
      some (true, enc.setUserData enableAllFrames data)
  | .moveDetection flow => some (enc.setMoveDetection answers flow)

def MppEncoder.checkConfigChange (enc : MppEncoder) (answers : MppAnswers)
    (change : UInt32) (val : ParameterBuffer) : Option (Bool × MppEncoder) :=
  match readChange change val with
  | .fault => none
  | .refused => some (false, enc)
  | .change request => enc.apply answers request

end RkaiqToolServer
