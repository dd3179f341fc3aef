import RkaiqToolServer.MppMirror

/-!
# The frames of an encoder and their user data

Each picture becomes a frame of the library.  The user data goes with every
frame, or with the first frame of each group of pictures only.  For this the
encoder counts in 16 bits the pictures that come while it has such data, and
starts again at the length of a group; a change that makes the encoder begin a
new group restarts the count.  What the counter does is compared with a plan
that numbers all frames since the last beginning of a group, without a bound.
The two agree where every picture since then has both been counted and encoded.
-/

namespace RkaiqToolServer

open StepRun

/-! ## The code -/

/-- A picture as the camera gives it, with the vectors of a move detection. -/
structure InputImage where
  isImage : Bool
  info : ImageInfo
  usTimeStamp : Int64
  validSize : ℕ
  mdInfo : Option (List UInt8)
  eof : Bool
  deriving DecidableEq

/-- No regions and no user data mean that the frame carries none. -/
structure MppFrame where
  pts : Int64
  dts : Int64
  width : Int32
  height : Int32
  fmt : Option MppFrameFormat
  horStride : Int32
  verStride : Int32
  mvList : Option (List UInt8)
  roiData : List EncRoiRegion
  userData : Option (List UInt8)
  eos : Bool
  deriving DecidableEq

/-- The counter after a frame. -/
def nextFrameId (frameId : UInt16) (gopSize : Int32) : UInt16 :=
  if Int32.ofNat (frameId + 1).toNat = gopSize then 0 else frameId + 1

/-- The user data of a frame.  The number 0 is meant for the first frame of a
group, but the pictures that come without such data are not counted. -/
def UserData.frame (ud : UserData) (gopSize : Int32) :
    Option (List UInt8) × UserData :=
  if ud.userdata = [] then (none, ud)
  else if ud.allFrameEn then (some ud.userdata, ud)
  else
    (if ud.frameId ≠ 0 then none else some ud.userdata,
      { ud with frameId := nextFrameId ud.frameId gopSize })

/-- `PrepareMppFrame`; `none` is the failed assertion about an empty picture.
Importing the buffer comes last, and the frame has been counted when that
fails. -/
def MppEncoder.prepareMppFrame (enc : MppEncoder) (input : InputImage)
    (imported : Bool) : Option (Option MppFrame × MppEncoder) :=
  if !input.isImage then some (none, enc)
  else if input.info.pixFmt = .none then some (none, enc)
  else if input.validSize = 0 then none
  else
    let counted := enc.userData.frame enc.vidCfg.gopSize
    let twoBytes :=
      input.info.pixFmt = .yuyv422 ∨ input.info.pixFmt = .uyvy422
    let frame :=
      { pts := input.usTimeStamp
        dts := input.usTimeStamp
        width := input.info.width
        height := input.info.height
        fmt := convertToMppPixFmt input.info.pixFmt
        horStride :=
          if twoBytes then input.info.virWidth * 2 else input.info.virWidth
        verStride := input.info.virHeight
        mvList := input.mdInfo
        roiData := enc.roiCfg
        userData := counted.1
        eos := input.eof }
    some (if imported then some frame else none,
      { enc with userData := counted.2 })

/-- What the thread of an encoder does, one after the other. -/
inductive EncoderAction
  | change (call : ChangeCall)
  | frame (input : InputImage) (imported : Bool)
  deriving DecidableEq

/-- An action and the user data of the frame that it puts out; no encoder stands
for a program that has ended. -/
def encoderStep (state : Option MppEncoder) :
    EncoderAction → Option MppEncoder × List (Option (List UInt8))
  | .change call =>
      (state.bind fun enc =>
        (enc.checkConfigChange call.answers call.change call.val).map
          Prod.snd, [])
  | .frame input imported =>
      let prepared := state.bind fun enc => enc.prepareMppFrame input imported
      (prepared.map Prod.snd,
        ((prepared.bind Prod.fst).map MppFrame.userData).toList)

/-! ## The plan -/

/-- Which frames are to carry which data: `since` numbers the frames that were
encoded since a group was last begun, with user data or without.  `counted` says
of the pictures since then that those encoded are those that came while the data
was to go with groups. -/
structure UserDataPlan where
  data : List UInt8
  allFrames : Bool
  gopSize : Int32
  since : ℕ
  counted : Bool
  deriving DecidableEq

/-- There is data, and it goes with the first frame of each group. -/
def UserDataPlan.Grouped (plan : UserDataPlan) : Prop :=
  plan.data ≠ [] ∧ plan.allFrames = false

instance : DecidablePred UserDataPlan.Grouped := fun _ =>
  inferInstanceAs (Decidable (_ ∧ _))

/-- The data of the next frame. -/
def UserDataPlan.frameData (plan : UserDataPlan) : Option (List UInt8) :=
  if plan.data = [] then none
  else if plan.allFrames ∨ plan.gopSize.toInt.toNat ∣ plan.since then
    some plan.data
  else none

/-- A picture, which is encoded if its buffer can be imported. -/
def UserDataPlan.picture (plan : UserDataPlan) (imported : Bool) :
    UserDataPlan :=
  { plan with
    since := if imported then plan.since + 1 else plan.since
    counted := plan.counted && (imported == decide plan.Grouped) }

def UserDataPlan.restart (plan : UserDataPlan) (gopSize : Int32) :
    UserDataPlan :=
  { plan with gopSize := gopSize, since := 0, counted := true }

/-- New data does not begin a group.  The smart mode begins one even if its last
call to the library fails. -/
def UserDataPlan.after (plan : UserDataPlan) (answers : MppAnswers) :
    ConfigChange → UserDataPlan
  | .gop newGopSize =>
      if 0 ≤ newGopSize ∧ answers.setCfg then plan.restart newGopSize else plan
  | .forceIdr =>
      if answers.setIdrFrame then plan.restart plan.gopSize else plan
  | .moveDetection flow =>
      if flow ∧ answers.setCfg then plan.restart 300 else plan
  | .userData enableAllFrames data =>
      { plan with
        data := data.take mppEncoderUserdataMaxSize
        allFrames := decide (enableAllFrames ≠ 0) }
  | _ => plan

def InputImage.Counts (input : InputImage) : Prop :=
  input.isImage = true ∧ input.info.pixFmt ≠ .none

instance : DecidablePred InputImage.Counts := fun _ =>
  inferInstanceAs (Decidable (_ ∧ _))

def planStep (plan : UserDataPlan) :
    EncoderAction → UserDataPlan × List (Option (List UInt8))
  | .change call =>
      (match readChange call.change call.val with
        | .change request => plan.after call.answers request
        | _ => plan, [])
  | .frame input imported =>
      if input.Counts then
        (plan.picture imported, if imported then [plan.frameData] else [])
      else (plan, [])

/-- What the plan needs to name the frames.  Where the data of a frame goes with
groups, the pictures counted since a group was last begun are those encoded, and
the counter reaches the length of a group. -/
def UserDataPlan.Names (plan : UserDataPlan) : EncoderAction → Prop
  | .change _ => True
  | .frame input imported =>
      input.Counts → imported = true → plan.Grouped →
        plan.counted = true ∧ 1 ≤ plan.gopSize.toInt ∧
          plan.gopSize.toInt ≤ 65536

instance (plan : UserDataPlan) : DecidablePred plan.Names
  | .change _ => inferInstanceAs (Decidable True)
  | .frame _ _ => inferInstanceAs (Decidable (_ → _ → _ → _))

/-! ## The counter -/

theorem toInt_frameId (frameId : UInt16) :
    (Int32.ofNat frameId.toNat).toInt = frameId.toNat := by
  have hbound : frameId.toNat < 65536 := frameId.toNat_lt
  exact Int32.toInt_ofNat_of_lt (by omega)

/-- The counter counts modulo the length of a group. -/
theorem nextFrameId_mod {frameId : UInt16} {gopSize : Int32} {since : ℕ}
    (hpos : 1 ≤ gopSize.toInt) (hle : gopSize.toInt ≤ 65536)
    (h : frameId.toNat = since % gopSize.toInt.toNat) :
    (nextFrameId frameId gopSize).toNat =
      (since + 1) % gopSize.toInt.toNat := by
  have hlt : frameId.toNat < gopSize.toInt.toNat := by
    rw [h]
    exact Nat.mod_lt _ (by omega)
  have hsucc : (frameId + 1).toNat = (frameId.toNat + 1) % 65536 := by
    simp [UInt16.toNat_add]
  have hreset : Int32.ofNat (frameId + 1).toNat = gopSize ↔
      ((frameId + 1).toNat : ℤ) = gopSize.toInt := by
    rw [← Int32.toInt_inj, toInt_frameId]
  rw [← Nat.mod_add_mod, ← h]
  by_cases hend : frameId.toNat + 1 = gopSize.toInt.toNat
  · rw [hend, Nat.mod_self, nextFrameId]
    split
    · rfl
    · rename_i hkeep
      rw [hreset, hsucc] at hkeep
      rw [hsucc]
      omega
  · rw [Nat.mod_eq_of_lt (by omega), nextFrameId, if_neg, hsucc]
    · omega
    · rw [hreset, hsucc]
      omega

/-- The encoder goes by the plan; the counter stands for the number of the next
frame as long as all pictures were counted. -/
structure MppEncoder.Follows (enc : MppEncoder) (plan : UserDataPlan) :
    Prop where
  data : enc.userData.userdata = plan.data
  allFrames : enc.userData.allFrameEn = plan.allFrames
  gopSize : enc.vidCfg.gopSize = plan.gopSize
  frameId : plan.counted = true →
    enc.userData.frameId.toNat = plan.since % plan.gopSize.toInt.toNat

section

variable {enc : MppEncoder} {plan : UserDataPlan} {answers : MppAnswers}

/-- A frame gets what the plan says. -/
theorem MppEncoder.Follows.frameData (h : enc.Follows plan)
    (hcounted : plan.Grouped → plan.counted = true) :
    (enc.userData.frame enc.vidCfg.gopSize).1 = plan.frameData := by
  unfold UserData.frame UserDataPlan.frameData
  rw [h.data, h.allFrames]
  by_cases hdata : plan.data = []
  · rw [if_pos hdata, if_pos hdata]
  rw [if_neg hdata, if_neg hdata]
  cases hall : plan.allFrames with
  | true => simp
  | false =>
      have hfirst : enc.userData.frameId ≠ 0 ↔
          ¬ plan.gopSize.toInt.toNat ∣ plan.since := by
        rw [Nat.dvd_iff_mod_eq_zero, ← h.frameId (hcounted ⟨hdata, hall⟩),
          ne_eq, ← UInt16.toNat_inj]
        rfl
      simp [hfirst]

/-- Behind a picture the counter goes on with the plan. -/
theorem MppEncoder.Follows.picture (h : enc.Follows plan) {imported : Bool}
    (hrange : imported = true → plan.Grouped →
      1 ≤ plan.gopSize.toInt ∧ plan.gopSize.toInt ≤ 65536) :
    { enc with
      userData := (enc.userData.frame enc.vidCfg.gopSize).2 }.Follows
        (plan.picture imported) := by
  have hkeep : (enc.userData.frame enc.vidCfg.gopSize).2 =
      if plan.Grouped then
        { enc.userData with
          frameId := nextFrameId enc.userData.frameId plan.gopSize }
      else enc.userData := by
    unfold UserData.frame
    rw [h.data, h.allFrames, h.gopSize]
    by_cases hdata : plan.data = []
    · rw [if_pos hdata, if_neg fun hgrouped => hgrouped.1 hdata]
    rw [if_neg hdata]
    cases hall : plan.allFrames with
    | true =>
        rw [if_pos rfl, if_neg]
        intro hgrouped
        exact Bool.noConfusion (hall.symm.trans hgrouped.2)
    | false =>
        have hgrouped : plan.Grouped := ⟨hdata, hall⟩
        simp [hgrouped, h.data, h.allFrames, hall]
  rw [hkeep]
  by_cases hgrouped : plan.Grouped
  · rw [if_pos hgrouped]
    refine ⟨h.data, h.allFrames, h.gopSize, ?_⟩
    intro hcounted
    simp only [UserDataPlan.picture, hgrouped, decide_true, beq_true,
      Bool.and_eq_true] at hcounted ⊢
    obtain ⟨hcounted, himported⟩ := hcounted
    obtain ⟨hpos, hle⟩ := hrange himported hgrouped
    rw [if_pos himported]
    exact nextFrameId_mod hpos hle (h.frameId hcounted)
  · rw [if_neg hgrouped]
    refine ⟨h.data, h.allFrames, h.gopSize, ?_⟩
    intro hcounted
    simp only [UserDataPlan.picture, hgrouped, decide_false, beq_false,
      Bool.and_eq_true, Bool.not_eq_true'] at hcounted ⊢
    obtain ⟨hcounted, himported⟩ := hcounted
    rw [himported]
    exact h.frameId hcounted

theorem MppEncoder.Follows.congr {other : MppEncoder} (h : enc.Follows plan)
    (huserData : other.userData = enc.userData)
    (hgopSize : other.vidCfg.gopSize = enc.vidCfg.gopSize) :
    other.Follows plan := by
  refine ⟨?_, ?_, hgopSize.trans h.gopSize, ?_⟩ <;> rw [huserData]
  · exact h.data
  · exact h.allFrames
  · exact h.frameId

/-- A change of settings that keeps the length of a group. -/
theorem MppEncoder.Follows.setCfg (h : enc.Follows plan)
    (writes : List (MppKey × MppValue)) {save : VideoConfig → VideoConfig}
    (hsave : (save enc.vidCfg).gopSize = enc.vidCfg.gopSize) :
    (enc.setCfg answers writes save).2.Follows plan := by
  unfold MppEncoder.setCfg
  dsimp only
  split
  · exact h.congr rfl hsave
  · exact h.congr rfl rfl

/-- A new group of a length that has been saved. -/
theorem MppEncoder.Follows.restart (h : enc.Follows plan) {other : MppEncoder}
    {gopSize : Int32}
    (huserData : other.userData = { enc.userData with frameId := 0 })
    (hgopSize : other.vidCfg.gopSize = gopSize) :
    other.Follows (plan.restart gopSize) := by
  refine ⟨?_, ?_, hgopSize, fun _ => ?_⟩ <;> rw [huserData]
  · exact h.data
  · exact h.allFrames
  · exact (Nat.zero_mod _).symm

theorem MppEncoder.Follows.setGop (h : enc.Follows plan) (newGopSize : Int32) :
    (enc.setGop answers newGopSize).2.Follows
      (plan.after answers (.gop newGopSize)) := by
  change (enc.setGop answers newGopSize).2.Follows
    (if 0 ≤ newGopSize ∧ answers.setCfg then plan.restart newGopSize else plan)
  simp only [MppEncoder.setGop, MppEncoder.setCfg, onSuccess]
  by_cases hnegative : newGopSize < 0
  · rw [if_pos hnegative, if_neg]
    · exact h
    · exact fun hnot => Int32.not_lt.mpr hnot.1 hnegative
  rw [if_neg hnegative]
  rw [Int32.not_lt] at hnegative
  cases hset : answers.setCfg with
  | false =>
      simp only [Bool.false_eq_true, if_false, and_false]
      exact h.congr rfl rfl
  | true =>
      simp only [if_true, hnegative, and_self]
      exact h.restart rfl rfl

theorem MppEncoder.Follows.setRcApi (h : enc.Follows plan) (name : String) :
    (enc.setRcApi answers name).2.Follows plan := by
  obtain hset | hset := enc.setRcApi_cases answers name <;> rw [hset]
  · exact h
  · exact h.congr rfl rfl

theorem MppEncoder.Follows.setMoveDetection (h : enc.Follows plan)
    (flow : Bool) :
    (enc.setMoveDetection answers flow).2.Follows
      (plan.after answers (.moveDetection flow)) := by
  change (enc.setMoveDetection answers flow).2.Follows
    (if flow ∧ answers.setCfg then plan.restart 300 else plan)
  simp only [MppEncoder.setMoveDetection, MppEncoder.setCfg, onSuccess]
  cases flow with
  | false => exact h.setRcApi "defalut"
  | true =>
      cases hset : answers.setCfg with
      | false => exact h.congr rfl rfl
      | true => exact (h.restart rfl rfl).setRcApi "smart"

theorem MppEncoder.Follows.setRefCfg (h : enc.Follows plan)
    (refCfg : Option MppEncRefCfg) :
    (enc.setRefCfg answers refCfg).2.Follows plan := by
  obtain hset | hset := enc.setRefCfg_cases answers refCfg <;> rw [hset]
  · exact h
  · exact h.congr rfl rfl

theorem MppEncoder.Follows.setGopLength (h : enc.Follows plan)
    (refCfg : Option MppEncRefCfg) (gopSize ipQpDelta : Int32) :
    (enc.setGopLength answers refCfg gopSize ipQpDelta).2.Follows plan := by
  have hset : ((enc.setRefCfg answers refCfg).2.store
      [(.rcGop, .s32 gopSize)]).Follows plan :=
    (h.setRefCfg refCfg).congr rfl rfl
  unfold MppEncoder.setGopLength
  dsimp only
  split
  · exact hset.setCfg _ rfl
  · exact hset

/-- The modes of groups leave the saved length as it is. -/
theorem MppEncoder.Follows.setGopMode (h : enc.Follows plan)
    (param : EncGopModeParam) :
    (enc.setGopMode answers param).2.Follows plan := by
  obtain hset | ⟨refCfg, gopSize, hset⟩ | ⟨refCfg, hset⟩ :=
    enc.setGopMode_cases answers param <;> rw [hset]
  · exact h
  · exact h.setGopLength refCfg gopSize param.ipQpDelta
  · exact h.setRefCfg refCfg

/-- What one change preserves. -/
theorem MppEncoder.Follows.apply (h : enc.Follows plan)
    {request : ConfigChange} {result : Bool × MppEncoder}
    (happly : enc.apply answers request = some result) :
    result.2.Follows (plan.after answers request) := by
  cases request with
  | statistics value =>
      cases happly
      exact h.congr rfl rfl
  | frameRate inNum inDen outNum outDen =>
      cases happly
      unfold MppEncoder.setFrameRate
      split
      · exact h
      · exact h.setCfg _ rfl
  | bitRate rates =>
      cases happly
      unfold MppEncoder.setBitRate
      split
      · exact h
      split
      · exact h
      · exact h.setCfg _ rfl
  | rcMode newMode =>
      cases happly
      unfold MppEncoder.setRcMode
      split
      · exact h
      split
      · exact h
      · exact h.setCfg _ rfl
  | profile profileIdc level =>
      cases happly
      unfold MppEncoder.setProfile
      split
      · exact h
      split
      · exact h
      · exact h.setCfg _ rfl
  | rcQuality quality =>
      simp only [MppEncoder.apply, MppEncoder.setRcQuality] at happly
      split at happly
      · contradiction
      split at happly
      · cases happly
        exact h
      split at happly
      · contradiction
      split at happly
      · cases happly
        exact h
      · cases happly
        exact h.setCfg _ rfl
  | gop newGopSize =>
      cases happly
      exact h.setGop newGopSize
  | qp qps =>
      cases happly
      exact h.setCfg _ rfl
  | roi regions =>
      simp only [MppEncoder.apply, MppEncoder.roiUpdateRegions] at happly
      split at happly
      · cases happly
        exact h.congr rfl rfl
      · contradiction
  | forceIdr =>
      cases happly
      change (enc.forceIdrFrame answers).2.Follows
        (if answers.setIdrFrame then plan.restart plan.gopSize else plan)
      simp only [MppEncoder.forceIdrFrame]
      split
      · exact h.restart rfl h.gopSize
      · exact h
  | split splitMode splitArg =>
      cases happly
      exact h.setCfg _ rfl
  | gopMode param =>
      cases happly
      exact h.setGopMode param
  | osd =>
      cases happly
      exact h
  | userData enableAllFrames data =>
      cases happly
      exact ⟨rfl, rfl, h.gopSize, h.frameId⟩
  | moveDetection flow =>
      cases happly
      exact h.setMoveDetection flow

end

/-! ## Runs -/

/-- A new encoder has no user data. -/
def UserDataPlan.new (gopSize : Int32) : UserDataPlan :=
  { data := []
    allFrames := false
    gopSize := gopSize
    since := 0
    counted := true }

theorem initConfig_follows {answers : MppAnswers} {codec : MppCodingType}
    {defaults : MppEncCfg} {given : VideoConfig} {enc : MppEncoder}
    (h : initConfig answers codec defaults given = some enc) :
    enc.Follows (.new enc.vidCfg.gopSize) := by
  obtain ⟨_, _, _, _, _, _, -, -, -, -, -, -, -, -, -, -, huserData⟩ :=
    initConfig_cases h
  refine ⟨?_, ?_, rfl, fun _ => ?_⟩ <;> rw [huserData]
  · rfl
  · rfl
  · exact (Nat.zero_mod _).symm

def PlanFollowed (state : Option MppEncoder) (plan : UserDataPlan) : Prop :=
  ∃ enc, state = some enc ∧ enc.Follows plan

theorem prepareMppFrame_skipped {enc : MppEncoder} {input : InputImage}
    (hcounts : ¬ input.Counts) (imported : Bool) :
    enc.prepareMppFrame input imported = some (none, enc) := by
  unfold MppEncoder.prepareMppFrame
  cases himage : input.isImage with
  | false => rfl
  | true =>
      have hfmt : input.info.pixFmt = .none := by
        simpa [InputImage.Counts, himage] using hcounts
      rw [if_neg (by decide), if_pos hfmt]

/-- A picture that counts is asserted not to be empty, and its frame has the
user data of the counter. -/
theorem prepareMppFrame_counted {enc : MppEncoder} {input : InputImage}
    (hcounts : input.Counts) (imported : Bool) :
    enc.prepareMppFrame input imported = none ∨
      ∃ frame, enc.prepareMppFrame input imported =
          some (if imported then some frame else none,
            { enc with
              userData := (enc.userData.frame enc.vidCfg.gopSize).2 }) ∧
        frame.userData = (enc.userData.frame enc.vidCfg.gopSize).1 := by
  obtain ⟨himage, hfmt⟩ := hcounts
  unfold MppEncoder.prepareMppFrame
  rw [himage, if_neg (by decide), if_neg hfmt]
  split
  · exact .inl rfl
  · exact .inr ⟨_, rfl, rfl⟩

/-- What one change or frame preserves, unless it ends the program. -/
theorem PlanFollowed.step {state : Option MppEncoder} {plan : UserDataPlan}
    (h : PlanFollowed state plan) {action : EncoderAction}
    (hnames : plan.Names action) :
    ((encoderStep state action).2 = [] ∧
        next encoderStep state action = none) ∨
      ((encoderStep state action).2 = (planStep plan action).2 ∧
        PlanFollowed (next encoderStep state action)
          (next planStep plan action)) := by
  obtain ⟨enc, rfl, hfollows⟩ := h
  cases action with
  | change call =>
      simp only [encoderStep, planStep, next, Option.bind_some,
        MppEncoder.checkConfigChange]
      cases readChange call.change call.val with
      | fault => exact .inl ⟨trivial, rfl⟩
      | refused => exact .inr ⟨trivial, enc, rfl, hfollows⟩
      | change request =>
          cases happly : enc.apply call.answers request with
          | none => exact .inl ⟨trivial, by simp [happly]⟩
          | some result =>
              exact .inr ⟨trivial, result.2, by simp [happly],
                hfollows.apply happly⟩
  | frame input imported =>
      simp only [encoderStep, planStep, next, Option.bind_some]
      by_cases hcounts : input.Counts
      · rw [if_pos hcounts]
        rcases @prepareMppFrame_counted enc _ hcounts imported with
          hnone | ⟨frame, hframe, huserData⟩
        · rw [hnone]
          exact .inl ⟨rfl, rfl⟩
        have hnames := hnames hcounts
        rw [hframe]
        refine .inr ⟨?_, _, rfl,
          hfollows.picture fun himported hgrouped =>
            (hnames himported hgrouped).2⟩
        cases imported with
        | false => rfl
        | true =>
            have hdata := hfollows.frameData fun hgrouped =>
              (hnames rfl hgrouped).1
            rw [← hdata, ← huserData]
            rfl
      · rw [if_neg hcounts, prepareMppFrame_skipped hcounts]
        exact .inr ⟨rfl, enc, rfl, hfollows⟩

/-- In every run of changes and frames of an encoder that was set up, as long as
the plan names the frames, the user data goes with just these, until the program
ends. -/
theorem frameRun_userData {answers : MppAnswers} {codec : MppCodingType}
    {defaults : MppEncCfg} {given : VideoConfig} {enc : MppEncoder}
    (hinit : initConfig answers codec defaults given = some enc)
    {actions : List EncoderAction}
    (hnames : Steps (next planStep) UserDataPlan.Names
      (.new enc.vidCfg.gopSize) actions) :
    trace encoderStep (some enc) actions <+:
        trace planStep (.new enc.vidCfg.gopSize) actions ∧
      (actions.foldl (next encoderStep) (some enc) = none ∨
        trace encoderStep (some enc) actions =
          trace planStep (.new enc.vidCfg.gopSize) actions) := by
  apply trace_of_simulates PlanFollowed (fun state => state = none)
    UserDataPlan.Names
  · rintro state action rfl
    cases action <;> exact ⟨rfl, rfl⟩
  · intro state plan action hstate haction
    exact hstate.step haction
  · exact ⟨enc, rfl, initConfig_follows hinit⟩
  · exact hnames

/-- Two pictures of a group, a forced intra frame and another picture. -/
def fullHdActions : List EncoderAction :=
  let input : InputImage :=
    { isImage := true
      info := (rtspVideoConfig .avc 1920 1080).imageCfg.imageInfo
      usTimeStamp := 0
      validSize := 3110400
      mdInfo := none
      eof := false }
  [.change ⟨takingAnswers, kUserDataChange, ⟨3, 0, some [0, 82, 75]⟩⟩,
    .frame input true, .frame input true,
    .change ⟨takingAnswers, kForceIdrFrame, ⟨0, 0, none⟩⟩, .frame input true]

theorem frameRun_userData_fullHd :
    trace encoderStep (some fullHdEncoder) fullHdActions <+:
        trace planStep (.new fullHdEncoder.vidCfg.gopSize) fullHdActions ∧
      (fullHdActions.foldl (next encoderStep) (some fullHdEncoder) = none ∨
        trace encoderStep (some fullHdEncoder) fullHdActions =
          trace planStep (.new fullHdEncoder.vidCfg.gopSize) fullHdActions) :=
  frameRun_userData initConfig_fullHd (by decide)

end RkaiqToolServer
