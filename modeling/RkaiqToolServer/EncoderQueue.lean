import RkaiqToolServer.DropQueue
import RkaiqToolServer.EncoderFrames
import RkaiqToolServer.MppRequests

/-!
# The threads of an encoder

Any thread may ask an encoder for a change; the request waits in a list, from
which it is pushed out when too many come after it.  The thread of the flow
processes one picture after the other and takes what waits before it encodes
one.  It looks whether the list is empty and takes the front of it in two steps,
between which other requests may come.

In every order of these steps the requests are carried out in the order in which
they were made, and a picture is encoded with the settings that the requests
before it ask for.
-/

namespace RkaiqToolServer

open DropQueue StepRun

def videoEncChangeMax : ℕ := 50

/-- Where `Process` is: before the call, at the condition of the loop, at its
body, and behind it. -/
inductive EncodeStage
  | idle
  | looking
  | peeking
  | ready
  deriving DecidableEq

structure EncoderThreads where
  changeList : List EncoderControl
  enc : MppEncoder
  stage : EncodeStage

inductive EncoderEvent
  | requestChange (control : EncoderControl)
  | process
  | hasChangeReq
  | peekChange (answers : MppAnswers)
  | prepare (input : InputImage) (imported : Bool)
  deriving DecidableEq

/-- A change that was taken; the number 0 of an empty list asks for nothing. -/
def MppEncoder.takeChange (enc : MppEncoder) (answers : MppAnswers)
    (control : EncoderControl) : Option (Bool × MppEncoder) :=
  if control.1 = 0 then some (true, enc)
  else enc.checkConfigChange answers control.1 control.2

/-- The body of the loop: a refused change ends the call without a frame. -/
def EncoderThreads.peekChange (threads : EncoderThreads)
    (answers : MppAnswers) : Option EncoderThreads :=
  match threads.changeList with
  | [] => some { threads with stage := .looking }
  | control :: rest =>
      (threads.enc.takeChange answers control).map fun result =>
        { changeList := rest
          enc := result.2
          stage := if result.1 then .looking else .idle }

/-- One step of a thread; steps that the stage does not allow do not happen, and
`none` is the end of the program. -/
def EncoderThreads.step (threads : EncoderThreads) :
    EncoderEvent → Option EncoderThreads
  | .requestChange control =>
      some { threads with
        changeList := put videoEncChangeMax threads.changeList control }
  | .process =>
      some (if threads.stage = .idle then { threads with stage := .looking }
        else threads)
  | .hasChangeReq =>
      some (if threads.stage = .looking then
          { threads with
            stage := if threads.changeList = [] then .ready else .peeking }
        else threads)
  | .peekChange answers =>
      if threads.stage = .peeking then threads.peekChange answers
      else some threads
  | .prepare input imported =>
      if threads.stage = .ready then
        (threads.enc.prepareMppFrame input imported).map fun prepared =>
          { threads with enc := prepared.2, stage := .idle }
      else some threads

/-! ## What has happened -/

/-- Carrying out changes one after the other. -/
def MppEncoder.carry (enc : MppEncoder) (calls : List ChangeCall) :
    MppEncoder :=
  calls.foldl (fun enc call =>
    ((enc.takeChange call.answers (call.change, call.val)).map
      Prod.snd).getD enc) enc

def ChangeCall.control (call : ChangeCall) : EncoderControl :=
  (call.change, call.val)

/-- A frame: the requests that had been made when its picture came and when the
list was found empty, those that had been carried out, and the encoder. -/
structure FrameRecord where
  called : ℕ
  seen : ℕ
  carried : List ChangeCall
  enc : MppEncoder

structure TrackedThreads where
  threads : EncoderThreads
  ledger : Ledger EncoderControl
  carried : List ChangeCall
  called : ℕ
  seen : ℕ
  frames : List FrameRecord

def TrackedThreads.new (enc : MppEncoder) : TrackedThreads :=
  { threads := { changeList := [], enc := enc, stage := .idle }
    ledger := .empty
    carried := []
    called := 0
    seen := 0
    frames := [] }

/-- The change that a step takes from the list. -/
def EncoderThreads.takes (threads : EncoderThreads) :
    EncoderEvent → Option ChangeCall
  | .peekChange answers =>
      if threads.stage = .peeking then
        threads.changeList.head?.map fun control =>
          { answers := answers, change := control.1, val := control.2 }
      else none
  | _ => none

/-- Beside the threads, the record of what has happened. -/
def TrackedThreads.record (tracked : TrackedThreads)
    (threads : EncoderThreads) (event : EncoderEvent) : TrackedThreads :=
  match event with
  | .requestChange control =>
      { tracked with
        threads := threads
        ledger := tracked.ledger.put videoEncChangeMax control }
  | .process =>
      { tracked with
        threads := threads
        called :=
          if tracked.threads.stage = .idle then tracked.ledger.made.length
          else tracked.called }
  | .hasChangeReq =>
      { tracked with
        threads := threads
        seen :=
          if tracked.threads.stage = .looking then tracked.ledger.made.length
          else tracked.seen }
  | .peekChange _ =>
      match tracked.threads.takes event with
      | none => { tracked with threads := threads }
      | some call =>
          { tracked with
            threads := threads
            ledger := tracked.ledger.take
            carried := tracked.carried ++ [call] }
  | .prepare _ _ =>
      { tracked with
        threads := threads
        frames :=
          if tracked.threads.stage = .ready then
            tracked.frames ++
              [⟨tracked.called, tracked.seen, tracked.carried,
                tracked.threads.enc⟩]
          else tracked.frames }

def threadsStep (state : Option TrackedThreads) (event : EncoderEvent) :
    Option TrackedThreads := do
  let tracked ← state
  let threads ← tracked.threads.step event
  some (tracked.record threads event)

/-! ## Settings -/

/-- An answer and the encoder without its count of frames. -/
def settingsOf (result : Bool × MppEncoder) : Bool × MppEncoder :=
  (result.1, result.2.restartUserData)

section

variable (enc : MppEncoder) (answers : MppAnswers)

@[simp] theorem MppEncoder.vidCfg_restartUserData :
    enc.restartUserData.vidCfg = enc.vidCfg := rfl

theorem MppEncoder.setCfg_restartUserData (writes : List (MppKey × MppValue))
    (save : VideoConfig → VideoConfig) :
    enc.restartUserData.setCfg answers writes save =
      settingsOf (enc.setCfg answers writes save) := by
  unfold MppEncoder.setCfg
  dsimp only
  split <;> rfl

theorem MppEncoder.setBitRate_restartUserData (rates : BitRates) :
    enc.restartUserData.setBitRate answers rates =
      settingsOf (enc.setBitRate answers rates) := by
  simp only [MppEncoder.setBitRate, MppEncoder.vidCfg_restartUserData]
  split
  · rfl
  split
  · rfl
  · exact enc.setCfg_restartUserData answers _ _

theorem MppEncoder.setRcMode_restartUserData (newMode : ParamString) :
    enc.restartUserData.setRcMode answers newMode =
      settingsOf (enc.setRcMode answers newMode) := by
  simp only [MppEncoder.setRcMode, MppEncoder.vidCfg_restartUserData]
  split
  · rfl
  split
  · rfl
  · exact enc.setCfg_restartUserData answers _ _

theorem MppEncoder.setProfile_restartUserData (profileIdc level : Int32) :
    enc.restartUserData.setProfile answers profileIdc level =
      settingsOf (enc.setProfile answers profileIdc level) := by
  unfold MppEncoder.setProfile
  by_cases hcodec : enc.vidCfg.imageCfg.codecType ≠ .h264
  · rw [if_pos hcodec, MppEncoder.vidCfg_restartUserData, if_pos hcodec]
    rfl
  rw [if_neg hcodec, MppEncoder.vidCfg_restartUserData, if_neg hcodec]
  split
  · rfl
  · exact enc.setCfg_restartUserData answers _ _

theorem MppEncoder.setRcQuality_restartUserData
    (quality : Option ParamString) :
    enc.restartUserData.setRcQuality answers quality =
      (enc.setRcQuality answers quality).map settingsOf := by
  simp only [MppEncoder.setRcQuality, MppEncoder.vidCfg_restartUserData]
  split
  · rfl
  split
  · rfl
  split
  · rfl
  split
  · rfl
  · exact congrArg some (enc.setCfg_restartUserData answers _ _)

theorem MppEncoder.setRcApi_restartUserData (name : String) :
    enc.restartUserData.setRcApi answers name =
      settingsOf (enc.setRcApi answers name) := by
  unfold MppEncoder.setRcApi
  split <;> rfl

theorem MppEncoder.setRefCfg_restartUserData (refCfg : Option MppEncRefCfg) :
    enc.restartUserData.setRefCfg answers refCfg =
      settingsOf (enc.setRefCfg answers refCfg) := by
  unfold MppEncoder.setRefCfg
  split <;> rfl

theorem MppEncoder.setGopLength_restartUserData
    (refCfg : Option MppEncRefCfg) (gopSize ipQpDelta : Int32) :
    enc.restartUserData.setGopLength answers refCfg gopSize ipQpDelta =
      settingsOf (enc.setGopLength answers refCfg gopSize ipQpDelta) := by
  simp only [MppEncoder.setGopLength,
    enc.setRefCfg_restartUserData answers refCfg, settingsOf]
  split
  · exact MppEncoder.setCfg_restartUserData
      ((enc.setRefCfg answers refCfg).2.store [(.rcGop, .s32 gopSize)])
      answers _ _
  · rfl

theorem MppEncoder.setGopMode_restartUserData (param : EncGopModeParam) :
    enc.restartUserData.setGopMode answers param =
      settingsOf (enc.setGopMode answers param) := by
  unfold MppEncoder.setGopMode
  split
  · rfl
  · exact enc.setGopLength_restartUserData answers _ _ _
  · split
    · exact enc.setGopLength_restartUserData answers _ _ _
    · rfl
  · split
    · exact enc.setRefCfg_restartUserData answers _
    · rfl

theorem MppEncoder.setMoveDetection_restartUserData (flow : Bool) :
    enc.restartUserData.setMoveDetection answers flow =
      settingsOf (enc.setMoveDetection answers flow) := by
  unfold MppEncoder.setMoveDetection
  split
  · rw [enc.setCfg_restartUserData answers]
    unfold onSuccess settingsOf
    dsimp only
    split
    · exact MppEncoder.setRcApi_restartUserData _ answers _
    · rfl
  · exact enc.setRcApi_restartUserData answers _

/-- A change does the same whatever the count of frames is. -/
theorem MppEncoder.apply_restartUserData (request : ConfigChange) :
    enc.restartUserData.apply answers request =
      (enc.apply answers request).map settingsOf := by
  cases request with
  | statistics value => rfl
  | frameRate inNum inDen outNum outDen =>
      simp only [MppEncoder.apply, MppEncoder.setFrameRate]
      split
      · rfl
      · exact congrArg some (enc.setCfg_restartUserData answers _ _)
  | bitRate rates =>
      exact congrArg some (enc.setBitRate_restartUserData answers rates)
  | rcMode newMode =>
      exact congrArg some (enc.setRcMode_restartUserData answers newMode)
  | profile profileIdc level =>
      exact congrArg some
        (enc.setProfile_restartUserData answers profileIdc level)
  | rcQuality quality => exact enc.setRcQuality_restartUserData answers quality
  | gop newGopSize =>
      simp only [MppEncoder.apply, MppEncoder.setGop]
      split
      · rfl
      rw [enc.setCfg_restartUserData answers]
      unfold onSuccess settingsOf
      dsimp only
      split <;> rfl
  | qp qps => exact congrArg some (enc.setCfg_restartUserData answers _ _)
  | roi regions =>
      simp only [MppEncoder.apply, MppEncoder.roiUpdateRegions]
      split <;> rfl
  | forceIdr =>
      simp only [MppEncoder.apply, MppEncoder.forceIdrFrame]
      split <;> rfl
  | split splitMode splitArg =>
      exact congrArg some (enc.setCfg_restartUserData answers _ _)
  | gopMode param =>
      exact congrArg some (enc.setGopMode_restartUserData answers param)
  | osd => rfl
  | userData enableAllFrames data => rfl
  | moveDetection flow =>
      exact congrArg some (enc.setMoveDetection_restartUserData answers flow)

theorem MppEncoder.takeChange_restartUserData (control : EncoderControl) :
    enc.restartUserData.takeChange answers control =
      (enc.takeChange answers control).map settingsOf := by
  unfold MppEncoder.takeChange
  split
  · rfl
  unfold MppEncoder.checkConfigChange
  split
  · rfl
  · rfl
  · exact enc.apply_restartUserData answers _

end

/-! ## The order of the requests -/

theorem MppEncoder.carry_concat (enc : MppEncoder) (calls : List ChangeCall)
    (call : ChangeCall) :
    enc.carry (calls ++ [call]) =
      (((enc.carry calls).takeChange call.answers call.control).map
        Prod.snd).getD (enc.carry calls) := by
  simp [MppEncoder.carry, ChangeCall.control]

/-- A picture met the settings that the requests before it ask for: those seen
when the list was found empty, less those pushed out, in the order in which they
were made. -/
structure FrameRecord.InOrder (start : MppEncoder)
    (ledger : Ledger EncoderControl) (frame : FrameRecord) : Prop where
  called : frame.called ≤ frame.seen
  seen : frame.seen ≤ ledger.gone
  carried : frame.carried.map ChangeCall.control = ledger.kept frame.seen
  settings :
    frame.enc.restartUserData = start.restartUserData.carry frame.carried

structure TrackedThreads.InOrder (start : MppEncoder)
    (tracked : TrackedThreads) : Prop where
  accounts :
    tracked.ledger.Accounts videoEncChangeMax tracked.threads.changeList
  carried : tracked.carried.map ChangeCall.control = tracked.ledger.taken
  settings : tracked.threads.enc.restartUserData =
    start.restartUserData.carry tracked.carried
  called : tracked.called ≤ tracked.ledger.made.length
  ready : tracked.threads.stage = .ready →
    tracked.called ≤ tracked.seen ∧ tracked.seen ≤ tracked.ledger.gone ∧
      tracked.ledger.kept tracked.seen = tracked.ledger.taken
  frames : ∀ frame ∈ tracked.frames, frame.InOrder start tracked.ledger

section

variable {start : MppEncoder} {tracked : TrackedThreads}

theorem TrackedThreads.InOrder.new (start : MppEncoder) :
    (TrackedThreads.new start).InOrder start := by
  refine ⟨Ledger.accounts_empty _, rfl, rfl, Nat.zero_le _, ?_, ?_⟩
  · intro hready
    cases hready
  · intro frame hframe
    cases hframe

/-- A request changes neither what has been given out nor the stage. -/
theorem TrackedThreads.InOrder.requestChange (h : tracked.InOrder start)
    (control : EncoderControl) :
    TrackedThreads.InOrder start
      { tracked with
        threads := { tracked.threads with
          changeList :=
            put videoEncChangeMax tracked.threads.changeList control }
        ledger := tracked.ledger.put videoEncChangeMax control } := by
  have htaken := h.accounts.taken_put control
  have hgone := tracked.ledger.gone_le_put videoEncChangeMax control
  have hmade : tracked.ledger.made.length ≤
      (tracked.ledger.put videoEncChangeMax control).made.length := by
    unfold Ledger.put
    split <;> simp
  refine ⟨h.accounts.put control, h.carried.trans htaken.symm, h.settings,
    h.called.trans hmade, ?_, ?_⟩
  · intro hready
    obtain ⟨hcalled, hseen, hkept⟩ := h.ready hready
    refine ⟨hcalled, hseen.trans hgone, ?_⟩
    rw [h.accounts.kept_put control hseen, htaken]
    exact hkept
  · intro frame hframe
    have hbefore := h.frames frame hframe
    refine ⟨hbefore.called, hbefore.seen.trans hgone, ?_, hbefore.settings⟩
    rw [h.accounts.kept_put control hbefore.seen]
    exact hbefore.carried

theorem TrackedThreads.InOrder.peekChange (h : tracked.InOrder start)
    {answers : MppAnswers} {control : EncoderControl}
    {rest : List EncoderControl} {result : Bool × MppEncoder}
    (hlist : tracked.threads.changeList = control :: rest)
    (htake : tracked.threads.enc.takeChange answers control = some result)
    {stage : EncodeStage} (hstage : stage ≠ .ready) :
    TrackedThreads.InOrder start
      { tracked with
        threads := { changeList := rest, enc := result.2, stage := stage }
        ledger := tracked.ledger.take
        carried := tracked.carried ++
          [{ answers := answers, change := control.1, val := control.2 }] } := by
  have haccounts := hlist ▸ h.accounts
  refine ⟨haccounts.take, ?_, ?_, h.called, fun hready => absurd hready hstage,
    ?_⟩
  · rw [List.map_append, h.carried, haccounts.taken_take]
    rfl
  · have hsettings := tracked.threads.enc.takeChange_restartUserData answers
      control
    rw [h.settings, htake] at hsettings
    rw [MppEncoder.carry_concat]
    change _ = (((start.restartUserData.carry tracked.carried).takeChange
      answers control).map Prod.snd).getD _
    rw [hsettings]
    rfl
  · intro frame hframe
    have hbefore := h.frames frame hframe
    exact ⟨hbefore.called, hbefore.seen.trans (Nat.le_succ _),
      hbefore.carried, hbefore.settings⟩

/-- A frame changes the count and no setting. -/
theorem prepareMppFrame_settings {enc : MppEncoder} {input : InputImage}
    {imported : Bool} {prepared : Option MppFrame × MppEncoder}
    (h : enc.prepareMppFrame input imported = some prepared) :
    prepared.2.restartUserData = enc.restartUserData := by
  by_cases hcounts : input.Counts
  · rcases @prepareMppFrame_counted enc _ hcounts imported with
      hnone | ⟨frame, hframe, -⟩
    · rw [hnone] at h
      contradiction
    rw [hframe] at h
    cases h
    simp only [MppEncoder.restartUserData, UserData.frame]
    split
    · rfl
    split <;> rfl
  · rw [prepareMppFrame_skipped hcounts] at h
    cases h
    rfl

theorem TrackedThreads.InOrder.hasChangeReq (h : tracked.InOrder start) :
    TrackedThreads.InOrder start
      { tracked with
        threads := { tracked.threads with
          stage :=
            if tracked.threads.changeList = [] then .ready else .peeking }
        seen := tracked.ledger.made.length } := by
  refine ⟨h.accounts, h.carried, h.settings, h.called, ?_, h.frames⟩
  intro hready
  have hlist : tracked.threads.changeList = [] := by
    by_contra hwaiting
    simp [hwaiting] at hready
  have hlength := h.accounts.length
  have hwithin := h.accounts.within
  rw [hlist, List.length_nil] at hlength
  have hseen : tracked.ledger.made.length = tracked.ledger.gone := by omega
  refine ⟨h.called, hseen.le, ?_⟩
  change tracked.ledger.kept tracked.ledger.made.length = _
  rw [hseen]
  rfl

/-- A picture that is ready is recorded with what has been carried out. -/
theorem TrackedThreads.InOrder.prepare (h : tracked.InOrder start)
    (hready : tracked.threads.stage = .ready) {input : InputImage}
    {imported : Bool} {prepared : Option MppFrame × MppEncoder}
    (hprepare :
      tracked.threads.enc.prepareMppFrame input imported = some prepared) :
    TrackedThreads.InOrder start
      { tracked with
        threads := { tracked.threads with enc := prepared.2, stage := .idle }
        frames := tracked.frames ++
          [⟨tracked.called, tracked.seen, tracked.carried,
            tracked.threads.enc⟩] } := by
  obtain ⟨hcalled, hseen, hkept⟩ := h.ready hready
  have hsettings := prepareMppFrame_settings hprepare
  refine ⟨h.accounts, h.carried, hsettings.trans h.settings, h.called, ?_, ?_⟩
  · intro hidle
    cases hidle
  · intro frame hframe
    rcases List.mem_append.mp hframe with hbefore | hnow
    · exact h.frames frame hbefore
    · rw [List.mem_singleton.mp hnow]
      exact ⟨hcalled, hseen, h.carried.trans hkept.symm, h.settings⟩

/-- What a step of any thread preserves. -/
theorem TrackedThreads.InOrder.step (h : tracked.InOrder start)
    {event : EncoderEvent} {threads : EncoderThreads}
    (hstep : tracked.threads.step event = some threads) :
    (tracked.record threads event).InOrder start := by
  cases event with
  | requestChange control =>
      cases hstep
      exact h.requestChange control
  | process =>
      cases hstep
      unfold TrackedThreads.record
      dsimp only
      split
      · exact ⟨h.accounts, h.carried, h.settings, le_rfl,
          (fun hready => nomatch hready), h.frames⟩
      · exact h
  | hasChangeReq =>
      cases hstep
      unfold TrackedThreads.record
      dsimp only
      split
      · exact h.hasChangeReq
      · exact h
  | peekChange answers =>
      simp only [EncoderThreads.step] at hstep
      simp only [TrackedThreads.record, EncoderThreads.takes]
      split at hstep
      · rename_i hstage
        rw [if_pos hstage]
        unfold EncoderThreads.peekChange at hstep
        split at hstep
        · rename_i hlist
          cases hstep
          have haccounts := hlist ▸ h.accounts
          rw [hlist]
          exact ⟨haccounts, h.carried, h.settings, h.called,
            (fun hready => nomatch hready), h.frames⟩
        · rename_i control rest hlist
          obtain ⟨result, htake, rfl⟩ := Option.map_eq_some_iff.mp hstep
          rw [hlist]
          apply h.peekChange hlist htake
          split <;> simp
      · rename_i hstage
        cases hstep
        rw [if_neg hstage]
        exact h
  | prepare input imported =>
      simp only [EncoderThreads.step] at hstep
      unfold TrackedThreads.record
      dsimp only
      split at hstep
      · rename_i hready
        obtain ⟨prepared, hprepare, rfl⟩ := Option.map_eq_some_iff.mp hstep
        rw [if_pos hready]
        exact h.prepare hready hprepare
      · rename_i hstage
        cases hstep
        rw [if_neg hstage]
        exact h

end

def ThreadsInOrder (start : MppEncoder) (state : Option TrackedThreads) :
    Prop :=
  ∀ tracked, state = some tracked → tracked.InOrder start

/-- However the threads take turns: the requests that an encoder carries out are
those made, in this order, less those that were pushed out of the list by 51
later ones, and every picture meets the settings that they come to once all the
requests made before it have been carried out or pushed out. -/
theorem threadsRun_inOrder (start : MppEncoder) (events : List EncoderEvent) :
    States threadsStep (ThreadsInOrder start) (some (.new start)) events := by
  apply states_of_step
  · intro state event h next hnext
    simp only [threadsStep, Option.bind_eq_bind,
      Option.bind_eq_some_iff] at hnext
    obtain ⟨tracked, htracked, threads, hstep, hnext⟩ := hnext
    cases hnext
    exact (h tracked htracked).step hstep
  · intro tracked htracked
    cases htracked
    exact .new start

end RkaiqToolServer
