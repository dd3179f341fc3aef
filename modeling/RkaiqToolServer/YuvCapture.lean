import RkaiqToolServer.SendReads

/-!
# The capture of YUV frames

`DoCaptureYuv` opens the video node, maps the buffers of the driver, sends the
frames that are asked for and releases everything at its end.  Each call that
fails before the frames returns at once.  What the calls of one capture return
is held by `YuvCalls`; what the capture does with the device is published as
`YuvEvent`s, with one record for each round of the inner loop.
-/

namespace RkaiqToolServer

open ByteCodec MemoryAccess

inductive SelectOutcome
  | ready
  | interrupted
  | failed
  | timeout
  deriving DecidableEq

structure YuvFormat where
  width : UInt32
  height : UInt32

/-- The calls of one round: the buffer `VIDIOC_DQBUF` hands out, the results
of the sends, and whether `VIDIOC_QBUF` succeeds. -/
structure YuvRoundCalls where
  dequeued : Option ℕ
  sent : ℕ → ℤ
  requeued : Bool

/-- `requested` is the number of buffers that `VIDIOC_REQBUFS` grants, and
`rounds` is indexed by the counter of the frames.  `outOfRange` is what the
platform makes of a `double` that no `uint32_t` holds. -/
structure YuvCalls where
  nodeFound : Bool
  opened : Bool
  capable : Bool
  formatSet : Bool
  format : Option YuvFormat
  requested : Option ℕ
  queried : ℕ → Option ℕ
  mapped : ℕ → Bool
  queued : ℕ → Bool
  streamOn : Bool
  selects : List SelectOutcome
  rounds : ℕ → YuvRoundCalls
  outOfRange : UInt32

structure YuvRound where
  counter : ℕ
  dequeued : Option ℕ
  sent : Option ℕ
  reads : List (Access ℕ)
  requeued : List (ℕ × Bool)
  deriving DecidableEq

inductive YuvEvent
  | openDevice
  | closeDevice
  | allocBuffers
  | freeBuffers
  | mapBuffer (index : ℕ)
  | unmapBuffer (index : ℕ)
  | queueBuffer (index : ℕ) (success : Bool)
  | round (round : YuvRound)
  deriving DecidableEq

/-- How a capture ends: it returns, an assertion ends the process, or it waits
for a `select` that is still interrupted. -/
inductive YuvFinish
  | returned (value : ℤ)
  | aborted
  | waiting
  deriving DecidableEq

structure YuvRun where
  captureFramesIndex : ℕ
  events : List YuvEvent
  finish : YuvFinish

/-! ## One frame -/

/-- `width * height * 1.5` in a `uint32_t`; the product is one too. -/
def YuvCalls.fileLength (calls : YuvCalls) (format : YuvFormat) : UInt32 :=
  let size := (format.width * format.height).toNat * 3 / 2
  if size < 2 ^ 32 then UInt32.ofNat size else calls.outOfRange

/-- The reads of `SendYuvData`; its check sum is commented out. -/
def sendYuvData (answer : ℕ → ℤ) (buffer : ℕ) (size : ℕ) : List (Access ℕ) :=
  sendReads answer buffer 0 size

/-- The bytes of a buffer that are mapped; a failed map leaves none. -/
def YuvCalls.mappedSize (calls : YuvCalls) (index : ℕ) : ℕ :=
  if calls.mapped index then (calls.queried index).getD 0 else 0

/-- The `int` that `SendYuvData` is given; nothing is sent for a negative
one. -/
def YuvCalls.total (calls : YuvCalls) (format : YuvFormat) : ℕ :=
  (signed 32 (calls.fileLength format).toNat).toNat

/-- One round of the inner loop.  A failed `VIDIOC_DQBUF` leaves the index that
was put into the record, which is the counter. -/
def yuvRound (calls : YuvCalls) (format : YuvFormat) (nBuffers counter : ℕ) :
    YuvRound :=
  let outcome := calls.rounds counter
  let buffer := outcome.dequeued.getD counter
  if buffer < nBuffers then
    { counter := counter
      dequeued := outcome.dequeued
      sent := some buffer
      reads := sendYuvData outcome.sent buffer (calls.total format)
      requeued := [(buffer, outcome.requeued)] }
  else
    { counter := counter
      dequeued := outcome.dequeued
      sent := none
      reads := []
      requeued := [] }

/-- The rounds up to the last frame, or up to the one whose assertion fails. -/
def yuvRounds (calls : YuvCalls) (format : YuvFormat) (nBuffers : ℕ) :
    ℕ → ℕ → List YuvRound
  | _, 0 => []
  | counter, left + 1 =>
      let round := yuvRound calls format nBuffers counter
      round ::
        if round.sent = none then []
        else yuvRounds calls format nBuffers (counter + 1) left

/-! ## The whole capture -/

/-- The first `select` that is not interrupted. -/
def selected (outcomes : List SelectOutcome) : Option SelectOutcome :=
  outcomes.find? (· ≠ .interrupted)

def mappedBuffers (calls : YuvCalls) (nBuffers : ℕ) : List ℕ :=
  (List.range nBuffers).filter fun index => calls.mapped index

/-- Opening, mapping and queueing; the checks in between have passed. -/
def yuvSetUp (calls : YuvCalls) (nBuffers : ℕ) : List YuvEvent :=
  [.openDevice, .allocBuffers] ++
    (mappedBuffers calls nBuffers).map .mapBuffer ++
    (List.range nBuffers).map fun index =>
      .queueBuffer index (calls.queued index)

def yuvTearDown (calls : YuvCalls) (nBuffers : ℕ) : List YuvEvent :=
  (mappedBuffers calls nBuffers).map .unmapBuffer ++
    [.freeBuffers, .closeDevice]

def yuvFrames (calls : YuvCalls) (format : YuvFormat)
    (nBuffers frames index : ℕ) : YuvRun :=
  let rounds := yuvRounds calls format nBuffers index (frames - index)
  let events := yuvSetUp calls nBuffers ++ rounds.map .round
  if rounds.any fun round => round.sent = none then
    { captureFramesIndex := index + rounds.length - 1
      events := events
      finish := .aborted }
  else
    { captureFramesIndex := index + rounds.length
      events := events ++ yuvTearDown calls nBuffers
      finish := .returned 0 }

/-- `DoCaptureYuv` for `frames` frames from the counter `index` on. -/
def doCaptureYuv (calls : YuvCalls) (frames index : ℕ) : YuvRun :=
  let leave := fun (events : List YuvEvent) (value : ℤ) => ({
    captureFramesIndex := index
    events := events
    finish := .returned value } : YuvRun)
  if calls.nodeFound = false then leave [] 1
  else if calls.opened = false then leave [] (-1)
  else if calls.capable = false then leave [.openDevice] (-1)
  else if calls.formatSet = false then leave [.openDevice] (-1)
  else
    match calls.format, calls.requested with
    | none, _ => leave [.openDevice] (-1)
    | some _, none => leave [.openDevice] (-1)
    | some format, some nBuffers =>
        if nBuffers < 2 then leave [.openDevice] (-1)
        else if calls.streamOn = false then
          leave (yuvSetUp calls nBuffers) (-1)
        else
          match selected calls.selects with
          | none =>
              { captureFramesIndex := index
                events := yuvSetUp calls nBuffers
                finish := .waiting }
          | some .timeout => leave (yuvSetUp calls nBuffers) (-1)
          | some _ => yuvFrames calls format nBuffers frames index

/-! ## What is released -/

/-- The descriptor is closed, each mapping unmapped and the array freed. -/
structure YuvReleased (events : List YuvEvent) : Prop where
  closed : events.count .closeDevice = events.count .openDevice
  unmapped : ∀ index,
    events.count (.unmapBuffer index) = events.count (.mapBuffer index)
  freed : events.count .freeBuffers = events.count .allocBuffers

def ReleasesOnReturn (run : YuvRun) : Prop :=
  ∀ value, run.finish = .returned value → YuvReleased run.events

/-- No call between the open and the frames fails. -/
structure YuvPasses (calls : YuvCalls) : Prop where
  capable : calls.capable = true
  formatSet : calls.formatSet = true
  format : calls.format.isSome = true
  requested : ∃ nBuffers, calls.requested = some nBuffers ∧ 2 ≤ nBuffers
  streamOn : calls.streamOn = true
  selected : selected calls.selects ≠ some .timeout

theorem count_map_of_ne {α : Type*} {wrap : α → YuvEvent} {event : YuvEvent}
    (hne : ∀ value, wrap value ≠ event) (values : List α) :
    (values.map wrap).count event = 0 := by
  rw [List.count_eq_zero]
  intro hmem
  obtain ⟨value, -, hvalue⟩ := List.mem_map.mp hmem
  exact hne value hvalue

theorem yuvFrames_releases (calls : YuvCalls) (format : YuvFormat)
    (nBuffers frames index : ℕ) :
    ReleasesOnReturn (yuvFrames calls format nBuffers frames index) := by
  intro value hreturned
  unfold yuvFrames at hreturned ⊢
  generalize yuvRounds calls format nBuffers index (frames - index) =
    rounds at *
  simp only at hreturned ⊢
  split at hreturned
  · contradiction
  · rename_i hfinished
    rw [if_neg hfinished]
    have hmaps : ∀ event : YuvEvent, (∀ i, .mapBuffer i ≠ event) →
        ((mappedBuffers calls nBuffers).map YuvEvent.mapBuffer).count event =
          0 := fun event hne => count_map_of_ne hne _
    have hunmaps : ∀ event : YuvEvent, (∀ i, .unmapBuffer i ≠ event) →
        ((mappedBuffers calls nBuffers).map YuvEvent.unmapBuffer).count
          event = 0 := fun event hne => count_map_of_ne hne _
    have hqueues : ∀ event : YuvEvent,
        (∀ i success, .queueBuffer i success ≠ event) →
        ((List.range nBuffers).map fun i =>
          YuvEvent.queueBuffer i (calls.queued i)).count event = 0 :=
      fun event hne => count_map_of_ne (fun i => hne i _) _
    have hrounds : ∀ event : YuvEvent, (∀ r, .round r ≠ event) →
        (rounds.map YuvEvent.round).count event = 0 :=
      fun event hne => count_map_of_ne hne _
    constructor
    · simp [yuvSetUp, yuvTearDown, hmaps, hunmaps, hqueues, hrounds]
    · intro i
      have hsame :
          ((mappedBuffers calls nBuffers).map YuvEvent.unmapBuffer).count
              (.unmapBuffer i) =
            ((mappedBuffers calls nBuffers).map YuvEvent.mapBuffer).count
              (.mapBuffer i) := by
        rw [List.count_map_of_injective _ _ fun _ _ => YuvEvent.unmapBuffer.inj,
          List.count_map_of_injective _ _ fun _ _ => YuvEvent.mapBuffer.inj]
      simp [yuvSetUp, yuvTearDown, hmaps, hunmaps, hqueues, hrounds, hsame]
    · simp [yuvSetUp, yuvTearDown, hmaps, hunmaps, hqueues, hrounds]

/-- What was set up is not released by itself. -/
theorem yuvSetUp_keeps (calls : YuvCalls) (nBuffers : ℕ) :
    ¬ YuvReleased (yuvSetUp calls nBuffers) := by
  intro hreleased
  have hclosed := hreleased.closed
  have hnever : (yuvSetUp calls nBuffers).count .closeDevice = 0 := by
    rw [List.count_eq_zero]
    simp [yuvSetUp]
  rw [hnever, yuvSetUp, List.cons_append, List.cons_append,
    List.count_cons_self] at hclosed
  omega

theorem openDevice_keeps : ¬ YuvReleased [.openDevice] := by
  intro hreleased
  have hclosed := hreleased.closed
  revert hclosed
  decide

/-- The capture of the frames is reached, with this format and this number of
buffers. -/
structure YuvStarts (calls : YuvCalls) (format : YuvFormat) (nBuffers : ℕ) :
    Prop where
  nodeFound : calls.nodeFound = true
  opened : calls.opened = true
  passes : YuvPasses calls
  format_eq : calls.format = some format
  requested_eq : calls.requested = some nBuffers
  selected_some : (selected calls.selects).isSome = true

/-- The four ways through `DoCaptureYuv`. -/
inductive YuvPath (calls : YuvCalls) (frames index : ℕ) : YuvRun → Prop
  | unopened (value : ℤ)
      (hopened : calls.nodeFound = false ∨ calls.opened = false)
      (hvalue : value ≠ 0) :
      YuvPath calls frames index
        { captureFramesIndex := index, events := [],
          finish := .returned value }
  | left (events : List YuvEvent)
      (hopened : calls.nodeFound = true ∧ calls.opened = true)
      (hfails : ¬ YuvPasses calls)
      (hevents : events = [.openDevice] ∨
        ∃ nBuffers, events = yuvSetUp calls nBuffers) :
      YuvPath calls frames index
        { captureFramesIndex := index, events := events,
          finish := .returned (-1) }
  | waits (nBuffers : ℕ)
      (hopened : calls.nodeFound = true ∧ calls.opened = true)
      (hpasses : YuvPasses calls) (hselected : selected calls.selects = none) :
      YuvPath calls frames index
        { captureFramesIndex := index, events := yuvSetUp calls nBuffers,
          finish := .waiting }
  | captures (format : YuvFormat) (nBuffers : ℕ)
      (hstarts : YuvStarts calls format nBuffers) :
      YuvPath calls frames index
        (yuvFrames calls format nBuffers frames index)

theorem doCaptureYuv_path (calls : YuvCalls) (frames index : ℕ) :
    YuvPath calls frames index (doCaptureYuv calls frames index) := by
  unfold doCaptureYuv
  by_cases hnode : calls.nodeFound = false
  · simp only [if_pos hnode]
    exact .unopened 1 (.inl hnode) (by decide)
  by_cases hopen : calls.opened = false
  · simp only [if_neg hnode, if_pos hopen]
    exact .unopened (-1) (.inr hopen) (by decide)
  have hopened : calls.nodeFound = true ∧ calls.opened = true :=
    ⟨Bool.eq_true_of_not_eq_false hnode, Bool.eq_true_of_not_eq_false hopen⟩
  simp only [if_neg hnode, if_neg hopen]
  have hleft : ¬ YuvPasses calls → YuvPath calls frames index
      { captureFramesIndex := index, events := [.openDevice],
        finish := .returned (-1) } :=
    fun hfails => .left _ hopened hfails (.inl rfl)
  by_cases hcapable : calls.capable = false
  · rw [if_pos hcapable]
    exact hleft fun hpasses => by
      simpa [hcapable] using hpasses.capable
  by_cases hformatSet : calls.formatSet = false
  · rw [if_neg hcapable, if_pos hformatSet]
    exact hleft fun hpasses => by
      simpa [hformatSet] using hpasses.formatSet
  rw [if_neg hcapable, if_neg hformatSet]
  split
  case h_1 hformat =>
    exact hleft fun hpasses => by simpa [hformat] using hpasses.format
  case h_2 hrequested =>
    refine hleft fun hpasses => ?_
    obtain ⟨nBuffers, hsome, -⟩ := hpasses.requested
    simp [hrequested] at hsome
  case h_3 format nBuffers hformat hrequested =>
    by_cases hfew : nBuffers < 2
    · rw [if_pos hfew]
      refine hleft fun hpasses => ?_
      obtain ⟨granted, hsome, hmany⟩ := hpasses.requested
      rw [hrequested, Option.some.injEq] at hsome
      omega
    rw [if_neg hfew]
    have hset : ¬ YuvPasses calls → YuvPath calls frames index
        { captureFramesIndex := index, events := yuvSetUp calls nBuffers,
          finish := .returned (-1) } :=
      fun hfails => .left _ hopened hfails (.inr ⟨nBuffers, rfl⟩)
    by_cases hstream : calls.streamOn = false
    · rw [if_pos hstream]
      exact hset fun hpasses => by simpa [hstream] using hpasses.streamOn
    rw [if_neg hstream]
    have hpasses : selected calls.selects ≠ some .timeout →
        YuvPasses calls := fun hselected =>
      ⟨Bool.eq_true_of_not_eq_false hcapable,
        Bool.eq_true_of_not_eq_false hformatSet, by rw [hformat]; rfl,
        ⟨nBuffers, hrequested, not_lt.mp hfew⟩,
        Bool.eq_true_of_not_eq_false hstream, hselected⟩
    split
    case h_1 hselected =>
      exact .waits nBuffers hopened (hpasses (by rw [hselected]; simp))
        hselected
    case h_2 hselected =>
      exact hset fun hpasses => hpasses.selected hselected
    case h_3 outcome htimeout hselected =>
      refine .captures format nBuffers
        ⟨hopened.1, hopened.2, hpasses ?_, hformat, hrequested, by
          rw [hselected]; rfl⟩
      rw [hselected]
      intro hsame
      exact htimeout (Option.some.inj hsame)

/-- A capture releases what it took exactly when nothing was opened, or no call
between the open and the frames fails. -/
theorem doCaptureYuv_releases_iff (calls : YuvCalls) (frames index : ℕ) :
    ReleasesOnReturn (doCaptureYuv calls frames index) ↔
      calls.nodeFound = false ∨ calls.opened = false ∨ YuvPasses calls := by
  have hpath := doCaptureYuv_path calls frames index
  generalize doCaptureYuv calls frames index = run at hpath ⊢
  cases hpath with
  | unopened value hopened hvalue =>
      exact iff_of_true (fun _ _ => ⟨rfl, fun _ => rfl, rfl⟩)
        (hopened.imp_right .inl)
  | left events hopened hfails hevents =>
      refine iff_of_false (fun hreleases => ?_) ?_
      · have hreleased := hreleases (-1) rfl
        rcases hevents with rfl | ⟨nBuffers, rfl⟩
        · exact openDevice_keeps hreleased
        · exact yuvSetUp_keeps calls nBuffers hreleased
      · simp [hopened, hfails]
  | waits nBuffers hopened hpasses hselected =>
      refine iff_of_true (fun value hreturned => ?_) (.inr (.inr hpasses))
      contradiction
  | captures format nBuffers hstarts =>
      exact iff_of_true (yuvFrames_releases _ _ _ _ _)
        (.inr (.inr hstarts.passes))

/-- A capture whose calls succeed, with four buffers of 24 bytes for a frame of
4 x 4 pixels. -/
def workingYuvCalls : YuvCalls where
  nodeFound := true
  opened := true
  capable := true
  formatSet := true
  format := some { width := 4, height := 4 }
  requested := some 4
  queried := fun _ => some 24
  mapped := fun _ => true
  queued := fun _ => true
  streamOn := true
  selects := [.ready]
  rounds := fun counter =>
    { dequeued := some (counter % 4)
      sent := fun _ => 24
      requeued := true }
  outOfRange := 0

/-- After a timeout the descriptor, four mappings and their array stay. -/
theorem doCaptureYuv_timeout :
    let run := doCaptureYuv { workingYuvCalls with selects := [.timeout] } 1 0
    run.finish = .returned (-1) ∧ ¬ YuvReleased run.events := by
  intro run
  have hrun : run =
      { captureFramesIndex := 0
        events := yuvSetUp { workingYuvCalls with selects := [.timeout] } 4
        finish := .returned (-1) } := rfl
  rw [hrun]
  exact ⟨rfl, yuvSetUp_keeps _ _⟩

end RkaiqToolServer
