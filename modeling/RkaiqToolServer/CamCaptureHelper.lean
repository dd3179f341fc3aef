import RkaiqToolServer.ByteCodec

/-!
# Opening and closing the camera of the RTSP server

`CamCaptureHelper::init` opens the device, maps its buffers and exports a
descriptor of each; every failure but the last goes through `deinit`, which
unmaps all the entries of the buffer table and closes all their descriptors,
however many of them have been set.
-/

namespace RkaiqToolServer

open ByteCodec

structure CamFrame where
  start : ℕ
  length : ℕ
  exportFd : ℤ

/-- The constructor sets `mDevfd` to -1 and leaves the buffer table as the
memory held it. -/
structure CamCaptureHelper where
  mDevfd : ℤ
  mCambuf : ℕ → CamFrame

def mPixBufCnt : ℕ := 4

def mapFailed : ℕ := 2 ^ 64 - 1

/-- What the calls of one `init` return, where `v4l2Ioctl` has repeated an
interrupted one: the descriptor of `open`, the outcome of the calls before the
buffers, and for each buffer its length, where it is mapped and the descriptor
exported, `none` for a failure. -/
structure CamInitCalls where
  metaGiven : Bool
  opened : ℤ
  queryCap : Bool
  videoCapture : Bool
  streaming : Bool
  setFormat : Bool
  getFormat : Bool
  requestBuffers : Bool
  count : ℕ
  queryBuf : ℕ → Bool
  length : ℕ → UInt32
  mapped : ℕ → Option ℕ
  exported : ℕ → Option ℤ
  queueBuf : ℕ → Bool
  streamOn : Bool

/-- What is acquired and released, in its order. -/
inductive CamEvent
  | opened (fd : ℤ)
  | mapped (start length : ℕ)
  | exported (fd : ℤ)
  | unmapped (start length : ℕ)
  | closed (fd : ℤ)
  deriving DecidableEq

/-- A `__u32` kept in an `int` and stored into a `size_t`. -/
def sizeFromInt (length : UInt32) : ℕ :=
  (wrapInt length.toNat % 2 ^ 64).toNat

def CamCaptureHelper.setFrame (s : CamCaptureHelper) (index : ℕ)
    (frame : CamFrame) : CamCaptureHelper :=
  { s with
    mCambuf := fun other =>
      if other = index then frame else s.mCambuf other }

/-! ## Clean-up -/

def CamCaptureHelper.deinit (s : CamCaptureHelper) :
    CamCaptureHelper × List CamEvent :=
  if s.mDevfd < 0 then (s, [])
  else
    ({ s with mDevfd := -1 },
      ((List.range mPixBufCnt).flatMap fun index =>
        [.unmapped (s.mCambuf index).start (s.mCambuf index).length,
          .closed (s.mCambuf index).exportFd]) ++
        [.closed s.mDevfd])

/-! ## Acquisition -/

/-- The body of the mapping loop; the flag is cleared by a jump to the
clean-up. -/
def CamCaptureHelper.mapBuffer (calls : CamInitCalls) (s : CamCaptureHelper)
    (index : ℕ) : CamCaptureHelper × List CamEvent × Bool :=
  if calls.queryBuf index = false then (s, [], false)
  else
    let frame := s.mCambuf index
    match calls.mapped index with
    | none => (s.setFrame index { frame with start := mapFailed }, [], false)
    | some start =>
        let acquired := CamEvent.mapped start (calls.length index).toNat
        let frame := { frame with
          start := start
          length := sizeFromInt (calls.length index) }
        match calls.exported index with
        | none => (s.setFrame index frame, [acquired], false)
        | some fd =>
            (s.setFrame index { frame with exportFd := fd },
              [acquired, .exported fd], true)

def CamCaptureHelper.mapBuffers (calls : CamInitCalls) :
    CamCaptureHelper → List ℕ → CamCaptureHelper × List CamEvent × Bool
  | s, [] => (s, [], true)
  | s, index :: rest =>
      let mapped := s.mapBuffer calls index
      if mapped.2.2 = false then mapped
      else
        let later := CamCaptureHelper.mapBuffers calls mapped.1 rest
        (later.1, mapped.2.1 ++ later.2.1, later.2.2)

/-- The calls between `open` and the mapping loop. -/
def CamInitCalls.Configured (calls : CamInitCalls) : Prop :=
  calls.queryCap = true ∧ calls.videoCapture = true ∧
    calls.streaming = true ∧ calls.setFormat = true ∧
      calls.getFormat = true ∧ calls.requestBuffers = true ∧
        calls.count = mPixBufCnt

instance CamInitCalls.decidableConfigured (calls : CamInitCalls) :
    Decidable calls.Configured :=
  inferInstanceAs (Decidable (_ ∧ _))

/-- The label `_FAIL`. -/
def CamCaptureHelper.fail (s : CamCaptureHelper) (events : List CamEvent) :
    CamCaptureHelper × List CamEvent × Bool :=
  (s.deinit.1, events ++ s.deinit.2, false)

def CamInitCalls.AllQueued (calls : CamInitCalls) : Prop :=
  ∀ index < mPixBufCnt, calls.queueBuf index = true

instance CamInitCalls.decidableAllQueued (calls : CamInitCalls) :
    Decidable calls.AllQueued :=
  inferInstanceAs (Decidable (∀ _, _))

def CamCaptureHelper.init (calls : CamInitCalls) (s : CamCaptureHelper) :
    CamCaptureHelper × List CamEvent × Bool :=
  if calls.metaGiven = false then (s, [], false)
  else
    let s := { s with mDevfd := calls.opened }
    if calls.opened < 0 then s.fail []
    else if calls.Configured then
      let mapped := s.mapBuffers calls (List.range mPixBufCnt)
      let events := .opened calls.opened :: mapped.2.1
      if mapped.2.2 = false then mapped.1.fail events
      else if calls.AllQueued then (mapped.1, events, calls.streamOn)
      else mapped.1.fail events
    else s.fail [.opened calls.opened]

/-! ## What a failure should release -/

def CamEvent.mapping : CamEvent → Option (ℕ × ℕ)
  | .mapped start length => some (start, length)
  | _ => none

def CamEvent.unmapping : CamEvent → Option (ℕ × ℕ)
  | .unmapped start length => some (start, length)
  | _ => none

def CamEvent.descriptor : CamEvent → Option ℤ
  | .opened fd => some fd
  | .exported fd => some fd
  | _ => none

def CamEvent.closing : CamEvent → Option ℤ
  | .closed fd => some fd
  | _ => none

/-- What is released is what was acquired, each thing once. -/
structure ReleasesAcquired (events : List CamEvent) : Prop where
  buffers : (events.filterMap CamEvent.unmapping).Perm
    (events.filterMap CamEvent.mapping)
  descriptors : (events.filterMap CamEvent.closing).Perm
    (events.filterMap CamEvent.descriptor)

def CamInitCalls.MapsBuffer (calls : CamInitCalls) (index : ℕ) : Prop :=
  calls.queryBuf index = true ∧ (calls.mapped index).isSome = true ∧
    (calls.exported index).isSome = true

/-- Nothing was acquired, or every buffer was mapped and exported: then either
`init` succeeds, or a buffer cannot be queued and each length fits an
`int`. -/
def CamInitCalls.CleansUp (calls : CamInitCalls) : Prop :=
  calls.metaGiven = false ∨ calls.opened < 0 ∨
    (calls.Configured ∧ (∀ index < mPixBufCnt, calls.MapsBuffer index) ∧
      if calls.AllQueued then calls.streamOn = true
      else ∀ index < mPixBufCnt, (calls.length index).toNat < 2 ^ 31)

/-! ## The mapping loop -/

/-- The entry of a buffer that was mapped and exported. -/
def CamInitCalls.frame (calls : CamInitCalls) (index : ℕ) : CamFrame where
  start := (calls.mapped index).getD 0
  length := sizeFromInt (calls.length index)
  exportFd := (calls.exported index).getD 0

def CamInitCalls.acquisition (calls : CamInitCalls) (index : ℕ) :
    List CamEvent :=
  [.mapped ((calls.mapped index).getD 0) (calls.length index).toNat,
    .exported ((calls.exported index).getD 0)]

section Loop

variable {calls : CamInitCalls} {s : CamCaptureHelper} {index : ℕ}

theorem mapBuffer_ok (hmaps : calls.MapsBuffer index) :
    s.mapBuffer calls index =
      (s.setFrame index (calls.frame index), calls.acquisition index,
        true) := by
  obtain ⟨hquery, hmapped, hexported⟩ := hmaps
  obtain ⟨start, hstart⟩ := Option.isSome_iff_exists.mp hmapped
  obtain ⟨fd, hfd⟩ := Option.isSome_iff_exists.mp hexported
  simp [CamCaptureHelper.mapBuffer, CamInitCalls.frame,
    CamInitCalls.acquisition, hquery, hstart, hfd]

/-- A failing round exports nothing and leaves the descriptor of the
device. -/
theorem mapBuffer_fails (hmaps : ¬ calls.MapsBuffer index) :
    (s.mapBuffer calls index).2.2 = false ∧
      (s.mapBuffer calls index).1.mDevfd = s.mDevfd ∧
      (s.mapBuffer calls index).2.1.filterMap CamEvent.descriptor = [] ∧
      (s.mapBuffer calls index).2.1.filterMap CamEvent.closing = [] := by
  rw [CamCaptureHelper.mapBuffer]
  split_ifs with hquery
  · exact ⟨rfl, rfl, rfl, rfl⟩
  · cases hmapped : calls.mapped index with
    | none => exact ⟨rfl, rfl, rfl, rfl⟩
    | some start =>
        cases hexported : calls.exported index with
        | none => exact ⟨rfl, rfl, rfl, rfl⟩
        | some fd =>
            exact absurd ⟨by simpa using hquery, by rw [hmapped]; rfl,
              by rw [hexported]; rfl⟩ hmaps

theorem mapBuffers_ok {indexes : List ℕ} :
    ∀ {s : CamCaptureHelper},
      (∀ index ∈ indexes, calls.MapsBuffer index) →
      s.mapBuffers calls indexes =
        ({ s with
            mCambuf := fun index =>
              if index ∈ indexes then calls.frame index
              else s.mCambuf index },
          indexes.flatMap calls.acquisition, true) := by
  induction indexes with
  | nil =>
      intro s _
      simp [CamCaptureHelper.mapBuffers]
  | cons first rest ih =>
      intro s hmaps
      rw [List.forall_mem_cons] at hmaps
      have htable : (fun index => if index ∈ rest then calls.frame index
            else (s.setFrame first (calls.frame first)).mCambuf index) =
          fun index => if index ∈ first :: rest then calls.frame index
            else s.mCambuf index := by
        funext index
        by_cases hfirst : index = first
        · simp [CamCaptureHelper.setFrame, hfirst]
        · simp [CamCaptureHelper.setFrame, hfirst]
      rw [CamCaptureHelper.mapBuffers, mapBuffer_ok hmaps.1, ih hmaps.2,
        htable]
      rfl

theorem mapBuffers_fails {indexes : List ℕ} :
    ∀ {s : CamCaptureHelper},
      (¬ ∀ index ∈ indexes, calls.MapsBuffer index) →
      (s.mapBuffers calls indexes).2.2 = false ∧
        (s.mapBuffers calls indexes).1.mDevfd = s.mDevfd ∧
        ((s.mapBuffers calls indexes).2.1.filterMap
          CamEvent.descriptor).length < indexes.length ∧
        (s.mapBuffers calls indexes).2.1.filterMap
          CamEvent.closing = [] := by
  induction indexes with
  | nil =>
      intro s hfails
      exact absurd (by simp) hfails
  | cons first rest ih =>
      intro s hfails
      rw [List.forall_mem_cons, not_and] at hfails
      rw [CamCaptureHelper.mapBuffers]
      by_cases hfirst : calls.MapsBuffer first
      · obtain ⟨hflag, hfd, hcount, hclosed⟩ :=
          ih (s := s.setFrame first (calls.frame first)) (hfails hfirst)
        simp only [mapBuffer_ok hfirst, Bool.true_eq_false, if_false]
        refine ⟨hflag, hfd, ?_, ?_⟩
        · rw [List.filterMap_append, List.length_append, List.length_cons]
          simp only [CamInitCalls.acquisition, CamEvent.descriptor,
            List.filterMap_cons, List.filterMap_nil, List.length_cons,
            List.length_nil]
          omega
        · rw [List.filterMap_append, hclosed]
          rfl
      · obtain ⟨hflag, hfd, hnone, hclosed⟩ :=
          mapBuffer_fails (s := s) hfirst
        rw [if_pos hflag, hnone]
        exact ⟨hflag, hfd, Nat.zero_lt_succ _, hclosed⟩

end Loop

/-! ## What the clean-up releases -/

theorem deinit_events {s : CamCaptureHelper} (hopen : 0 ≤ s.mDevfd) :
    s.deinit.2.filterMap CamEvent.unmapping =
        (List.range mPixBufCnt).map (fun index =>
          ((s.mCambuf index).start, (s.mCambuf index).length)) ∧
      s.deinit.2.filterMap CamEvent.closing =
        (List.range mPixBufCnt).map (fun index =>
          (s.mCambuf index).exportFd) ++ [s.mDevfd] ∧
      s.deinit.2.filterMap CamEvent.mapping = [] ∧
      s.deinit.2.filterMap CamEvent.descriptor = [] := by
  rw [CamCaptureHelper.deinit, if_neg (not_lt.mpr hopen)]
  exact ⟨rfl, rfl, rfl, rfl⟩

/-- The clean-up closes as many descriptors as a whole start acquires. -/
theorem descriptors_of_released {s : CamCaptureHelper}
    {events : List CamEvent} (hopen : 0 ≤ s.mDevfd)
    (hclosed : events.filterMap CamEvent.closing = [])
    (hreleased : ReleasesAcquired (events ++ s.deinit.2)) :
    (events.filterMap CamEvent.descriptor).length = mPixBufCnt + 1 := by
  obtain ⟨-, hclosing, -, hdescriptor⟩ := deinit_events hopen
  have hlength := hreleased.descriptors.length_eq
  rw [List.filterMap_append, List.filterMap_append, hclosed, hclosing,
    hdescriptor] at hlength
  simpa using hlength.symm

theorem sizeFromInt_of_lt {length : UInt32} (hlt : length.toNat < 2 ^ 31) :
    sizeFromInt length = length.toNat := by
  rw [sizeFromInt, wrapInt_of_range (by omega) (by omega)]
  omega

theorem lt_of_sizeFromInt {length : UInt32}
    (hlt : sizeFromInt length < 2 ^ 32) : length.toNat < 2 ^ 31 := by
  by_contra hlarge
  have hbound := length.toNat_lt
  rw [sizeFromInt, wrapInt_of_overflow (by omega) (by omega)] at hlt
  omega

theorem acquired_mappings (calls : CamInitCalls) (indexes : List ℕ) :
    (indexes.flatMap calls.acquisition).filterMap CamEvent.mapping =
      indexes.map fun index =>
        ((calls.mapped index).getD 0, (calls.length index).toNat) := by
  induction indexes with
  | nil => rfl
  | cons first rest ih =>
      rw [List.flatMap_cons, List.filterMap_append, ih]
      rfl

theorem acquired_descriptors (calls : CamInitCalls) (indexes : List ℕ) :
    (indexes.flatMap calls.acquisition).filterMap CamEvent.descriptor =
      indexes.map fun index => (calls.exported index).getD 0 := by
  induction indexes with
  | nil => rfl
  | cons first rest ih =>
      rw [List.flatMap_cons, List.filterMap_append, ih]
      rfl

theorem acquired_releases (calls : CamInitCalls) (indexes : List ℕ) :
    (indexes.flatMap calls.acquisition).filterMap CamEvent.unmapping = [] ∧
      (indexes.flatMap calls.acquisition).filterMap CamEvent.closing =
        [] := by
  induction indexes with
  | nil => exact ⟨rfl, rfl⟩
  | cons first rest ih =>
      rw [List.flatMap_cons, List.filterMap_append, List.filterMap_append,
        ih.1, ih.2]
      exact ⟨rfl, rfl⟩

/-- After a whole mapping loop the clean-up releases what was acquired exactly
when no length was spoiled on its way through an `int`. -/
theorem released_after_mapping {calls : CamInitCalls}
    {s : CamCaptureHelper} {fd : ℤ} (hfd : s.mDevfd = fd) (hopen : 0 ≤ fd)
    (htable : ∀ index < mPixBufCnt, s.mCambuf index = calls.frame index) :
    ReleasesAcquired ((.opened fd ::
        (List.range mPixBufCnt).flatMap calls.acquisition) ++ s.deinit.2) ↔
      ∀ index < mPixBufCnt, (calls.length index).toNat < 2 ^ 31 := by
  rw [← hfd] at hopen ⊢
  obtain ⟨hunmapping, hclosing, hmapping, hdescriptor⟩ := deinit_events hopen
  obtain ⟨hnone, hkept⟩ :=
    acquired_releases calls (List.range mPixBufCnt)
  have hframes : ∀ index ∈ List.range mPixBufCnt,
      s.mCambuf index = calls.frame index :=
    fun index hindex => htable index (List.mem_range.mp hindex)
  constructor
  · intro hreleased index hindex
    have hbuffers := hreleased.buffers
    rw [List.filterMap_append, List.filterMap_append, hunmapping, hmapping,
      List.filterMap_cons_none rfl, List.filterMap_cons_none rfl, hnone,
      acquired_mappings, List.nil_append, List.append_nil] at hbuffers
    have hmem := hbuffers.mem_iff.mp (List.mem_map.mpr
      ⟨index, List.mem_range.mpr hindex, rfl⟩)
    obtain ⟨other, -, hother⟩ := List.mem_map.mp hmem
    have hsize := (Prod.mk.inj hother).2
    rw [htable index hindex] at hsize
    change (calls.length other).toNat =
      sizeFromInt (calls.length index) at hsize
    have hbound := (calls.length other).toNat_lt
    exact lt_of_sizeFromInt (by omega)
  · intro hlengths
    constructor
    · rw [List.filterMap_append, List.filterMap_append, hunmapping, hmapping,
        List.filterMap_cons_none rfl, List.filterMap_cons_none rfl, hnone,
        acquired_mappings, List.nil_append, List.append_nil]
      refine List.Perm.of_eq (List.map_congr_left fun index hindex => ?_)
      rw [hframes index hindex, CamInitCalls.frame,
        sizeFromInt_of_lt (hlengths index (List.mem_range.mp hindex))]
    · have hdescriptors : (List.range mPixBufCnt).map (fun index =>
            (s.mCambuf index).exportFd) =
          (List.range mPixBufCnt).map fun index =>
            (calls.exported index).getD 0 :=
        List.map_congr_left fun index hindex => by
          rw [hframes index hindex, CamInitCalls.frame]
      rw [List.filterMap_append, List.filterMap_append, hclosing,
        hdescriptor, List.filterMap_cons_none rfl,
        List.filterMap_cons_some (show CamEvent.descriptor
          (.opened s.mDevfd) = some s.mDevfd from rfl), hkept,
        acquired_descriptors,
        hdescriptors, List.nil_append, List.append_nil]
      exact List.perm_append_singleton _ _

/-! ## The whole of `init` -/

theorem fail_releases_iff {s : CamCaptureHelper} {events : List CamEvent} :
    ((s.fail events).2.2 = false →
        ReleasesAcquired (s.fail events).2.1) ↔
      ReleasesAcquired (events ++ s.deinit.2) := by
  rw [CamCaptureHelper.fail]
  simp

theorem not_released_before_mapping {s : CamCaptureHelper}
    (hopen : 0 ≤ s.mDevfd) :
    ¬ ReleasesAcquired ([.opened s.mDevfd] ++ s.deinit.2) := by
  intro hreleased
  have hcount := descriptors_of_released hopen rfl hreleased
  cases hcount

theorem not_released_in_mapping {calls : CamInitCalls}
    {s : CamCaptureHelper} (hopen : 0 ≤ s.mDevfd)
    (hfails : ¬ ∀ index < mPixBufCnt, calls.MapsBuffer index) :
    (s.mapBuffers calls (List.range mPixBufCnt)).2.2 = false ∧
      ¬ ReleasesAcquired
        ((.opened s.mDevfd ::
            (s.mapBuffers calls (List.range mPixBufCnt)).2.1) ++
          (s.mapBuffers calls (List.range mPixBufCnt)).1.deinit.2) := by
  have hsome : ¬ ∀ index ∈ List.range mPixBufCnt,
      calls.MapsBuffer index := by
    simpa using hfails
  obtain ⟨hflag, hfd, hcount, hclosed⟩ := mapBuffers_fails (s := s) hsome
  rw [List.length_range] at hcount
  refine ⟨hflag, fun hreleased => ?_⟩
  have hwhole := descriptors_of_released (by rw [hfd]; exact hopen)
    (by rw [List.filterMap_cons_none rfl]; exact hclosed) hreleased
  rw [List.filterMap_cons_some (show CamEvent.descriptor
    (.opened s.mDevfd) = some s.mDevfd from rfl), List.length_cons] at hwhole
  omega

/-- `init` on a device that was opened, with every buffer mapped. -/
theorem not_released_before_start (calls : CamInitCalls) (fd : ℤ) :
    ¬ ReleasesAcquired (.opened fd ::
      (List.range mPixBufCnt).flatMap calls.acquisition) := by
  intro hreleased
  have hlength := hreleased.descriptors.length_eq
  rw [List.filterMap_cons_none rfl,
    (acquired_releases calls (List.range mPixBufCnt)).2,
    List.filterMap_cons_some (show CamEvent.descriptor
      (.opened fd) = some fd from rfl)] at hlength
  cases hlength

/-- A failing `init` releases exactly what it has acquired when it has
acquired nothing, or everything and is stopped by a buffer that cannot be
queued. -/
theorem init_releases_iff (calls : CamInitCalls) (s : CamCaptureHelper) :
    ((s.init calls).2.2 = false → ReleasesAcquired (s.init calls).2.1) ↔
      calls.CleansUp := by
  have hnothing : ReleasesAcquired [] := ⟨.nil, .nil⟩
  rw [CamCaptureHelper.init, CamInitCalls.CleansUp]
  by_cases hmeta : calls.metaGiven = false
  · simp [hmeta, hnothing]
  by_cases hopened : calls.opened < 0
  · simp [hmeta, hopened, CamCaptureHelper.fail, CamCaptureHelper.deinit,
      hnothing]
  rw [if_neg hmeta, if_neg hopened]
  generalize hs : ({ s with mDevfd := calls.opened } : CamCaptureHelper) = s'
  have hfd : calls.opened = s'.mDevfd := by rw [← hs]
  rw [not_lt, hfd] at hopened
  rw [or_iff_right hmeta, hfd, or_iff_right (not_lt.mpr hopened)]
  by_cases hconfigured : calls.Configured
  · rw [if_pos hconfigured, and_iff_right hconfigured]
    by_cases hmaps : ∀ index < mPixBufCnt, calls.MapsBuffer index
    · have hindexes : ∀ index ∈ List.range mPixBufCnt,
          calls.MapsBuffer index := by
        simpa using hmaps
      have hstart := not_released_before_start calls s'.mDevfd
      rw [and_iff_right hmaps, mapBuffers_ok hindexes]
      simp only [Bool.true_eq_false, if_false]
      by_cases hqueued : calls.AllQueued
      · simp only [hqueued, if_true]
        cases calls.streamOn with
        | true => simp
        | false => simpa using hstart
      · simp only [hqueued, if_false, fail_releases_iff]
        refine released_after_mapping rfl hopened ?_
        intro index hindex
        simp [hindex]
    · obtain ⟨hflag, hnot⟩ := not_released_in_mapping hopened hmaps
      simpa only [hmaps, hflag, if_true, fail_releases_iff, false_and,
        iff_false] using hnot
  · have hnot := not_released_before_mapping hopened
    simpa only [hconfigured, if_false, fail_releases_iff, false_and,
      iff_false] using hnot

/-- A device that gives four buffers of a page each. -/
def camInitCalls (queryBuf : ℕ → Bool) : CamInitCalls where
  metaGiven := true
  opened := 5
  queryCap := true
  videoCapture := true
  streaming := true
  setFormat := true
  getFormat := true
  requestBuffers := true
  count := 4
  queryBuf := queryBuf
  length := fun _ => 4096
  mapped := fun index => some (65536 + 4096 * index)
  exported := fun index => some (6 + index)
  queueBuf := fun _ => true
  streamOn := true

/-- A table that the memory of the object left with zeros. -/
def newCamCaptureHelper : CamCaptureHelper where
  mDevfd := -1
  mCambuf := fun _ => { start := 0, length := 0, exportFd := 0 }

theorem first_query_fails_not_released :
    ¬ ∀ (calls : CamInitCalls) (s : CamCaptureHelper),
      (s.init calls).2.2 = false → ReleasesAcquired (s.init calls).2.1 := by
  intro hreleases
  have hreleased := hreleases (camInitCalls fun _ => false)
    newCamCaptureHelper (by decide)
  have hlength := hreleased.buffers.length_eq
  exact absurd hlength (by decide)

end RkaiqToolServer
