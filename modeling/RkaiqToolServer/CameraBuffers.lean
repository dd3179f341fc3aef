import RkaiqToolServer.EventOrder
import RkaiqToolServer.RawCapture

/-!
# The buffers array of the camera

`init_device` allocates the array `cap_info->buffers` and maps its buffers,
`read_frame` works through it, and `uninit_device` unmaps the buffers and
frees it.  The pointer and `n_buffers` are left as they are by
`uninit_device`, and by an `init_device` that returns early; the callers go on
in either case.  The memory that the methods other than memory mapping give
their buffers is left out.
-/

namespace RkaiqToolServer

open EventOrder
open StepRun

/-! ## init_device -/

def capVideoCapture : UInt32 := 0x00000001
def capVideoCaptureMplane : UInt32 := 0x00001000
def capReadWrite : UInt32 := 0x01000000
def capStreaming : UInt32 := 0x04000000

/-- `VIDIOC_REQBUFS`: it grants a number of buffers, or fails with EINVAL or
another error. -/
inductive ReqBufs
  | granted (count : ℕ)
  | einval
  | failed

/-- What the calls of one `init_device` do.  `querycap` is `none` when
`VIDIOC_QUERYCAP` fails, and the capabilities are then what the stack holds;
`length i` and `maps i` are the length of the `i`-th buffer and whether it is
mapped. -/
structure InitCalls where
  querycap : Option UInt32
  stackCapabilities : UInt32
  mmapNumber : ℕ
  reqBufs : ReqBufs
  allocates : Bool
  length : ℕ → ℕ
  maps : ℕ → Bool

/-- `init_device` returns -1, ends the process, or leaves a new array, of
whose buffers these are mapped. -/
inductive InitResult
  | failed
  | ended
  | ready (mapped : List Bool)

def checkIoMethod (io : IoMethod) (capabilities : UInt32) : Bool :=
  match io with
  | .read => decide (capabilities &&& capReadWrite ≠ 0)
  | .mmap | .userptr => decide (capabilities &&& capStreaming ≠ 0)

/-- The count in the request of `init_mmap`; a failed call leaves it. -/
def requestedCount (calls : InitCalls) : Option ℕ :=
  match calls.reqBufs with
  | .granted count => some count
  | .einval => none
  | .failed => some calls.mmapNumber

/-- A buffer that could not be mapped is cleared all the same, which only a
length of zero survives. -/
def initMmap (calls : InitCalls) : InitResult :=
  match requestedCount calls with
  | none => .ended
  | some count =>
      if count < 2 ∨ calls.allocates = false then .ended
      else if ∀ i < count, calls.maps i = true ∨ calls.length i = 0 then
        .ready ((List.range count).map calls.maps)
      else .ended

/-- `init_read` does not touch `n_buffers`; `init_userp` has four buffers. -/
def initIoMethod (io : IoMethod) (mapped : List Bool) (calls : InitCalls) :
    InitResult :=
  match io with
  | .read => if calls.allocates then .ready mapped else .ended
  | .mmap => initMmap calls
  | .userptr =>
      match calls.reqBufs with
      | .einval => .ended
      | _ =>
          if calls.allocates then .ready (List.replicate 4 false) else .ended

def initDevice (io : IoMethod) (mapped : List Bool) (calls : InitCalls) :
    InitResult :=
  let capabilities := calls.querycap.getD calls.stackCapabilities
  if calls.querycap.isSome ∧ capabilities &&& capVideoCapture = 0 ∧
      capabilities &&& capVideoCaptureMplane = 0 then .failed
  else if checkIoMethod io capabilities = false then .failed
  else initIoMethod io mapped calls

/-! ## The array -/

/-- The value of `cap_info->buffers`: no array yet, one that is allocated, and
whether the `init_device` that allocated it is the last one, or one that has
been freed. -/
inductive BuffersPointer
  | null
  | held (current : Bool)
  | freed
  deriving DecidableEq

/-- `n_buffers` is the length of `mapped`; `alive` says that the process has
not ended. -/
structure CameraBuffers where
  buffers : BuffersPointer
  mapped : List Bool
  alive : Bool

def CameraBuffers.initial : CameraBuffers where
  buffers := .null
  mapped := []
  alive := true

inductive BufferEvent
  | initDevice
  | calloc
  | mmap (index : ℕ)
  | access
  | munmap (index : ℕ)
  | free
  deriving DecidableEq

/-- A call of the camera functions; a `read_frame` has the index of the buffer
that it is given, if any. -/
inductive CameraCall
  | initDevice (calls : InitCalls)
  | readFrame (delivered : Option ℕ)
  | uninitDevice

def mappedIndices (mapped : List Bool) : List ℕ :=
  (List.range mapped.length).filter fun index => mapped.getD index false

def mappingEvents (io : IoMethod) (mapped : List Bool)
    (event : ℕ → BufferEvent) : List BufferEvent :=
  match io with
  | .mmap => (mappedIndices mapped).map event
  | .read | .userptr => []

/-- An array of an earlier `init_device` stays allocated. -/
def BuffersPointer.outdated : BuffersPointer → BuffersPointer
  | .held _ => .held false
  | pointer => pointer

def initBuffers (io : IoMethod) (camera : CameraBuffers)
    (calls : InitCalls) : CameraBuffers × List BufferEvent :=
  match initDevice io camera.mapped calls with
  | .failed =>
      ({ camera with buffers := camera.buffers.outdated }, [.initDevice])
  | .ended =>
      ({ camera with buffers := camera.buffers.outdated, alive := false },
        [.initDevice])
  | .ready mapped =>
      ({ camera with buffers := .held true, mapped := mapped },
        [.initDevice, .calloc] ++ mappingEvents io mapped .mmap)

def readBuffers (io : IoMethod) (camera : CameraBuffers)
    (delivered : Option ℕ) : CameraBuffers × List BufferEvent :=
  match io with
  | .read =>
      -- `buffers[0]` is read for the arguments of `read`
      if camera.buffers = .null then ({ camera with alive := false }, [])
      else (camera, [.access])
  | .mmap =>
      match delivered with
      | none => (camera, [])
      | some index =>
          if index < camera.mapped.length then (camera, [.access])
          else ({ camera with alive := false }, [])
  | .userptr =>
      match delivered with
      | none => (camera, [])
      | some index =>
          ({ camera with alive := decide (index < camera.mapped.length) },
            if camera.mapped.length = 0 then [] else [.access])

def uninitBuffers (io : IoMethod) (camera : CameraBuffers) :
    CameraBuffers × List BufferEvent :=
  if camera.buffers = .null then
    -- `buffers[0]` is read for its memory; `free` takes a null pointer
    if io = .read then ({ camera with alive := false }, []) else (camera, [])
  else
    ({ camera with buffers := .freed },
      mappingEvents io camera.mapped .munmap ++ [.free])

def cameraStep (io : IoMethod) (camera : CameraBuffers) (call : CameraCall) :
    CameraBuffers × List BufferEvent :=
  if camera.alive = false then (camera, [])
  else
    match call with
    | .initDevice calls => initBuffers io camera calls
    | .readFrame delivered => readBuffers io camera delivered
    | .uninitDevice => uninitBuffers io camera

/-! ## What is asked of the trace -/

def arrayGate : Gate BufferEvent where
  opens event := decide (event = .calloc)
  closes event := decide (event = .free)

def mappingGate (index : ℕ) : Gate BufferEvent where
  opens event := decide (event = .mmap index)
  closes event := decide (event = .munmap index)

/-- Open while the array of the last `init_device` is allocated. -/
def currentGate : Gate BufferEvent where
  opens event := decide (event = .calloc)
  closes event := decide (event = .initDevice ∨ event = .free)

def BufferEvent.isAccess (event : BufferEvent) : Bool :=
  decide (event = .access)

def CameraBuffers.holds (camera : CameraBuffers) : Bool :=
  match camera.buffers with
  | .held _ => true
  | _ => false

def CameraBuffers.holdsMapping (camera : CameraBuffers) (index : ℕ) : Bool :=
  camera.holds && camera.mapped.getD index false

def CameraBuffers.current (camera : CameraBuffers) : Bool :=
  decide (camera.buffers = .held true)

/-- From this state on, every array is freed once before the next is
allocated, every mapping is unmapped once before it is made again, and the
array is worked with only in the capture that allocated it. -/
structure Released (camera : CameraBuffers) (events : List BufferEvent) :
    Prop where
  arrays : arrayGate.Alternates camera.holds events
  mappings : ∀ index,
    (mappingGate index).Alternates (camera.holdsMapping index) events
  accesses : currentGate.Inside BufferEvent.isAccess camera.current events

/-- What the two callers keep true of the array. -/
structure CameraInv (io : IoMethod) (camera : CameraBuffers) : Prop where
  method : io ≠ .userptr
  unread : io = .read → camera.mapped = []
  unallocated : camera.buffers = .null → camera.mapped = []

/-! ## Stretches of events -/

/-- What a stretch of events does to the three kinds of phases. -/
structure CameraMoves (camera : CameraBuffers) (events : List BufferEvent)
    (after : CameraBuffers) : Prop where
  arrays : arrayGate.afterAll camera.holds events = after.holds
  mappings : ∀ index,
    (mappingGate index).afterAll (camera.holdsMapping index) events =
      after.holdsMapping index
  accesses : currentGate.afterAll camera.current events = after.current

theorem released_nil (camera : CameraBuffers) : Released camera [] :=
  ⟨⟨trivial, trivial⟩, fun _ => ⟨trivial, trivial⟩, trivial⟩

theorem CameraMoves.released_append {camera after : CameraBuffers}
    {events : List BufferEvent} (hmoves : CameraMoves camera events after)
    (later : List BufferEvent) :
    Released camera (events ++ later) ↔
      Released camera events ∧ Released after later := by
  constructor
  · intro hall
    have harrays := (Gate.alternates_append _ _ _ _).mp hall.arrays
    rw [hmoves.arrays] at harrays
    have haccesses := (Gate.inside_append _ _ _ _ _).mp hall.accesses
    rw [hmoves.accesses] at haccesses
    have hmappings : ∀ index,
        (mappingGate index).Alternates (camera.holdsMapping index) events ∧
          (mappingGate index).Alternates (after.holdsMapping index)
            later := by
      intro index
      have hboth := (Gate.alternates_append _ _ _ _).mp (hall.mappings index)
      rwa [hmoves.mappings] at hboth
    exact ⟨⟨harrays.1, fun index => (hmappings index).1, haccesses.1⟩,
      ⟨harrays.2, fun index => (hmappings index).2, haccesses.2⟩⟩
  · rintro ⟨hfirst, hsecond⟩
    constructor
    · rw [Gate.alternates_append, hmoves.arrays]
      exact ⟨hfirst.arrays, hsecond.arrays⟩
    · intro index
      rw [Gate.alternates_append, hmoves.mappings]
      exact ⟨hfirst.mappings index, hsecond.mappings index⟩
    · rw [Gate.inside_append, hmoves.accesses]
      exact ⟨hfirst.accesses, hsecond.accesses⟩

theorem mem_mappedIndices {mapped : List Bool} {index : ℕ} :
    index ∈ mappedIndices mapped ↔ mapped.getD index false = true := by
  rw [mappedIndices, List.mem_filter, List.mem_range]
  constructor
  · exact And.right
  · intro hmapped
    refine ⟨?_, hmapped⟩
    by_contra hlength
    simp [hlength] at hmapped

theorem decide_mem_mappedIndices (mapped : List Bool) (index : ℕ) :
    decide (index ∈ mappedIndices mapped) = mapped.getD index false := by
  rw [Bool.eq_iff_iff, decide_eq_true_iff, mem_mappedIndices]

theorem nodup_mappedIndices (mapped : List Bool) :
    (mappedIndices mapped).Nodup :=
  List.nodup_range.filter _

/-- A stretch of mappings moves the gate of a mapping exactly if it is one
of them. -/
theorem mmap_events {indices : List ℕ} (hnodup : indices.Nodup)
    (index : ℕ) (opened : Bool) (hopened : index ∈ indices → opened = false) :
    (mappingGate index).Alternates opened (indices.map .mmap) ∧
      (mappingGate index).afterAll opened (indices.map .mmap) =
        (opened || decide (index ∈ indices)) := by
  obtain ⟨halternates, hmoved, hkept⟩ :=
    (mappingGate index).map_moved_once .mmap index hnodup
      (by simp [mappingGate]) opened
  constructor
  · rw [halternates]
    intro hmem
    rw [hopened hmem]
    exact ⟨⟨fun _ => rfl, trivial⟩, by simp [mappingGate], trivial⟩
  · by_cases hmem : index ∈ indices
    · rw [hmoved hmem]
      simp [hmem, Gate.after, mappingGate]
    · simp [hkept hmem, hmem]

theorem munmap_events {indices : List ℕ} (hnodup : indices.Nodup)
    (index : ℕ) (opened : Bool) (hopened : index ∈ indices → opened = true) :
    (mappingGate index).Alternates opened (indices.map .munmap) ∧
      (mappingGate index).afterAll opened (indices.map .munmap) =
        (opened && decide (index ∉ indices)) := by
  obtain ⟨halternates, hmoved, hkept⟩ :=
    (mappingGate index).map_moved_once .munmap index hnodup
      (by simp [mappingGate]) opened
  constructor
  · rw [halternates]
    intro hmem
    rw [hopened hmem]
    exact ⟨⟨by simp [mappingGate], trivial⟩, fun _ => rfl, trivial⟩
  · by_cases hmem : index ∈ indices
    · rw [hmoved hmem]
      simp [hmem, Gate.after, mappingGate]
    · simp [hkept hmem, hmem]

theorem mappingEvents_eq {io : IoMethod} {mapped : List Bool}
    (hmethod : io ≠ .userptr) (hread : io = .read → mapped = [])
    (event : ℕ → BufferEvent) :
    mappingEvents io mapped event = (mappedIndices mapped).map event := by
  cases io with
  | read =>
      rw [hread rfl]
      rfl
  | mmap => rfl
  | userptr => exact absurd rfl hmethod

/-- The mappings move neither the array's gate nor the current one, and are
no accesses. -/
theorem mapping_events_still (event : ℕ → BufferEvent)
    (hevent : ∀ index, event index ≠ .calloc ∧ event index ≠ .free ∧
      event index ≠ .initDevice ∧ event index ≠ .access)
    (indices : List ℕ) (opened : Bool) :
    arrayGate.Still (indices.map event) ∧
      currentGate.Still (indices.map event) ∧
      currentGate.Inside BufferEvent.isAccess opened (indices.map event) := by
  have hcurrent : currentGate.Still (indices.map event) := by
    intro other hmem
    obtain ⟨index, -, rfl⟩ := List.mem_map.mp hmem
    simp [currentGate, hevent index]
  refine ⟨?_, hcurrent, ?_⟩
  · intro other hmem
    obtain ⟨index, -, rfl⟩ := List.mem_map.mp hmem
    simp [arrayGate, hevent index]
  · rw [hcurrent.inside_iff]
    rintro ⟨other, hmem, haccess⟩
    obtain ⟨index, -, rfl⟩ := List.mem_map.mp hmem
    simp [BufferEvent.isAccess, hevent index] at haccess

/-- An `init_device` without a new array leaves the old one outdated. -/
theorem outdated_events {camera : CameraBuffers} (after : CameraBuffers)
    (hbuffers : after.buffers = camera.buffers.outdated)
    (hmapped : after.mapped = camera.mapped) :
    Released camera [.initDevice] ∧
      CameraMoves camera [.initDevice] after := by
  have hholds : after.holds = camera.holds := by
    unfold CameraBuffers.holds
    rw [hbuffers]
    cases camera.buffers <;> rfl
  have hcurrent : after.current = false := by
    unfold CameraBuffers.current
    rw [hbuffers]
    cases camera.buffers <;> simp [BuffersPointer.outdated]
  constructor
  · constructor
    · exact ⟨⟨by simp [arrayGate], trivial⟩, by simp [arrayGate], trivial⟩
    · intro index
      exact ⟨⟨by simp [mappingGate], trivial⟩, by simp [mappingGate],
        trivial⟩
    · exact ⟨by simp [BufferEvent.isAccess], trivial⟩
  · constructor
    · simp [arrayGate, Gate.after, hholds]
    · intro index
      simp [mappingGate, Gate.after, CameraBuffers.holdsMapping, hholds,
        hmapped]
    · simp [currentGate, Gate.after, hcurrent]

/-- A new array, allocated when none is held. -/
theorem ready_events {camera : CameraBuffers} (after : CameraBuffers)
    (hholds : camera.holds = false) (hbuffers : after.buffers = .held true) :
    Released camera ([.initDevice, .calloc] ++
        (mappedIndices after.mapped).map .mmap) ∧
      CameraMoves camera ([.initDevice, .calloc] ++
        (mappedIndices after.mapped).map .mmap) after := by
  obtain ⟨harray, hcurrent, haccess⟩ := mapping_events_still .mmap
    (by simp) (mappedIndices after.mapped) true
  have hafter : after.holds = true := by
    rw [CameraBuffers.holds, hbuffers]
  have hopened : ∀ index, camera.holdsMapping index = false := by
    intro index
    rw [CameraBuffers.holdsMapping, hholds, Bool.false_and]
  have hmapped := fun index => mmap_events
    (nodup_mappedIndices after.mapped) index false (fun _ => rfl)
  constructor
  · constructor
    · rw [hholds, Gate.alternates_append]
      exact ⟨by decide, harray.alternates _⟩
    · intro index
      rw [hopened, Gate.alternates_append]
      exact ⟨⟨⟨by simp [mappingGate], by simp [mappingGate], trivial⟩,
        by simp [mappingGate], by simp [mappingGate], trivial⟩,
        (hmapped index).1⟩
    · rw [Gate.inside_append]
      exact ⟨⟨by simp [BufferEvent.isAccess], by simp [BufferEvent.isAccess],
        trivial⟩, haccess⟩
  · constructor
    · rw [Gate.afterAll_append, harray.afterAll_eq, hafter]
      rfl
    · intro index
      rw [hopened, Gate.afterAll_append]
      refine (hmapped index).2.trans ?_
      rw [Bool.false_or, CameraBuffers.holdsMapping, hafter, Bool.true_and,
        decide_mem_mappedIndices]
    · rw [Gate.afterAll_append, hcurrent.afterAll_eq]
      simp [currentGate, Gate.after, CameraBuffers.current, hbuffers]

/-- The array that is held is unmapped and freed. -/
theorem free_events {camera : CameraBuffers} (after : CameraBuffers)
    (hholds : camera.holds = true) (hbuffers : after.buffers = .freed) :
    Released camera ((mappedIndices camera.mapped).map .munmap ++
        [.free]) ∧
      CameraMoves camera ((mappedIndices camera.mapped).map .munmap ++
        [.free]) after := by
  obtain ⟨harray, hcurrent, haccess⟩ := mapping_events_still .munmap
    (by simp) (mappedIndices camera.mapped) camera.current
  have hafter : after.holds = false := by
    rw [CameraBuffers.holds, hbuffers]
  have hopened : ∀ index, camera.holdsMapping index =
      decide (index ∈ mappedIndices camera.mapped) := by
    intro index
    rw [CameraBuffers.holdsMapping, hholds, Bool.true_and,
      decide_mem_mappedIndices]
  have hunmapped := fun index => munmap_events
    (nodup_mappedIndices camera.mapped) index
    (decide (index ∈ mappedIndices camera.mapped)) (by simp)
  constructor
  · constructor
    · rw [Gate.alternates_append, harray.afterAll_eq, hholds]
      exact ⟨harray.alternates _, by decide⟩
    · intro index
      rw [hopened, Gate.alternates_append]
      exact ⟨(hunmapped index).1, ⟨by simp [mappingGate], trivial⟩,
        by simp [mappingGate], trivial⟩
    · rw [Gate.inside_append]
      exact ⟨haccess, by simp [BufferEvent.isAccess], trivial⟩
  · constructor
    · rw [Gate.afterAll_append, harray.afterAll_eq, hafter, hholds]
      rfl
    · intro index
      rw [hopened, Gate.afterAll_append, (hunmapped index).2,
        CameraBuffers.holdsMapping, hafter, Bool.false_and]
      by_cases hmem : index ∈ mappedIndices camera.mapped <;>
        simp [hmem, Gate.after, mappingGate]
    · rw [Gate.afterAll_append, hcurrent.afterAll_eq]
      simp [currentGate, Gate.after, CameraBuffers.current, hbuffers]

theorem access_events (camera : CameraBuffers) :
    (Released camera [.access] ↔ camera.current = true) ∧
      CameraMoves camera [.access] camera := by
  constructor
  · constructor
    · intro hreleased
      exact hreleased.accesses.1 rfl
    · intro hcurrent
      constructor
      · exact ⟨⟨by simp [arrayGate], trivial⟩, by simp [arrayGate], trivial⟩
      · intro index
        exact ⟨⟨by simp [mappingGate], trivial⟩, by simp [mappingGate],
          trivial⟩
      · exact ⟨fun _ => hcurrent, trivial⟩
  · exact ⟨rfl, fun _ => rfl, rfl⟩

/-! ## One call -/

/-- `read_frame` gets to work with the array. -/
def Works (io : IoMethod) (camera : CameraBuffers)
    (delivered : Option ℕ) : Prop :=
  match io with
  | .read => camera.buffers ≠ .null
  | .mmap => ∃ index ∈ delivered, index < camera.mapped.length
  | .userptr => delivered ≠ none ∧ camera.mapped ≠ []

/-- A new array needs none to be held, work with the array needs the current
one, and the array must not be freed again. -/
def CallGuard (io : IoMethod) (camera : CameraBuffers) (call : CameraCall) :
    Prop :=
  camera.alive = true →
    match call with
    | .initDevice calls =>
        ∀ mapped, initDevice io camera.mapped calls = .ready mapped →
          camera.holds = false
    | .readFrame delivered =>
        Works io camera delivered → camera.current = true
    | .uninitDevice => camera.buffers ≠ .freed

theorem initDevice_ready_read {mapped new : List Bool} {calls : InitCalls}
    (hready : initDevice .read mapped calls = .ready new) : new = mapped := by
  unfold initDevice initIoMethod at hready
  simp only at hready
  split at hready
  · contradiction
  · split at hready
    · contradiction
    · split at hready
      · simpa using hready.symm
      · contradiction

/-- Whether the process lives does not matter to the array. -/
theorem released_ended_iff (camera : CameraBuffers)
    (events : List BufferEvent) :
    Released camera events ↔ Released { camera with alive := false } events :=
  ⟨fun h => ⟨h.arrays, h.mappings, h.accesses⟩,
    fun h => ⟨h.arrays, h.mappings, h.accesses⟩⟩

theorem access_released_iff (camera : CameraBuffers)
    (later : List BufferEvent) :
    Released camera ([.access] ++ later) ↔
      camera.current = true ∧ Released camera later := by
  obtain ⟨haccess, hmoves⟩ := access_events camera
  rw [hmoves.released_append, haccess]

theorem readBuffers_released_iff {io : IoMethod} (hmethod : io ≠ .userptr)
    (camera : CameraBuffers) (delivered : Option ℕ)
    (later : List BufferEvent) :
    Released camera ((readBuffers io camera delivered).2 ++ later) ↔
      (Works io camera delivered → camera.current = true) ∧
        Released (readBuffers io camera delivered).1 later := by
  unfold readBuffers Works
  cases io with
  | read =>
      by_cases hnull : camera.buffers = .null
      · rw [if_pos hnull, List.nil_append, released_ended_iff camera later]
        simp [hnull]
      · simp only [hnull, if_false, ne_eq, not_false_eq_true, true_implies]
        exact access_released_iff camera later
  | mmap =>
      cases delivered with
      | none => simp
      | some index =>
          by_cases hindex : index < camera.mapped.length
          · simp only [hindex, if_true]
            rw [access_released_iff]
            simp [hindex]
          · simp only [hindex, if_false]
            rw [List.nil_append, released_ended_iff camera later]
            simp [hindex]
  | userptr => exact absurd rfl hmethod

theorem uninitBuffers_released_iff {io : IoMethod} {camera : CameraBuffers}
    (hinv : CameraInv io camera) (later : List BufferEvent) :
    Released camera ((uninitBuffers io camera).2 ++ later) ↔
      camera.buffers ≠ .freed ∧
        Released (uninitBuffers io camera).1 later := by
  unfold uninitBuffers
  rw [mappingEvents_eq hinv.method hinv.unread]
  by_cases hnull : camera.buffers = .null
  · rw [if_pos hnull]
    split
    · rw [List.nil_append, released_ended_iff camera later]
      simp [hnull]
    · simp [hnull]
  rw [if_neg hnull]
  cases hbuffers : camera.buffers with
  | null => exact absurd hbuffers hnull
  | held current =>
      have hholds : camera.holds = true := by
        rw [CameraBuffers.holds, hbuffers]
      obtain ⟨hreleased, hmoves⟩ := free_events
        { camera with buffers := .freed } hholds rfl
      rw [hmoves.released_append]
      simp [hreleased]
  | freed =>
      have hclosed : camera.holds = false := by
        rw [CameraBuffers.holds, hbuffers]
      have harray := (mapping_events_still .munmap (by simp)
        (mappedIndices camera.mapped) true).1
      simp only [ne_eq, not_true_eq_false, false_and, iff_false]
      intro hreleased
      -- the second free meets the array's gate closed
      have harrays := hreleased.arrays
      rw [List.append_assoc, Gate.alternates_append, harray.afterAll_eq,
        hclosed] at harrays
      have hopen := harrays.2.2.1 rfl
      contradiction

theorem initBuffers_released_iff {io : IoMethod} {camera : CameraBuffers}
    (hinv : CameraInv io camera) (calls : InitCalls)
    (later : List BufferEvent) :
    Released camera ((initBuffers io camera calls).2 ++ later) ↔
      (∀ mapped, initDevice io camera.mapped calls = .ready mapped →
        camera.holds = false) ∧
        Released (initBuffers io camera calls).1 later := by
  unfold initBuffers
  cases hresult : initDevice io camera.mapped calls with
  | failed =>
      obtain ⟨hreleased, hmoves⟩ := outdated_events
        { camera with buffers := camera.buffers.outdated } rfl rfl
      rw [hmoves.released_append]
      simp [hreleased]
  | ended =>
      obtain ⟨hreleased, hmoves⟩ := outdated_events
        { camera with
          buffers := camera.buffers.outdated, alive := false } rfl rfl
      rw [hmoves.released_append]
      simp [hreleased]
  | ready mapped =>
      have hread : io = .read → mapped = [] := by
        rintro rfl
        rw [initDevice_ready_read hresult]
        exact hinv.unread rfl
      simp only
      rw [mappingEvents_eq hinv.method hread]
      constructor
      · intro hreleased
        have hclosed : camera.holds = false :=
          hreleased.arrays.1.2.1 rfl
        obtain ⟨-, hmoves⟩ := ready_events
          { camera with buffers := .held true, mapped := mapped } hclosed rfl
        exact ⟨fun _ _ => hclosed,
          ((hmoves.released_append later).mp hreleased).2⟩
      · rintro ⟨hguard, hlater⟩
        obtain ⟨hreleased, hmoves⟩ := ready_events
          { camera with buffers := .held true, mapped := mapped }
          (hguard mapped rfl) rfl
        exact (hmoves.released_append later).mpr ⟨hreleased, hlater⟩

theorem cameraStep_released_iff {io : IoMethod} {camera : CameraBuffers}
    (hinv : CameraInv io camera) (call : CameraCall)
    (later : List BufferEvent) :
    Released camera ((cameraStep io camera call).2 ++ later) ↔
      CallGuard io camera call ∧
        Released (cameraStep io camera call).1 later := by
  unfold cameraStep CallGuard
  by_cases halive : camera.alive = false
  · rw [if_pos halive]
    simp [halive]
  rw [if_neg halive, forall_prop_of_true (by simpa using halive)]
  cases call with
  | initDevice calls => exact initBuffers_released_iff hinv calls later
  | readFrame delivered =>
      exact readBuffers_released_iff hinv.method camera delivered later
  | uninitDevice => exact uninitBuffers_released_iff hinv later

theorem outdated_eq_null_iff (pointer : BuffersPointer) :
    pointer.outdated = .null ↔ pointer = .null := by
  cases pointer <;> simp [BuffersPointer.outdated]

theorem CameraInv.outdated {io : IoMethod} {camera : CameraBuffers}
    (hinv : CameraInv io camera) (alive : Bool) :
    CameraInv io { camera with
      buffers := camera.buffers.outdated, alive := alive } where
  method := hinv.method
  unread := hinv.unread
  unallocated hnull :=
    hinv.unallocated ((outdated_eq_null_iff camera.buffers).mp hnull)

theorem CameraInv.step {io : IoMethod} {camera : CameraBuffers}
    (hinv : CameraInv io camera) (call : CameraCall) :
    CameraInv io (cameraStep io camera call).1 := by
  unfold cameraStep
  split
  · exact hinv
  cases call with
  | initDevice calls =>
      simp only
      unfold initBuffers
      cases hresult : initDevice io camera.mapped calls with
      | failed => exact hinv.outdated camera.alive
      | ended => exact hinv.outdated false
      | ready mapped =>
          refine ⟨hinv.method, ?_, fun hnull => by simp at hnull⟩
          rintro rfl
          rw [initDevice_ready_read hresult]
          exact hinv.unread rfl
  | readFrame delivered =>
      simp only
      unfold readBuffers
      cases io with
      | read =>
          simp only
          split
          · exact ⟨hinv.method, hinv.unread, hinv.unallocated⟩
          · exact hinv
      | mmap =>
          simp only
          cases delivered with
          | none => exact hinv
          | some index =>
              simp only
              split
              · exact hinv
              · exact ⟨hinv.method, hinv.unread, hinv.unallocated⟩
      | userptr => exact absurd rfl hinv.method
  | uninitDevice =>
      simp only
      unfold uninitBuffers
      split
      · split
        · exact ⟨hinv.method, hinv.unread, hinv.unallocated⟩
        · exact hinv
      · exact ⟨hinv.method, hinv.unread, fun hnull => by simp at hnull⟩

end RkaiqToolServer
