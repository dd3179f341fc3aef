import RkaiqToolServer.EventOrder
import RkaiqToolServer.RawCapture

/-!
# Reading a frame from the camera

`read_frame` asks the driver for a filled buffer, passes it to the callback
and queues it back.  Between two calls every buffer belongs to the driver;
within a call the program may use what that call received.  `device_dqbuf`
returns 0 for EAGAIN too, and `read_frame` then works on the cleared
`v4l2_buffer` it had prepared.
-/

namespace RkaiqToolServer
namespace Camera

open EventOrder
open StepRun

inductive Errno
  | eagain
  | eio
  | other (code : ℕ)
  deriving DecidableEq

structure Buffer where
  start : ℕ
  length : ℕ
  deriving DecidableEq

/-- The fields of a `v4l2_buffer` that `read_frame` reads. -/
structure V4l2Buffer where
  index : ℕ
  bytesused : ℕ
  planeBytesused : ℕ
  userptr : ℕ
  length : ℕ

/-- What `VIDIOC_DQBUF` does; EINTR is retried by `xioctl`. -/
inductive DqOutcome
  | filled (buf : V4l2Buffer)
  | failed (errno : Errno)

/-- The part of `capture_info` that `read_frame` uses. -/
structure Info where
  io : IoMethod
  multiplanar : Bool
  nBuffers : ℕ
  buffers : ℕ → Buffer

/-- One call: whether it has a callback, what the driver answers, and what the
uncleared plane on the stack holds. -/
structure Call where
  callback : Bool
  read : Option Errno
  dqbuf : DqOutcome
  stack : ℕ

inductive CameraEvent
  /-- The driver hands a buffer to the program. -/
  | delivered (index start : ℕ)
  | callback (start bytes : ℕ)
  | clear (start bytes : ℕ)
  | queue (index : ℕ)
  | abort
  deriving DecidableEq

/-! ## One call -/

def clearedBuffer (stack : ℕ) : V4l2Buffer where
  index := 0
  bytesused := 0
  planeBytesused := stack
  userptr := 0
  length := 0

@[simp] theorem clearedBuffer_index (stack : ℕ) :
    (clearedBuffer stack).index = 0 := rfl

def deviceDqbuf (outcome : DqOutcome) (buf : V4l2Buffer) : ℤ × V4l2Buffer :=
  match outcome with
  | .filled filled => (0, filled)
  | .failed .eagain => (0, buf)
  | .failed _ => (-1, buf)

def deliveries (info : Info) (call : Call) : List CameraEvent :=
  match info.io with
  | .read =>
      if call.read = none then [.delivered 0 (info.buffers 0).start] else []
  | .mmap =>
      match call.dqbuf with
      | .filled buf => [.delivered buf.index (info.buffers buf.index).start]
      | .failed _ => []
  | .userptr =>
      match call.dqbuf with
      | .filled buf => [.delivered buf.index buf.userptr]
      | .failed _ => []

def callbackEvents (call : Call) (start bytes : ℕ) : List CameraEvent :=
  if call.callback then [.callback start bytes] else []

/-- The loop over the user buffers finds the one in `buf`. -/
def Info.Knows (info : Info) (buf : V4l2Buffer) : Prop :=
  ∃ i < info.nBuffers, info.buffers i = ⟨buf.userptr, buf.length⟩

instance (info : Info) (buf : V4l2Buffer) : Decidable (info.Knows buf) :=
  inferInstanceAs (Decidable (∃ i < info.nBuffers, _))

/-- The calls of `read_frame` after its `read` or `VIDIOC_DQBUF`. -/
def frameEvents (info : Info) (call : Call) : List CameraEvent :=
  let result := deviceDqbuf call.dqbuf (clearedBuffer call.stack)
  let buf := result.2
  match info.io with
  | .read =>
      if call.read = some .eagain then []
      else callbackEvents call (info.buffers 0).start (info.buffers 0).length
  | .mmap =>
      if result.1 = -1 then []
      else if ¬ buf.index < info.nBuffers then [.abort]
      else
        let start := (info.buffers buf.index).start
        let bytesused :=
          if info.multiplanar then buf.planeBytesused else buf.bytesused
        callbackEvents call start bytesused ++
          [.clear start bytesused, .queue buf.index]
  | .userptr =>
      if result.1 = -1 then []
      else if ¬ info.Knows buf then [.abort]
      else callbackEvents call buf.userptr buf.bytesused ++
        [.queue buf.index]

def readFrame (info : Info) (call : Call) : List CameraEvent :=
  deliveries info call ++ frameEvents info call

/-- Every buffer that a call passes on or queues was delivered by it. -/
structure OnlyDelivered (events : List CameraEvent) : Prop where
  callback : ∀ start bytes, .callback start bytes ∈ events →
    ∃ index, .delivered index start ∈ events
  queue : ∀ index, .queue index ∈ events →
    ∃ start, .delivered index start ∈ events

/-- EAGAIN is not taken for a buffer, and no other error of `read` either. -/
def Guarded (info : Info) (call : Call) : Prop :=
  match info.io with
  | .read =>
      call.callback = true → call.read = none ∨ call.read = some .eagain
  | .mmap =>
      match call.dqbuf with
      | .failed .eagain => info.nBuffers = 0
      | _ => True
  | .userptr =>
      match call.dqbuf with
      | .failed .eagain => ¬ info.Knows (clearedBuffer call.stack)
      | _ => True

/-! ### The shapes of a guarded call -/

/-- What a call that works on nothing but its own delivery may do: nothing
with any buffer, or the callback and the queueing of the one delivered. -/
inductive CallShape (call : Call) : List CameraEvent → Prop
  | idle : CallShape call []
  | aborts : CallShape call [.abort]
  | refused (index start : ℕ) :
      CallShape call [.delivered index start, .abort]
  | read (index start bytes : ℕ) :
      CallShape call
        (.delivered index start :: callbackEvents call start bytes)
  | cleared (index start bytes : ℕ) :
      CallShape call
        (.delivered index start ::
          (callbackEvents call start bytes ++
            [.clear start bytes, .queue index]))
  | queued (index start bytes : ℕ) :
      CallShape call
        (.delivered index start ::
          (callbackEvents call start bytes ++ [.queue index]))

theorem callShape_of_guarded {info : Info} {call : Call}
    (hguard : Guarded info call) : CallShape call (readFrame info call) := by
  unfold Guarded at hguard
  unfold readFrame deliveries frameEvents
  cases hio : info.io with
  | read =>
      simp only [hio] at hguard ⊢
      by_cases hdone : call.read = none
      · rw [if_pos hdone, if_neg (by simp [hdone])]
        exact .read _ _ _
      · rw [if_neg hdone]
        split
        · exact .idle
        · cases hcallback : call.callback with
          | false =>
              rw [callbackEvents, hcallback]
              exact .idle
          | true => exact absurd (hguard hcallback) (by simp [*])
  | mmap =>
      simp only [hio] at hguard ⊢
      cases hdqbuf : call.dqbuf with
      | filled buf =>
          by_cases hindex : buf.index < info.nBuffers
          · simp only [deviceDqbuf, hindex]
            exact .cleared _ _ _
          · simp only [deviceDqbuf, hindex]
            exact .refused _ _
      | failed errno =>
          cases errno with
          | eagain =>
              simp only [hdqbuf] at hguard
              simp only [deviceDqbuf, hguard]
              exact .aborts
          | eio => exact .idle
          | other code => exact .idle
  | userptr =>
      simp only [hio] at hguard ⊢
      cases hdqbuf : call.dqbuf with
      | filled buf =>
          by_cases hknown : info.Knows buf
          · simp only [deviceDqbuf, hknown]
            exact .queued _ _ _
          · simp only [deviceDqbuf, hknown]
            exact .refused _ _
      | failed errno =>
          cases errno with
          | eagain =>
              simp only [hdqbuf] at hguard
              simp only [deviceDqbuf, hguard]
              exact .aborts
          | eio => exact .idle
          | other code => exact .idle

theorem mem_callbackEvents {call : Call} {start bytes : ℕ}
    {event : CameraEvent} (hmem : event ∈ callbackEvents call start bytes) :
    event = .callback start bytes := by
  unfold callbackEvents at hmem
  split at hmem
  · exact List.mem_singleton.mp hmem
  · contradiction

theorem CallShape.onlyDelivered {call : Call} {events : List CameraEvent}
    (hshape : CallShape call events) : OnlyDelivered events := by
  constructor
  · intro start bytes hmem
    cases hshape with
    | idle => contradiction
    | aborts => simp at hmem
    | refused index other => simp at hmem
    | read index other size =>
        have hcallback := mem_callbackEvents ((List.mem_cons.mp
          hmem).resolve_left (by simp))
        simp only [CameraEvent.callback.injEq] at hcallback
        exact ⟨index, by simp [hcallback.1]⟩
    | cleared index other size =>
        simp only [List.mem_cons, List.mem_append, reduceCtorEq, false_or,
          List.not_mem_nil, or_false] at hmem
        have hcallback := mem_callbackEvents hmem
        simp only [CameraEvent.callback.injEq] at hcallback
        exact ⟨index, by simp [hcallback.1]⟩
    | queued index other size =>
        simp only [List.mem_cons, List.mem_append, reduceCtorEq, false_or,
          List.not_mem_nil, or_false] at hmem
        have hcallback := mem_callbackEvents hmem
        simp only [CameraEvent.callback.injEq] at hcallback
        exact ⟨index, by simp [hcallback.1]⟩
  · intro queued hmem
    have hother : ∀ start bytes,
        .queue queued ∉ callbackEvents call start bytes :=
      fun start bytes hin => by simpa using mem_callbackEvents hin
    cases hshape with
    | idle => contradiction
    | aborts => simp at hmem
    | refused index start => simp at hmem
    | read index start bytes => simp [hother] at hmem
    | cleared index start bytes =>
        simp only [List.mem_cons, List.mem_append, reduceCtorEq, false_or,
          hother, CameraEvent.queue.injEq, List.not_mem_nil, or_false] at hmem
        exact ⟨start, by simp [hmem]⟩
    | queued index start bytes =>
        simp only [List.mem_cons, List.mem_append, reduceCtorEq, false_or,
          hother, CameraEvent.queue.injEq, List.not_mem_nil, or_false] at hmem
        exact ⟨start, by simp [hmem]⟩

/-- A call that is not guarded passes on a buffer without any delivery. -/
theorem guarded_of_onlyDelivered {info : Info} {call : Call}
    (honly : OnlyDelivered (readFrame info call)) : Guarded info call := by
  unfold Guarded
  cases hio : info.io with
  | read =>
      intro hcallback
      by_contra hneither
      rw [not_or] at hneither
      obtain ⟨index, hmem⟩ := honly.callback (info.buffers 0).start
        (info.buffers 0).length (by
          simp [readFrame, frameEvents, hio, hneither.2, callbackEvents,
            hcallback])
      simp [readFrame, deliveries, frameEvents, hio, hneither.1, hneither.2,
        callbackEvents, hcallback] at hmem
  | mmap =>
      cases hdqbuf : call.dqbuf with
      | filled buf => trivial
      | failed errno =>
          cases errno with
          | eagain =>
              by_contra hbuffers
              obtain ⟨start, hmem⟩ := honly.queue 0 (by
                simp [readFrame, frameEvents, hio, hdqbuf, deviceDqbuf,
                  Nat.pos_of_ne_zero hbuffers])
              simp [readFrame, deliveries, frameEvents, hio, hdqbuf,
                deviceDqbuf, Nat.pos_of_ne_zero hbuffers,
                callbackEvents] at hmem
          | eio => trivial
          | other code => trivial
  | userptr =>
      cases hdqbuf : call.dqbuf with
      | filled buf => trivial
      | failed errno =>
          cases errno with
          | eagain =>
              intro hknown
              obtain ⟨start, hmem⟩ := honly.queue 0 (by
                simp [readFrame, frameEvents, hio, hdqbuf, deviceDqbuf,
                  hknown])
              simp [readFrame, deliveries, frameEvents, hio, hdqbuf,
                deviceDqbuf, hknown, callbackEvents] at hmem
          | eio => trivial
          | other code => trivial

theorem onlyDelivered_iff_guarded (info : Info) (call : Call) :
    OnlyDelivered (readFrame info call) ↔ Guarded info call :=
  ⟨guarded_of_onlyDelivered, fun hguard =>
    (callShape_of_guarded hguard).onlyDelivered⟩

/-! ### The callback -/

def callbacks (events : List CameraEvent) : List (ℕ × ℕ) :=
  events.filterMap fun event =>
    match event with
    | .callback start bytes => some (start, bytes)
    | _ => none

/-- A call runs its callback at most once, so that one outcome says what the
callback of a capture sees. -/
theorem length_callbacks_le (info : Info) (call : Call) :
    (callbacks (readFrame info call)).length ≤ 1 := by
  have hone : ∀ start bytes,
      (callbacks (callbackEvents call start bytes)).length ≤ 1 := by
    intro start bytes
    unfold callbackEvents
    split <;> simp [callbacks]
  have hdeliveries : callbacks (deliveries info call) = [] := by
    unfold deliveries
    split
    · split <;> rfl
    · split <;> rfl
    · split <;> rfl
  have happend : ∀ before later : List CameraEvent,
      callbacks (before ++ later) = callbacks before ++ callbacks later :=
    fun before later => List.filterMap_append
  rw [readFrame, happend, hdeliveries, List.nil_append]
  unfold frameEvents
  simp only
  split
  · split
    · simp [callbacks]
    · exact hone _ _
  · split
    · simp [callbacks]
    · split
      · simp [callbacks]
      · simpa [happend, callbacks] using hone _ _
  · split
    · simp [callbacks]
    · split
      · simp [callbacks]
      · simpa [happend, callbacks] using hone _ _

/-! ## A run of calls -/

/-- The buffer number `index` is queued. -/
def queueGate (index : ℕ) : Gate CameraEvent where
  opens event := decide (event = .queue index)
  closes event :=
    match event with
    | .delivered other _ => decide (other = index)
    | _ => false

/-- No buffer is queued twice without a delivery in between. -/
def QueuedOnce (opened : ℕ → Bool) (trace : List CameraEvent) : Prop :=
  ∀ index, (queueGate index).Outside (queueGate index).opens (opened index)
    trace

/-- `start_capturing` queues all buffers. -/
def startCapturing (info : Info) : List CameraEvent :=
  match info.io with
  | .read => []
  | .mmap | .userptr => (List.range info.nBuffers).map .queue

/-- A call ends the process when its assertion fails; `true` is the state
after that. -/
def callStep (info : Info) (aborted : Bool) (call : Call) :
    Bool × List CameraEvent :=
  if aborted then (true, [])
  else (decide (.abort ∈ readFrame info call), readFrame info call)

/-- Over a whole capture: every call works on its own delivery, and no buffer
is queued twice. -/
structure BuffersOwned (info : Info) (calls : List Call) : Prop where
  delivered : Steps (next (callStep info))
    (fun aborted call => OnlyDelivered (callStep info aborted call).2) false
    calls
  queued : QueuedOnce (fun _ => false)
    (startCapturing info ++ trace (callStep info) false calls)

theorem queueGate_callback_still (index : ℕ) (call : Call)
    (start bytes : ℕ) :
    (queueGate index).Still (callbackEvents call start bytes) := by
  intro event hmem
  rw [mem_callbackEvents hmem]
  exact ⟨by simp [queueGate], rfl⟩

/-- What the end of a call queues was delivered at its beginning. -/
theorem outside_delivered (index other start bytes : ℕ) (call : Call)
    {more : List CameraEvent} (hmore : (queueGate other).Still more)
    (opened : Bool) :
    (queueGate other).Outside (queueGate other).opens opened
      (.delivered index start ::
        (callbackEvents call start bytes ++ (more ++ [.queue index]))) := by
  have hstill := queueGate_callback_still other call start bytes
  have hquiet : ∀ {events : List CameraEvent}, (queueGate other).Still events →
      ∀ event ∈ events, (queueGate other).opens event = false :=
    fun hevents event hmem => (hevents event hmem).1
  rw [Gate.outside_cons, Gate.outside_append, Gate.outside_append,
    hstill.afterAll_eq, hmore.afterAll_eq]
  refine ⟨by simp [queueGate], Gate.outside_of_unselected (hquiet hstill) _,
    Gate.outside_of_unselected (hquiet hmore) _, ?_⟩
  rw [Gate.outside_cons]
  refine ⟨?_, Gate.outside_nil _ _ _⟩
  intro hqueue
  have hsame : index = other := by simpa [queueGate] using hqueue
  simp [Gate.after, queueGate, hsame]

theorem CallShape.queuedOnce {call : Call} {events : List CameraEvent}
    (hshape : CallShape call events) (opened : ℕ → Bool) :
    QueuedOnce opened events := by
  intro other
  cases hshape with
  | idle => trivial
  | aborts => simp [queueGate]
  | refused index start => simp [queueGate]
  | read index start bytes =>
      have hstill := queueGate_callback_still other call start bytes
      rw [Gate.outside_cons]
      exact ⟨by simp [queueGate],
        Gate.outside_of_unselected (fun event hmem => (hstill event hmem).1) _⟩
  | cleared index start bytes =>
      have hclear : (queueGate other).Still
          [CameraEvent.clear start bytes] := by
        simp [Gate.Still, queueGate]
      exact outside_delivered index other start bytes call hclear _
  | queued index start bytes =>
      have hnone : (queueGate other).Still ([] : List CameraEvent) := by
        simp [Gate.Still]
      exact outside_delivered index other start bytes call hnone _

theorem QueuedOnce.append {opened : ℕ → Bool}
    {before later : List CameraEvent} (hbefore : QueuedOnce opened before)
    (hlater : ∀ opened, QueuedOnce opened later) :
    QueuedOnce opened (before ++ later) := by
  intro index
  rw [Gate.outside_append]
  exact ⟨hbefore index, hlater (fun _ => _) index⟩

theorem trace_queuedOnce {info : Info} {calls : List Call} {aborted : Bool}
    (hguard : Steps (next (callStep info))
      (fun aborted call => aborted = false → Guarded info call) aborted
      calls)
    (opened : ℕ → Bool) :
    QueuedOnce opened (trace (callStep info) aborted calls) := by
  induction calls generalizing aborted opened with
  | nil => exact fun _ => trivial
  | cons call rest ih =>
      rw [trace_cons]
      apply QueuedOnce.append
      · cases aborted with
        | true => exact fun _ => trivial
        | false => exact (callShape_of_guarded (hguard.1 rfl)).queuedOnce _
      · exact fun opened => ih hguard.2 opened

theorem startCapturing_queuedOnce (info : Info) :
    QueuedOnce (fun _ => false) (startCapturing info) := by
  have hqueue : ∀ count index,
      (queueGate index).Outside (queueGate index).opens false
          ((List.range count).map .queue) ∧
        (queueGate index).afterAll false ((List.range count).map .queue) =
          decide (index < count) := by
    intro count index
    induction count with
    | zero => exact ⟨trivial, rfl⟩
    | succ count ih =>
        rw [List.range_succ, List.map_append, Gate.outside_append,
          Gate.afterAll_append, ih.2]
        refine ⟨⟨ih.1, ?_⟩, ?_⟩
        · simp only [List.map_cons, List.map_nil, Gate.outside_cons,
            Gate.outside_nil, and_true, queueGate, decide_eq_true_eq,
            CameraEvent.queue.injEq, decide_eq_false_iff_not]
          omega
        · simp only [List.map_cons, List.map_nil, Gate.afterAll_cons,
            Gate.afterAll_nil, Gate.after, queueGate, decide_eq_true_eq,
            CameraEvent.queue.injEq, Bool.false_eq_true, if_false]
          split
          · simp only [decide_eq_true_eq, eq_comm (a := true)]
            omega
          · rw [decide_eq_decide]
            omega
  intro index
  unfold startCapturing
  split
  · trivial
  · exact (hqueue info.nBuffers index).1
  · exact (hqueue info.nBuffers index).1

/-- A capture leaves every buffer to its owner exactly when none of its calls
takes an error for a buffer. -/
theorem buffersOwned_iff (info : Info) (calls : List Call) :
    BuffersOwned info calls ↔
      Steps (next (callStep info))
        (fun aborted call => aborted = false → Guarded info call) false
        calls := by
  have hcall : ∀ aborted call,
      OnlyDelivered (callStep info aborted call).2 ↔
        (aborted = false → Guarded info call) := by
    intro aborted call
    cases aborted with
    | true =>
        simp only [callStep, if_true, reduceCtorEq, false_implies, iff_true]
        exact (CallShape.idle : CallShape call []).onlyDelivered
    | false =>
        simp only [callStep, Bool.false_eq_true, if_false, true_implies]
        exact onlyDelivered_iff_guarded info call
  constructor
  · intro howned
    exact howned.delivered.mono fun aborted call => (hcall aborted call).mp
  · intro hguard
    exact ⟨hguard.mono fun aborted call => (hcall aborted call).mpr,
      (startCapturing_queuedOnce info).append (trace_queuedOnce hguard)⟩

/-- Four mapped buffers and an EAGAIN: the first one is passed on and queued
a second time. -/
theorem buffersOwned_eagain :
    let info : Info :=
      { io := .mmap, multiplanar := false, nBuffers := 4,
        buffers := fun i => ⟨4096 * (i + 1), 2⟩ }
    let call : Call :=
      { callback := true, read := none, dqbuf := .failed .eagain, stack := 0 }
    readFrame info call =
        [.callback 4096 0, .clear 4096 0, .queue 0] ∧
      ¬ OnlyDelivered (readFrame info call) ∧
      ¬ QueuedOnce (fun _ => false)
        (startCapturing info ++ trace (callStep info) false [call]) ∧
      ¬ BuffersOwned info [call] := by
  intro info call
  have hevents : readFrame info call =
      [.callback 4096 0, .clear 4096 0, .queue 0] := by decide
  have hdelivered : ¬ OnlyDelivered (readFrame info call) := by
    intro honly
    obtain ⟨start, hmem⟩ := honly.queue 0 (by rw [hevents]; simp)
    rw [hevents] at hmem
    simp at hmem
  have hqueued : ¬ QueuedOnce (fun _ => false)
      (startCapturing info ++ trace (callStep info) false [call]) := by
    intro hqueued
    have hfirst := hqueued 0
    revert hfirst
    decide
  exact ⟨hevents, hdelivered, hqueued, fun howned => hqueued howned.queued⟩

end Camera
end RkaiqToolServer
