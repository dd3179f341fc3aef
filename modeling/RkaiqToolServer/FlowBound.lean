import RkaiqToolServer.FlowSteps

/-!
# The bound and the order of a slot's queue

The capacity test and the insertion of a producer that found room are under one
hold of the slot's mutex.  A producer of a blocking slot that found it full
tests again without the mutex and inserts once it has the mutex back: between
the two the room may have gone to another producer.
-/

namespace RkaiqToolServer

open LockDiscipline StepRun

/-! ## One queue -/

/-- `fetched` and what is still queued are in the order of `accepted`. -/
structure QueueKept (cfg : FlowConfig) (enable : Bool) (index : ℕ)
    (slot : InputSlot) : Prop where
  bound : 0 < cfg.maxCacheNum index →
    (slot.cachedBuffers.length : ℤ) ≤ cfg.maxCacheNum index
  order : List.Sublist (slot.fetched ++ slot.cachedBuffers) slot.accepted
  kept : cfg.modeWhenFull index = .blocking → enable = true →
    slot.dropped = [] ∧ slot.accepted = slot.fetched ++ slot.cachedBuffers

def HasRoom (cfg : FlowConfig) (index : ℕ) (slot : InputSlot) : Prop :=
  0 < cfg.maxCacheNum index →
    (slot.cachedBuffers.length : ℤ) < cfg.maxCacheNum index

section Queue

variable {cfg : FlowConfig} {enable : Bool} {index : ℕ} {slot : InputSlot}
  (h : QueueKept cfg enable index slot)
include h

theorem QueueKept.of_enable {next : Bool} (hnext : next = true → enable = true) :
    QueueKept cfg next index slot :=
  ⟨h.bound, h.order, fun hmode htrue => h.kept hmode (hnext htrue)⟩

theorem QueueKept.pushBack {buffer : ℕ} (hroom : HasRoom cfg index slot) :
    QueueKept cfg enable index (slot.pushBack buffer) where
  bound := by
    intro hmax
    have hlength := hroom hmax
    simp only [InputSlot.pushBack, List.length_append, List.length_singleton]
    push_cast
    omega
  order := by
    simp only [InputSlot.pushBack, ← List.append_assoc]
    exact h.order.append (List.Sublist.refl [buffer])
  kept := by
    intro hmode htrue
    obtain ⟨hdropped, haccepted⟩ := h.kept hmode htrue
    refine ⟨hdropped, ?_⟩
    simp only [InputSlot.pushBack, haccepted, List.append_assoc]

/-- Without its front the queue has room. -/
theorem QueueKept.rest_lt {front : ℕ} {rest : List ℕ}
    (hcached : slot.cachedBuffers = front :: rest)
    (hmax : 0 < cfg.maxCacheNum index) :
    (rest.length : ℤ) < cfg.maxCacheNum index := by
  have hbound := h.bound hmax
  rw [hcached, List.length_cons] at hbound
  push_cast at hbound
  omega

theorem QueueKept.dropFront (hmode : cfg.modeWhenFull index = .dropFront) :
    QueueKept cfg enable index slot.dropFront := by
  cases hcached : slot.cachedBuffers with
  | nil => simpa [InputSlot.dropFront, hcached] using h
  | cons front rest =>
      have hdrop : slot.dropFront =
          { slot with
            cachedBuffers := rest, dropped := slot.dropped ++ [front] } := by
        rw [InputSlot.dropFront, hcached]
      rw [hdrop]
      refine ⟨fun hmax => ?_, ?_, fun hblocking => ?_⟩
      · exact (h.rest_lt hcached hmax).le
      · have horder := h.order
        rw [hcached] at horder
        have hrest : List.Sublist (slot.fetched ++ rest)
            (slot.fetched ++ front :: rest) :=
          (List.Sublist.refl slot.fetched).append (List.sublist_cons_self ..)
        exact hrest.trans horder
      · rw [hmode] at hblocking
        cases hblocking

theorem QueueKept.drop {buffer : ℕ}
    (hlost : cfg.modeWhenFull index = .blocking → enable = false) :
    QueueKept cfg enable index (slot.drop buffer) := by
  refine ⟨h.bound, h.order, fun hmode htrue => ?_⟩
  rw [hlost hmode] at htrue
  cases htrue

theorem QueueKept.fetch : QueueKept cfg enable index slot.fetch := by
  cases hcached : slot.cachedBuffers with
  | nil => simpa [InputSlot.fetch, hcached] using h
  | cons front rest =>
      have hfetch : slot.fetch =
          { slot with
            cachedBuffers := rest, fetched := slot.fetched ++ [front] } := by
        rw [InputSlot.fetch, hcached]
      have hsame : slot.fetched ++ [front] ++ rest =
          slot.fetched ++ slot.cachedBuffers := by
        rw [hcached, List.append_assoc, List.singleton_append]
      rw [hfetch]
      refine ⟨fun hmax => ?_, ?_, fun hmode htrue => ?_⟩
      · exact (h.rest_lt hcached hmax).le
      · show List.Sublist (slot.fetched ++ [front] ++ rest) slot.accepted
        rw [hsame]
        exact h.order
      · obtain ⟨hdropped, haccepted⟩ := h.kept hmode htrue
        exact ⟨hdropped, haccepted.trans hsame.symm⟩

theorem QueueKept.hasRoom_dropFront : HasRoom cfg index slot.dropFront := by
  intro hmax
  cases hcached : slot.cachedBuffers with
  | nil => simpa [InputSlot.dropFront, hcached] using hmax
  | cons front rest =>
      rw [InputSlot.dropFront, hcached]
      exact h.rest_lt hcached hmax

end Queue

theorem QueueKept.hasRoom {cfg : FlowConfig} {enable : Bool} {index buffer : ℕ}
    {slot : InputSlot}
    (h : QueueKept cfg enable index (slot.pushBack buffer)) :
    HasRoom cfg index slot := by
  intro hmax
  have hbound := h.bound hmax
  simp only [InputSlot.pushBack, List.length_append, List.length_singleton]
    at hbound
  push_cast at hbound
  omega

theorem HasRoom.of_length_le {cfg : FlowConfig} {index : ℕ}
    {slot next : InputSlot} (h : HasRoom cfg index slot)
    (hle : next.cachedBuffers.length ≤ slot.cachedBuffers.length) :
    HasRoom cfg index next := by
  intro hmax
  have hlength := h hmax
  omega

/-! ## Producers between the test and the insertion -/

/-- What a producer inside the mutex of `slot` knows of its queue. -/
def ProducerPc.Ready (cfg : FlowConfig) (s : FlowState) : ProducerPc → Prop
  | .droppingFront slot _ => cfg.modeWhenFull slot = .dropFront
  | .inserting slot _ false => HasRoom cfg slot (s.slots slot)
  | _ => True

theorem ProducerPc.Ready.of_length_le {cfg : FlowConfig} {s t : FlowState}
    {pc : ProducerPc} (h : pc.Ready cfg s)
    (hle : ∀ slot, pc.place.InSlot slot →
      (t.slots slot).cachedBuffers.length ≤
        (s.slots slot).cachedBuffers.length) :
    pc.Ready cfg t := by
  cases pc with
  | droppingFront slot buffer => exact h
  | inserting slot buffer waited =>
      cases waited with
      | false => exact HasRoom.of_length_le h (hle slot rfl)
      | true => trivial
  | _ => trivial

/-! ## Every step -/

/-- The queues keep their bounds, and every producer inside a slot knows what
it is about to do to the queue. -/
structure QueuesReady (cfg : FlowConfig) (s : FlowState) : Prop where
  locks : FlowLocks s
  queues : ∀ slot, QueueKept cfg s.enable slot (s.slots slot)
  ready : ∀ index, (s.producers index).Ready cfg s

/-- A producer that comes back from the wait finds room at its insertion. -/
def RoomOnReturn (cfg : FlowConfig) (s : FlowState) : FlowInput → Prop
  | .producer index => ∀ slot buffer,
      s.producers index = .inserting slot buffer true →
        HasRoom cfg slot (s.slots slot)
  | _ => True

theorem hasRoom_of_not_full {cfg : FlowConfig} {s : FlowState} {slot : ℕ}
    (h : ¬ cfg.full s slot) : HasRoom cfg slot (s.slots slot) := by
  intro hmax
  by_contra hlength
  exact h ⟨hmax, not_lt.mp hlength⟩

theorem ready_producerStep {cfg : FlowConfig} {s : FlowState}
    (h : QueuesReady cfg s) (index : ℕ) :
    ((producerStep cfg s index (s.producers index)).producers index).Ready cfg
      (producerStep cfg s index (s.producers index)) := by
  cases hpc : s.producers index with
  | idle =>
      rw [producerStep, hpc]
      trivial
  | locking slot buffer | relocking slot buffer room | condLocking =>
      simp only [producerStep]
      split
      · simp only [FlowState.producers_setProducer, Function.update_self]
        try split
        all_goals trivial
      · rw [hpc]
        trivial
  | testing slot buffer =>
      simp only [producerStep]
      split
      case isTrue =>
        split
        case h_1 =>
          simp only [FlowState.producers_setProducer, Function.update_self]
          trivial
        case h_2 hmode =>
          simp only [FlowState.producers_setProducer, Function.update_self]
          exact hmode
        case h_3 =>
          simp only [FlowState.producers_setProducer, Function.update_self]
          trivial
      case isFalse hfull =>
        simp only [FlowState.producers_setProducer, Function.update_self]
        exact hasRoom_of_not_full hfull
  | looping slot buffer =>
      simp only [producerStep, FlowState.producers_setProducer,
        Function.update_self]
      split <;> trivial
  | returning slot buffer =>
      simp only [producerStep]
      split
      · simp only [FlowState.producers_setProducer, Function.update_self]
        trivial
      · simp only [FlowState.producers_setProducer, Function.update_self]
        trivial
  | droppingFront slot buffer =>
      simp only [producerStep, FlowState.producers_setProducer,
        Function.update_self]
      show HasRoom cfg slot _
      rw [FlowState.slots_setProducer, FlowState.slots_updateSlot, if_pos rfl]
      exact (h.queues slot).hasRoom_dropFront
  | leavingFull _ _ | sleeping _ _ | inserting _ _ _ | refusing _
  | releasing _ | condNotifying | condUnlocking =>
      simp only [producerStep, FlowState.producers_setProducer,
        Function.update_self]
      trivial

theorem SlotChange.queueKept {cfg : FlowConfig} {s : FlowState}
    (h : QueuesReady cfg s) {slot : ℕ} {input : FlowInput}
    (hroom : RoomOnReturn cfg s input) {next : InputSlot}
    (hchange : SlotChange cfg s slot input next) :
    QueueKept cfg s.enable slot next := by
  have hslot := h.queues slot
  cases hchange with
  | none hnext =>
      rw [hnext]
      exact ⟨hslot.bound, hslot.order, hslot.kept⟩
  | @pushed index buffer waited hpc =>
      apply hslot.pushBack
      cases waited with
      | false =>
          have hready := h.ready index
          rw [hpc] at hready
          exact hready
      | true => exact hroom slot buffer hpc
  | @droppedFront index buffer hpc =>
      have hready := h.ready index
      rw [hpc] at hready
      exact hslot.dropFront hready
  | refused hpc hmode =>
      apply hslot.drop
      intro hblocking
      rw [hmode] at hblocking
      cases hblocking
  | disabled hpc henable => exact hslot.drop fun _ => henable
  | fetched hpc => exact hslot.fetch

/-- Another thread's step makes no queue longer whose mutex the producer
holds. -/
theorem ready_of_other {cfg : FlowConfig} {s : FlowState}
    (h : QueuesReady cfg s) {index : ℕ} {input : FlowInput}
    (hother : input ≠ .producer index) :
    (s.producers index).Ready cfg (flowStep cfg s input) := by
  refine (h.ready index).of_length_le fun slot hinside => ?_
  refine (slotChange_flowStep cfg s input slot).length_le ?_
  intro other buffer waited hinput hpc
  have hpusher : (s.place (.producer other)).InSlot slot := by
    show (s.producers other).place.InSlot slot
    rw [hpc]
    rfl
  have hsame : FlowThread.producer other = .producer index :=
    (h.locks.slot slot).exclusive hpusher hinside
  cases hsame
  exact hother hinput

theorem queuesReady_flowStep {cfg : FlowConfig} {s : FlowState}
    {input : FlowInput} (h : QueuesReady cfg s)
    (hroom : RoomOnReturn cfg s input) :
    QueuesReady cfg (flowStep cfg s input) where
  locks := flowLocks_flowStep h.locks input
  queues := by
    intro slot
    have hslot := (slotChange_flowStep cfg s input slot).queueKept h hroom
    exact hslot.of_enable enable_of_flowStep
  ready := by
    intro index
    by_cases hown : input = .producer index
    · subst hown
      exact ready_producerStep h index
    · rcases producers_flowStep cfg s input index with
        hsame | ⟨slot, buffer, -, hlocking⟩ | hinput
      · rw [hsame]
        exact ready_of_other h hown
      · rw [hlocking]
        trivial
      · exact absurd hinput hown

theorem queuesReady_initial (cfg : FlowConfig) :
    QueuesReady cfg .initial where
  locks := flowLocks_initial
  queues := by
    intro slot
    refine ⟨fun hmax => ?_, List.Sublist.refl [], fun _ _ => ⟨rfl, rfl⟩⟩
    exact hmax.le
  ready := fun index => trivial

/-! ## Every run -/

/-- Every slot holds at most `max_cache_num` buffers when that is positive, is
emptied in the order in which it was filled and, when it blocks, has lost none
while the flow is enabled. -/
def QueuesKept (cfg : FlowConfig) (s : FlowState) : Prop :=
  ∀ slot, QueueKept cfg s.enable slot (s.slots slot)

theorem roomOnReturn_of_kept {cfg : FlowConfig} {s : FlowState}
    {input : FlowInput} (h : QueuesKept cfg (flowStep cfg s input)) :
    RoomOnReturn cfg s input := by
  cases input with
  | producer index =>
      intro slot buffer hpc
      have hslot := h slot
      rw [flowStep, hpc, producerStep, FlowState.slots_setProducer,
        FlowState.slots_updateSlot, if_pos rfl] at hslot
      exact hslot.hasRoom
  | sendInput _ _ _ | coroutine | spurious | stopAllThread | setDisable =>
      trivial

/-- The queues of a flow are kept in a run exactly when each producer that
comes back from the wait for room still has room. -/
theorem queuesKept_iff_roomOnReturn (cfg : FlowConfig)
    (inputs : List FlowInput) :
    States (flowStep cfg) (QueuesKept cfg) .initial inputs ↔
      Steps (flowStep cfg) (RoomOnReturn cfg) .initial inputs :=
  states_iff_steps (QueuesReady cfg) (fun _ h => h.queues)
    (fun _ _ h hroom => queuesReady_flowStep h hroom)
    (fun _ _ _ h => roomOnReturn_of_kept h) (queuesReady_initial cfg)

/-- One blocking slot of one buffer. -/
def singleBuffer : FlowConfig where
  inputSlotNum := 1
  inSlots := [0]
  maxCacheNum := fun _ => 1
  modeWhenFull := fun _ => .blocking

/-- The slot is full, two producers wait, the coroutine takes the buffer and
both producers see its place. -/
def twoWaiters : List FlowInput :=
  List.flatten [
    [.sendInput 0 0 10], List.replicate 7 (.producer 0),
    [.sendInput 0 0 11], List.replicate 3 (.producer 0),
    [.sendInput 1 0 12], List.replicate 3 (.producer 1),
    List.replicate 10 .coroutine, [.producer 0, .producer 1],
    List.replicate 4 (.producer 0), List.replicate 3 (.producer 1)]

theorem twoWaiters_overfull :
    ¬ ∀ (cfg : FlowConfig) (inputs : List FlowInput),
      States (flowStep cfg) (QueuesKept cfg) .initial inputs := by
  intro hclaim
  have hkept := (hclaim singleBuffer twoWaiters).last
  have hbound := (hkept 0).bound one_pos
  revert hbound
  decide

end RkaiqToolServer
