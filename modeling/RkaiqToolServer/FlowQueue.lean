import RkaiqToolServer.LockDiscipline
import RkaiqToolServer.StepRun

/-!
# The input queues of a flow

Producers call `SendInput`, which puts a buffer into the queue of an input slot
under the slot's mutex and then notifies the flow's condition.  The flow's
coroutine waits on the condition when its slots are all empty and otherwise
takes one buffer from each; `StopAllThread` sets `quit` and notifies.  Each
thread is at a place between two of its accesses to what they share; a run is a
list of scheduled steps, and a step that is not enabled changes nothing.
-/

namespace RkaiqToolServer

open LockDiscipline StepRun

inductive FlowThread
  | producer (index : ℕ)
  | coroutine
  | stopper
  deriving DecidableEq

/-- What a full queue does with one more buffer. -/
inductive InputMode
  | blocking
  | dropFront
  | dropCurrent
  deriving DecidableEq

/-- `inSlots` are the slots of the coroutine. -/
structure FlowConfig where
  inputSlotNum : ℕ
  inSlots : List ℕ
  maxCacheNum : ℕ → ℤ
  modeWhenFull : ℕ → InputMode

/-- `accepted`, `fetched` and `dropped` record the buffers pushed, the buffers
the coroutine took and the buffers lost, each in its order. -/
structure InputSlot where
  mtx : Option FlowThread
  cachedBuffers : List ℕ
  accepted : List ℕ
  fetched : List ℕ
  dropped : List ℕ
  deriving DecidableEq

/-- Where a producer is in `SendInput`.  `sleeping` is inside the loop of
`ASyncFullBlockingBehavior`, before its unlocked test of the size, and `room`
is what that test saw; `waited` tells a buffer inserted after that loop from
one inserted right after the capacity test. -/
inductive ProducerPc
  | idle
  | locking (slot buffer : ℕ)
  | testing (slot buffer : ℕ)
  | leavingFull (slot buffer : ℕ)
  | sleeping (slot buffer : ℕ)
  | relocking (slot buffer : ℕ) (room : Bool)
  | looping (slot buffer : ℕ)
  | returning (slot buffer : ℕ)
  | droppingFront (slot buffer : ℕ)
  | inserting (slot buffer : ℕ) (waited : Bool)
  | refusing (slot : ℕ)
  | releasing (slot : ℕ)
  | condLocking
  | condNotifying
  | condUnlocking
  deriving DecidableEq

/-- Where the coroutine is in its loop: the test of `quit`, then
`ASyncFetchInputCommon` with the slots it still has to look at, then the rest
of `RunOnce`. -/
inductive CoroutinePc
  | testing
  | locking
  | scanning (slots : List ℕ) (empty : Bool)
  | waiting
  | relocking
  | unlocking
  | fetching (slots : List ℕ)
  | checking (slot : ℕ) (slots : List ℕ)
  | slotLocking (slot : ℕ) (slots : List ℕ)
  | popping (slot : ℕ) (slots : List ℕ)
  | slotUnlocking (slot : ℕ) (slots : List ℕ)
  | processing
  | done
  deriving DecidableEq

/-- Where the stopper is in `StopAllThread`. -/
inductive StopperPc
  | idle
  | quitting
  | locking
  | notifying
  | unlocking
  | done
  deriving DecidableEq

structure FlowState where
  enable : Bool
  quit : Bool
  condMtx : Option FlowThread
  slots : ℕ → InputSlot
  producers : ℕ → ProducerPc
  coroutine : CoroutinePc
  stopper : StopperPc

def FlowState.initial : FlowState where
  enable := true
  quit := false
  condMtx := none
  slots := fun _ =>
    { mtx := none, cachedBuffers := [], accepted := [], fetched := [],
      dropped := [] }
  producers := fun _ => .idle
  coroutine := .testing
  stopper := .idle

/-- `spurious` is a wait that ends without a notification. -/
inductive FlowInput
  | sendInput (index slot buffer : ℕ)
  | producer (index : ℕ)
  | coroutine
  | spurious
  | stopAllThread
  | setDisable
  deriving DecidableEq

/-! ## Steps -/

def InputSlot.lock (slot : InputSlot) (thread : FlowThread) : InputSlot :=
  { slot with mtx := some thread }

def InputSlot.unlock (slot : InputSlot) : InputSlot :=
  { slot with mtx := none }

def InputSlot.pushBack (slot : InputSlot) (buffer : ℕ) : InputSlot :=
  { slot with
    cachedBuffers := slot.cachedBuffers ++ [buffer]
    accepted := slot.accepted ++ [buffer] }

def InputSlot.drop (slot : InputSlot) (buffer : ℕ) : InputSlot :=
  { slot with dropped := slot.dropped ++ [buffer] }

/-- `pop_front` by a producer that drops the front. -/
def InputSlot.dropFront (slot : InputSlot) : InputSlot :=
  match slot.cachedBuffers with
  | [] => slot
  | front :: rest =>
      { slot with cachedBuffers := rest, dropped := slot.dropped ++ [front] }

/-- `front` and `pop_front` by the coroutine. -/
def InputSlot.fetch (slot : InputSlot) : InputSlot :=
  match slot.cachedBuffers with
  | [] => slot
  | front :: rest =>
      { slot with cachedBuffers := rest, fetched := slot.fetched ++ [front] }

namespace FlowState

def setProducer (s : FlowState) (index : ℕ) (pc : ProducerPc) : FlowState :=
  { s with producers := Function.update s.producers index pc }

def setCoroutine (s : FlowState) (pc : CoroutinePc) : FlowState :=
  { s with coroutine := pc }

def setStopper (s : FlowState) (pc : StopperPc) : FlowState :=
  { s with stopper := pc }

def setCond (s : FlowState) (holder : Option FlowThread) : FlowState :=
  { s with condMtx := holder }

def updateSlot (s : FlowState) (slot : ℕ) (f : InputSlot → InputSlot) :
    FlowState :=
  { s with slots := Function.update s.slots slot (f (s.slots slot)) }

/-- `notify_all`: the coroutine, if it waits, goes on to take the mutex. -/
def notify (s : FlowState) : FlowState :=
  if s.coroutine = .waiting then s.setCoroutine .relocking else s

end FlowState

/-- `max_cache_num > 0 && max_cache_num <= size`. -/
def FlowConfig.full (cfg : FlowConfig) (s : FlowState) (slot : ℕ) : Prop :=
  0 < cfg.maxCacheNum slot ∧
    cfg.maxCacheNum slot ≤ (s.slots slot).cachedBuffers.length

instance (cfg : FlowConfig) (s : FlowState) (slot : ℕ) :
    Decidable (cfg.full s slot) :=
  inferInstanceAs (Decidable (_ ∧ _))

def sendInput (cfg : FlowConfig) (s : FlowState) (index slot buffer : ℕ) :
    FlowState :=
  if slot < cfg.inputSlotNum ∧ s.enable = true ∧ s.producers index = .idle then
    s.setProducer index (.locking slot buffer)
  else s

def producerStep (cfg : FlowConfig) (s : FlowState) (index : ℕ) :
    ProducerPc → FlowState
  | .idle => s
  | .locking slot buffer =>
      if (s.slots slot).mtx = none then
        (s.updateSlot slot (·.lock (.producer index))).setProducer index
          (.testing slot buffer)
      else s
  | .testing slot buffer =>
      if cfg.full s slot then
        match cfg.modeWhenFull slot with
        | .blocking => s.setProducer index (.leavingFull slot buffer)
        | .dropFront => s.setProducer index (.droppingFront slot buffer)
        | .dropCurrent =>
            (s.updateSlot slot (·.drop buffer)).setProducer index
              (.refusing slot)
      else s.setProducer index (.inserting slot buffer false)
  | .leavingFull slot buffer =>
      (s.updateSlot slot (·.unlock)).setProducer index (.sleeping slot buffer)
  | .sleeping slot buffer =>
      s.setProducer index (.relocking slot buffer
        (decide (((s.slots slot).cachedBuffers.length : ℤ) <
          cfg.maxCacheNum slot)))
  | .relocking slot buffer room =>
      if (s.slots slot).mtx = none then
        (s.updateSlot slot (·.lock (.producer index))).setProducer index
          (if room then .returning slot buffer else .looping slot buffer)
      else s
  | .looping slot buffer =>
      s.setProducer index
        (if s.enable then .leavingFull slot buffer
          else .returning slot buffer)
  | .returning slot buffer =>
      if s.enable then s.setProducer index (.inserting slot buffer true)
      else
        (s.updateSlot slot (·.drop buffer)).setProducer index (.refusing slot)
  | .droppingFront slot buffer =>
      (s.updateSlot slot (·.dropFront)).setProducer index
        (.inserting slot buffer false)
  | .inserting slot buffer _ =>
      (s.updateSlot slot (·.pushBack buffer)).setProducer index
        (.releasing slot)
  | .refusing slot =>
      (s.updateSlot slot (·.unlock)).setProducer index .idle
  | .releasing slot =>
      (s.updateSlot slot (·.unlock)).setProducer index .condLocking
  | .condLocking =>
      if s.condMtx = none then
        (s.setCond (some (.producer index))).setProducer index .condNotifying
      else s
  | .condNotifying => s.notify.setProducer index .condUnlocking
  | .condUnlocking => (s.setCond none).setProducer index .idle

/-- One step of the coroutine.  Both passes over the slots test for an empty
queue without the slot's mutex. -/
def coroutineStep (cfg : FlowConfig) (s : FlowState) : CoroutinePc → FlowState
  | .testing => s.setCoroutine (if s.quit then .done else .locking)
  | .locking =>
      if s.condMtx = none then
        (s.setCond (some .coroutine)).setCoroutine (.scanning cfg.inSlots true)
      else s
  | .scanning [] empty =>
      if empty then (s.setCond none).setCoroutine .waiting
      else s.setCoroutine .unlocking
  | .scanning (slot :: rest) empty =>
      s.setCoroutine
        (.scanning rest (empty && decide ((s.slots slot).cachedBuffers = [])))
  | .waiting => s
  | .relocking =>
      if s.condMtx = none then
        (s.setCond (some .coroutine)).setCoroutine .unlocking
      else s
  | .unlocking => (s.setCond none).setCoroutine (.fetching cfg.inSlots)
  | .fetching [] => s.setCoroutine .processing
  | .fetching (slot :: rest) =>
      s.setCoroutine
        (if (s.slots slot).cachedBuffers = [] then .fetching rest
          else .checking slot rest)
  | .checking slot rest =>
      s.setCoroutine (if s.enable then .slotLocking slot rest else .processing)
  | .slotLocking slot rest =>
      if (s.slots slot).mtx = none then
        (s.updateSlot slot (·.lock .coroutine)).setCoroutine
          (.popping slot rest)
      else s
  | .popping slot rest =>
      (s.updateSlot slot (·.fetch)).setCoroutine (.slotUnlocking slot rest)
  | .slotUnlocking slot rest =>
      (s.updateSlot slot (·.unlock)).setCoroutine (.fetching rest)
  | .processing => s.setCoroutine .testing
  | .done => s

def stopperStep (s : FlowState) : StopperPc → FlowState
  | .idle => { s with enable := false }.setStopper .quitting
  | .quitting => { s with quit := true }.setStopper .locking
  | .locking =>
      if s.condMtx = none then
        (s.setCond (some .stopper)).setStopper .notifying
      else s
  | .notifying => s.notify.setStopper .unlocking
  | .unlocking => (s.setCond none).setStopper .done
  | .done => s

def flowStep (cfg : FlowConfig) (s : FlowState) : FlowInput → FlowState
  | .sendInput index slot buffer => sendInput cfg s index slot buffer
  | .producer index => producerStep cfg s index (s.producers index)
  | .coroutine => coroutineStep cfg s s.coroutine
  | .spurious => s.notify
  | .stopAllThread => stopperStep s s.stopper
  | .setDisable => { s with enable := false }

end RkaiqToolServer
