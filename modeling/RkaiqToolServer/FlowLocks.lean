import RkaiqToolServer.FlowQueue

/-!
# Who is inside which mutex of a flow

Each place of a thread says whether the thread is inside the condition's mutex
and which slot's mutex it is inside.  In every reachable state the mutexes
record exactly that.
-/

namespace RkaiqToolServer

open LockDiscipline StepRun

structure Place where
  holdsCond : Bool
  slotHeld : Option ℕ
  deriving DecidableEq

def outside : Place := ⟨false, none⟩

def insideCond : Place := ⟨true, none⟩

def insideSlot (slot : ℕ) : Place := ⟨false, some slot⟩

def ProducerPc.place : ProducerPc → Place
  | .idle | .locking _ _ | .sleeping _ _ | .relocking _ _ _ | .condLocking =>
      outside
  | .testing slot _ | .leavingFull slot _ | .looping slot _
  | .returning slot _ | .droppingFront slot _ | .inserting slot _ _
  | .refusing slot | .releasing slot => insideSlot slot
  | .condNotifying | .condUnlocking => insideCond

def CoroutinePc.place : CoroutinePc → Place
  | .testing | .locking | .waiting | .relocking | .fetching _ | .checking _ _
  | .slotLocking _ _ | .processing | .done => outside
  | .popping slot _ | .slotUnlocking slot _ => insideSlot slot
  | .scanning _ _ | .unlocking => insideCond

def StopperPc.place : StopperPc → Place
  | .idle | .quitting | .locking | .done => outside
  | .notifying | .unlocking => insideCond

namespace FlowState

def place (s : FlowState) : FlowThread → Place
  | .producer index => (s.producers index).place
  | .coroutine => s.coroutine.place
  | .stopper => s.stopper.place

section Fields

variable (s : FlowState)

@[simp] theorem condMtx_notify : s.notify.condMtx = s.condMtx := by
  rw [notify]
  split <;> rfl

@[simp] theorem slots_setProducer (index : ℕ) (pc : ProducerPc) :
    (s.setProducer index pc).slots = s.slots := rfl

@[simp] theorem slots_setStopper (pc : StopperPc) :
    (s.setStopper pc).slots = s.slots := rfl

@[simp] theorem slots_notify : s.notify.slots = s.slots := by
  rw [notify]
  split <;> rfl

theorem slots_updateSlot (slot : ℕ) (f : InputSlot → InputSlot) (other : ℕ) :
    (s.updateSlot slot f).slots other =
      if other = slot then f (s.slots slot) else s.slots other := by
  by_cases h : other = slot
  · subst other
    simp [updateSlot]
  · simp [updateSlot, h]

@[simp] theorem producers_setProducer (index : ℕ) (pc : ProducerPc) :
    (s.setProducer index pc).producers =
      Function.update s.producers index pc := rfl

@[simp] theorem producers_setCoroutine (pc : CoroutinePc) :
    (s.setCoroutine pc).producers = s.producers := rfl

@[simp] theorem producers_setStopper (pc : StopperPc) :
    (s.setStopper pc).producers = s.producers := rfl

@[simp] theorem producers_setCond (holder : Option FlowThread) :
    (s.setCond holder).producers = s.producers := rfl

@[simp] theorem producers_updateSlot (slot : ℕ) (f : InputSlot → InputSlot) :
    (s.updateSlot slot f).producers = s.producers := rfl

@[simp] theorem producers_notify : s.notify.producers = s.producers := by
  rw [notify]
  split <;> rfl

@[simp] theorem enable_notify : s.notify.enable = s.enable := by
  rw [notify]
  split <;> rfl

@[simp] theorem quit_notify : s.notify.quit = s.quit := by
  rw [notify]
  split <;> rfl

@[simp] theorem stopper_notify : s.notify.stopper = s.stopper := by
  rw [notify]
  split <;> rfl

@[simp] theorem place_updateSlot (slot : ℕ) (f : InputSlot → InputSlot) :
    (s.updateSlot slot f).place = s.place := by
  funext thread
  cases thread <;> rfl

@[simp] theorem place_notify : s.notify.place = s.place := by
  rw [notify]
  split
  case isTrue hwaiting =>
    funext thread
    cases thread with
    | producer index => rfl
    | coroutine => simp [place, setCoroutine, hwaiting, CoroutinePc.place]
    | stopper => rfl
  case isFalse => rfl

theorem place_setProducer (index : ℕ) (pc : ProducerPc) :
    (s.setProducer index pc).place =
      Function.update s.place (.producer index) pc.place := by
  funext thread
  cases thread with
  | producer other =>
      by_cases h : other = index
      · subst other
        simp [place, setProducer]
      · simp [place, setProducer, h]
  | coroutine => simp [place, setProducer]
  | stopper => simp [place, setProducer]

theorem place_setCoroutine (pc : CoroutinePc) :
    (s.setCoroutine pc).place =
      Function.update s.place .coroutine pc.place := by
  funext thread
  cases thread <;> simp [place, setCoroutine]

theorem place_setStopper (pc : StopperPc) :
    (s.setStopper pc).place = Function.update s.place .stopper pc.place := by
  funext thread
  cases thread <;> simp [place, setStopper]

end Fields

end FlowState

def Place.InCond (place : Place) : Prop := place.holdsCond = true

def Place.InSlot (slot : ℕ) (place : Place) : Prop :=
  place.slotHeld = some slot

theorem insideSlot_of_ne {slot other : ℕ} (hother : other ≠ slot) :
    (insideSlot slot).InSlot other ↔ outside.InSlot other := by
  simp [insideSlot, outside, Place.InSlot, Ne.symm hother]

structure FlowLocks (s : FlowState) : Prop where
  cond : Disciplined s.condMtx fun thread => (s.place thread).InCond
  slot : ∀ slot, Disciplined (s.slots slot).mtx
    fun thread => (s.place thread).InSlot slot

section Moves

variable {s t : FlowState} (h : FlowLocks s) {me : FlowThread} {next : Place}
  (hplace : t.place = Function.update s.place me next)
include h hplace

theorem FlowLocks.stay (hsame : s.place me = next)
    (hcond : t.condMtx = s.condMtx)
    (hslots : ∀ slot, (t.slots slot).mtx = (s.slots slot).mtx) :
    FlowLocks t := by
  rw [← hsame, Function.update_eq_self] at hplace
  constructor
  · rw [hplace, hcond]
    exact h.cond
  · intro slot
    rw [hplace, hslots]
    exact h.slot slot

theorem FlowLocks.takeCond (hout : s.place me = outside)
    (hin : next = insideCond) (hfree : s.condMtx = none)
    (hcond : t.condMtx = some me)
    (hslots : ∀ slot, (t.slots slot).mtx = (s.slots slot).mtx) :
    FlowLocks t := by
  constructor
  · rw [hplace, hcond]
    exact h.cond.enter hfree (by rw [hin]; rfl)
  · intro slot
    rw [hplace, hslots]
    exact (h.slot slot).stay (by rw [hin, hout]; rfl)

theorem FlowLocks.freeCond (hin : s.place me = insideCond)
    (hout : next = outside) (hcond : t.condMtx = none)
    (hslots : ∀ slot, (t.slots slot).mtx = (s.slots slot).mtx) :
    FlowLocks t := by
  constructor
  · rw [hplace, hcond]
    have hinside : (s.place me).InCond := by rw [hin]; rfl
    exact h.cond.leave hinside (by simp [hout, outside, Place.InCond])
  · intro slot
    rw [hplace, hslots]
    exact (h.slot slot).stay (by rw [hin, hout]; rfl)

theorem FlowLocks.lockSlot {slot : ℕ} (hout : s.place me = outside)
    (hin : next = insideSlot slot) (hfree : (s.slots slot).mtx = none)
    (hcond : t.condMtx = s.condMtx)
    (hslots : ∀ other, (t.slots other).mtx =
      if other = slot then some me else (s.slots other).mtx) :
    FlowLocks t := by
  constructor
  · rw [hplace, hcond]
    exact h.cond.stay (by rw [hin, hout]; rfl)
  · intro other
    rw [hplace, hslots]
    by_cases hother : other = slot
    · subst other
      rw [if_pos rfl]
      exact (h.slot slot).enter hfree (by rw [hin]; rfl)
    · rw [if_neg hother]
      exact (h.slot other).stay (by rw [hin, hout, insideSlot_of_ne hother])

theorem FlowLocks.unlockSlot {slot : ℕ} (hin : s.place me = insideSlot slot)
    (hout : next = outside) (hcond : t.condMtx = s.condMtx)
    (hslots : ∀ other, (t.slots other).mtx =
      if other = slot then none else (s.slots other).mtx) :
    FlowLocks t := by
  constructor
  · rw [hplace, hcond]
    exact h.cond.stay (by rw [hin, hout]; rfl)
  · intro other
    rw [hplace, hslots]
    by_cases hother : other = slot
    · subst other
      have hinside : (s.place me).InSlot slot := by rw [hin]; rfl
      rw [if_pos rfl]
      exact (h.slot slot).leave hinside
        (by simp [hout, outside, Place.InSlot])
    · rw [if_neg hother]
      exact (h.slot other).stay (by rw [hin, hout, insideSlot_of_ne hother])

end Moves

theorem place_initial (thread : FlowThread) :
    FlowState.initial.place thread = outside := by
  cases thread <;> rfl

theorem flowLocks_initial : FlowLocks .initial where
  cond := disciplined_free fun thread => by
    simp [place_initial, outside, Place.InCond]
  slot := fun slot => disciplined_free fun thread => by
    simp [place_initial, outside, Place.InSlot]

/-! ## Every step -/

theorem mtx_updateSlot (s : FlowState) (slot : ℕ)
    (f : InputSlot → InputSlot) (other : ℕ) :
    ((s.updateSlot slot f).slots other).mtx =
      if other = slot then (f (s.slots slot)).mtx
      else (s.slots other).mtx := by
  rw [FlowState.slots_updateSlot]
  split <;> rfl

theorem mtx_dropFront (slot : InputSlot) : slot.dropFront.mtx = slot.mtx := by
  unfold InputSlot.dropFront
  split <;> rfl

theorem mtx_fetch (slot : InputSlot) : slot.fetch.mtx = slot.mtx := by
  unfold InputSlot.fetch
  split <;> rfl

theorem FlowLocks.updateSlot {s : FlowState} (h : FlowLocks s) (slot : ℕ)
    {f : InputSlot → InputSlot}
    (hmtx : (f (s.slots slot)).mtx = (s.slots slot).mtx) :
    FlowLocks (s.updateSlot slot f) where
  cond := by
    rw [FlowState.place_updateSlot]
    exact h.cond
  slot := by
    intro other
    rw [FlowState.place_updateSlot, mtx_updateSlot]
    split
    case isTrue heq =>
      rw [hmtx, heq]
      exact h.slot slot
    case isFalse => exact h.slot other

theorem FlowLocks.notify {s : FlowState} (h : FlowLocks s) :
    FlowLocks s.notify where
  cond := by
    rw [FlowState.place_notify, FlowState.condMtx_notify]
    exact h.cond
  slot := by
    rw [FlowState.place_notify, FlowState.slots_notify]
    exact h.slot

theorem FlowLocks.setDisable {s : FlowState} (h : FlowLocks s) :
    FlowLocks { s with enable := false } :=
  ⟨h.cond, h.slot⟩

theorem FlowLocks.setQuit {s : FlowState} (h : FlowLocks s) :
    FlowLocks { s with quit := true } :=
  ⟨h.cond, h.slot⟩

section Producer

variable {s : FlowState} (h : FlowLocks s) {index : ℕ} {pc next : ProducerPc}
  (hpc : s.producers index = pc)
include h hpc

theorem FlowLocks.setProducer (hsame : pc.place = next.place) :
    FlowLocks (s.setProducer index next) := by
  subst hpc
  exact h.stay (s.place_setProducer index next) hsame rfl fun _ => rfl

theorem FlowLocks.producerLock {slot : ℕ} (hout : pc.place = outside)
    (hin : next.place = insideSlot slot) (hfree : (s.slots slot).mtx = none) :
    FlowLocks ((s.updateSlot slot (·.lock (.producer index))).setProducer
      index next) := by
  subst hpc
  have hplace := (s.updateSlot slot (·.lock (.producer index))).place_setProducer
    index next
  rw [FlowState.place_updateSlot] at hplace
  exact h.lockSlot hplace hout hin hfree rfl
    (mtx_updateSlot s slot (·.lock (.producer index)))

theorem FlowLocks.producerUnlock {slot : ℕ}
    (hin : pc.place = insideSlot slot) (hout : next.place = outside) :
    FlowLocks ((s.updateSlot slot (·.unlock)).setProducer index next) := by
  subst hpc
  have hplace := (s.updateSlot slot (·.unlock)).place_setProducer index next
  rw [FlowState.place_updateSlot] at hplace
  exact h.unlockSlot hplace hin hout rfl (mtx_updateSlot s slot (·.unlock))

end Producer

theorem flowLocks_producerStep {cfg : FlowConfig} {s : FlowState}
    (h : FlowLocks s) (index : ℕ) :
    FlowLocks (producerStep cfg s index (s.producers index)) := by
  cases hpc : s.producers index with
  | idle => exact h
  | locking slot buffer =>
      simp only [producerStep]
      split
      case isTrue hfree => exact h.producerLock hpc rfl rfl hfree
      case isFalse => exact h
  | testing slot buffer =>
      simp only [producerStep]
      split
      case isTrue =>
        split
        · exact h.setProducer hpc rfl
        · exact h.setProducer hpc rfl
        · exact (h.updateSlot slot (f := (·.drop buffer)) rfl).setProducer hpc rfl
      case isFalse => exact h.setProducer hpc rfl
  | leavingFull slot buffer => exact h.producerUnlock hpc rfl rfl
  | sleeping slot buffer => exact h.setProducer hpc rfl
  | relocking slot buffer room =>
      simp only [producerStep]
      split
      case isTrue hfree =>
        exact h.producerLock hpc rfl (by cases room <;> rfl) hfree
      case isFalse => exact h
  | looping slot buffer =>
      exact h.setProducer hpc (by cases henable : s.enable <;> rfl)
  | returning slot buffer =>
      simp only [producerStep]
      split
      case isTrue => exact h.setProducer hpc rfl
      case isFalse =>
        exact (h.updateSlot slot (f := (·.drop buffer)) rfl).setProducer hpc rfl
  | droppingFront slot buffer =>
      refine (h.updateSlot slot (f := (·.dropFront)) ?_).setProducer hpc rfl
      exact mtx_dropFront _
  | inserting slot buffer waited =>
      exact (h.updateSlot slot (f := (·.pushBack buffer)) rfl).setProducer hpc rfl
  | refusing slot => exact h.producerUnlock hpc rfl rfl
  | releasing slot => exact h.producerUnlock hpc rfl rfl
  | condLocking =>
      simp only [producerStep]
      split
      case isTrue hfree =>
        have hplace : s.place (.producer index) = outside :=
          congrArg ProducerPc.place hpc
        exact h.takeCond (FlowState.place_setProducer _ index _) hplace rfl
          hfree rfl fun _ => rfl
      case isFalse => exact h
  | condNotifying =>
      have hnotify : s.notify.producers index = .condNotifying := by
        rw [FlowState.producers_notify, hpc]
      exact h.notify.setProducer hnotify rfl
  | condUnlocking =>
      have hplace : s.place (.producer index) = insideCond :=
        congrArg ProducerPc.place hpc
      exact h.freeCond (FlowState.place_setProducer _ index _) hplace rfl rfl
        fun _ => rfl

theorem FlowLocks.setCoroutine {s : FlowState} (h : FlowLocks s)
    {pc next : CoroutinePc} (hpc : s.coroutine = pc)
    (hsame : pc.place = next.place) : FlowLocks (s.setCoroutine next) := by
  subst hpc
  exact h.stay (s.place_setCoroutine next) hsame rfl fun _ => rfl

theorem FlowLocks.coroutineTakesCond {s : FlowState} (h : FlowLocks s)
    {pc next : CoroutinePc} (hpc : s.coroutine = pc)
    (hout : pc.place = outside) (hin : next.place = insideCond)
    (hfree : s.condMtx = none) :
    FlowLocks ((s.setCond (some .coroutine)).setCoroutine next) := by
  subst hpc
  exact h.takeCond (FlowState.place_setCoroutine _ next) hout hin hfree rfl
    fun _ => rfl

theorem FlowLocks.coroutineFreesCond {s : FlowState} (h : FlowLocks s)
    {pc next : CoroutinePc} (hpc : s.coroutine = pc)
    (hin : pc.place = insideCond) (hout : next.place = outside) :
    FlowLocks ((s.setCond none).setCoroutine next) := by
  subst hpc
  exact h.freeCond (FlowState.place_setCoroutine _ next) hin hout rfl
    fun _ => rfl

theorem flowLocks_coroutineStep {cfg : FlowConfig} {s : FlowState}
    (h : FlowLocks s) : FlowLocks (coroutineStep cfg s s.coroutine) := by
  cases hpc : s.coroutine with
  | testing => exact h.setCoroutine hpc (by cases hquit : s.quit <;> rfl)
  | locking =>
      simp only [coroutineStep]
      split
      case isTrue hfree => exact h.coroutineTakesCond hpc rfl rfl hfree
      case isFalse => exact h
  | scanning slots empty =>
      cases slots with
      | nil =>
          cases empty with
          | true => exact h.coroutineFreesCond hpc rfl rfl
          | false => exact h.setCoroutine hpc rfl
      | cons slot rest => exact h.setCoroutine hpc rfl
  | waiting => exact h
  | relocking =>
      simp only [coroutineStep]
      split
      case isTrue hfree => exact h.coroutineTakesCond hpc rfl rfl hfree
      case isFalse => exact h
  | unlocking => exact h.coroutineFreesCond hpc rfl rfl
  | fetching slots =>
      cases slots with
      | nil => exact h.setCoroutine hpc rfl
      | cons slot rest =>
          simp only [coroutineStep]
          split
          · exact h.setCoroutine hpc rfl
          · exact h.setCoroutine hpc rfl
  | checking slot rest =>
      exact h.setCoroutine hpc (by cases henable : s.enable <;> rfl)
  | slotLocking slot rest =>
      simp only [coroutineStep]
      split
      case isTrue hfree =>
        have hplace := (s.updateSlot slot (·.lock .coroutine)).place_setCoroutine
          (.popping slot rest)
        rw [FlowState.place_updateSlot] at hplace
        exact h.lockSlot hplace (congrArg CoroutinePc.place hpc) rfl hfree rfl
          (mtx_updateSlot s slot (·.lock .coroutine))
      case isFalse => exact h
  | popping slot rest =>
      exact (h.updateSlot slot (mtx_fetch _)).setCoroutine hpc rfl
  | slotUnlocking slot rest =>
      have hplace := (s.updateSlot slot (·.unlock)).place_setCoroutine
        (.fetching rest)
      rw [FlowState.place_updateSlot] at hplace
      exact h.unlockSlot hplace (congrArg CoroutinePc.place hpc) rfl rfl
        (mtx_updateSlot s slot (·.unlock))
  | processing => exact h.setCoroutine hpc rfl
  | done => exact h

theorem FlowLocks.setStopper {s : FlowState} (h : FlowLocks s)
    {pc next : StopperPc} (hpc : s.stopper = pc)
    (hsame : pc.place = next.place) : FlowLocks (s.setStopper next) := by
  subst hpc
  exact h.stay (s.place_setStopper next) hsame rfl fun _ => rfl

theorem flowLocks_stopperStep {s : FlowState} (h : FlowLocks s) :
    FlowLocks (stopperStep s s.stopper) := by
  cases hpc : s.stopper with
  | idle => exact h.setDisable.setStopper hpc rfl
  | quitting => exact h.setQuit.setStopper hpc rfl
  | locking =>
      simp only [stopperStep]
      split
      case isTrue hfree =>
        exact h.takeCond (FlowState.place_setStopper _ _)
          (congrArg StopperPc.place hpc) rfl hfree rfl fun _ => rfl
      case isFalse => exact h
  | notifying =>
      have hnotify : s.notify.stopper = .notifying := by
        rw [FlowState.stopper_notify, hpc]
      exact h.notify.setStopper hnotify rfl
  | unlocking =>
      exact h.freeCond (FlowState.place_setStopper _ _)
        (congrArg StopperPc.place hpc) rfl rfl fun _ => rfl
  | done => exact h

theorem flowLocks_flowStep {cfg : FlowConfig} {s : FlowState}
    (h : FlowLocks s) (input : FlowInput) :
    FlowLocks (flowStep cfg s input) := by
  cases input with
  | sendInput index slot buffer =>
      simp only [flowStep, sendInput]
      split
      case isTrue hcall => exact h.setProducer hcall.2.2 rfl
      case isFalse => exact h
  | producer index => exact flowLocks_producerStep h index
  | coroutine => exact flowLocks_coroutineStep h
  | spurious => exact h.notify
  | stopAllThread => exact flowLocks_stopperStep h
  | setDisable => exact h.setDisable

end RkaiqToolServer
