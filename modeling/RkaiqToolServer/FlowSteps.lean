import RkaiqToolServer.FlowLocks

/-!
# What one step of a flow changes

Inversion of a step: what it does to the buffers of a slot, which producer it
moves, and who touches `enable`, `quit` and the stopper.
-/

namespace RkaiqToolServer

open LockDiscipline StepRun

/-- What one step does to the buffers of a slot. -/
inductive SlotChange (cfg : FlowConfig) (s : FlowState) (slot : ℕ) :
    FlowInput → InputSlot → Prop
  | none {input : FlowInput} {next : InputSlot}
      (hnext : next = { s.slots slot with mtx := next.mtx }) :
      SlotChange cfg s slot input next
  | pushed {index buffer : ℕ} {waited : Bool}
      (hpc : s.producers index = .inserting slot buffer waited) :
      SlotChange cfg s slot (.producer index) ((s.slots slot).pushBack buffer)
  | droppedFront {index buffer : ℕ}
      (hpc : s.producers index = .droppingFront slot buffer) :
      SlotChange cfg s slot (.producer index) (s.slots slot).dropFront
  | refused {index buffer : ℕ}
      (hpc : s.producers index = .testing slot buffer)
      (hmode : cfg.modeWhenFull slot = .dropCurrent) :
      SlotChange cfg s slot (.producer index) ((s.slots slot).drop buffer)
  | disabled {index buffer : ℕ}
      (hpc : s.producers index = .returning slot buffer)
      (henable : s.enable = false) :
      SlotChange cfg s slot (.producer index) ((s.slots slot).drop buffer)
  | fetched {rest : List ℕ} (hpc : s.coroutine = .popping slot rest) :
      SlotChange cfg s slot .coroutine (s.slots slot).fetch

section Changes

variable {cfg : FlowConfig} {s : FlowState} {slot : ℕ} {input : FlowInput}

theorem SlotChange.unchanged : SlotChange cfg s slot input (s.slots slot) :=
  .none rfl

/-- A change of one slot is seen at that slot only. -/
theorem SlotChange.updateSlot {changed : ℕ} {f : InputSlot → InputSlot}
    (h : slot = changed → SlotChange cfg s slot input (f (s.slots slot))) :
    SlotChange cfg s slot input ((s.updateSlot changed f).slots slot) := by
  rw [FlowState.slots_updateSlot]
  split
  case isTrue hslot =>
    subst hslot
    exact h rfl
  case isFalse => exact .unchanged

theorem SlotChange.lock {changed : ℕ} {thread : FlowThread} :
    SlotChange cfg s slot input
      ((s.updateSlot changed (·.lock thread)).slots slot) :=
  .updateSlot fun _ => .none rfl

theorem SlotChange.unlock {changed : ℕ} :
    SlotChange cfg s slot input ((s.updateSlot changed (·.unlock)).slots slot) :=
  .updateSlot fun _ => .none rfl

theorem slotChange_producerStep (cfg : FlowConfig) (s : FlowState)
    (slot index : ℕ) :
    SlotChange cfg s slot (.producer index)
      ((producerStep cfg s index (s.producers index)).slots slot) := by
  cases hpc : s.producers index with
  | idle => exact .unchanged
  | locking changed buffer =>
      simp only [producerStep]
      split
      · exact .lock
      · exact .unchanged
  | testing changed buffer =>
      simp only [producerStep]
      split
      · split
        case h_1 => exact .unchanged
        case h_2 => exact .unchanged
        case h_3 hmode =>
          rw [FlowState.slots_setProducer]
          refine .updateSlot fun hslot => ?_
          subst hslot
          exact .refused hpc hmode
      · exact .unchanged
  | leavingFull changed buffer => exact .unlock
  | sleeping changed buffer => exact .unchanged
  | relocking changed buffer room =>
      simp only [producerStep]
      split
      · exact .lock
      · exact .unchanged
  | looping changed buffer => exact .unchanged
  | returning changed buffer =>
      simp only [producerStep]
      split
      case isTrue => exact .unchanged
      case isFalse henable =>
        rw [FlowState.slots_setProducer]
        refine .updateSlot fun hslot => ?_
        subst hslot
        exact .disabled hpc (Bool.eq_false_iff.mpr henable)
  | droppingFront changed buffer =>
      rw [producerStep, FlowState.slots_setProducer]
      refine .updateSlot fun hslot => ?_
      subst hslot
      exact .droppedFront hpc
  | inserting changed buffer waited =>
      rw [producerStep, FlowState.slots_setProducer]
      refine .updateSlot fun hslot => ?_
      subst hslot
      exact .pushed hpc
  | refusing changed => exact .unlock
  | releasing changed => exact .unlock
  | condLocking =>
      simp only [producerStep]
      split
      · exact .unchanged
      · exact .unchanged
  | condNotifying =>
      rw [producerStep, FlowState.slots_setProducer, FlowState.slots_notify]
      exact .unchanged
  | condUnlocking => exact .unchanged

theorem slotChange_coroutineStep (cfg : FlowConfig) (s : FlowState)
    (slot : ℕ) :
    SlotChange cfg s slot .coroutine
      ((coroutineStep cfg s s.coroutine).slots slot) := by
  cases hpc : s.coroutine with
  | locking | relocking =>
      simp only [coroutineStep]
      split
      · exact .unchanged
      · exact .unchanged
  | scanning slots empty =>
      cases slots with
      | nil => cases empty <;> exact .unchanged
      | cons first rest => exact .unchanged
  | fetching slots =>
      cases slots with
      | nil => exact .unchanged
      | cons first rest => exact .unchanged
  | slotLocking changed rest =>
      simp only [coroutineStep]
      split
      · exact .lock
      · exact .unchanged
  | popping changed rest =>
      refine .updateSlot fun hslot => ?_
      subst hslot
      exact .fetched hpc
  | slotUnlocking changed rest => exact .unlock
  | testing | waiting | unlocking | checking _ _ | processing | done =>
      exact .unchanged

theorem slots_stopperStep (s : FlowState) :
    (stopperStep s s.stopper).slots = s.slots := by
  cases s.stopper with
  | locking =>
      simp only [stopperStep]
      split <;> rfl
  | notifying =>
      rw [stopperStep, FlowState.slots_setStopper, FlowState.slots_notify]
  | idle | quitting | unlocking | done => rfl

theorem slotChange_flowStep (cfg : FlowConfig) (s : FlowState)
    (input : FlowInput) (slot : ℕ) :
    SlotChange cfg s slot input ((flowStep cfg s input).slots slot) := by
  cases input with
  | sendInput index changed buffer =>
      simp only [flowStep, sendInput]
      split
      · exact .unchanged
      · exact .unchanged
  | producer index => exact slotChange_producerStep cfg s slot index
  | coroutine => exact slotChange_coroutineStep cfg s slot
  | spurious =>
      rw [flowStep, FlowState.slots_notify]
      exact .unchanged
  | stopAllThread =>
      rw [flowStep, slots_stopperStep]
      exact .unchanged
  | setDisable => exact .unchanged

end Changes

/-- A step that does not push into the queue does not make it longer. -/
theorem SlotChange.length_le {cfg : FlowConfig} {s : FlowState} {slot : ℕ}
    {input : FlowInput} {next : InputSlot}
    (h : SlotChange cfg s slot input next)
    (hpush : ∀ index buffer waited, input = .producer index →
      s.producers index ≠ .inserting slot buffer waited) :
    next.cachedBuffers.length ≤ (s.slots slot).cachedBuffers.length := by
  cases h with
  | none hnext => rw [hnext]
  | pushed hpc => exact absurd hpc (hpush _ _ _ rfl)
  | droppedFront hpc =>
      unfold InputSlot.dropFront
      split
      case h_1 => exact le_refl _
      case h_2 hcached => simp [hcached]
  | refused hpc hmode => exact le_refl _
  | disabled hpc henable => exact le_refl _
  | fetched hpc =>
      unfold InputSlot.fetch
      split
      case h_1 => exact le_refl _
      case h_2 hcached => simp [hcached]

/-! ## Who changes the flow -/

/-- Neither `StopAllThread` nor a disable. -/
structure FlowState.SameControl (s t : FlowState) : Prop where
  enable : t.enable = s.enable
  quit : t.quit = s.quit
  stopper : t.stopper = s.stopper

theorem FlowState.SameControl.notify (s : FlowState) :
    s.SameControl s.notify :=
  ⟨s.enable_notify, s.quit_notify, s.stopper_notify⟩

theorem sameControl_sendInput (cfg : FlowConfig) (s : FlowState)
    (index slot buffer : ℕ) :
    s.SameControl (sendInput cfg s index slot buffer) := by
  simp only [sendInput]
  split <;> exact ⟨rfl, rfl, rfl⟩

theorem sameControl_producerStep (cfg : FlowConfig) (s : FlowState)
    (index : ℕ) :
    s.SameControl (producerStep cfg s index (s.producers index)) := by
  cases s.producers index with
  | locking slot buffer | relocking slot buffer room | condLocking =>
      simp only [producerStep]
      split <;> exact ⟨rfl, rfl, rfl⟩
  | testing slot buffer =>
      simp only [producerStep]
      split
      · split <;> exact ⟨rfl, rfl, rfl⟩
      · exact ⟨rfl, rfl, rfl⟩
  | returning slot buffer =>
      simp only [producerStep]
      split <;> exact ⟨rfl, rfl, rfl⟩
  | condNotifying =>
      have hnotify := FlowState.SameControl.notify s
      exact ⟨hnotify.enable, hnotify.quit, hnotify.stopper⟩
  | idle | leavingFull _ _ | sleeping _ _ | looping _ _ | droppingFront _ _
  | inserting _ _ _ | refusing _ | releasing _ | condUnlocking =>
      exact ⟨rfl, rfl, rfl⟩

/-- The coroutine moves itself, the condition's mutex and the slots only. -/
theorem frame_coroutineStep (cfg : FlowConfig) (s : FlowState) :
    (coroutineStep cfg s s.coroutine).producers = s.producers ∧
      s.SameControl (coroutineStep cfg s s.coroutine) := by
  cases s.coroutine with
  | locking | relocking | slotLocking _ _ =>
      simp only [coroutineStep]
      split <;> exact ⟨rfl, rfl, rfl, rfl⟩
  | scanning slots empty =>
      cases slots with
      | nil => cases empty <;> exact ⟨rfl, rfl, rfl, rfl⟩
      | cons first rest => exact ⟨rfl, rfl, rfl, rfl⟩
  | fetching slots =>
      cases slots with
      | nil => exact ⟨rfl, rfl, rfl, rfl⟩
      | cons first rest => exact ⟨rfl, rfl, rfl, rfl⟩
  | testing | waiting | unlocking | checking _ _ | popping _ _
  | slotUnlocking _ _ | processing | done => exact ⟨rfl, rfl, rfl, rfl⟩

/-! ## Who moves a producer -/

theorem producers_producerStep (cfg : FlowConfig) (s : FlowState)
    {index other : ℕ} (hother : other ≠ index) :
    (producerStep cfg s index (s.producers index)).producers other =
      s.producers other := by
  cases s.producers index with
  | idle => rfl
  | locking slot buffer | relocking slot buffer room | condLocking =>
      simp only [producerStep]
      split <;> simp [hother]
  | testing slot buffer =>
      simp only [producerStep]
      split
      · split <;> simp [hother]
      · simp [hother]
  | returning slot buffer =>
      simp only [producerStep]
      split <;> simp [hother]
  | leavingFull _ _ | sleeping _ _ | looping _ _ | droppingFront _ _
  | inserting _ _ _ | refusing _ | releasing _ | condNotifying
  | condUnlocking => simp [producerStep, hother]

theorem producers_stopperStep (s : FlowState) :
    (stopperStep s s.stopper).producers = s.producers := by
  cases s.stopper with
  | locking =>
      simp only [stopperStep]
      split <;> rfl
  | notifying => simp [stopperStep]
  | idle | quitting | unlocking | done => rfl

/-- Only its own steps and its calls move a producer. -/
theorem producers_flowStep (cfg : FlowConfig) (s : FlowState)
    (input : FlowInput) (index : ℕ) :
    (flowStep cfg s input).producers index = s.producers index ∨
      (∃ slot buffer, s.producers index = .idle ∧
        (flowStep cfg s input).producers index = .locking slot buffer) ∨
      input = .producer index := by
  cases input with
  | sendInput other slot buffer =>
      simp only [flowStep, sendInput]
      split
      case isTrue hcall =>
        by_cases hother : index = other
        · subst hother
          exact .inr (.inl ⟨slot, buffer, hcall.2.2, by simp⟩)
        · left
          simp [hother]
      case isFalse => exact .inl rfl
  | producer other =>
      by_cases hother : index = other
      · subst hother
        exact .inr (.inr rfl)
      · exact .inl (producers_producerStep cfg s hother)
  | coroutine =>
      left
      rw [flowStep, (frame_coroutineStep cfg s).1]
  | spurious =>
      left
      rw [flowStep, FlowState.producers_notify]
  | stopAllThread =>
      left
      rw [flowStep, producers_stopperStep]
  | setDisable => exact .inl rfl

/-- Nothing enables a flow again. -/
theorem enable_of_flowStep {cfg : FlowConfig} {s : FlowState}
    {input : FlowInput} (h : (flowStep cfg s input).enable = true) :
    s.enable = true := by
  cases input with
  | sendInput index slot buffer =>
      rwa [flowStep, (sameControl_sendInput cfg s index slot buffer).enable] at h
  | producer index =>
      rwa [flowStep, (sameControl_producerStep cfg s index).enable] at h
  | coroutine => rwa [flowStep, (frame_coroutineStep cfg s).2.enable] at h
  | spurious => rwa [flowStep, FlowState.enable_notify] at h
  | stopAllThread =>
      cases hpc : s.stopper with
      | idle =>
          rw [flowStep, hpc] at h
          cases h
      | locking =>
          simp only [flowStep, hpc, stopperStep] at h
          split at h
          · exact h
          · exact h
      | notifying =>
          rw [flowStep, hpc] at h
          exact s.enable_notify.symm.trans h
      | quitting | unlocking | done =>
          rw [flowStep, hpc] at h
          exact h
  | setDisable => cases h

end RkaiqToolServer
