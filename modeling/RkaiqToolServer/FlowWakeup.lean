import RkaiqToolServer.FlowSteps

/-!
# Wake-ups of the coroutine

The coroutine waits after a scan under the condition's mutex that found its
queues empty.  A producer fills a queue before it takes that mutex to notify,
so what the scan missed is still to be notified.
-/

namespace RkaiqToolServer

open LockDiscipline StepRun

/-- The places from which a producer goes on to notify. -/
def ProducerPc.notifies : ProducerPc → Bool
  | .droppingFront _ _ | .inserting _ _ _ | .releasing _ | .condLocking
  | .condNotifying => true
  | _ => false

def NotificationPending (s : FlowState) : Prop :=
  ∃ index, (s.producers index).notifies = true

/-- The slots that the coroutine has still to look at, as long as all it has
seen were empty. -/
def CoroutinePc.unscanned : CoroutinePc → Option (List ℕ)
  | .scanning slots true => some slots
  | .waiting => some []
  | _ => none

/-- Past the scan, with no reason to wait. -/
def CoroutinePc.running : CoroutinePc → Bool
  | .testing | .locking | .scanning _ true | .waiting => false
  | _ => true

theorem unscanned_of_running {pc : CoroutinePc} (h : pc.running = true) :
    pc.unscanned = none := by
  cases pc with
  | scanning slots empty =>
      cases empty with
      | false => rfl
      | true => cases h
  | waiting => cases h
  | _ => rfl

/-- The queue is not empty, or a producer is about to push into it. -/
def Filled (s : FlowState) (slot : ℕ) : Prop :=
  (s.slots slot).cachedBuffers ≠ [] ∨
    ∃ index buffer waited, s.producers index = .inserting slot buffer waited

theorem Filled.nonempty_or_pending {s : FlowState} {slot : ℕ}
    (h : Filled s slot) :
    (s.slots slot).cachedBuffers ≠ [] ∨ NotificationPending s := by
  rcases h with hcached | ⟨index, buffer, waited, hpc⟩
  · exact .inl hcached
  · exact .inr ⟨index, by rw [hpc]; rfl⟩

section Steps

variable {cfg : FlowConfig} {s : FlowState} {input : FlowInput}

theorem coroutine_notify (s : FlowState) :
    s.notify.coroutine = s.coroutine ∨ s.notify.coroutine = .relocking := by
  rw [FlowState.notify]
  split
  · exact .inr rfl
  · exact .inl rfl

theorem coroutine_producerStep (index : ℕ) :
    (producerStep cfg s index (s.producers index)).coroutine = s.coroutine ∨
      (producerStep cfg s index (s.producers index)).coroutine =
        .relocking := by
  cases s.producers index with
  | condNotifying => exact coroutine_notify s
  | locking slot buffer | relocking slot buffer room | condLocking =>
      left
      simp only [producerStep]
      split <;> rfl
  | testing slot buffer =>
      left
      simp only [producerStep]
      split
      · split <;> rfl
      · rfl
  | returning slot buffer =>
      left
      simp only [producerStep]
      split <;> rfl
  | idle | leavingFull _ _ | sleeping _ _ | looping _ _ | droppingFront _ _
  | inserting _ _ _ | refusing _ | releasing _ | condUnlocking =>
      exact .inl rfl

theorem coroutine_stopperStep :
    (stopperStep s s.stopper).coroutine = s.coroutine ∨
      (stopperStep s s.stopper).coroutine = .relocking := by
  cases s.stopper with
  | locking =>
      left
      simp only [stopperStep]
      split <;> rfl
  | notifying => exact coroutine_notify s
  | idle | quitting | unlocking | done => exact .inl rfl

/-- Another thread moves the coroutine by waking it only. -/
theorem coroutine_flowStep (hother : input ≠ .coroutine) :
    (flowStep cfg s input).coroutine = s.coroutine ∨
      (flowStep cfg s input).coroutine = .relocking := by
  cases input with
  | sendInput index slot buffer =>
      left
      simp only [flowStep, sendInput]
      split <;> rfl
  | producer index => exact coroutine_producerStep index
  | coroutine => exact absurd rfl hother
  | spurious => exact coroutine_notify s
  | stopAllThread => exact coroutine_stopperStep
  | setDisable => exact .inl rfl

theorem running_coroutineStep (h : s.coroutine.running = true) :
    (coroutineStep cfg s s.coroutine).coroutine.running = true ∨
      (coroutineStep cfg s s.coroutine).coroutine = .testing := by
  cases hpc : s.coroutine with
  | scanning slots empty =>
      cases empty with
      | false =>
          left
          cases slots <;> rfl
      | true =>
          rw [hpc] at h
          cases h
  | relocking | slotLocking slot slots =>
      left
      simp only [coroutineStep]
      split
      · rfl
      · rwa [hpc] at h ⊢
  | fetching slots =>
      left
      cases slots with
      | nil => rfl
      | cons slot slots =>
          simp only [coroutineStep]
          split <;> rfl
  | checking slot slots =>
      left
      simp only [coroutineStep]
      split <;> rfl
  | unlocking | popping _ _ | slotUnlocking _ _ => exact .inl rfl
  | processing => exact .inr rfl
  | done =>
      left
      rw [coroutineStep, hpc]
      rfl
  | testing | locking | waiting =>
      rw [hpc] at h
      cases h

/-- How the scan goes on. -/
theorem unscanned_coroutineStep {rest : List ℕ}
    (h : (coroutineStep cfg s s.coroutine).coroutine.unscanned = some rest) :
    s.coroutine.unscanned = some rest ∨
      s.coroutine = .locking ∧ rest = cfg.inSlots ∨
      ∃ slot, s.coroutine.unscanned = some (slot :: rest) ∧
        (s.slots slot).cachedBuffers = [] := by
  by_cases hrunning : s.coroutine.running = true
  · rcases running_coroutineStep hrunning with hnext | hnext
    · rw [unscanned_of_running hnext] at h
      cases h
    · rw [hnext] at h
      cases h
  · cases hpc : s.coroutine with
    | testing =>
        simp only [hpc, coroutineStep] at h
        split at h <;> cases h
    | locking =>
        simp only [hpc, coroutineStep] at h
        split at h
        case isTrue => exact .inr (.inl ⟨rfl, (Option.some.inj h).symm⟩)
        case isFalse =>
          rw [hpc] at h
          cases h
    | scanning slots empty =>
        rw [hpc] at h hrunning
        cases empty with
        | false => exact absurd rfl hrunning
        | true =>
            cases slots with
            | nil => exact .inl h
            | cons slot slots =>
                by_cases hcached : (s.slots slot).cachedBuffers = []
                · right
                  right
                  rw [coroutineStep, decide_eq_true hcached] at h
                  cases h
                  exact ⟨slot, rfl, hcached⟩
                · rw [coroutineStep, decide_eq_false hcached] at h
                  cases h
    | waiting =>
        rw [hpc, coroutineStep, hpc] at h
        exact .inl h
    | _ =>
        rw [hpc] at hrunning
        exact absurd rfl hrunning

theorem unscanned_of_other {rest : List ℕ} (hother : input ≠ .coroutine)
    (h : (flowStep cfg s input).coroutine.unscanned = some rest) :
    s.coroutine.unscanned = some rest := by
  rcases coroutine_flowStep hother with hsame | hwoken
  · rwa [hsame] at h
  · rw [hwoken] at h
    cases h

theorem releasing_of_inserting {index slot buffer : ℕ} {waited : Bool}
    (hpc : s.producers index = .inserting slot buffer waited) :
    (flowStep cfg s (.producer index)).producers index = .releasing slot := by
  rw [flowStep, hpc, producerStep, FlowState.producers_setProducer,
    Function.update_self]

theorem inserting_of_droppingFront {index slot buffer : ℕ}
    (hpc : s.producers index = .droppingFront slot buffer) :
    (flowStep cfg s (.producer index)).producers index =
      .inserting slot buffer false := by
  rw [flowStep, hpc, producerStep, FlowState.producers_setProducer,
    Function.update_self]

/-- A queue that a step fills is to be notified. -/
theorem nonempty_flowStep {slot : ℕ}
    (hcached : ((flowStep cfg s input).slots slot).cachedBuffers ≠ []) :
    (s.slots slot).cachedBuffers ≠ [] ∨
      NotificationPending (flowStep cfg s input) := by
  generalize hnext : (flowStep cfg s input).slots slot = next at hcached
  have hchange := slotChange_flowStep cfg s input slot
  rw [hnext] at hchange
  cases hchange with
  | none hsame =>
      rw [hsame] at hcached
      exact .inl hcached
  | @pushed index buffer waited hpc =>
      exact .inr ⟨index, by rw [releasing_of_inserting hpc]; rfl⟩
  | droppedFront hpc =>
      left
      intro hempty
      rw [InputSlot.dropFront, hempty] at hcached
      exact hcached hempty
  | refused hpc hmode => exact .inl hcached
  | disabled hpc henable => exact .inl hcached
  | fetched hpc =>
      left
      intro hempty
      rw [InputSlot.fetch, hempty] at hcached
      exact hcached hempty

/-- Only the coroutine empties a queue for longer than an insertion. -/
theorem Filled.step {slot : ℕ} (h : Filled s slot)
    (hpopping : ∀ rest, s.coroutine ≠ .popping slot rest) :
    Filled (flowStep cfg s input) slot := by
  rcases h with hcached | ⟨index, buffer, waited, hpc⟩
  · generalize hnext : (flowStep cfg s input).slots slot = next
    have hchange := slotChange_flowStep cfg s input slot
    rw [hnext] at hchange
    cases hchange with
    | none hsame =>
        left
        rw [hnext, hsame]
        exact hcached
    | pushed hpc =>
        left
        rw [hnext]
        simp [InputSlot.pushBack]
    | @droppedFront index buffer hpc =>
        exact .inr ⟨index, buffer, false, inserting_of_droppingFront hpc⟩
    | refused hpc hmode => exact .inl (hnext ▸ hcached)
    | disabled hpc henable => exact .inl (hnext ▸ hcached)
    | fetched hpc => exact absurd hpc (hpopping _)
  · rcases producers_flowStep cfg s input index with
      hsame | ⟨_, _, hidle, -⟩ | hinput
    · exact .inr ⟨index, buffer, waited, hsame.trans hpc⟩
    · rw [hpc] at hidle
      cases hidle
    · left
      rw [hinput, flowStep, hpc, producerStep,
        FlowState.slots_setProducer, FlowState.slots_updateSlot, if_pos rfl]
      simp [InputSlot.pushBack]

/-- The one that holds the condition's mutex. -/
theorem not_scanning_of_holds (hlocks : FlowLocks s) {thread : FlowThread}
    (hholds : (s.place thread).InCond) (hthread : thread ≠ .coroutine)
    (slots : List ℕ) (empty : Bool) : s.coroutine ≠ .scanning slots empty := by
  intro hpc
  have hinside : (s.place .coroutine).InCond := by
    show s.coroutine.place.InCond
    rw [hpc]
    rfl
  exact hthread (hlocks.cond.exclusive hholds hinside)

/-- A notification by a thread inside the mutex ends the wait. -/
theorem unscanned_notify (hlocks : FlowLocks s) {thread : FlowThread}
    (hholds : (s.place thread).InCond) (hthread : thread ≠ .coroutine) :
    s.notify.coroutine.unscanned = none := by
  rw [FlowState.notify]
  split
  case isTrue => rfl
  case isFalse hwaiting =>
    cases hpc : s.coroutine with
    | scanning slots empty =>
        exact absurd hpc
          (not_scanning_of_holds hlocks hholds hthread slots empty)
    | waiting => exact absurd hpc hwaiting
    | _ => rfl

/-- A producer on its way to notify gets there before the coroutine waits
again. -/
theorem NotificationPending.step (h : NotificationPending s)
    (hlocks : FlowLocks s) {rest : List ℕ}
    (hscan : (flowStep cfg s input).coroutine.unscanned = some rest) :
    NotificationPending (flowStep cfg s input) := by
  obtain ⟨index, hpending⟩ := h
  refine ⟨index, ?_⟩
  rcases producers_flowStep cfg s input index with
    hsame | ⟨_, _, hidle, -⟩ | hinput
  · rwa [hsame]
  · rw [hidle] at hpending
    cases hpending
  · subst hinput
    cases hpc : s.producers index with
    | condNotifying =>
        have hholds : (s.place (.producer index)).InCond := by
          show (s.producers index).place.InCond
          rw [hpc]
          rfl
        have hnotify := unscanned_notify hlocks hholds (by simp)
        rw [flowStep, hpc] at hscan
        exact absurd (hnotify.symm.trans hscan) (by simp)
    | condLocking =>
        simp only [flowStep, hpc, producerStep]
        split
        · simp [ProducerPc.notifies]
        · rw [hpc]
          rfl
    | droppingFront slot buffer =>
        rw [inserting_of_droppingFront hpc]
        rfl
    | inserting slot buffer waited =>
        rw [releasing_of_inserting hpc]
        rfl
    | releasing slot =>
        simp [flowStep, hpc, producerStep, ProducerPc.notifies]
    | _ =>
        rw [hpc] at hpending
        cases hpending

end Steps

/-! ## A buffer in a queue -/

/-- A step of a producer or of the stopper, no new call and no spurious
wake-up. -/
def FlowInput.goesOn : FlowInput → Bool
  | .producer _ | .stopAllThread => true
  | _ => false

/-- The threads inside the flow can go on until the coroutine is woken. -/
def CanWake (cfg : FlowConfig) (s : FlowState) : Prop :=
  ∃ inputs : List FlowInput, (∀ input ∈ inputs, input.goesOn = true) ∧
    (inputs.foldl (flowStep cfg) s).coroutine = .relocking

/-- The coroutine does not sleep on a buffer that nobody is to notify. -/
def DataWakes (cfg : FlowConfig) (s : FlowState) : Prop :=
  s.coroutine = .waiting →
    (∃ slot ∈ cfg.inSlots, (s.slots slot).cachedBuffers ≠ []) →
      NotificationPending s ∧ CanWake cfg s

section Wake

variable {cfg : FlowConfig} {s : FlowState}

theorem CanWake.after (input : FlowInput) (hinput : input.goesOn = true)
    (h : CanWake cfg (flowStep cfg s input)) : CanWake cfg s := by
  obtain ⟨inputs, hgoesOn, hwoken⟩ := h
  refine ⟨input :: inputs, ?_, hwoken⟩
  intro other hother
  rcases List.mem_cons.mp hother with rfl | hlater
  · exact hinput
  · exact hgoesOn other hlater

theorem canWake_of_relocking (h : s.coroutine = .relocking) :
    CanWake cfg s :=
  ⟨[], by simp, h⟩

theorem notify_of_waiting (hwaiting : s.coroutine = .waiting) :
    s.notify.coroutine = .relocking := by
  rw [FlowState.notify, if_pos hwaiting]
  rfl

theorem canWake_of_condNotifying (index : ℕ)
    (hpc : s.producers index = .condNotifying)
    (hwaiting : s.coroutine = .waiting) : CanWake cfg s := by
  apply CanWake.after (.producer index) rfl
  rw [flowStep, hpc]
  exact canWake_of_relocking (notify_of_waiting hwaiting)

/-- A producer on its way, when nobody is inside the condition's mutex. -/
theorem canWake_of_free (index : ℕ)
    (hpending : (s.producers index).notifies = true)
    (hwaiting : s.coroutine = .waiting) (hfree : s.condMtx = none) :
    CanWake cfg s := by
  have hlocking : ∀ t : FlowState, t.producers index = .condLocking →
      t.coroutine = .waiting → t.condMtx = none → CanWake cfg t := by
    intro t hpc ht htfree
    apply CanWake.after (.producer index) rfl
    rw [flowStep, hpc, producerStep, if_pos htfree]
    exact canWake_of_condNotifying index (by simp) ht
  have hreleasing : ∀ (t : FlowState) (slot : ℕ),
      t.producers index = .releasing slot →
      t.coroutine = .waiting → t.condMtx = none → CanWake cfg t := by
    intro t slot hpc ht htfree
    apply CanWake.after (.producer index) rfl
    rw [flowStep, hpc, producerStep]
    exact hlocking _ (by simp) ht htfree
  have hinserting : ∀ (t : FlowState) (slot buffer : ℕ) (waited : Bool),
      t.producers index = .inserting slot buffer waited →
      t.coroutine = .waiting → t.condMtx = none → CanWake cfg t := by
    intro t slot buffer waited hpc ht htfree
    apply CanWake.after (.producer index) rfl
    rw [flowStep, hpc, producerStep]
    exact hreleasing _ slot (by simp) ht htfree
  cases hpc : s.producers index with
  | condNotifying => exact canWake_of_condNotifying index hpc hwaiting
  | condLocking => exact hlocking s hpc hwaiting hfree
  | releasing slot => exact hreleasing s slot hpc hwaiting hfree
  | inserting slot buffer waited =>
      exact hinserting s slot buffer waited hpc hwaiting hfree
  | droppingFront slot buffer =>
      apply CanWake.after (.producer index) rfl
      rw [flowStep, hpc, producerStep]
      exact hinserting _ slot buffer false (by simp) hwaiting hfree
  | _ =>
      rw [hpc] at hpending
      cases hpending

/-- Whoever is inside the condition's mutex notifies, or leaves it. -/
theorem canWake_of_pending (hlocks : FlowLocks s)
    (hwaiting : s.coroutine = .waiting) (h : NotificationPending s) :
    CanWake cfg s := by
  obtain ⟨index, hpending⟩ := h
  cases hholder : s.condMtx with
  | none => exact canWake_of_free index hpending hwaiting hholder
  | some thread =>
      have hinside := (hlocks.cond thread).mp hholder
      cases thread with
      | coroutine =>
          have hplace : s.coroutine.place.InCond := hinside
          rw [hwaiting] at hplace
          cases hplace
      | producer other =>
          have hplace : (s.producers other).place.InCond := hinside
          cases hpc : s.producers other with
          | condNotifying => exact canWake_of_condNotifying other hpc hwaiting
          | condUnlocking =>
              have hother : index ≠ other := by
                rintro rfl
                rw [hpc] at hpending
                cases hpending
              apply CanWake.after (.producer other) rfl
              rw [flowStep, hpc, producerStep]
              refine canWake_of_free index ?_ hwaiting rfl
              simpa [hother] using hpending
          | _ =>
              rw [hpc] at hplace
              cases hplace
      | stopper =>
          have hplace : s.stopper.place.InCond := hinside
          apply CanWake.after .stopAllThread rfl
          cases hpc : s.stopper with
          | notifying =>
              rw [flowStep, hpc]
              exact canWake_of_relocking (notify_of_waiting hwaiting)
          | unlocking =>
              rw [flowStep, hpc, stopperStep]
              exact canWake_of_free index hpending hwaiting rfl
          | _ =>
              rw [hpc] at hplace
              cases hplace

end Wake

/-- What the scan has passed and is no longer empty is to be notified. -/
structure ScanNotified (cfg : FlowConfig) (s : FlowState) : Prop where
  locks : FlowLocks s
  passed : ∀ rest, s.coroutine.unscanned = some rest →
    ∀ slot ∈ cfg.inSlots, slot ∉ rest →
      (s.slots slot).cachedBuffers ≠ [] → NotificationPending s

theorem ScanNotified.step {cfg : FlowConfig} {s : FlowState}
    (h : ScanNotified cfg s) (input : FlowInput) :
    ScanNotified cfg (flowStep cfg s input) where
  locks := flowLocks_flowStep h.locks input
  passed := by
    intro rest hscan slot hslot hpassed hcached
    rcases nonempty_flowStep hcached with hbefore | hpending
    · have hbefore : NotificationPending s := by
        by_cases hinput : input = .coroutine
        · subst hinput
          rcases unscanned_coroutineStep hscan with
            hsame | ⟨-, hall⟩ | ⟨first, hfirst, hempty⟩
          · exact h.passed rest hsame slot hslot hpassed hbefore
          · rw [hall] at hpassed
            exact absurd hslot hpassed
          · have hne : slot ≠ first := by
              rintro rfl
              exact hbefore hempty
            exact h.passed _ hfirst slot hslot
              (List.not_mem_cons_of_ne_of_not_mem hne hpassed) hbefore
        · exact h.passed rest (unscanned_of_other hinput hscan) slot hslot
            hpassed hbefore
      exact hbefore.step h.locks hscan
    · exact hpending

theorem scanNotified_initial (cfg : FlowConfig) :
    ScanNotified cfg .initial where
  locks := flowLocks_initial
  passed := by
    intro rest hscan
    cases hscan

theorem dataWakes_run (cfg : FlowConfig) (inputs : List FlowInput) :
    States (flowStep cfg) (DataWakes cfg) .initial inputs := by
  have hinv : States (flowStep cfg) (ScanNotified cfg) .initial inputs :=
    states_of_step (fun _ input h => h.step input) (scanNotified_initial cfg)
  refine hinv.mono fun s h hwaiting => ?_
  rintro ⟨slot, hslot, hcached⟩
  have hscan : s.coroutine.unscanned = some [] := by
    rw [hwaiting]
    rfl
  have hpending := h.passed [] hscan slot hslot List.not_mem_nil hcached
  exact ⟨hpending, canWake_of_pending h.locks hwaiting hpending⟩

end RkaiqToolServer
