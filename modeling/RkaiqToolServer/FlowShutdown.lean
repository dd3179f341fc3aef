import RkaiqToolServer.FlowWakeup

/-!
# The stop of a flow

`StopAllThread` sets `quit` before it takes the condition's mutex to notify,
but the coroutine tests `quit` before it takes that mutex to scan: a
notification that falls between the two is lost.
-/

namespace RkaiqToolServer

open StepRun

def StopperPc.notifies : StopperPc → Bool
  | .quitting | .locking | .notifying => true
  | _ => false

/-- The coroutine does not sleep past `quit` when nobody is to notify. -/
def ShutdownWakes (s : FlowState) : Prop :=
  s.coroutine = .waiting → s.quit = true →
    s.stopper.notifies = true ∨ NotificationPending s

/-- When `StopAllThread` notifies, the coroutine is not between its test of
`quit` and its scan, or the scan will find a buffer. -/
def NotifiedInTime (cfg : FlowConfig) (s : FlowState) : FlowInput → Prop
  | .stopAllThread => s.stopper = .notifying → s.coroutine = .locking →
      ∃ slot ∈ cfg.inSlots, Filled s slot
  | _ => True

def StopperPc.notified : StopperPc → Bool
  | .unlocking | .done => true
  | _ => false

def StopperPc.quits : StopperPc → Bool
  | .idle | .quitting => false
  | _ => true

/-- Once `StopAllThread` has notified, a coroutine that has not seen `quit`
has a buffer ahead of its scan or is to be notified by a producer. -/
structure StopNotified (cfg : FlowConfig) (s : FlowState) : Prop where
  locks : FlowLocks s
  quit : s.quit = s.stopper.quits
  locking : s.stopper.notified = true → s.coroutine = .locking →
    ∃ slot ∈ cfg.inSlots, Filled s slot
  scanning : s.stopper.notified = true →
    ∀ rest, s.coroutine.unscanned = some rest →
      (∃ slot ∈ rest, Filled s slot) ∨ NotificationPending s

theorem StopNotified.shutdownWakes {cfg : FlowConfig} {s : FlowState}
    (h : StopNotified cfg s) : ShutdownWakes s := by
  intro hwaiting hquit
  rw [h.quit] at hquit
  have hscan : s.coroutine.unscanned = some [] := by
    rw [hwaiting]
    rfl
  cases hpc : s.stopper with
  | locking | notifying => exact .inl rfl
  | unlocking | done =>
      right
      have hnotified : s.stopper.notified = true := by
        rw [hpc]
        rfl
      rcases h.scanning hnotified [] hscan with ⟨slot, hslot, -⟩ | hpending
      · cases hslot
      · exact hpending
  | idle | quitting =>
      rw [hpc] at hquit
      cases hquit

theorem notified_stopperStep {s : FlowState}
    (h : (stopperStep s s.stopper).stopper.notified = true) :
    s.stopper.notified = true ∨ s.stopper = .notifying := by
  cases hpc : s.stopper with
  | notifying => exact .inr rfl
  | unlocking | done => exact .inl rfl
  | locking =>
      simp only [hpc, stopperStep] at h
      split at h
      · cases h
      · rw [hpc] at h
        cases h
  | idle | quitting =>
      rw [hpc] at h
      cases h

theorem quit_stopperStep {s : FlowState} (h : s.quit = s.stopper.quits) :
    (stopperStep s s.stopper).quit =
      (stopperStep s s.stopper).stopper.quits := by
  cases hpc : s.stopper with
  | locking =>
      rw [hpc] at h
      simp only [stopperStep]
      split
      · exact h
      · rw [hpc]
        exact h
  | notifying =>
      rw [hpc] at h
      exact s.quit_notify.trans h
  | idle | unlocking =>
      rw [hpc] at h
      exact h
  | quitting => rfl
  | done =>
      rw [stopperStep, hpc]
      rwa [hpc] at h

theorem control_of_other {cfg : FlowConfig} {s : FlowState}
    {input : FlowInput} (hother : input ≠ .stopAllThread) :
    (flowStep cfg s input).quit = s.quit ∧
      (flowStep cfg s input).stopper = s.stopper := by
  cases input with
  | sendInput index slot buffer =>
      have hsame := sameControl_sendInput cfg s index slot buffer
      exact ⟨hsame.quit, hsame.stopper⟩
  | producer index =>
      have hsame := sameControl_producerStep cfg s index
      exact ⟨hsame.quit, hsame.stopper⟩
  | coroutine =>
      have hsame := (frame_coroutineStep cfg s).2
      exact ⟨hsame.quit, hsame.stopper⟩
  | spurious => exact ⟨s.quit_notify, s.stopper_notify⟩
  | stopAllThread => exact absurd rfl hother
  | setDisable => exact ⟨rfl, rfl⟩

/-- The coroutine comes to its scan by seeing `quit` unset. -/
theorem locking_coroutineStep {cfg : FlowConfig} {s : FlowState}
    (h : (coroutineStep cfg s s.coroutine).coroutine = .locking) :
    s.coroutine = .locking ∨ s.quit = false := by
  by_cases hrunning : s.coroutine.running = true
  · rcases running_coroutineStep hrunning with hnext | hnext <;>
      rw [h] at hnext <;> cases hnext
  · cases hpc : s.coroutine with
    | locking => exact .inl rfl
    | testing =>
        right
        cases hquit : s.quit with
        | false => rfl
        | true =>
            rw [hpc, coroutineStep, hquit] at h
            cases h
    | scanning slots empty =>
        cases slots <;> cases empty <;> rw [hpc] at h <;> cases h
    | waiting =>
        rw [hpc, coroutineStep, hpc] at h
        cases h
    | _ =>
        rw [hpc] at hrunning
        exact absurd rfl hrunning

section StopStep

variable {cfg : FlowConfig} {s : FlowState} {input : FlowInput}
  (h : StopNotified cfg s) (hguard : NotifiedInTime cfg s input)

theorem notified_flowStep
    (hnotified : (flowStep cfg s input).stopper.notified = true) :
    s.stopper.notified = true ∨
      input = .stopAllThread ∧ s.stopper = .notifying := by
  by_cases hinput : input = .stopAllThread
  · subst hinput
    rcases notified_stopperStep hnotified with hbefore | hnotifying
    · exact .inl hbefore
    · exact .inr ⟨rfl, hnotifying⟩
  · rw [(control_of_other hinput).2] at hnotified
    exact .inl hnotified

include h in
theorem StopNotified.locking_of_flowStep
    (hnotified : (flowStep cfg s input).stopper.notified = true)
    (hlocking : (flowStep cfg s input).coroutine = .locking) :
    s.coroutine = .locking := by
  by_cases hinput : input = .coroutine
  · subst hinput
    rcases locking_coroutineStep hlocking with hbefore | hquit
    · exact hbefore
    · have hstopper : s.stopper.notified = true := by
        rcases notified_flowStep hnotified with hbefore | ⟨hstop, -⟩
        · exact hbefore
        · cases hstop
      rw [h.quit] at hquit
      cases hpc : s.stopper with
      | idle | quitting =>
          rw [hpc] at hstopper
          cases hstopper
      | locking | notifying | unlocking | done =>
          rw [hpc] at hquit
          cases hquit
  · rcases coroutine_flowStep hinput with hsame | hwoken
    · exact hsame.symm.trans hlocking
    · rw [hlocking] at hwoken
      cases hwoken

/-- What a scan has ahead of it stays there. -/
theorem scanning_step {before rest : List ℕ} (hlocks : FlowLocks s)
    (hbefore : s.coroutine.unscanned = some before)
    (hscan : (flowStep cfg s input).coroutine.unscanned = some rest)
    (h : (∃ slot ∈ rest, Filled s slot) ∨ NotificationPending s) :
    (∃ slot ∈ rest, Filled (flowStep cfg s input) slot) ∨
      NotificationPending (flowStep cfg s input) := by
  rcases h with ⟨slot, hslot, hfilled⟩ | hpending
  · left
    refine ⟨slot, hslot, hfilled.step fun slots hpc => ?_⟩
    rw [hpc] at hbefore
    cases hbefore
  · exact .inr (hpending.step hlocks hscan)

include h in
/-- The notification of `StopAllThread` leaves no coroutine in its scan. -/
theorem StopNotified.notified_before {rest : List ℕ}
    (hnotified : (flowStep cfg s input).stopper.notified = true)
    (hscan : (flowStep cfg s input).coroutine.unscanned = some rest) :
    s.stopper.notified = true := by
  rcases notified_flowStep hnotified with hbefore | ⟨hinput, hpc⟩
  · exact hbefore
  · have hholds : (s.place .stopper).InCond := by
      show s.stopper.place.InCond
      rw [hpc]
      rfl
    have hnotify := unscanned_notify h.locks hholds (by simp)
    rw [hinput, flowStep, hpc] at hscan
    exact absurd (hnotify.symm.trans hscan) (by simp)

include h hguard in
theorem StopNotified.step : StopNotified cfg (flowStep cfg s input) where
  locks := flowLocks_flowStep h.locks input
  quit := by
    by_cases hinput : input = .stopAllThread
    · subst hinput
      exact quit_stopperStep h.quit
    · rw [(control_of_other hinput).1, (control_of_other hinput).2]
      exact h.quit
  locking := by
    intro hnotified hlocking
    have hbefore := h.locking_of_flowStep hnotified hlocking
    obtain ⟨slot, hslot, hfilled⟩ : ∃ slot ∈ cfg.inSlots, Filled s slot := by
      rcases notified_flowStep hnotified with hdone | ⟨hinput, hpc⟩
      · exact h.locking hdone hbefore
      · subst hinput
        exact hguard hpc hbefore
    refine ⟨slot, hslot, hfilled.step fun slots hpc => ?_⟩
    rw [hbefore] at hpc
    cases hpc
  scanning := by
    intro hnotified rest hscan
    have hdone := h.notified_before hnotified hscan
    by_cases hinput : input = .coroutine
    · subst hinput
      rcases unscanned_coroutineStep hscan with
        hsame | ⟨hlocking, hall⟩ | ⟨first, hfirst, hempty⟩
      · exact scanning_step h.locks hsame hscan (h.scanning hdone rest hsame)
      · obtain ⟨slot, hslot, hfilled⟩ := h.locking hdone hlocking
        left
        refine ⟨slot, hall ▸ hslot, hfilled.step fun slots hpc => ?_⟩
        rw [hlocking] at hpc
        cases hpc
      · apply scanning_step h.locks hfirst hscan
        rcases h.scanning hdone _ hfirst with ⟨slot, hslot, hfilled⟩ | hpending
        · rcases List.mem_cons.mp hslot with hhead | hrest
          · subst hhead
            rcases hfilled.nonempty_or_pending with hcached | hpending
            · exact absurd hempty hcached
            · exact .inr hpending
          · exact .inl ⟨slot, hrest, hfilled⟩
        · exact .inr hpending
    · have hsame := unscanned_of_other hinput hscan
      exact scanning_step h.locks hsame hscan (h.scanning hdone rest hsame)

end StopStep

theorem stopNotified_initial (cfg : FlowConfig) :
    StopNotified cfg .initial where
  locks := flowLocks_initial
  quit := rfl
  locking := by
    intro hnotified
    cases hnotified
  scanning := by
    intro hnotified
    cases hnotified

theorem shutdownWakes_of_notifiedInTime (cfg : FlowConfig)
    (inputs : List FlowInput)
    (hguard : Steps (flowStep cfg) (NotifiedInTime cfg) .initial inputs) :
    States (flowStep cfg) ShutdownWakes .initial inputs :=
  (states_of_steps (fun _ _ h hstep => h.step hstep)
    (stopNotified_initial cfg) hguard).mono fun _ h => h.shutdownWakes

def unboundedSlot : FlowConfig where
  inputSlotNum := 1
  inSlots := [0]
  maxCacheNum := fun _ => 0
  modeWhenFull := fun _ => .blocking

/-- The stop comes when the coroutine waits. -/
def earlyWait : List FlowInput :=
  List.flatten [List.replicate 4 .coroutine, List.replicate 5 .stopAllThread,
    List.replicate 5 .coroutine]

theorem stopWhileWaiting_wakes :
    States (flowStep unboundedSlot) ShutdownWakes .initial earlyWait := by
  have hguard : Steps (flowStep unboundedSlot)
      (fun s input => input = .stopAllThread → s.stopper = .notifying →
        s.coroutine ≠ .locking) .initial earlyWait := by
    decide
  refine shutdownWakes_of_notifiedInTime unboundedSlot _ (hguard.mono ?_)
  intro s input hintime
  cases input with
  | stopAllThread =>
      exact fun hstopper hlocking => absurd hlocking (hintime rfl hstopper)
  | sendInput _ _ _ | producer _ | coroutine | spurious | setDisable => trivial

/-- The stop comes between the test of `quit` and the scan. -/
def lateStop : List FlowInput :=
  List.flatten [[.coroutine], List.replicate 5 .stopAllThread,
    List.replicate 3 .coroutine]

def asleep : FlowState :=
  lateStop.foldl (flowStep unboundedSlot) .initial

/-- Only a spurious wake-up ends that sleep. -/
theorem asleep_stays (input : FlowInput) (hinput : input ≠ .spurious) :
    flowStep unboundedSlot asleep input = asleep := by
  cases input with
  | sendInput index slot buffer =>
      rw [flowStep, sendInput, if_neg]
      rintro ⟨-, henable, -⟩
      cases henable
  | spurious => exact absurd rfl hinput
  | producer index => rfl
  | coroutine | stopAllThread | setDisable => rfl

theorem lateStop_sleeps :
    ¬ ∀ (cfg : FlowConfig) (inputs : List FlowInput),
      States (flowStep cfg) ShutdownWakes .initial inputs := by
  intro hclaim
  have hwakes : ShutdownWakes asleep :=
    (hclaim unboundedSlot lateStop).last
  rcases hwakes rfl rfl with hstopper | ⟨index, hproducer⟩
  · cases hstopper
  · cases hproducer

end RkaiqToolServer
