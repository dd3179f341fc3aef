import RkaiqToolServer.ForwarderThreads

/-!
# How many forwarders are alive

The flag that the creator tests is stored by the created thread, and other
threads clear it while a forwarder lives.  A second forwarder is created
exactly when a creator takes the mutex between the creation of the first and
its store, or between a clearing from outside and the end of the first.
-/

namespace RkaiqToolServer

open StepRun

/-- No forwarder is about to store the flag, and none lives on after the flag
was cleared. -/
def CheckAllowed (s : ThreadState) : Prop :=
  ∀ forwarder ∈ s.forwarders,
    forwarder.pc ≠ .starting ∧ s.cleared = false

def InputAllowed (s : ThreadState) : ThreadInput → Prop
  | .check call => call < s.checking.length → CheckAllowed s
  | _ => True

structure OneForwarder (s : ThreadState) : Prop where
  unique : s.forwarders.length ≤ 1
  starting : ∀ forwarder ∈ s.forwarders,
    forwarder.pc = .starting → s.isRecvRunning = false
  running : ∀ forwarder ∈ s.forwarders,
    forwarder.pc ≠ .starting → (s.isRecvRunning = true ↔ s.cleared = false)

theorem oneForwarder_initial : OneForwarder ThreadState.initial := by
  constructor <;> simp [ThreadState.initial]

theorem OneForwarder.of_same {s t : ThreadState} (h : OneForwarder s)
    (hforwarders : t.forwarders = s.forwarders)
    (hrunning : t.isRecvRunning = s.isRecvRunning)
    (hcleared : t.cleared = s.cleared) : OneForwarder t := by
  constructor
  · rw [hforwarders]
    exact h.unique
  · rw [hforwarders, hrunning]
    exact h.starting
  · rw [hforwarders, hrunning, hcleared]
    exact h.running

theorem OneForwarder.clearFlag {s : ThreadState} (h : OneForwarder s) :
    OneForwarder s.clearFlag := by
  constructor
  · exact h.unique
  · intro forwarder hmem hpc
    rfl
  · intro forwarder hmem hpc
    simp [ThreadState.clearFlag]

/-- There is only one thread that can take a step. -/
theorem OneForwarder.eq_singleton {s : ThreadState} (h : OneForwarder s)
    {thread : ℕ} {forwarder : Forwarder}
    (hthread : s.forwarders[thread]? = some forwarder) :
    s.forwarders = [forwarder] ∧ thread = 0 := by
  have hunique := h.unique
  obtain ⟨hlt, hget⟩ := List.getElem?_eq_some_iff.mp hthread
  have hzero : thread = 0 := by omega
  have hone : s.forwarders.length = 1 := by omega
  obtain ⟨only, honly⟩ := List.length_eq_one_iff.mp hone
  subst hzero
  simp only [honly, List.getElem_cons_zero] at hget
  exact ⟨by rw [honly, hget], rfl⟩

theorem OneForwarder.setPc {s : ThreadState} (h : OneForwarder s)
    {thread : ℕ} {forwarder : Forwarder} {pc : ForwardPc}
    (hthread : s.forwarders[thread]? = some forwarder)
    (hfrom : forwarder.pc ≠ .starting) (hto : pc ≠ .starting) :
    OneForwarder (s.setPc thread forwarder pc) := by
  have hrunning := h.running forwarder (List.mem_of_getElem? hthread) hfrom
  constructor
  · simp only [ThreadState.setPc, List.length_set]
    exact h.unique
  · intro other hmem hpc
    rcases List.mem_or_eq_of_mem_set hmem with hold | hnew
    · exact h.starting other hold hpc
    · rw [hnew] at hpc
      exact absurd hpc hto
  · intro other hmem hpc
    exact hrunning

theorem OneForwarder.doMessageForward {s : ThreadState}
    (h : OneForwarder s) {thread : ℕ} {forwarder : Forwarder}
    (hthread : s.forwarders[thread]? = some forwarder)
    (outcome : ForwardOutcome) :
    OneForwarder (doMessageForward s thread forwarder outcome).1 := by
  obtain ⟨hforwarders, hzero⟩ := h.eq_singleton hthread
  unfold RkaiqToolServer.doMessageForward
  cases hpc : forwarder.pc with
  | starting =>
      subst hzero
      constructor <;>
        simp [ThreadState.setPc, hforwarders]
  | testing =>
      apply h.setPc hthread (by simp [hpc])
      split <;> simp
  | receiving =>
      have hfrom : forwarder.pc ≠ .starting := by simp [hpc]
      cases outcome with
      | took count =>
          have hsame : OneForwarder
              { s with answers := s.answers.drop count } :=
            h.of_same rfl rfl rfl
          apply hsame.setPc hthread hfrom
          split <;> simp
      | nothing => exact h.setPc hthread hfrom (by simp)
      | failed =>
          have hsame : OneForwarder
              (s.closeService.closeClient forwarder.sockfd) :=
            h.of_same rfl rfl rfl
          exact hsame.setPc hthread hfrom (by simp)
  | sending recvBuffer =>
      have hfrom : forwarder.pc ≠ .starting := by simp [hpc]
      have hsame : OneForwarder (s.closeClient forwarder.sockfd) :=
        h.of_same rfl rfl rfl
      simp only []
      split
      next => exact h.setPc hthread hfrom (by simp)
      next => exact hsame.setPc hthread hfrom (by simp)
  | leaving =>
      subst hzero
      constructor <;> simp [hforwarders]

theorem OneForwarder.receiveStep {s : ThreadState} (h : OneForwarder s)
    (sockfd : ℕ) : OneForwarder (receiveStep s sockfd) := by
  unfold RkaiqToolServer.receiveStep
  split
  next => exact h
  next client => exact h.of_same rfl rfl rfl

theorem OneForwarder.requestStep {s : ThreadState} (h : OneForwarder s)
    (message : ℕ) (result : RequestResult) :
    OneForwarder (requestStep s message result) := by
  unfold RkaiqToolServer.requestStep
  split
  next => exact h
  next received hreceived =>
      cases result with
      | delivered | notSent | reconnected => exact h.of_same rfl rfl rfl
      | failed =>
          have hsame : OneForwarder
              ({ s with
                received := s.received.eraseIdx message }.closeService.closeClient
                  received.sockfd) := h.of_same rfl rfl rfl
          exact hsame.clearFlag

theorem OneForwarder.checkAllowed_iff {s : ThreadState}
    (h : OneForwarder s) :
    CheckAllowed s ↔ s.isRecvRunning = true ∨ s.forwarders = [] := by
  cases hforwarders : s.forwarders with
  | nil => simp [CheckAllowed, hforwarders]
  | cons forwarder rest =>
      have hmem : forwarder ∈ s.forwarders := by simp [hforwarders]
      have hrest : rest = [] := by
        have hunique := h.unique
        rw [hforwarders, List.length_cons] at hunique
        exact List.eq_nil_of_length_eq_zero (by omega)
      -- the one forwarder is before its store of the flag, or past it
      have hstarting := h.starting forwarder hmem
      have hrunning := h.running forwarder hmem
      simp only [CheckAllowed, hforwarders, hrest, List.mem_singleton,
        forall_eq, reduceCtorEq, or_false]
      by_cases hpc : forwarder.pc = .starting
      · simp [hpc, hstarting hpc]
      · simp [hpc, hrunning hpc]

theorem checkStep_forwarders {s : ThreadState} {call : ℕ}
    (hcall : call < s.checking.length) (hflag : s.isRecvRunning = false) :
    ∃ sockfd, (checkStep s call).forwarders =
      s.forwarders ++ [{ sockfd := sockfd, pc := .starting }] := by
  refine ⟨s.checking[call], ?_⟩
  simp [checkStep, List.getElem?_eq_getElem hcall, hflag]

theorem OneForwarder.checkStep {s : ThreadState} (h : OneForwarder s)
    {call : ℕ} (hallowed : call < s.checking.length → CheckAllowed s) :
    OneForwarder (checkStep s call) := by
  by_cases hcall : call < s.checking.length
  · cases hflag : s.isRecvRunning with
    | true =>
        have hcheck : RkaiqToolServer.checkStep s call =
            { s with checking := s.checking.eraseIdx call } := by
          simp [RkaiqToolServer.checkStep, List.getElem?_eq_getElem hcall,
            hflag]
        rw [hcheck]
        exact h.of_same rfl rfl rfl
    | false =>
        have hnone : s.forwarders = [] := by
          simpa [hflag] using h.checkAllowed_iff.mp (hallowed hcall)
        constructor <;>
          simp [RkaiqToolServer.checkStep, List.getElem?_eq_getElem hcall,
            hflag, hnone]
  · have hcheck : RkaiqToolServer.checkStep s call = s := by
      simp [RkaiqToolServer.checkStep,
        List.getElem?_eq_none (not_lt.mp hcall)]
    rw [hcheck]
    exact h

theorem OneForwarder.checkAllowed_of_unique {s : ThreadState}
    (h : OneForwarder s) {call : ℕ} (hcall : call < s.checking.length)
    (hunique : (RkaiqToolServer.checkStep s call).forwarders.length ≤ 1) :
    CheckAllowed s := by
  rw [h.checkAllowed_iff]
  cases hflag : s.isRecvRunning with
  | true => exact .inl rfl
  | false =>
      obtain ⟨sockfd, hforwarders⟩ := checkStep_forwarders hcall hflag
      rw [hforwarders, List.length_append, List.length_singleton] at hunique
      exact .inr (List.eq_nil_of_length_eq_zero (by omega))

theorem OneForwarder.threadStep {s : ThreadState} (h : OneForwarder s)
    (input : ThreadInput) (hallowed : InputAllowed s input) :
    OneForwarder (next threadStep s input) := by
  cases input with
  | accept sockfd =>
      simp only [next, RkaiqToolServer.threadStep]
      split
      next => exact h.of_same rfl rfl rfl
      next => exact h
  | close sockfd => exact h.of_same rfl rfl rfl
  | receive sockfd => exact h.receiveStep sockfd
  | request message result => exact h.requestStep message result
  | check call => exact h.checkStep hallowed
  | answer bytes =>
      simp only [next, RkaiqToolServer.threadStep, answerStep]
      split
      next => exact h
      next => exact h.of_same rfl rfl rfl
  | forwarder thread outcome =>
      simp only [next, RkaiqToolServer.threadStep]
      split
      next => exact h
      next forwarder hthread => exact h.doMessageForward hthread outcome
  | exit => exact h.clearFlag

/-- At most one forwarder is alive throughout a run exactly when every creator
that takes the mutex is allowed to go on. -/
theorem oneForwarder_iff_inputsAllowed (inputs : List ThreadInput) :
    States (next threadStep) (fun s => s.forwarders.length ≤ 1)
        ThreadState.initial inputs ↔
      Steps (next threadStep) InputAllowed ThreadState.initial inputs := by
  apply states_iff_steps OneForwarder
  · intro s h
    exact h.unique
  · intro s input h hallowed
    exact h.threadStep input hallowed
  · intro s input h hunique
    cases input with
    | check call =>
        intro hcall
        exact h.checkAllowed_of_unique hcall hunique
    | _ => trivial
  · exact oneForwarder_initial

/-- Two clients pass the test before the first thread has stored the flag. -/
theorem twoCreators_not_unique :
    ¬ States (next threadStep) (fun s => s.forwarders.length ≤ 1)
      ThreadState.initial
      [.accept 5, .accept 6, .receive 5, .receive 6, .request 0 .delivered,
        .request 0 .delivered, .check 0, .check 0] := by
  decide

end RkaiqToolServer
