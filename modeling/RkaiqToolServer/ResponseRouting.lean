import RkaiqToolServer.ForwarderThreads

/-!
# Whom an answer is sent to

A forwarder sends everything that comes from the service to the descriptor it
was created with.  Its answers reach the clients that asked as long as one
client at a time is served: a message is sent while every forwarder serves the
client it came from, which need not be on its descriptor any more, a forwarder
is created while nothing is under way for other clients, and a descriptor is
given to a new client while its forwarder has nothing left of the old one.
-/

namespace RkaiqToolServer

open StepRun

def ThreadState.Serves (s : ThreadState) (sockfd client : ℕ) : Prop :=
  s.clients sockfd = none ∨ s.clients sockfd = some client

instance (s : ThreadState) (sockfd client : ℕ) :
    Decidable (s.Serves sockfd client) :=
  inferInstanceAs (Decidable (_ ∨ _))

/-- The bytes were sent to the client whose request they answer, while it was
connected. -/
def Delivery.Routed (delivery : Delivery) : Prop :=
  ∃ client, delivery.client = some client ∧
    ∀ item ∈ delivery.bytes, item.client = client

def RequestServed (s : ThreadState) (message : ℕ) : Prop :=
  ∀ received ∈ s.received[message]?, ∀ forwarder ∈ s.forwarders,
    s.Serves forwarder.sockfd received.client

def CheckServed (s : ThreadState) (call : ℕ) : Prop :=
  s.isRecvRunning = false → ∀ sockfd ∈ s.checking[call]?,
    (∀ client ∈ s.asked, s.Serves sockfd client) ∧
      ∀ item ∈ s.answers, s.Serves sockfd item.client

def AcceptServed (s : ThreadState) (sockfd : ℕ) : Prop :=
  s.clients sockfd = none → ∀ forwarder ∈ s.forwarders,
    forwarder.sockfd = sockfd →
      s.asked = [] ∧ s.answers = [] ∧ forwarder.held = []

def InputServed (s : ThreadState) : ThreadInput → Prop
  | .request message .delivered => RequestServed s message
  | .check call => CheckServed s call
  | .accept sockfd => AcceptServed s sockfd
  | _ => True

instance (s : ThreadState) (message : ℕ) :
    Decidable (RequestServed s message) :=
  inferInstanceAs (Decidable (∀ received ∈ s.received[message]?, _))

instance (s : ThreadState) (call : ℕ) : Decidable (CheckServed s call) :=
  inferInstanceAs (Decidable (_ → ∀ sockfd ∈ s.checking[call]?, _))

instance (s : ThreadState) (sockfd : ℕ) : Decidable (AcceptServed s sockfd) :=
  inferInstanceAs (Decidable (_ → ∀ forwarder ∈ s.forwarders, _))

instance (s : ThreadState) :
    ∀ input : ThreadInput, Decidable (InputServed s input)
  | .request message .delivered =>
      inferInstanceAs (Decidable (RequestServed s message))
  | .check call => inferInstanceAs (Decidable (CheckServed s call))
  | .accept sockfd => inferInstanceAs (Decidable (AcceptServed s sockfd))
  | .request _ .notSent | .request _ .reconnected | .request _ .failed
  | .receive _ | .close _ | .answer _ | .forwarder _ _ | .exit => .isTrue trivial

/-- All that is under way is for the client on the forwarder's descriptor. -/
structure AllServed (s : ThreadState) : Prop where
  asked : ∀ forwarder ∈ s.forwarders, ∀ client ∈ s.asked,
    s.Serves forwarder.sockfd client
  answers : ∀ forwarder ∈ s.forwarders, ∀ item ∈ s.answers,
    s.Serves forwarder.sockfd item.client
  held : ∀ forwarder ∈ s.forwarders, ∀ item ∈ forwarder.held,
    s.Serves forwarder.sockfd item.client

theorem allServed_initial : AllServed ThreadState.initial := by
  constructor <;> simp [ThreadState.initial]

theorem ThreadState.Serves.closeClient {s : ThreadState}
    {sockfd client : ℕ} (h : s.Serves sockfd client) (closed : ℕ) :
    (s.closeClient closed).Serves sockfd client := by
  by_cases hsame : sockfd = closed
  · exact .inl (by simp [ThreadState.closeClient, hsame])
  · simpa [Serves, ThreadState.closeClient, hsame] using h

theorem AllServed.closeClient {s : ThreadState} (h : AllServed s)
    (closed : ℕ) : AllServed (s.closeClient closed) := by
  constructor
  · intro forwarder hforwarder client hclient
    exact (h.asked forwarder hforwarder client hclient).closeClient closed
  · intro forwarder hforwarder item hitem
    exact (h.answers forwarder hforwarder item hitem).closeClient closed
  · intro forwarder hforwarder item hitem
    exact (h.held forwarder hforwarder item hitem).closeClient closed

theorem AllServed.closeService {s : ThreadState} (h : AllServed s) :
    AllServed s.closeService := by
  constructor
  · simp [ThreadState.closeService]
  · simp [ThreadState.closeService]
  · exact h.held

theorem AllServed.of_subset {s t : ThreadState} (h : AllServed s)
    (hforwarders : t.forwarders ⊆ s.forwarders)
    (hclients : t.clients = s.clients) (hasked : t.asked ⊆ s.asked)
    (hanswers : t.answers ⊆ s.answers) : AllServed t := by
  have hserves : ∀ sockfd client, s.Serves sockfd client →
      t.Serves sockfd client := by
    intro sockfd client hserved
    simpa [ThreadState.Serves, hclients] using hserved
  constructor
  · intro forwarder hforwarder client hclient
    exact hserves _ _
      (h.asked forwarder (hforwarders hforwarder) client (hasked hclient))
  · intro forwarder hforwarder item hitem
    exact hserves _ _
      (h.answers forwarder (hforwarders hforwarder) item (hanswers hitem))
  · intro forwarder hforwarder item hitem
    exact hserves _ _ (h.held forwarder (hforwarders hforwarder) item hitem)

theorem AllServed.setPc {s : ThreadState} (h : AllServed s)
    {thread : ℕ} {forwarder : Forwarder} {pc : ForwardPc}
    (hthread : s.forwarders[thread]? = some forwarder)
    (hheld : ∀ item ∈ Forwarder.held { forwarder with pc := pc },
      s.Serves forwarder.sockfd item.client) :
    AllServed (s.setPc thread forwarder pc) := by
  have hmem := List.mem_of_getElem? hthread
  constructor
  · intro other hother client hclient
    rcases List.mem_or_eq_of_mem_set hother with hold | hnew
    · exact h.asked other hold client hclient
    · subst hnew
      exact h.asked forwarder hmem client hclient
  · intro other hother item hitem
    rcases List.mem_or_eq_of_mem_set hother with hold | hnew
    · exact h.answers other hold item hitem
    · subst hnew
      exact h.answers forwarder hmem item hitem
  · intro other hother item hitem
    rcases List.mem_or_eq_of_mem_set hother with hold | hnew
    · exact h.held other hold item hitem
    · subst hnew
      exact hheld item hitem

theorem AllServed.doMessageForward {s : ThreadState} (h : AllServed s)
    {thread : ℕ} {forwarder : Forwarder}
    (hthread : s.forwarders[thread]? = some forwarder)
    (outcome : ForwardOutcome) :
    AllServed (doMessageForward s thread forwarder outcome).1 ∧
      ∀ delivery ∈ (doMessageForward s thread forwarder outcome).2,
        delivery.Routed := by
  have hmem := List.mem_of_getElem? hthread
  unfold RkaiqToolServer.doMessageForward
  cases hpc : forwarder.pc with
  | starting =>
      have hstored : AllServed
          { s with isRecvRunning := true, cleared := false } :=
        h.of_subset (List.Subset.refl _) rfl (List.Subset.refl _)
          (List.Subset.refl _)
      constructor
      · exact hstored.setPc hthread (by simp [Forwarder.held])
      · simp
  | testing =>
      constructor
      · apply h.setPc hthread
        split <;> simp [Forwarder.held]
      · simp
  | receiving =>
      cases outcome with
      | took count =>
          have hleft : AllServed
              { s with answers := s.answers.drop count } :=
            h.of_subset (List.Subset.refl _) rfl (List.Subset.refl _)
              (List.drop_subset count s.answers)
          constructor
          · apply hleft.setPc hthread
            intro item hitem
            split at hitem
            next => simp [Forwarder.held] at hitem
            next =>
                exact h.answers forwarder hmem item
                  (List.mem_of_mem_take hitem)
          · simp
      | nothing =>
          constructor
          · exact h.setPc hthread (by simp [Forwarder.held])
          · simp
      | failed =>
          constructor
          · exact (h.closeService.closeClient _).setPc hthread
              (by simp [Forwarder.held])
          · simp
  | sending recvBuffer =>
      simp only []
      split
      next count client hclient =>
          constructor
          · exact h.setPc hthread (by simp [Forwarder.held])
          · intro delivery hdelivery
            simp only [List.mem_singleton] at hdelivery
            subst hdelivery
            refine ⟨client, rfl, ?_⟩
            intro item hitem
            have hheld : item ∈ forwarder.held := by
              simp only [Forwarder.held, hpc]
              exact List.mem_of_mem_take hitem
            have hserved := h.held forwarder hmem item hheld
            simpa [ThreadState.Serves, hclient, eq_comm] using hserved
      next =>
          constructor
          · exact (h.closeClient _).setPc hthread (by simp [Forwarder.held])
          · simp
  | leaving =>
      constructor
      · exact h.of_subset (List.eraseIdx_subset) rfl
          (List.Subset.refl _) (List.Subset.refl _)
      · simp

theorem AllServed.receiveStep {s : ThreadState} (h : AllServed s)
    (sockfd : ℕ) : AllServed (receiveStep s sockfd) := by
  unfold RkaiqToolServer.receiveStep
  split
  next => exact h
  next client =>
      exact h.of_subset (List.Subset.refl _) rfl (List.Subset.refl _)
        (List.Subset.refl _)

theorem AllServed.requestStep {s : ThreadState} (h : AllServed s)
    (message : ℕ) (result : RequestResult)
    (hserved : InputServed s (.request message result)) :
    AllServed (requestStep s message result) := by
  unfold RkaiqToolServer.requestStep
  split
  next => exact h
  next received hreceived =>
      have hsent : AllServed
          { s with received := s.received.eraseIdx message } :=
        h.of_subset (List.Subset.refl _) rfl (List.Subset.refl _)
          (List.Subset.refl _)
      have hcalled : AllServed
          { s with
            received := s.received.eraseIdx message
            checking := s.checking ++ [received.sockfd] } :=
        h.of_subset (List.Subset.refl _) rfl (List.Subset.refl _)
          (List.Subset.refl _)
      cases result with
      | delivered =>
          constructor
          · intro forwarder hforwarder other hother
            rcases List.mem_append.mp hother with hold | hnew
            · exact h.asked forwarder hforwarder other hold
            · rw [List.mem_singleton] at hnew
              subst hnew
              exact hserved received hreceived forwarder hforwarder
          · exact h.answers
          · exact h.held
      | notSent => exact hcalled
      | reconnected => exact hcalled.closeService
      | failed =>
          exact (hsent.closeService.closeClient received.sockfd).of_subset
            (List.Subset.refl _) rfl (List.Subset.refl _)
            (List.Subset.refl _)

theorem AllServed.checkStep {s : ThreadState} (h : AllServed s)
    (call : ℕ) (hserved : CheckServed s call) :
    AllServed (checkStep s call) := by
  unfold RkaiqToolServer.checkStep
  split
  next => exact h
  next sockfd hcall =>
      have hchecked : AllServed
          { s with checking := s.checking.eraseIdx call } :=
        h.of_subset (List.Subset.refl _) rfl (List.Subset.refl _)
          (List.Subset.refl _)
      simp only []
      split
      next => exact hchecked
      next hflag =>
          obtain ⟨hasked, hanswers⟩ :=
            hserved (by simpa using hflag) sockfd hcall
          constructor
          · intro forwarder hforwarder client hclient
            rcases List.mem_append.mp hforwarder with hold | hnew
            · exact h.asked forwarder hold client hclient
            · rw [List.mem_singleton] at hnew
              subst hnew
              exact hasked client hclient
          · intro forwarder hforwarder item hitem
            rcases List.mem_append.mp hforwarder with hold | hnew
            · exact h.answers forwarder hold item hitem
            · rw [List.mem_singleton] at hnew
              subst hnew
              exact hanswers item hitem
          · intro forwarder hforwarder item hitem
            rcases List.mem_append.mp hforwarder with hold | hnew
            · exact h.held forwarder hold item hitem
            · rw [List.mem_singleton] at hnew
              subst hnew
              simp [Forwarder.held] at hitem

theorem AllServed.answerStep {s : ThreadState} (h : AllServed s)
    (bytes : List UInt8) : AllServed (answerStep s bytes) := by
  unfold RkaiqToolServer.answerStep
  split
  next => exact h
  next client asked hasked =>
      constructor
      · intro forwarder hforwarder other hother
        apply h.asked forwarder hforwarder
        rw [hasked]
        exact List.mem_cons_of_mem client hother
      · intro forwarder hforwarder item hitem
        rcases List.mem_append.mp hitem with hold | hnew
        · exact h.answers forwarder hforwarder item hold
        · obtain ⟨byte, -, rfl⟩ := List.mem_map.mp hnew
          apply h.asked forwarder hforwarder
          simp [hasked]
      · exact h.held

theorem AllServed.accept {s : ThreadState} (h : AllServed s) (sockfd : ℕ)
    (hfree : s.clients sockfd = none) (hserved : AcceptServed s sockfd) :
    AllServed
      { s with
        clients := Function.update s.clients sockfd (some s.accepted)
        accepted := s.accepted + 1 } := by
  have hother : ∀ forwarder ∈ s.forwarders, forwarder.sockfd ≠ sockfd →
      ∀ client, s.Serves forwarder.sockfd client →
        ThreadState.Serves
          { s with
            clients := Function.update s.clients sockfd (some s.accepted)
            accepted := s.accepted + 1 } forwarder.sockfd client := by
    intro forwarder hforwarder hne client hclient
    simpa [ThreadState.Serves, hne] using hclient
  constructor
  -- the new client has asked for nothing: a forwarder left on its descriptor
  -- must have nothing to send
  · intro forwarder hforwarder client hclient
    by_cases hsame : forwarder.sockfd = sockfd
    · simp [(hserved hfree forwarder hforwarder hsame).1] at hclient
    · exact hother forwarder hforwarder hsame client
        (h.asked forwarder hforwarder client hclient)
  · intro forwarder hforwarder item hitem
    by_cases hsame : forwarder.sockfd = sockfd
    · simp [(hserved hfree forwarder hforwarder hsame).2.1] at hitem
    · exact hother forwarder hforwarder hsame item.client
        (h.answers forwarder hforwarder item hitem)
  · intro forwarder hforwarder item hitem
    by_cases hsame : forwarder.sockfd = sockfd
    · simp [(hserved hfree forwarder hforwarder hsame).2.2] at hitem
    · exact hother forwarder hforwarder hsame item.client
        (h.held forwarder hforwarder item hitem)

theorem AllServed.threadStep {s : ThreadState} (h : AllServed s)
    (input : ThreadInput) (hserved : InputServed s input) :
    AllServed (next threadStep s input) ∧
      ∀ delivery ∈ (RkaiqToolServer.threadStep s input).2,
        delivery.Routed := by
  cases input with
  | accept sockfd =>
      simp only [next, RkaiqToolServer.threadStep]
      split
      next hfree => exact ⟨h.accept sockfd hfree hserved, by simp⟩
      next => exact ⟨h, by simp⟩
  | close sockfd =>
      exact ⟨h.closeClient sockfd, by simp [RkaiqToolServer.threadStep]⟩
  | receive sockfd =>
      exact ⟨h.receiveStep sockfd, by simp [RkaiqToolServer.threadStep]⟩
  | request message result =>
      exact ⟨h.requestStep message result hserved,
        by simp [RkaiqToolServer.threadStep]⟩
  | check call =>
      exact ⟨h.checkStep call hserved, by simp [RkaiqToolServer.threadStep]⟩
  | answer bytes =>
      exact ⟨h.answerStep bytes, by simp [RkaiqToolServer.threadStep]⟩
  | forwarder thread outcome =>
      simp only [next, RkaiqToolServer.threadStep]
      split
      next => exact ⟨h, by simp⟩
      next forwarder hthread => exact h.doMessageForward hthread outcome
  | exit =>
      exact ⟨h.of_subset (List.Subset.refl _) rfl (List.Subset.refl _)
        (List.Subset.refl _), by simp [RkaiqToolServer.threadStep]⟩

/-- In a run whose steps serve one client at a time, every byte of an answer
is sent to the client that asked, while it is connected. -/
theorem answers_routed_of_served (inputs : List ThreadInput)
    (hserved : Steps (next threadStep) InputServed ThreadState.initial
      inputs) :
    ∀ delivery ∈ trace threadStep ThreadState.initial inputs,
      delivery.Routed :=
  trace_of_steps (fun _ input h hinput => h.threadStep input hinput)
    allServed_initial hserved

theorem oneClient_routed :
    let inputs : List ThreadInput :=
      [.accept 5, .receive 5, .request 0 .delivered, .check 0,
        .forwarder 0 .nothing, .forwarder 0 .nothing, .answer [7],
        .forwarder 0 (.took 8192), .forwarder 0 (.took 1)]
    trace threadStep ThreadState.initial inputs =
        [{ client := some 0, bytes := [{ client := 0, byte := 7 }] }] ∧
      ∀ delivery ∈ trace threadStep ThreadState.initial inputs,
        delivery.Routed :=
  ⟨by decide, answers_routed_of_served _ (by decide)⟩

/-- The answer to the second client is sent to the first. -/
theorem secondClient_misrouted :
    ¬ ∀ delivery ∈ trace threadStep ThreadState.initial
        [.accept 5, .receive 5, .request 0 .delivered, .check 0,
          .forwarder 0 .nothing, .accept 6, .receive 6,
          .request 0 .delivered, .check 0, .answer [], .answer [7], .forwarder 0 .nothing,
          .forwarder 0 (.took 8192), .forwarder 0 (.took 1)],
      delivery.Routed := by
  intro h
  obtain ⟨client, hclient, hbytes⟩ :=
    h { client := some 0, bytes := [{ client := 1, byte := 7 }] } (by decide)
  simp only [Option.some.injEq, List.mem_singleton, forall_eq] at hclient hbytes
  omega

end RkaiqToolServer
