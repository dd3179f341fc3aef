import RkaiqToolServer.ForwarderThreads

/-!
# Who closes a client descriptor

Every accepted descriptor belongs to the thread that runs `Recvieve` on it:
that thread receives, calls the handlers, and closes the descriptor at its end.
`MessageForward` and `doMessageForward` close it too, each on its error path.
A run is judged by what is done to a descriptor from its acceptance on; the
number it has is left out, and with it whom a late use hits.

The other handlers only receive and send, so a handler is any sequence of
these; the outcomes of all calls are inputs.
-/

namespace RkaiqToolServer

open StepRun

inductive SocketUse
  | recv
  | send
  | close
  deriving DecidableEq

/-- Where the thread of a client is: before its `recv`, in a handler, in
`MessageForward` past its send or on its error path, or past the loop. -/
inductive ClientPc
  | reading
  | handling
  | checking
  | refused
  | closing
  | ended
  deriving DecidableEq

/-- Where a thread is in `doMessageForward`; `closing` is either of its error
paths. -/
inductive ForwarderPc
  | starting
  | testing
  | receiving
  | sending
  | closing
  | leaving
  deriving DecidableEq

structure BoundForwarder where
  client : ℕ
  pc : ForwarderPc
  deriving DecidableEq

/-- Clients are numbered in the order of their acceptance; `uses` is what has
been done to their descriptors so far. -/
structure UseState where
  isRecvRunning : Bool
  clients : List ClientPc
  forwarders : List BoundForwarder
  uses : List (ℕ × SocketUse)

def UseState.initial : UseState where
  isRecvRunning := false
  clients := []
  forwarders := []
  uses := []

def UseState.usesOf (s : UseState) (client : ℕ) : List SocketUse :=
  (s.uses.filter fun entry => entry.1 = client).map Prod.snd

/-- `ended` is a result of 0 or an error other than `EAGAIN`. -/
inductive RecvOutcome
  | message
  | again
  | ended
  deriving DecidableEq

inductive ClientMove
  | quit
  | received (outcome : RecvOutcome)
  | handlerRecv
  | handlerSend
  | returned
  | forward (result : RequestResult)
  | proceed
  deriving DecidableEq

inductive UseInput
  | accept
  | client (client : ℕ) (move : ClientMove)
  | forwarder (thread : ℕ) (outcome : ForwardOutcome)
  | exit
  deriving DecidableEq

/-! ## Steps -/

def UseState.use (s : UseState) (client : ℕ) (use : SocketUse) : UseState :=
  { s with uses := s.uses ++ [(client, use)] }

def UseState.setClient (s : UseState) (client : ℕ) (pc : ClientPc) :
    UseState :=
  { s with clients := s.clients.set client pc }

def UseState.setForwarder (s : UseState) (thread : ℕ)
    (forwarder : BoundForwarder) (pc : ForwarderPc) : UseState :=
  { s with forwarders := s.forwarders.set thread { forwarder with pc := pc } }

/-- The part of `MessageForward` under the mutex. -/
def UseState.createForwarder (s : UseState) (client : ℕ) : UseState :=
  if s.isRecvRunning then s
  else
    { s with
      forwarders := s.forwarders ++ [{ client := client, pc := .starting }] }

def afterRecv : RecvOutcome → ClientPc
  | .message => .handling
  | .again => .reading
  | .ended => .closing

def clientStep (s : UseState) (client : ℕ) (move : ClientMove) : UseState :=
  match s.clients[client]?, move with
  | some .reading, .quit => s.setClient client .closing
  | some .reading, .received outcome =>
      (s.use client .recv).setClient client (afterRecv outcome)
  | some .handling, .handlerRecv => s.use client .recv
  | some .handling, .handlerSend => s.use client .send
  | some .handling, .returned => s.setClient client .reading
  | some .handling, .forward result =>
      s.setClient client (if result = .failed then .refused else .checking)
  -- the loop goes on with the descriptor that is closed here
  | some .refused, .proceed =>
      { s.use client .close with isRecvRunning := false }.setClient client
        .reading
  | some .checking, .proceed =>
      (s.createForwarder client).setClient client .reading
  | some .closing, .proceed => (s.use client .close).setClient client .ended
  | _, _ => s

def forwarderStep (s : UseState) (thread : ℕ) (forwarder : BoundForwarder)
    (outcome : ForwardOutcome) : UseState :=
  match forwarder.pc with
  | .starting =>
      { s with isRecvRunning := true }.setForwarder thread forwarder .testing
  | .testing =>
      s.setForwarder thread forwarder
        (if s.isRecvRunning then .receiving else .leaving)
  | .receiving =>
      s.setForwarder thread forwarder
        (match outcome with
          | .took count => if count = 0 then .testing else .sending
          | .nothing => .testing
          | .failed => .closing)
  | .sending =>
      (s.use forwarder.client .send).setForwarder thread forwarder
        (if outcome = .failed then .closing else .testing)
  | .closing =>
      (s.use forwarder.client .close).setForwarder thread forwarder .leaving
  | .leaving =>
      { s with
        isRecvRunning := false
        forwarders := s.forwarders.eraseIdx thread }

def useStep (s : UseState) : UseInput → UseState
  | .accept => { s with clients := s.clients ++ [.reading] }
  | .client client move => clientStep s client move
  | .forwarder thread outcome =>
      match s.forwarders[thread]? with
      | none => s
      | some forwarder => forwarderStep s thread forwarder outcome
  | .exit => { s with isRecvRunning := false }

/-! ## Ownership -/

/-- What may have been done to a descriptor: its thread closes it at its end
and no sooner, so until then there is no close, and after it one close and
nothing behind it. -/
def Owned : ClientPc → List SocketUse → Prop
  | .ended, uses => uses.count .close = 1 ∧ uses.getLast? = some .close
  | _, uses => uses.count .close = 0

instance : ∀ (pc : ClientPc) (uses : List SocketUse), Decidable (Owned pc uses)
  | .ended, _ => inferInstanceAs (Decidable (_ ∧ _))
  | .reading, uses | .handling, uses | .checking, uses | .refused, uses
  | .closing, uses => inferInstanceAs (Decidable (uses.count .close = 0))

def DescriptorsOwned (s : UseState) : Prop :=
  ∀ client < s.clients.length, ∀ pc ∈ s.clients[client]?,
    Owned pc (s.usesOf client)

instance (s : UseState) : Decidable (DescriptorsOwned s) :=
  inferInstanceAs (Decidable (∀ client < s.clients.length, _))

/-- No error path closes the descriptor, and nothing is sent for a client
whose thread has ended. -/
def InputOwned (s : UseState) : UseInput → Prop
  | .client client .proceed => s.clients[client]? ≠ some .refused
  | .forwarder thread _ =>
      ∀ forwarder ∈ s.forwarders[thread]?,
        forwarder.pc ≠ .closing ∧
          (forwarder.pc = .sending →
            s.clients[forwarder.client]? ≠ some .ended)
  | _ => True

theorem owned_of_live {pc : ClientPc} (hpc : pc ≠ .ended)
    (uses : List SocketUse) : Owned pc uses ↔ uses.count .close = 0 := by
  cases pc <;> simp_all [Owned]

theorem owned_append_live {pc pc' : ClientPc} {uses : List SocketUse}
    (h : Owned pc uses) (hpc : pc ≠ .ended) (hpc' : pc' ≠ .ended)
    {use : SocketUse} (huse : use ≠ .close) :
    Owned pc' (uses ++ [use]) := by
  rw [owned_of_live hpc] at h
  rw [owned_of_live hpc', List.count_append, h]
  simp [huse]

theorem owned_append_close {pc : ClientPc} {uses : List SocketUse}
    (h : Owned pc uses) (hpc : pc ≠ .ended) :
    Owned .ended (uses ++ [.close]) := by
  rw [owned_of_live hpc] at h
  simp [Owned, h]

/-- A descriptor that its thread does not close at its end is not closed
rightly. -/
theorem not_owned_append_close {pc : ClientPc} {uses : List SocketUse}
    (h : Owned pc uses) {pc' : ClientPc} (hpc' : pc' = .ended → pc = .ended) :
    ¬ Owned pc' (uses ++ [.close]) := by
  by_cases hended : pc' = .ended
  · have hpc := hpc' hended
    subst hended
    subst hpc
    simp only [Owned] at h
    simp [Owned, h.1]
  · rw [owned_of_live hended]
    simp

theorem not_owned_ended_append {uses : List SocketUse} {use : SocketUse}
    (huse : use ≠ .close) : ¬ Owned .ended (uses ++ [use]) := by
  simp [Owned, huse]

/-! ## What a step does to the descriptors -/

theorem usesOf_use (s : UseState) (client other : ℕ) (use : SocketUse) :
    (s.use client use).usesOf other =
      if client = other then s.usesOf other ++ [use] else s.usesOf other := by
  by_cases h : client = other <;>
    simp [UseState.usesOf, UseState.use, List.filter_append, h]

structure Ownership (s : UseState) : Prop where
  owned : DescriptorsOwned s
  accepted : ∀ entry ∈ s.uses, entry.1 < s.clients.length
  bound : ∀ forwarder ∈ s.forwarders, forwarder.client < s.clients.length

theorem ownership_initial : Ownership UseState.initial := by
  constructor <;> simp [UseState.initial, DescriptorsOwned]

theorem DescriptorsOwned.of_getElem? {s : UseState} (h : DescriptorsOwned s)
    {client : ℕ} {pc : ClientPc} (hpc : s.clients[client]? = some pc) :
    Owned pc (s.usesOf client) := by
  obtain ⟨hlt, -⟩ := List.getElem?_eq_some_iff.mp hpc
  exact h client hlt pc hpc

theorem Ownership.of_same {s t : UseState} (h : Ownership s)
    (hclients : t.clients = s.clients) (huses : t.uses = s.uses)
    (hbound : ∀ forwarder ∈ t.forwarders,
      forwarder.client < s.clients.length) : Ownership t := by
  have hof : ∀ client, t.usesOf client = s.usesOf client := by
    intro client
    rw [UseState.usesOf, huses, UseState.usesOf]
  constructor
  · intro client hlt pc hpc
    rw [hclients] at hlt hpc
    rw [hof]
    exact h.owned client hlt pc hpc
  · rw [huses, hclients]
    exact h.accepted
  · rw [hclients]
    exact hbound

theorem Ownership.accept {s : UseState} (h : Ownership s) :
    Ownership { s with clients := s.clients ++ [.reading] } := by
  constructor
  · intro client hlt pc hpc
    change Owned pc (s.usesOf client)
    rw [List.length_append, List.length_singleton] at hlt
    by_cases hold : client < s.clients.length
    · rw [List.getElem?_append_left hold] at hpc
      exact h.owned client hold pc hpc
    · have hnew : client = s.clients.length := by omega
      -- nothing has been done to a descriptor before its acceptance
      have hnone : s.usesOf client = [] := by
        simp only [UseState.usesOf, List.map_eq_nil_iff,
          List.filter_eq_nil_iff, decide_eq_true_eq]
        intro entry hentry
        have hbefore := h.accepted entry hentry
        omega
      subst hnew
      rw [List.getElem?_concat_length, Option.mem_some_iff] at hpc
      subst hpc
      rw [hnone]
      rfl
  · intro entry hentry
    have hbefore := h.accepted entry hentry
    simp only [List.length_append, List.length_singleton]
    omega
  · intro forwarder hforwarder
    have hbefore := h.bound forwarder hforwarder
    simp only [List.length_append, List.length_singleton]
    omega

/-- One more use by or for `client`, whose thread goes to `pc`. -/
theorem Ownership.use {s : UseState} (h : Ownership s) {client : ℕ}
    (hlt : client < s.clients.length) {use : SocketUse} {pc : ClientPc}
    (howned : Owned pc (s.usesOf client ++ [use])) :
    Ownership ((s.use client use).setClient client pc) := by
  constructor
  · intro other hother pc' hpc'
    simp only [UseState.setClient, UseState.use, List.length_set] at hother
    simp only [UseState.setClient, UseState.use] at hpc'
    change Owned pc' ((s.use client use).usesOf other)
    rw [usesOf_use]
    by_cases hsame : client = other
    · subst hsame
      rw [List.getElem?_set_self hlt, Option.mem_some_iff] at hpc'
      subst hpc'
      rw [if_pos rfl]
      exact howned
    · rw [List.getElem?_set_ne hsame] at hpc'
      rw [if_neg hsame]
      exact h.owned other hother pc' hpc'
  · intro entry hentry
    simp only [UseState.setClient, UseState.use, List.length_set,
      List.mem_append, List.mem_singleton] at hentry ⊢
    rcases hentry with hold | hnew
    · exact h.accepted entry hold
    · rw [hnew]
      exact hlt
  · intro forwarder hforwarder
    simp only [UseState.setClient, UseState.use, List.length_set]
      at hforwarder ⊢
    exact h.bound forwarder hforwarder

theorem Ownership.setClient {s : UseState} (h : Ownership s) {client : ℕ}
    {pc pc' : ClientPc} (hpc : s.clients[client]? = some pc)
    (hlive : pc ≠ .ended) (hlive' : pc' ≠ .ended) :
    Ownership (s.setClient client pc') := by
  constructor
  · intro other hother pc'' hpc''
    simp only [UseState.setClient, List.length_set] at hother hpc''
    change Owned pc'' (s.usesOf other)
    by_cases hsame : client = other
    · subst hsame
      rw [List.getElem?_set_self hother, Option.mem_some_iff] at hpc''
      subst hpc''
      have hold := h.owned.of_getElem? hpc
      rw [owned_of_live hlive] at hold
      rwa [owned_of_live hlive']
    · rw [List.getElem?_set_ne hsame] at hpc''
      exact h.owned other hother pc'' hpc''
  · simp only [UseState.setClient, List.length_set]
    exact h.accepted
  · simp only [UseState.setClient, List.length_set]
    exact h.bound

theorem UseState.setClient_self {s : UseState} {client : ℕ} {pc : ClientPc}
    (hpc : s.clients[client]? = some pc) : s.setClient client pc = s := by
  obtain ⟨hlt, hget⟩ := List.getElem?_eq_some_iff.mp hpc
  simp only [setClient]
  rw [← hget, List.set_getElem_self]

/-- A use of a descriptor whose thread does not move. -/
theorem Ownership.useBy {s : UseState} (h : Ownership s) {client : ℕ}
    {pc : ClientPc} (hpc : s.clients[client]? = some pc)
    (hlive : pc ≠ .ended) {use : SocketUse} (huse : use ≠ .close) :
    Ownership (s.use client use) := by
  obtain ⟨hlt, -⟩ := List.getElem?_eq_some_iff.mp hpc
  have hsame : (s.use client use).setClient client pc = s.use client use :=
    UseState.setClient_self (s := s.use client use) hpc
  rw [← hsame]
  exact h.use hlt (owned_append_live (h.owned.of_getElem? hpc) hlive hlive
    huse)

theorem Ownership.createForwarder {s : UseState} (h : Ownership s)
    {client : ℕ} (hlt : client < s.clients.length) :
    Ownership (s.createForwarder client) := by
  unfold UseState.createForwarder
  split
  next => exact h
  next =>
      refine h.of_same ?_ ?_ ?_
      · rfl
      · rfl
      intro forwarder hforwarder
      rcases List.mem_append.mp hforwarder with hold | hnew
      · exact h.bound forwarder hold
      · rw [List.mem_singleton.mp hnew]
        exact hlt

theorem Ownership.setForwarder {s : UseState} (h : Ownership s)
    {thread : ℕ} {forwarder : BoundForwarder}
    (hthread : s.forwarders[thread]? = some forwarder) (pc : ForwarderPc) :
    Ownership (s.setForwarder thread forwarder pc) := by
  refine h.of_same ?_ ?_ ?_
  · rfl
  · rfl
  intro other hother
  rcases List.mem_or_eq_of_mem_set hother with hold | hnew
  · exact h.bound other hold
  · rw [hnew]
    exact h.bound forwarder (List.mem_of_getElem? hthread)

theorem Ownership.clientStep {s : UseState} (h : Ownership s) (client : ℕ)
    (move : ClientMove) (howned : InputOwned s (.client client move)) :
    Ownership (clientStep s client move) := by
  unfold RkaiqToolServer.clientStep
  split
  next hpc => exact h.setClient hpc (by simp) (by simp)
  next outcome hpc =>
      obtain ⟨hlt, -⟩ := List.getElem?_eq_some_iff.mp hpc
      apply h.use hlt
      apply owned_append_live (h.owned.of_getElem? hpc) (by simp)
      · cases outcome <;> simp [afterRecv]
      · simp
  next hpc => exact h.useBy hpc (by simp) (by simp)
  next hpc => exact h.useBy hpc (by simp) (by simp)
  next hpc => exact h.setClient hpc (by simp) (by simp)
  next result hpc =>
      apply h.setClient hpc (by simp)
      split <;> simp
  next hpc => exact absurd hpc howned
  next hpc =>
      obtain ⟨hlt, -⟩ := List.getElem?_eq_some_iff.mp hpc
      apply (h.createForwarder hlt).setClient _ _ (by simp)
      · exact .checking
      · unfold UseState.createForwarder
        split <;> exact hpc
      · simp
  next hpc =>
      obtain ⟨hlt, -⟩ := List.getElem?_eq_some_iff.mp hpc
      exact h.use hlt (owned_append_close (h.owned.of_getElem? hpc) (by simp))
  next => exact h

theorem Ownership.forwarderStep {s : UseState} (h : Ownership s)
    {thread : ℕ} {forwarder : BoundForwarder}
    (hthread : s.forwarders[thread]? = some forwarder)
    (outcome : ForwardOutcome)
    (howned : InputOwned s (.forwarder thread outcome)) :
    Ownership (forwarderStep s thread forwarder outcome) := by
  obtain ⟨hclosing, hsending⟩ := howned forwarder hthread
  have hmem := List.mem_of_getElem? hthread
  unfold RkaiqToolServer.forwarderStep
  cases hpc : forwarder.pc with
  | starting =>
      have hstored : Ownership { s with isRecvRunning := true } :=
        h.of_same rfl rfl h.bound
      exact hstored.setForwarder hthread .testing
  | testing => exact h.setForwarder hthread _
  | receiving => exact h.setForwarder hthread _
  | sending =>
      have hlt := h.bound forwarder hmem
      have hclient := List.getElem?_eq_getElem hlt
      have hlive : s.clients[forwarder.client] ≠ .ended := by
        intro hended
        rw [hended] at hclient
        exact hsending hpc hclient
      have hused : Ownership (s.use forwarder.client .send) :=
        h.useBy hclient hlive (by simp)
      exact hused.setForwarder hthread _
  | closing => exact absurd hpc hclosing
  | leaving =>
      refine h.of_same ?_ ?_ ?_
      · rfl
      · rfl
      intro other hother
      exact h.bound other (List.eraseIdx_subset hother)

theorem Ownership.useStep {s : UseState} (h : Ownership s)
    (input : UseInput) (howned : InputOwned s input) :
    Ownership (useStep s input) := by
  cases input with
  | accept => exact h.accept
  | client client move => exact h.clientStep client move howned
  | forwarder thread outcome =>
      simp only [RkaiqToolServer.useStep]
      split
      next => exact h
      next forwarder hthread => exact h.forwarderStep hthread outcome howned
  | exit => exact h.of_same rfl rfl h.bound

/-! ## When the ownership is lost -/

/-- A close from an error path is not the one of the descriptor's thread. -/
theorem clientStep_refused {s : UseState} (h : Ownership s) {client : ℕ}
    (hpc : s.clients[client]? = some .refused) :
    ¬ DescriptorsOwned (clientStep s client .proceed) := by
  obtain ⟨hlt, -⟩ := List.getElem?_eq_some_iff.mp hpc
  intro hgood
  have hnext : (clientStep s client .proceed).clients[client]? =
      some .reading := by
    simp only [clientStep, hpc, UseState.setClient, UseState.use]
    exact List.getElem?_set_self hlt
  have huses : (clientStep s client .proceed).usesOf client =
      s.usesOf client ++ [.close] := by
    simp only [clientStep, hpc]
    change (s.use client .close).usesOf client = _
    rw [usesOf_use, if_pos rfl]
  have howned := hgood.of_getElem? hnext
  rw [huses] at howned
  exact not_owned_append_close (h.owned.of_getElem? hpc) (by simp) howned

theorem forwarderStep_closing {s : UseState} (h : Ownership s)
    {thread : ℕ} {forwarder : BoundForwarder}
    (hthread : s.forwarders[thread]? = some forwarder)
    (hpc : forwarder.pc = .closing) (outcome : ForwardOutcome) :
    ¬ DescriptorsOwned (forwarderStep s thread forwarder outcome) := by
  have hlt := h.bound forwarder (List.mem_of_getElem? hthread)
  have hclient := List.getElem?_eq_getElem hlt
  intro hgood
  have huses : (forwarderStep s thread forwarder outcome).usesOf
      forwarder.client = s.usesOf forwarder.client ++ [.close] := by
    simp only [forwarderStep, hpc]
    change (s.use forwarder.client .close).usesOf forwarder.client = _
    rw [usesOf_use, if_pos rfl]
  have hnext : (forwarderStep s thread forwarder outcome).clients =
      s.clients := by
    simp only [forwarderStep, hpc, UseState.setForwarder, UseState.use]
  have howned := hgood.of_getElem? ((congrArg (·[forwarder.client]?)
    hnext).trans hclient)
  rw [huses] at howned
  exact not_owned_append_close (h.owned.of_getElem? hclient) id howned

theorem forwarderStep_sending {s : UseState}
    {thread : ℕ} {forwarder : BoundForwarder}
    (hpc : forwarder.pc = .sending)
    (hended : s.clients[forwarder.client]? = some .ended)
    (outcome : ForwardOutcome) :
    ¬ DescriptorsOwned (forwarderStep s thread forwarder outcome) := by
  intro hgood
  have huses : (forwarderStep s thread forwarder outcome).usesOf
      forwarder.client = s.usesOf forwarder.client ++ [.send] := by
    simp only [forwarderStep, hpc]
    change (s.use forwarder.client .send).usesOf forwarder.client = _
    rw [usesOf_use, if_pos rfl]
  have hnext : (forwarderStep s thread forwarder outcome).clients =
      s.clients := by
    simp only [forwarderStep, hpc, UseState.setForwarder, UseState.use]
  have howned := hgood.of_getElem? ((congrArg (·[forwarder.client]?)
    hnext).trans hended)
  rw [huses] at howned
  exact not_owned_ended_append (by simp) howned

theorem Ownership.inputOwned {s : UseState} (h : Ownership s)
    (input : UseInput) (hgood : DescriptorsOwned (RkaiqToolServer.useStep s
      input)) : InputOwned s input := by
  cases input with
  | accept => trivial
  | client client move =>
      cases move with
      | proceed =>
          intro hrefused
          exact clientStep_refused h hrefused hgood
      | _ => trivial
  | forwarder thread outcome =>
      intro forwarder hthread
      rw [Option.mem_def] at hthread
      simp only [RkaiqToolServer.useStep, hthread] at hgood
      constructor
      · intro hclosing
        exact forwarderStep_closing h hthread hclosing outcome hgood
      · intro hsending hended
        exact forwarderStep_sending hsending hended outcome hgood
  | exit => trivial

/-- Throughout a run every descriptor is closed by its own thread, once and
last, exactly when no error path closes one and no forwarder sends to one
whose thread has ended. -/
theorem descriptorsOwned_iff_inputsOwned (inputs : List UseInput) :
    States useStep DescriptorsOwned UseState.initial inputs ↔
      Steps useStep InputOwned UseState.initial inputs := by
  apply states_iff_steps Ownership
  · intro s h
    exact h.owned
  · intro s input h howned
    exact h.useStep input howned
  · intro s input h hgood
    exact h.inputOwned input hgood
  · exact ownership_initial

/-- A message that cannot be forwarded: the descriptor is closed, received
from, and closed again. -/
theorem refusedMessage_closes_twice :
    ¬ States useStep DescriptorsOwned UseState.initial
      [.accept, .client 0 (.received .message), .client 0 (.forward .failed),
        .client 0 .proceed, .client 0 (.received .ended),
        .client 0 .proceed] := by
  decide

end RkaiqToolServer
