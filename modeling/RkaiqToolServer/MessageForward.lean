import Mathlib.Tactic

/-!
# Forwarding a message to the tuning service

`MessageForward` folds the answer of the kernel to one `send` into an `int`
that is judged together with `errno`, reconnects when the judgement is a hard
error, and reports success in every case but a failed reconnect.  The model
keeps the bytes that reached the socket, so that a report can be compared with
what was delivered.
-/

namespace RkaiqToolServer

def eagain : ℕ := 11
def eintr : ℕ := 4

/-- `errno == EAGAIN || errno == EINTR`. -/
def Transient (errno : ℕ) : Prop := errno = eagain ∨ errno = eintr

instance (errno : ℕ) : Decidable (Transient errno) :=
  inferInstanceAs (Decidable (_ ∨ _))

/-! ## The client socket -/

/-- The connection to the service; `sock` is -1 while there is none. -/
structure DomainTCPClient where
  sock : ℤ
  deriving DecidableEq

inductive SendOutcome
  | sent (count : ℕ)
  | failed (errno : ℕ)
  deriving DecidableEq

structure SendResult where
  client : DomainTCPClient
  errno : ℕ
  ret : ℤ
  handed : List UInt8

def DomainTCPClient.close (client : DomainTCPClient) : DomainTCPClient :=
  if 0 < client.sock then { sock := -1 } else client

/-- `DomainTCPClient::Send`: without a socket the call leaves `errno` as an
earlier call left it. -/
def DomainTCPClient.send
    (client : DomainTCPClient) (errno : ℕ) (buff : List UInt8)
    (outcome : SendOutcome) : SendResult :=
  if client.sock ≠ -1 then
    match outcome with
    | .sent count =>
        { client := client, errno := errno, ret := count,
          handed := buff.take count }
    | .failed error =>
        { client := if Transient error then client else client.close,
          errno := error, ret := -1, handed := [] }
  else { client := client, errno := errno, ret := -1, handed := [] }

structure SetupCalls where
  created : Option ℕ
  connected : Bool

def DomainTCPClient.setup
    (client : DomainTCPClient) (calls : SetupCalls) :
    DomainTCPClient × Bool :=
  let opened : Option ℤ :=
    if client.sock = -1 then calls.created.map fun fd => (fd : ℤ)
    else some client.sock
  match opened with
  | none => ({ sock := -1 }, false)
  | some sock =>
      if calls.connected then ({ sock := sock }, true)
      else ({ sock := -1 }, false)

def connectAiq (client : DomainTCPClient) (calls : SetupCalls) :
    DomainTCPClient × ℤ :=
  let result := client.setup calls
  if result.2 = false then (result.1.close, -1) else (result.1, 0)

/-! ## `MessageForward` -/

structure ForwardCalls where
  send : SendOutcome
  setup : SetupCalls

/-- The send that every user of the service connection begins with: a hard
error is followed by one reconnect, and `failed` says that it did not
succeed. -/
structure AiqSend where
  client : DomainTCPClient
  errno : ℕ
  handed : List UInt8
  failed : Bool

def sendToAiq
    (client : DomainTCPClient) (errno : ℕ) (buff : List UInt8)
    (calls : ForwardCalls) : AiqSend :=
  let result := client.send errno buff calls.send
  if result.ret < 0 ∧ ¬ Transient result.errno then
    let connection := connectAiq result.client calls.setup
    if connection.2 < 0 then
      { client := connection.1.close, errno := result.errno,
        handed := result.handed, failed := true }
    else
      { client := connection.1, errno := result.errno,
        handed := result.handed, failed := false }
  else
    { client := result.client, errno := result.errno,
      handed := result.handed, failed := false }

/-- What one call leaves behind: the connection, the flag of the receiver
thread, the bytes handed to the socket, the returned value, and whether it
created a receiver thread, closed the client and reset the mode. -/
structure ForwardResult where
  client : DomainTCPClient
  errno : ℕ
  isRecvRunning : Bool
  handed : List UInt8
  ret : ℤ
  spawned : Bool
  closedSocket : Bool
  resetMode : Bool

def messageForward
    (client : DomainTCPClient) (errno : ℕ) (isRecvRunning : Bool)
    (buffer : List UInt8) (calls : ForwardCalls) : ForwardResult :=
  let sent := sendToAiq client errno buffer calls
  if sent.failed then
    { client := sent.client, errno := sent.errno, isRecvRunning := false,
      handed := sent.handed, ret := -1, spawned := false,
      closedSocket := true, resetMode := true }
  else
    { client := sent.client, errno := sent.errno,
      isRecvRunning := isRecvRunning, handed := sent.handed, ret := 0,
      spawned := !isRecvRunning, closedSocket := false, resetMode := false }

/-! ## When a message is delivered -/

/-- The send is judged a hard error: there is no socket and the error left by
an earlier call is not transient, or the kernel refused the bytes for good. -/
def HardError
    (client : DomainTCPClient) (errno : ℕ) (outcome : SendOutcome) : Prop :=
  (client.sock = -1 ∧ ¬ Transient errno) ∨
    (client.sock ≠ -1 ∧ ∃ error, outcome = .failed error ∧
      ¬ Transient error)

/-- A reconnect needs a socket, the old one or a new one, and the service to
accept it. -/
def Reconnects (client : DomainTCPClient) (calls : SetupCalls) : Prop :=
  (client.sock ≠ -1 ∨ calls.created.isSome = true) ∧ calls.connected = true

def afterHardError (client : DomainTCPClient) : DomainTCPClient :=
  if client.sock = -1 then client else client.close

theorem send_ret_hardError_iff
    (client : DomainTCPClient) (errno : ℕ) (buff : List UInt8)
    (outcome : SendOutcome) :
    (client.send errno buff outcome).ret < 0 ∧
        ¬ Transient (client.send errno buff outcome).errno ↔
      HardError client errno outcome := by
  unfold DomainTCPClient.send HardError
  by_cases hsock : client.sock = -1
  · simp [hsock]
  · cases outcome with
    | sent count => simp [hsock]
    | failed error => simp [hsock]

theorem send_client_of_hardError
    {client : DomainTCPClient} {errno : ℕ} {outcome : SendOutcome}
    (buff : List UInt8) (h : HardError client errno outcome) :
    (client.send errno buff outcome).client = afterHardError client := by
  unfold DomainTCPClient.send afterHardError
  rcases h with ⟨hsock, -⟩ | ⟨hsock, error, rfl, herror⟩
  · simp [hsock]
  · simp [hsock, herror]

theorem connectAiq_ret_iff
    (client : DomainTCPClient) (calls : SetupCalls) :
    (connectAiq client calls).2 < 0 ↔ ¬ Reconnects client calls := by
  unfold connectAiq DomainTCPClient.setup Reconnects
  by_cases hsock : client.sock = -1
  · cases hcreated : calls.created with
    | none => simp [hsock]
    | some fd =>
        by_cases hconnected : calls.connected = true <;>
          simp [hsock, hconnected]
  · by_cases hconnected : calls.connected = true <;>
      simp [hsock, hconnected]

def ForwardFails
    (client : DomainTCPClient) (errno : ℕ) (calls : ForwardCalls) : Prop :=
  HardError client errno calls.send ∧
    ¬ Reconnects (afterHardError client) calls.setup

theorem sendToAiq_failed_iff
    (client : DomainTCPClient) (errno : ℕ) (buff : List UInt8)
    (calls : ForwardCalls) :
    (sendToAiq client errno buff calls).failed = true ↔
      ForwardFails client errno calls := by
  have hhard := send_ret_hardError_iff client errno buff calls.send
  unfold sendToAiq ForwardFails
  by_cases h : HardError client errno calls.send
  · have hclient := send_client_of_hardError buff h
    have hconnect := connectAiq_ret_iff (afterHardError client) calls.setup
    simp only [hhard, h, if_true, hclient, true_and]
    by_cases hreconnects : Reconnects (afterHardError client) calls.setup
    · simp [hconnect, hreconnects]
    · simp [hconnect, hreconnects]
  · simp [hhard, h]

theorem sendToAiq_handed
    (client : DomainTCPClient) (errno : ℕ) (buff : List UInt8)
    (calls : ForwardCalls) :
    (sendToAiq client errno buff calls).handed =
      (client.send errno buff calls.send).handed := by
  simp only [sendToAiq]
  split
  · split <;> rfl
  · rfl

theorem send_handed_eq_iff
    (client : DomainTCPClient) (errno : ℕ) (buff : List UInt8)
    (outcome : SendOutcome) :
    (client.send errno buff outcome).handed = buff ↔
      buff = [] ∨ (client.sock ≠ -1 ∧
        ∃ count, outcome = .sent count ∧ buff.length ≤ count) := by
  unfold DomainTCPClient.send
  by_cases hsock : client.sock = -1
  · simp [hsock, eq_comm]
  · cases outcome with
    | sent count =>
        simp only [ne_eq, hsock, not_false_eq_true, if_true, true_and,
          SendOutcome.sent.injEq, exists_eq_left', List.take_eq_self_iff]
        constructor
        · intro h
          exact .inr h
        · rintro (hempty | hcount)
          · simp [hempty]
          · exact hcount
    | failed error => simp [hsock, eq_comm]

theorem messageForward_ret_iff
    (client : DomainTCPClient) (errno : ℕ) (isRecvRunning : Bool)
    (buffer : List UInt8) (calls : ForwardCalls) :
    (messageForward client errno isRecvRunning buffer calls).ret = 0 ↔
      ¬ ForwardFails client errno calls := by
  rw [← sendToAiq_failed_iff client errno buffer calls]
  simp only [messageForward]
  split <;> simp [*]

theorem messageForward_resetMode_iff
    (client : DomainTCPClient) (errno : ℕ) (isRecvRunning : Bool)
    (buffer : List UInt8) (calls : ForwardCalls) :
    (messageForward client errno isRecvRunning buffer calls).resetMode =
        true ↔ ForwardFails client errno calls := by
  rw [← sendToAiq_failed_iff client errno buffer calls]
  simp only [messageForward]
  split <;> simp [*]

theorem messageForward_handed
    (client : DomainTCPClient) (errno : ℕ) (isRecvRunning : Bool)
    (buffer : List UInt8) (calls : ForwardCalls) :
    (messageForward client errno isRecvRunning buffer calls).handed =
      (client.send errno buffer calls.send).handed := by
  rw [← sendToAiq_handed]
  simp only [messageForward]
  split <;> rfl

/-- A reported success means a delivered message exactly when there is
nothing to deliver, when an open socket took all bytes, or when the call does
not report success because the reconnect failed too. -/
theorem messageForward_delivers_iff
    (client : DomainTCPClient) (errno : ℕ) (isRecvRunning : Bool)
    (buffer : List UInt8) (calls : ForwardCalls) :
    ((messageForward client errno isRecvRunning buffer calls).ret = 0 →
      (messageForward client errno isRecvRunning buffer calls).handed =
        buffer) ↔
      buffer = [] ∨
        (client.sock ≠ -1 ∧
          ∃ count, calls.send = .sent count ∧ buffer.length ≤ count) ∨
        ForwardFails client errno calls := by
  rw [messageForward_ret_iff, messageForward_handed, send_handed_eq_iff]
  constructor
  · intro h
    by_cases hfails : ForwardFails client errno calls
    · exact .inr (.inr hfails)
    · rcases h hfails with hempty | hsent
      · exact .inl hempty
      · exact .inr (.inl hsent)
  · rintro (hempty | hsent | hfails) hnot
    · exact .inl hempty
    · exact .inr hsent
    · exact absurd hfails hnot

/-- A short write: one of two bytes is handed over and success reported. -/
theorem shortWrite_not_delivered :
    let calls : ForwardCalls :=
      { send := .sent 1, setup := { created := some 7, connected := true } }
    let result := messageForward { sock := 5 } 0 true [1, 2] calls
    ¬ (result.ret = 0 → result.handed = [1, 2]) := by
  decide

end RkaiqToolServer
