import RkaiqToolServer.StepRun

/-!
# The threads around the tuning service

Every client thread receives tuning messages in `Recvieve` and calls
`MessageForward` for them: it sends the message to the service on the one
shared socket and then, under the mutex, creates a thread that runs
`doMessageForward` unless `is_recv_running` is set.  The created thread stores
the flag itself, receives from the shared socket and sends what it received to
the descriptor it was created with.  A message that was received is sent
whatever becomes of its descriptor in the meantime.

A run is a list of scheduled steps of the clients, of the service and of the
threads.  The bytes of an answer keep the client whose request they answer;
a step that is not enabled changes nothing.
-/

namespace RkaiqToolServer

open StepRun

structure AnswerByte where
  client : ℕ
  byte : UInt8
  deriving DecidableEq

/-- Where a thread is in `doMessageForward`: before it stores the flag, tests
it, receives, sends what it received, or takes the mutex to clear the flag. -/
inductive ForwardPc
  | starting
  | testing
  | receiving
  | sending (recvBuffer : List AnswerByte)
  | leaving
  deriving DecidableEq

structure Forwarder where
  sockfd : ℕ
  pc : ForwardPc
  deriving DecidableEq

def Forwarder.held (forwarder : Forwarder) : List AnswerByte :=
  match forwarder.pc with
  | .sending recvBuffer => recvBuffer
  | _ => []

/-- A message that `Recvieve` received, with the client it came from. -/
structure ReceivedMessage where
  sockfd : ℕ
  client : ℕ
  deriving DecidableEq

/-- `clients` gives the client on each open descriptor; `received` are the
messages that are not sent yet; `checking` are the calls of `MessageForward`
that have sent and not yet taken the mutex; `asked` are the clients whose
requests the service has not answered yet; `cleared` records that another
thread cleared the flag since it was last stored. -/
structure ThreadState where
  isRecvRunning : Bool
  forwarders : List Forwarder
  received : List ReceivedMessage
  checking : List ℕ
  clients : ℕ → Option ℕ
  accepted : ℕ
  asked : List ℕ
  answers : List AnswerByte
  cleared : Bool

def ThreadState.initial : ThreadState where
  isRecvRunning := false
  forwarders := []
  received := []
  checking := []
  clients := fun _ => none
  accepted := 0
  asked := []
  answers := []
  cleared := false

structure Delivery where
  client : Option ℕ
  bytes : List AnswerByte
  deriving DecidableEq

/-- How the send of `MessageForward` to the service ends: with the message
handed over, without it, without it on a new connection, or with the client
closed because there is no connection. -/
inductive RequestResult
  | delivered
  | notSent
  | reconnected
  | failed
  deriving DecidableEq

/-- `nothing` is a receive that times out or ends without bytes. -/
inductive ForwardOutcome
  | took (count : ℕ)
  | nothing
  | failed
  deriving DecidableEq

inductive ThreadInput
  | accept (sockfd : ℕ)
  | close (sockfd : ℕ)
  | receive (sockfd : ℕ)
  | request (message : ℕ) (result : RequestResult)
  | check (call : ℕ)
  | answer (bytes : List UInt8)
  | forwarder (thread : ℕ) (outcome : ForwardOutcome)
  | exit
  deriving DecidableEq

/-! ## Steps -/

def ThreadState.closeClient (s : ThreadState) (sockfd : ℕ) : ThreadState :=
  { s with clients := Function.update s.clients sockfd none }

def ThreadState.closeService (s : ThreadState) : ThreadState :=
  { s with asked := [], answers := [] }

def ThreadState.clearFlag (s : ThreadState) : ThreadState :=
  { s with isRecvRunning := false, cleared := true }

def ThreadState.setPc (s : ThreadState) (thread : ℕ)
    (forwarder : Forwarder) (pc : ForwardPc) : ThreadState :=
  { s with forwarders := s.forwarders.set thread { forwarder with pc := pc } }

/-- A closed descriptor gives no message; one that was closed and given away
gives those of its new client. -/
def receiveStep (s : ThreadState) (sockfd : ℕ) : ThreadState :=
  match s.clients sockfd with
  | none => s
  | some client =>
      { s with
        received := s.received ++ [{ sockfd := sockfd, client := client }] }

def requestStep (s : ThreadState) (message : ℕ) (result : RequestResult) :
    ThreadState :=
  match s.received[message]? with
  | none => s
  | some received =>
      let sent := { s with received := s.received.eraseIdx message }
      let called := { sent with checking := s.checking ++ [received.sockfd] }
      match result with
      | .delivered => { called with asked := s.asked ++ [received.client] }
      | .notSent => called
      | .reconnected => called.closeService
      -- the error path clears the flag without the mutex
      | .failed => (sent.closeService.closeClient received.sockfd).clearFlag

def checkStep (s : ThreadState) (call : ℕ) : ThreadState :=
  match s.checking[call]? with
  | none => s
  | some sockfd =>
      -- the created thread stores the flag, not the creator
      let checked := { s with checking := s.checking.eraseIdx call }
      if s.isRecvRunning then checked
      else
        { checked with
          forwarders := s.forwarders ++ [{ sockfd := sockfd, pc := .starting }] }

def answerStep (s : ThreadState) (bytes : List UInt8) : ThreadState :=
  match s.asked with
  | [] => s
  | client :: asked =>
      { s with
        asked := asked
        answers := s.answers ++
          bytes.map fun byte => { client := client, byte := byte } }

def doMessageForward (s : ThreadState) (thread : ℕ) (forwarder : Forwarder)
    (outcome : ForwardOutcome) : ThreadState × List Delivery :=
  match forwarder.pc with
  | .starting =>
      ({ s with isRecvRunning := true, cleared := false }.setPc thread
        forwarder .testing, [])
  | .testing =>
      (s.setPc thread forwarder
        (if s.isRecvRunning then .receiving else .leaving), [])
  | .receiving =>
      match outcome with
      | .took count =>
          let recvBuffer := s.answers.take count
          ({ s with answers := s.answers.drop count }.setPc thread forwarder
            (if recvBuffer = [] then .testing else .sending recvBuffer), [])
      | .nothing => (s.setPc thread forwarder .testing, [])
      | .failed =>
          ((s.closeService.closeClient forwarder.sockfd).setPc thread
            forwarder .leaving, [])
  | .sending recvBuffer =>
      match outcome, s.clients forwarder.sockfd with
      -- the result of a short send is not looked at
      | .took count, some client =>
          (s.setPc thread forwarder .testing,
            [{ client := some client, bytes := recvBuffer.take count }])
      | _, _ =>
          ((s.closeClient forwarder.sockfd).setPc thread forwarder .leaving,
            [])
  | .leaving =>
      ({ s with
          isRecvRunning := false
          forwarders := s.forwarders.eraseIdx thread }, [])

def threadStep (s : ThreadState) : ThreadInput → ThreadState × List Delivery
  | .accept sockfd =>
      if s.clients sockfd = none then
        ({ s with
            clients := Function.update s.clients sockfd (some s.accepted)
            accepted := s.accepted + 1 }, [])
      else (s, [])
  | .close sockfd => (s.closeClient sockfd, [])
  | .receive sockfd => (receiveStep s sockfd, [])
  | .request message result => (requestStep s message result, [])
  | .check call => (checkStep s call, [])
  | .answer bytes => (answerStep s bytes, [])
  | .forwarder thread outcome =>
      match s.forwarders[thread]? with
      | none => (s, [])
      | some forwarder => doMessageForward s thread forwarder outcome
  | .exit => (s.clearFlag, [])

end RkaiqToolServer
