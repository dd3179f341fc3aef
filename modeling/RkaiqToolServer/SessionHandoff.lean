import RkaiqToolServer.StepRun

/-!
# Handing sessions to the event loop

`createNewChannel` and `removeChannel` send a message through a pipe to the
thread of the event loop and wait until its handler has cleared `flag`.
`lock_msg` is held over a whole `sendMessage`; `mtx` guards `flag` and is the
mutex of the wait.  Each thread is at a place between two of its accesses to
what they share.
-/

namespace RkaiqToolServer

inductive CmdType
  | newSession
  | removeSession
  deriving DecidableEq

/-- `sender` and `number` tell the calls apart: the `number`-th call of the
thread `sender`. -/
structure SessionMessage where
  sender : ℕ
  number : ℕ
  cmdType : CmdType
  channelName : String
  deriving DecidableEq

inductive SessionThread
  | caller (index : ℕ)
  | handler
  deriving DecidableEq

/-- Where a caller is in `sendMessage`; `searching` is the lookup of
`createNewChannel` after it. -/
inductive CallerPc
  | idle
  | lockingMsg (msg : SessionMessage)
  | locking (msg : SessionMessage)
  | raising (msg : SessionMessage)
  | writing (msg : SessionMessage)
  | testing (msg : SessionMessage)
  | waiting (msg : SessionMessage)
  | relocking (msg : SessionMessage)
  | unlocking (msg : SessionMessage)
  | unlockingMsg (msg : SessionMessage)
  | searching (msg : SessionMessage)
  deriving DecidableEq

/-- Where the thread of the event loop is in `incomingMsgHandler1`; it is idle
when the handler is not running. -/
inductive HandlerPc
  | idle
  | switching (msg : SessionMessage)
  | locking (msg : SessionMessage)
  | clearing (msg : SessionMessage)
  | notifying (msg : SessionMessage)
  | unlocking (msg : SessionMessage)
  deriving DecidableEq

/-- `calls` counts the calls of each caller; `sent`, `handled` and `returned`
record the messages written to the pipe, those the handler has switched on and
those whose `sendMessage` has returned, and `found` the inputs that
`createNewChannel` returned.  The input of a session is told by its message. -/
structure SessionState where
  lockMsg : Option SessionThread
  mtx : Option SessionThread
  flag : Bool
  pipe : List SessionMessage
  inputMap : String → Option SessionMessage
  callers : ℕ → CallerPc
  handler : HandlerPc
  calls : ℕ → ℕ
  sent : List SessionMessage
  handled : List SessionMessage
  returned : List SessionMessage
  found : List (SessionMessage × Option SessionMessage)

/-- The constructor leaves `flag` as it finds it. -/
def SessionState.initial (flag : Bool) : SessionState where
  lockMsg := none
  mtx := none
  flag := flag
  pipe := []
  inputMap := fun _ => none
  callers := fun _ => .idle
  handler := .idle
  calls := fun _ => 0
  sent := []
  handled := []
  returned := []
  found := []

/-- `written` and `count` say whether the system call of the step succeeds;
`spurious` is a wait that ends without a notification. -/
inductive SessionInput
  | createNewChannel (index : ℕ) (channelName : String)
  | removeChannel (index : ℕ) (channelName : String)
  | caller (index : ℕ) (written : Bool)
  | handler (count : Bool)
  | spurious (index : ℕ)
  deriving DecidableEq

/-! ## Steps -/

namespace SessionState

def setCaller (s : SessionState) (index : ℕ) (pc : CallerPc) : SessionState :=
  { s with callers := Function.update s.callers index pc }

def setHandler (s : SessionState) (pc : HandlerPc) : SessionState :=
  { s with handler := pc }

def setLockMsg (s : SessionState) (holder : Option SessionThread) :
    SessionState :=
  { s with lockMsg := holder }

def setMtx (s : SessionState) (holder : Option SessionThread) :
    SessionState :=
  { s with mtx := holder }

def setFlag (s : SessionState) (flag : Bool) : SessionState :=
  { s with flag := flag }

def write (s : SessionState) (msg : SessionMessage) : SessionState :=
  { s with pipe := s.pipe ++ [msg], sent := s.sent ++ [msg] }

/-- The `switch` of the handler: `addSession` and `removeSession`. -/
def switch (s : SessionState) (msg : SessionMessage) : SessionState :=
  { s with
    inputMap := Function.update s.inputMap msg.channelName
      (match msg.cmdType with
        | .newSession => some msg
        | .removeSession => none)
    handled := s.handled ++ [msg] }

def finish (s : SessionState) (msg : SessionMessage) : SessionState :=
  { s with returned := s.returned ++ [msg] }

def find (s : SessionState) (msg : SessionMessage) : SessionState :=
  { s with found := s.found ++ [(msg, s.inputMap msg.channelName)] }

end SessionState

def CallerPc.wake : CallerPc → CallerPc
  | .waiting msg => .relocking msg
  | pc => pc

def SessionState.notify (s : SessionState) : SessionState :=
  { s with callers := fun index => (s.callers index).wake }

/-- A caller enters `sendMessage`. -/
def sendMessage (s : SessionState) (index : ℕ) (cmdType : CmdType)
    (channelName : String) : SessionState :=
  if s.callers index = .idle then
    { s with
      calls := Function.update s.calls index (s.calls index + 1) }.setCaller
      index (.lockingMsg ⟨index, s.calls index, cmdType, channelName⟩)
  else s

def callerStep (s : SessionState) (index : ℕ) (written : Bool) :
    CallerPc → SessionState
  | .idle => s
  | .lockingMsg msg =>
      if s.lockMsg = none then
        (s.setLockMsg (some (.caller index))).setCaller index (.locking msg)
      else s
  | .locking msg =>
      if s.mtx = none then
        (s.setMtx (some (.caller index))).setCaller index (.raising msg)
      else s
  | .raising msg => (s.setFlag true).setCaller index (.writing msg)
  | .writing msg =>
      if written then (s.write msg).setCaller index (.testing msg)
      else s.setCaller index (.testing msg)
  | .testing msg =>
      if s.flag then (s.setMtx none).setCaller index (.waiting msg)
      else s.setCaller index (.unlocking msg)
  | .waiting _ => s
  | .relocking msg =>
      if s.mtx = none then
        (s.setMtx (some (.caller index))).setCaller index (.testing msg)
      else s
  | .unlocking msg => (s.setMtx none).setCaller index (.unlockingMsg msg)
  | .unlockingMsg msg =>
      ((s.setLockMsg none).finish msg).setCaller index
        (match msg.cmdType with
          | .newSession => .searching msg
          | .removeSession => .idle)
  | .searching msg => (s.find msg).setCaller index .idle

/-- One step of the event loop, which runs the handler only when the pipe can
be read. -/
def handlerStep (s : SessionState) (count : Bool) : HandlerPc → SessionState
  | .idle =>
      match s.pipe with
      | [] => s
      | msg :: rest =>
          if count then { s with pipe := rest }.setHandler (.switching msg)
          else s
  | .switching msg => (s.switch msg).setHandler (.locking msg)
  | .locking msg =>
      if s.mtx = none then
        (s.setMtx (some .handler)).setHandler (.clearing msg)
      else s
  | .clearing msg => (s.setFlag false).setHandler (.notifying msg)
  | .notifying msg => s.notify.setHandler (.unlocking msg)
  | .unlocking _ => (s.setMtx none).setHandler .idle

def sessionStep (s : SessionState) : SessionInput → SessionState
  | .createNewChannel index channelName =>
      sendMessage s index .newSession channelName
  | .removeChannel index channelName =>
      sendMessage s index .removeSession channelName
  | .caller index written => callerStep s index written (s.callers index)
  | .handler count => handlerStep s count s.handler
  | .spurious index => s.setCaller index (s.callers index).wake

end RkaiqToolServer
