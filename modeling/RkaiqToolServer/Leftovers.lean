import RkaiqToolServer.CommandRun
import RkaiqToolServer.PacketReads
import RkaiqToolServer.ReplyDeterminism

/-!
# Bytes of earlier messages in the receive buffer

`Recvieve` receives every chunk into the same buffer and the handlers look at
the buffer, not at the number of bytes that came.  What a chunk dispatches is
independent of the bytes behind it exactly when the chunk decides every
comparison that it leads to and holds every field that is read there.
-/

namespace RkaiqToolServer

open ByteCodec PrefixReads

/-- A raw-capture command is not dispatched while the ISP is online. -/
def TcpCommand.dispatched (ispOnline : Bool) : TcpCommand → Option TcpCommand
  | .raw message => if ispOnline then none else some (.raw message)
  | command => some command

/-- The command dispatched for a message, the state after it, and everything
that is sent or written for it. -/
structure MessageOutcome where
  command : Option TcpCommand
  state : TcpState
  events : List TcpEvent

def messageOutcome (calls : TcpCalls) (s : TcpState) (buffer : List UInt8)
    (size : ℕ) : MessageOutcome :=
  let handled := handleMessage calls s buffer size
  { command := (tcpCommand buffer).dispatched calls.handler.ispOnline
    state := handled.1
    events := handled.2 }

/-- Two runs whose buffers hold different bytes behind the chunk behave
identically, in every state and whatever the calls return. -/
def LeftoversIrrelevant (chunk : List UInt8) : Prop :=
  ∀ (calls : TcpCalls) (s : TcpState) (first second : List UInt8),
    Completes maxPacketSize chunk first →
    Completes maxPacketSize chunk second →
      messageOutcome calls s first chunk.length =
        messageOutcome calls s second chunk.length

/-- The chunk decides which tag it begins with, and what the handler of this
tag compares and reads. -/
def MessageHeld (chunk : List UInt8) : Prop :=
  Decides 0 (rkidIspOff ++ [0]) chunk (RawHeld chunk)
    (Decides 0 (rkidIspOn ++ [0]) chunk (OnLineHeld chunk)
      (Decides 0 (rkidCheck ++ [0]) chunk (CheckHeld chunk)
        (Decides 0 rkidSendFile chunk (FileHeld chunk)
          (Decides 0 rkidOfflineRaw chunk (OfflineHeld chunk) True))))

instance (chunk : List UInt8) : Decidable (MessageHeld chunk) :=
  inferInstanceAs (Decidable (Decides ..))

/-- A ping of the check protocol needs the first byte of its data. -/
example : MessageHeld (pingRequest.toBuffer.take 23) ∧
    ¬ MessageHeld (pingRequest.toBuffer.take 22) := by decide

/-! ## The command that is dispatched -/

/-- The comparisons of the tag as one chain. -/
theorem tcpCommand_eq (buffer : List UInt8) :
    tcpCommand buffer =
      if strcmpEq buffer rkidIspOff = true then
        .raw (CommandData.ofBuffer buffer).rawMessage
      else if strcmpEq buffer rkidIspOn = true then
        .onLine (CommandData.ofBuffer buffer).onLineMessage
      else if strcmpEq buffer rkidCheck = true then
        .check (CommandData.ofBuffer buffer).checkMessage
      else if memcmpEq buffer rkidSendFile = true then
        .receiveFile (fileSizes buffer)
      else if memcmpEq buffer rkidOfflineRaw = true then
        .offlineRaw (offlineRawSize buffer)
      else .forward := by
  unfold tcpCommand handlerFor
  split_ifs <;> rfl

theorem determined_tcpCommand_iff (chunk : List UInt8) :
    Determined maxPacketSize tcpCommand chunk ↔ MessageHeld chunk := by
  rw [funext tcpCommand_eq, MessageHeld]
  refine determined_branch_iff (compares_tag (by decide)) ?_ ?_ ?_
  · intro first second
    split_ifs <;> simp
  · exact (determined_map_iff (fun _ _ => TcpCommand.raw.inj) chunk).trans
      (determined_rawMessage_iff chunk)
  refine determined_branch_iff (compares_tag (by decide)) ?_ ?_ ?_
  · intro first second
    split_ifs <;> simp
  · exact (determined_map_iff (fun _ _ => TcpCommand.onLine.inj) chunk).trans
      (determined_onLineMessage_iff chunk)
  refine determined_branch_iff (compares_tag (by decide)) ?_ ?_ ?_
  · intro first second
    split_ifs <;> simp
  · exact (determined_map_iff (fun _ _ => TcpCommand.check.inj) chunk).trans
      (determined_checkMessage_iff chunk)
  refine determined_branch_iff (compares_start (by decide)) ?_ ?_ ?_
  · intro first second
    split_ifs <;> simp
  · exact (determined_map_iff (fun _ _ => TcpCommand.receiveFile.inj)
      chunk).trans (determined_fileSizes_iff chunk)
  refine determined_branch_iff (compares_start (by decide))
    ?_ ?_ (determined_const ..)
  · simp
  · exact (determined_map_iff (fun _ _ => TcpCommand.offlineRaw.inj)
      chunk).trans (determined_offlineRawSize_iff chunk)

/-! ## The two runs -/

/-- What happens is a function of the command and of the bytes that came. -/
theorem messageOutcome_congr (calls : TcpCalls) (s : TcpState)
    {chunk first second : List UInt8} (hfirst : chunk <+: first)
    (hsecond : chunk <+: second) (h : tcpCommand first = tcpCommand second) :
    messageOutcome calls s first chunk.length =
      messageOutcome calls s second chunk.length := by
  simp only [messageOutcome, handleMessage_eq_run calls s hfirst,
    handleMessage_eq_run calls s hsecond, h]

theorem dispatched_of_notOnline (command : TcpCommand) :
    command.dispatched false = some command := by
  cases command <;> rfl

/-- In any state in which the ISP is not online, two runs agree exactly when
the chunk holds its message. -/
theorem messageOutcome_determined_iff {calls : TcpCalls}
    (honline : calls.handler.ispOnline = false) (s : TcpState)
    (chunk : List UInt8) :
    Determined maxPacketSize
        (fun buffer => messageOutcome calls s buffer chunk.length) chunk ↔
      MessageHeld chunk := by
  rw [← determined_tcpCommand_iff]
  constructor
  · intro hsame first second hfirst hsecond
    have hcommand := congrArg MessageOutcome.command
      (hsame first second hfirst hsecond)
    simp only [messageOutcome, honline, dispatched_of_notOnline] at hcommand
    exact Option.some.inj hcommand
  · intro hcommand first second hfirst hsecond
    exact messageOutcome_congr calls s hfirst.begins hsecond.begins
      (hcommand first second hfirst hsecond)

/-! ## A server to which an eight-byte chunk comes -/

def quietCalls : TcpCalls where
  handler := workingCalls
  arriving := []
  onLineGet := fun _ => ([], true)
  onLine := quietOnLineCalls
  yuv := workingYuvCalls
  onlineRawFrame := fun _ => none
  host :=
    { startTime := 0, packetMalloc := .ample, dataMalloc := .ample,
      heap := [], dataPointer := [], stack := [],
      opendir := fun _ => false, fopen := fun _ => false, fwrite := 0 }
  arrivals := []

def bootedState : TcpState where
  server := pingedServer
  onLine := { captureStatus := ready, gWidth := 0, gHeight := 0 }
  frames :=
    { captureFrames := 1, captureFramesIndex := 0, captureCheckSum := 0 }
  offline := .initial

/-- The bytes behind a chunk make no difference exactly when the chunk holds
its message. -/
theorem leftoversIrrelevant_iff (chunk : List UInt8) :
    LeftoversIrrelevant chunk ↔ MessageHeld chunk := by
  constructor
  · intro hirrelevant
    have honline : quietCalls.handler.ispOnline = false := rfl
    exact (messageOutcome_determined_iff honline bootedState chunk).mp
      (hirrelevant quietCalls bootedState)
  · intro hheld calls s first second hfirst hsecond
    exact messageOutcome_congr calls s hfirst.begins hsecond.begins
      ((determined_tcpCommand_iff chunk).mpr hheld first second hfirst
        hsecond)

def bufferOf (cmd : CommandData) : List UInt8 :=
  cmd.toBuffer ++ List.replicate (maxPacketSize - commandDataSize) 0

theorem completes_bufferOf (cmd : CommandData) :
    Completes maxPacketSize cmd.rkid.toList (bufferOf cmd) where
  length_eq := by
    rw [bufferOf, List.length_append, cmd.length_toBuffer,
      List.length_replicate]
    decide
  begins := by
    rw [bufferOf, CommandData.toBuffer, List.append_assoc]
    exact List.prefix_append _ _

theorem tcpCommand_bufferOf {cmd : CommandData}
    (hhandler : handlerFor cmd.toBuffer = .rawCapture) :
    tcpCommand (bufferOf cmd) = .raw cmd.rawMessage := by
  have hsame : handlerFor (bufferOf cmd) = .rawCapture := by
    rw [bufferOf, handlerFor_append (by rw [cmd.length_toBuffer]; decide),
      hhandler]
  have hrecord : CommandData.ofBuffer (bufferOf cmd) = cmd := by
    rw [bufferOf, CommandData.ofBuffer_append cmd.length_toBuffer,
      CommandData.ofBuffer_toBuffer]
  rw [tcpCommand, hsame, hrecord]

/-- The mode the server is in after the tag of `cmd` came. -/
theorem mode_bufferOf {cmd : CommandData}
    (hhandler : handlerFor cmd.toBuffer = .rawCapture) :
    (messageOutcome quietCalls bootedState (bufferOf cmd)
        cmd.rkid.toList.length).state.server.app.gAppRunMode =
      (cmd.rawMessage.run quietCalls pingedServer).1.app.gAppRunMode := by
  rw [messageOutcome, handleMessage_eq_run quietCalls bootedState
    (completes_bufferOf cmd).begins, tcpCommand_bufferOf hhandler]
  rfl

def bareRequest : CommandData :=
  { zeroCommand with rkid := strncpy8 rkidIspOff }

def knockRequest : CommandData :=
  { bareRequest with
    cmdType := cmdTypeCapture
    cmdID := cmdIdCaptureStatus
    dat := datOf [knockKnock] }

/-- The tag of the raw-capture protocol comes alone: behind it an earlier
message left a ping, or nothing. -/
theorem leftovers_not_irrelevant :
    ¬ LeftoversIrrelevant (strncpy8 rkidIspOff).toList := by
  intro hirrelevant
  have hsame := hirrelevant quietCalls bootedState _ _
    (completes_bufferOf knockRequest) (completes_bufferOf bareRequest)
  have hmode := congrArg
    (fun outcome => outcome.state.server.app.gAppRunMode) hsame
  have hknock : handlerFor knockRequest.toBuffer = .rawCapture := by decide
  have hbare : handlerFor bareRequest.toBuffer = .rawCapture := by decide
  have hsides := ((mode_bufferOf hknock).symm.trans hmode).trans
    (mode_bufferOf hbare)
  exact absurd hsides (by decide)

end RkaiqToolServer
