import RkaiqToolServer.ChunkStream
import RkaiqToolServer.CommandData

/-!
# The receive loop of a client

`TCPServer::Recvieve` reads what has arrived into one buffer and hands it to
`HandlerTCPMessage` at once; the buffer keeps the bytes of earlier messages
behind those just received.  `OnLineSet` and `DoCheckSum` read more bytes from
the same socket themselves.  What the loop makes of a client's stream is a
list of actions: the commands it dispatches, the payload bytes it collects and
the bytes it forwards to the tuning service.

The bytes are of any type that has a `UInt8` value, so that the loop can be
run on bytes that carry their place in the stream.  A run that reaches a file
transfer or offline control is not followed further.
-/

namespace RkaiqToolServer

open ByteCodec
open ChunkStream

variable {β : Type*}

inductive Action (β : Type*)
  | command (record : List β)
  | payload (byte : β)
  | checkSum (record : List β)
  | forwarded (byte : β)
  | receiveFile
  | offlineRaw

def Action.bytes : Action β → List β
  | .command record | .checkSum record => record
  | .payload byte | .forwarded byte => [byte]
  | .receiveFile | .offlineRaw => []

inductive Reading
  | payload (size : ℕ)
  | checkSum

def Reading.size : Reading → ℕ
  | .payload size => size
  | .checkSum => commandDataSize

def Reading.actions (bytes : List β) : Reading → List (Action β)
  | .payload _ => bytes.map .payload
  | .checkSum => [.checkSum bytes]

theorem bytes_map_forwarded (bytes : List β) :
    (bytes.map Action.forwarded).flatMap Action.bytes = bytes := by
  simp [List.flatMap_map, Action.bytes]

theorem Reading.bytes_actions (bytes : List β) (reading : Reading) :
    (reading.actions bytes).flatMap Action.bytes = bytes := by
  cases reading with
  | payload size => simp [actions, List.flatMap_map, Action.bytes]
  | checkSum => simp [actions, Action.bytes]

/-- `OnLineSet` collects `param_size` bytes, none when that is negative.
`HandlerTCPMessage` drops a raw command while the ISP is online. -/
def readingOf (ispOnline : Bool) (handler : Handler) (cmd : CommandData) :
    Reading :=
  match handler with
  | .rawCapture =>
      if ispOnline = false ∧ cmd.cmdType = cmdTypeStreaming ∧
          cmd.cmdID = 0xffff then
        .payload cmd.paramSize.toNat
      else .payload 0
  | .onLine =>
      if cmd.cmdType = cmdTypeStreaming then
        if cmd.cmdID = 0xffff then .payload cmd.paramSize.toNat
        else .payload 0
      else if cmd.cmdType = cmdTypeUapiSet then
        .payload cmd.paramSize.toNat
      else if cmd.cmdType = cmdTypeUapiGet then .checkSum
      else .payload 0
  | _ => .payload 0

/-- `ispOnline` answers the check that is made while so many chunks are
outstanding. -/
def recvieve (val : β → UInt8) (ispOnline : ℕ → Bool) (buffer : List β) :
    List (List β) → List (Action β)
  | [] => []
  | chunk :: chunks =>
      -- only the received bytes are new, the rest of the buffer is as before
      let buffer := overlay 0 chunk buffer
      let handler := handlerFor (buffer.map val)
      if handler = .receiveFile then [.receiveFile]
      else if handler = .offlineRaw then [.offlineRaw]
      else if handler = .forward then
        chunk.map .forwarded ++ recvieve val ispOnline buffer chunks
      else
        let reading := readingOf (ispOnline chunks.length) handler
          (CommandData.ofBuffer (buffer.map val))
        .command (buffer.take commandDataSize) ::
          match _hread : takeExactly reading.size chunks with
          | none => []
          | some (bytes, rest) =>
              reading.actions bytes ++ recvieve val ispOnline buffer rest
termination_by chunks => chunks.length
decreasing_by
  · simp
  · have hle := takeExactly_length_le _hread
    simp only [List.length_cons]
    omega

/-! ## What the loop does with one chunk -/

def Handler.TakesCommand (handler : Handler) : Prop :=
  handler = .rawCapture ∨ handler = .onLine ∨ handler = .checkDevice

inductive RecvieveCase (val : β → UInt8) (ispOnline : ℕ → Bool)
    (buffer chunk : List β) (chunks : List (List β)) :
    List (Action β) → Prop
  | diverted (action : Action β)
      (hhandler : handlerFor (buffer.map val) = .receiveFile ∨
        handlerFor (buffer.map val) = .offlineRaw)
      (haction : action = .receiveFile ∨ action = .offlineRaw) :
      RecvieveCase val ispOnline buffer chunk chunks [action]
  | forwarded (hforward : handlerFor (buffer.map val) = .forward) :
      RecvieveCase val ispOnline buffer chunk chunks
        (chunk.map .forwarded ++ recvieve val ispOnline buffer chunks)
  | waiting (reading : Reading)
      (hcommand : (handlerFor (buffer.map val)).TakesCommand)
      (hreading : readingOf (ispOnline chunks.length)
        (handlerFor (buffer.map val))
        (CommandData.ofBuffer (buffer.map val)) = reading)
      (htake : takeExactly reading.size chunks = none) :
      RecvieveCase val ispOnline buffer chunk chunks
        [.command (buffer.take commandDataSize)]
  | handled (reading : Reading) (bytes : List β) (rest : List (List β))
      (hcommand : (handlerFor (buffer.map val)).TakesCommand)
      (hreading : readingOf (ispOnline chunks.length)
        (handlerFor (buffer.map val))
        (CommandData.ofBuffer (buffer.map val)) = reading)
      (htake : takeExactly reading.size chunks = some (bytes, rest)) :
      RecvieveCase val ispOnline buffer chunk chunks
        (.command (buffer.take commandDataSize) ::
          (reading.actions bytes ++ recvieve val ispOnline buffer rest))

theorem recvieve_nil (val : β → UInt8) (ispOnline : ℕ → Bool)
    (buffer : List β) : recvieve val ispOnline buffer [] = [] := by
  rw [recvieve]

theorem recvieve_cases (val : β → UInt8) (ispOnline : ℕ → Bool)
    (buffer chunk : List β) (chunks : List (List β)) :
    RecvieveCase val ispOnline (overlay 0 chunk buffer) chunk chunks
      (recvieve val ispOnline buffer (chunk :: chunks)) := by
  rw [recvieve]
  generalize overlay 0 chunk buffer = buffer
  simp only []
  split
  next hfile => exact .diverted _ (.inl hfile) (.inl rfl)
  next hfile =>
      split
      next hoffline => exact .diverted _ (.inr hoffline) (.inr rfl)
      next hoffline =>
          split
          next hforward => exact .forwarded hforward
          next hforward =>
              have hcommand : (handlerFor (buffer.map val)).TakesCommand := by
                unfold Handler.TakesCommand
                cases hhandler : handlerFor (buffer.map val) <;>
                  simp_all
              split
              next htake => exact .waiting _ hcommand rfl htake
              next bytes rest htake =>
                  exact .handled _ bytes rest hcommand rfl htake

theorem Handler.TakesCommand.ne_forward {handler : Handler}
    (h : handler.TakesCommand) : handler ≠ .forward := by
  rcases h with rfl | rfl | rfl <;> simp

theorem Handler.TakesCommand.not_diverted {handler : Handler}
    (h : handler.TakesCommand) :
    ¬ (handler = .receiveFile ∨ handler = .offlineRaw) := by
  rcases h with rfl | rfl | rfl <;> simp

theorem recvieve_forward
    {val : β → UInt8} {ispOnline : ℕ → Bool} {buffer chunk : List β}
    (chunks : List (List β))
    (hforward : handlerFor ((overlay 0 chunk buffer).map val) = .forward) :
    recvieve val ispOnline buffer (chunk :: chunks) =
      chunk.map .forwarded ++
        recvieve val ispOnline (overlay 0 chunk buffer) chunks := by
  have hcases := recvieve_cases val ispOnline buffer chunk chunks
  generalize recvieve val ispOnline buffer (chunk :: chunks) = actions
    at hcases ⊢
  cases hcases with
  | diverted action hhandler haction => simp [hforward] at hhandler
  | forwarded _ => rfl
  | waiting reading hcommand _ _ => exact absurd hforward hcommand.ne_forward
  | handled reading bytes rest hcommand _ _ =>
      exact absurd hforward hcommand.ne_forward

theorem recvieve_command
    {val : β → UInt8} {ispOnline : ℕ → Bool} {buffer chunk : List β}
    {chunks : List (List β)}
    (hcommand : (handlerFor
      ((overlay 0 chunk buffer).map val)).TakesCommand) :
    recvieve val ispOnline buffer (chunk :: chunks) =
      let reading := readingOf (ispOnline chunks.length)
        (handlerFor ((overlay 0 chunk buffer).map val))
        (CommandData.ofBuffer ((overlay 0 chunk buffer).map val))
      .command ((overlay 0 chunk buffer).take commandDataSize) ::
        match takeExactly reading.size chunks with
        | none => []
        | some (bytes, rest) => reading.actions bytes ++
            recvieve val ispOnline (overlay 0 chunk buffer) rest := by
  have hcases := recvieve_cases val ispOnline buffer chunk chunks
  generalize recvieve val ispOnline buffer (chunk :: chunks) = actions
    at hcases ⊢
  cases hcases with
  | diverted action hhandler haction =>
      exact absurd hhandler hcommand.not_diverted
  | forwarded hforward => exact absurd hforward hcommand.ne_forward
  | waiting reading _ hreading htake => simp [hreading, htake]
  | handled reading bytes rest _ hreading htake => simp [hreading, htake]

/-! ## Nothing is made up -/

theorem mem_take_overlay {count : ℕ} {chunk buffer : List β} {byte : β}
    (h : byte ∈ (overlay 0 chunk buffer).take count) :
    byte ∈ chunk ∨ byte ∈ buffer.take count := by
  rw [overlay_zero, List.take_append] at h
  rcases List.mem_append.mp h with hnew | hold
  · exact .inl (List.mem_of_mem_take hnew)
  · rcases Nat.le_total chunk.length count with hle | hlong
    · rw [List.take_drop, Nat.add_sub_cancel' hle] at hold
      exact .inr (List.mem_of_mem_drop hold)
    · simp [Nat.sub_eq_zero_of_le hlong] at hold

/-- Every byte of an action was received, or is among the first bytes the
buffer held before. -/
theorem recvieve_bytes (val : β → UInt8) (ispOnline : ℕ → Bool)
    (chunks : List (List β)) (buffer : List β) :
    ∀ byte ∈ (recvieve val ispOnline buffer chunks).flatMap Action.bytes,
      byte ∈ buffer.take commandDataSize ∨ byte ∈ chunks.flatten := by
  induction hlength : chunks.length using Nat.strong_induction_on
    generalizing chunks buffer with
  | _ length ih =>
      cases chunks with
      | nil => simp [recvieve_nil]
      | cons chunk chunks =>
          intro byte hbyte
          have hcases := recvieve_cases val ispOnline buffer chunk chunks
          have hbuffer : byte ∈ (overlay 0 chunk buffer).take
              commandDataSize →
              byte ∈ buffer.take commandDataSize ∨
                byte ∈ (chunk :: chunks).flatten := by
            intro hmem
            rcases mem_take_overlay hmem with hnew | hold
            · exact .inr (List.mem_append_left _ hnew)
            · exact .inl hold
          have hrest : ∀ rest : List (List β),
              rest.length ≤ chunks.length →
              (∀ later ∈ rest.flatten, later ∈ chunks.flatten) →
              byte ∈ (recvieve val ispOnline (overlay 0 chunk buffer)
                rest).flatMap Action.bytes →
              byte ∈ buffer.take commandDataSize ∨
                byte ∈ (chunk :: chunks).flatten := by
            intro rest hle hsub hmem
            rcases ih rest.length (by simp at hlength; omega) rest
              (overlay 0 chunk buffer) rfl byte hmem with hold | hnew
            · exact hbuffer hold
            · exact .inr (List.mem_append_right _ (hsub byte hnew))
          generalize recvieve val ispOnline buffer (chunk :: chunks) =
            actions at hcases hbyte
          cases hcases with
          | diverted action _ haction =>
              rcases haction with rfl | rfl <;> simp [Action.bytes] at hbyte
          | forwarded _ =>
              rw [List.flatMap_append, List.mem_append] at hbyte
              rcases hbyte with hhere | hlater
              · rw [bytes_map_forwarded] at hhere
                exact .inr (List.mem_append_left _ hhere)
              · exact hrest chunks le_rfl (fun _ h => h) hlater
          | waiting reading _ _ _ =>
              apply hbuffer
              simpa [Action.bytes] using hbyte
          | handled reading bytes rest _ _ htake =>
              obtain ⟨-, hflatten⟩ := takeExactly_spec htake
              rw [List.flatMap_cons, List.flatMap_append, List.mem_append,
                List.mem_append] at hbyte
              rcases hbyte with hrecord | hread | hlater
              · exact hbuffer hrecord
              · rw [reading.bytes_actions] at hread
                apply Or.inr
                rw [List.flatten_cons, ← hflatten]
                simp [hread]
              · apply hrest rest (takeExactly_length_le htake) ?_ hlater
                intro later hmem
                rw [← hflatten]
                exact List.mem_append_right _ hmem

end RkaiqToolServer
