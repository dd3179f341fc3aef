import RkaiqToolServer.ReceiveLoop

/-!
# Which segmentations of a client's stream are understood

Every chunk is taken for the start of a message.  The loop therefore makes of
a stream what the client meant when every command arrives as one chunk of its
own, every other chunk holds bytes of tuning packets only and does not look
like a local command together with the bytes the buffer still holds, and a
command that makes its handler read more is a UAPI_SET with its payload or the
last of the stream.  Payloads may be cut anywhere.

When the bytes can be told apart, so that a processed byte is known to be the
one the client sent and not an equal one, there are no other such
segmentations.
-/

namespace RkaiqToolServer

open ByteCodec
open ChunkStream

variable {β : Type*}

/-! ## What a client sends -/

inductive Message (β : Type*)
  | command (record : List β)
  | set (record payload : List β)
  | tuning (packet : List β)

def Message.wire : Message β → List β
  | .command record => record
  | .set record payload => record ++ payload
  | .tuning packet => packet

def Message.actions : Message β → List (Action β)
  | .command record => [.command record]
  | .set record payload => .command record :: payload.map .payload
  | .tuning packet => packet.map .forwarded

def IsCommand (val : β → UInt8) (record : List β) : Prop :=
  record.length = commandDataSize ∧
    (handlerFor (record.map val)).TakesCommand

def IsSet (val : β → UInt8) (record : List β) : Prop :=
  handlerFor (record.map val) = .onLine ∧
    (CommandData.ofBuffer (record.map val)).cmdType = cmdTypeUapiSet

def Message.WellFormed (val : β → UInt8) : Message β → Prop
  | .command record => IsCommand val record ∧ ¬ IsSet val record
  | .set record payload => IsCommand val record ∧ IsSet val record ∧
      payload.length =
        (CommandData.ofBuffer (record.map val)).paramSize.toNat
  | .tuning packet =>
      packet ≠ [] ∧ handlerFor (packet.map val) = .forward

structure Session (val : β → UInt8) where
  messages : List (Message β)
  chunks : List (List β)
  buffer : List β
  ispOnline : ℕ → Bool
  wellFormed : ∀ message ∈ messages, message.WellFormed val
  segmented : chunks.flatten = messages.flatMap Message.wire
  sizes : ∀ chunk ∈ chunks,
    1 ≤ chunk.length ∧ chunk.length ≤ maxPacketSize
  buffer_length : buffer.length = maxPacketSize

/-- Nothing is lost, merged, duplicated or invented. -/
def Session.Processed {val : β → UInt8} (session : Session val) : Prop :=
  recvieve val session.ispOnline session.buffer session.chunks =
    session.messages.flatMap Message.actions

/-! ## Chunks that are understood -/

inductive Framed (val : β → UInt8) (ispOnline : ℕ → Bool) :
    List β → List (List β) → List (Action β) → Prop
  | done (buffer : List β) : Framed val ispOnline buffer [] []
  | tuning {buffer chunk : List β} {chunks : List (List β)}
      {expected : List (Action β)}
      (hforward : handlerFor ((overlay 0 chunk buffer).map val) = .forward)
      (h : Framed val ispOnline (overlay 0 chunk buffer) chunks expected) :
      Framed val ispOnline buffer (chunk :: chunks)
        (chunk.map .forwarded ++ expected)
  | command {buffer record payload : List β} {chunks rest : List (List β)}
      {expected : List (Action β)} (hcommand : IsCommand val record)
      (hreading : readingOf (ispOnline chunks.length)
        (handlerFor (record.map val))
        (CommandData.ofBuffer (record.map val)) = .payload payload.length)
      (htake : takeExactly payload.length chunks = some (payload, rest))
      (h : Framed val ispOnline (overlay 0 record buffer) rest expected) :
      Framed val ispOnline buffer (record :: chunks)
        (.command record :: (payload.map .payload ++ expected))
  /-- The handler waits for bytes after the last command of the stream. -/
  | last {buffer record : List β} (hcommand : IsCommand val record)
      (hreading : (readingOf (ispOnline 0) (handlerFor (record.map val))
        (CommandData.ofBuffer (record.map val))).size ≠ 0) :
      Framed val ispOnline buffer [record] [.command record]

def Session.Understood {val : β → UInt8} (session : Session val) : Prop :=
  Framed val session.ispOnline session.buffer session.chunks
    (session.messages.flatMap Message.actions)

theorem overlay_record (val : β → UInt8) {record : List β}
    (hlength : record.length = commandDataSize) (buffer : List β) :
    handlerFor ((overlay 0 record buffer).map val) =
        handlerFor (record.map val) ∧
      CommandData.ofBuffer ((overlay 0 record buffer).map val) =
        CommandData.ofBuffer (record.map val) ∧
      (overlay 0 record buffer).take commandDataSize = record := by
  rw [overlay_zero, List.map_append]
  have hmap : (record.map val).length = commandDataSize := by
    simpa using hlength
  constructor
  · apply handlerFor_append
    rw [hmap]
    decide
  · constructor
    · exact CommandData.ofBuffer_append hmap _
    · rw [← hlength, List.take_left]

theorem recvieve_of_framed {val : β → UInt8} {ispOnline : ℕ → Bool}
    {buffer : List β} {chunks : List (List β)}
    {expected : List (Action β)}
    (h : Framed val ispOnline buffer chunks expected) :
    recvieve val ispOnline buffer chunks = expected := by
  induction h with
  | done buffer => exact recvieve_nil val ispOnline buffer
  | tuning hforward h ih => rw [recvieve_forward _ hforward, ih]
  | @command buffer record payload chunks rest expected hcommand hreading
      htake h ih =>
      obtain ⟨hhandler, hcast, hrecord⟩ :=
        overlay_record val hcommand.1 buffer
      rw [recvieve_command (hhandler ▸ hcommand.2), hhandler, hcast, hrecord,
        hreading]
      simp [Reading.size, Reading.actions, htake, ih]
  | @last buffer record hcommand hreading =>
      obtain ⟨hhandler, hcast, hrecord⟩ :=
        overlay_record val hcommand.1 buffer
      rw [recvieve_command (hhandler ▸ hcommand.2), hhandler, hcast, hrecord,
        List.length_nil]
      simp [takeExactly_nil hreading]

/-! ## There are no others -/

def Action.Expected : Action β → Prop
  | .command _ | .payload _ | .forwarded _ => True
  | .checkSum _ | .receiveFile | .offlineRaw => False

theorem Message.actions_expected (message : Message β) :
    ∀ action ∈ message.actions, action.Expected := by
  intro action haction
  cases message with
  | command record =>
      simp only [actions, List.mem_singleton] at haction
      simp [haction, Action.Expected]
  | set record payload =>
      simp only [actions, List.mem_cons, List.mem_map] at haction
      rcases haction with rfl | ⟨byte, -, rfl⟩ <;> trivial
  | tuning packet =>
      simp only [actions, List.mem_map] at haction
      obtain ⟨byte, -, rfl⟩ := haction
      trivial

theorem Message.bytes_actions (message : Message β) :
    message.actions.flatMap Action.bytes = message.wire := by
  cases message with
  | command record => simp [actions, wire, Action.bytes]
  | set record payload =>
      simp [actions, wire, Action.bytes, List.flatMap_map]
  | tuning packet => exact bytes_map_forwarded packet

/-- A chunk dispatched as a command is the record of that command, if the
record and what is processed after it are the bytes of the stream. -/
theorem chunk_eq_record
    {chunk buffer later record more : List β}
    (hrecord : (overlay 0 chunk buffer).take commandDataSize = record)
    (hwire : chunk ++ later = record ++ more)
    (hmore : ∀ byte ∈ more, byte ∈ record ∨ byte ∈ later)
    (hdistinct : (chunk ++ later ++ buffer).Nodup) :
    chunk = record ∧ later = more := by
  rw [overlay_zero, List.take_append] at hrecord
  rcases Nat.le_total chunk.length commandDataSize with hle | hlong
  · -- a shorter chunk is completed with stale bytes, which are not in the stream
    rw [List.take_of_length_le hle] at hrecord
    subst hrecord
    rw [List.append_assoc] at hwire
    have hstale : (buffer.drop chunk.length).take
        (commandDataSize - chunk.length) = [] := by
      have hlater := List.append_cancel_left hwire
      apply List.eq_nil_iff_forall_not_mem.mpr
      intro byte hbyte
      have hold : byte ∈ buffer :=
        List.mem_of_mem_drop (List.mem_of_mem_take hbyte)
      have hnew : byte ∈ chunk ++ later := by
        rw [hlater]
        simp [hbyte]
      exact (List.nodup_append.mp hdistinct).2.2 byte hnew byte hold rfl
    rw [hstale] at hwire ⊢
    simpa using hwire
  · -- what a longer chunk holds behind the record is never seen again
    rw [Nat.sub_eq_zero_of_le hlong, List.take_zero,
      List.append_nil] at hrecord
    obtain ⟨extra, rfl⟩ : ∃ extra, chunk = record ++ extra :=
      ⟨chunk.drop commandDataSize, by rw [← hrecord, List.take_append_drop]⟩
    rw [List.append_assoc] at hwire
    have hafter : extra ++ later = more := List.append_cancel_left hwire
    have hextra : extra = [] := by
      apply List.eq_nil_iff_forall_not_mem.mpr
      intro byte hbyte
      have hreceived := (List.nodup_append.mp hdistinct).1
      obtain ⟨hchunk, -, hchunks⟩ := List.nodup_append.mp hreceived
      rcases hmore byte (by rw [← hafter]; simp [hbyte]) with hhere | hlater
      · exact (List.nodup_append.mp hchunk).2.2 byte hhere byte hbyte rfl
      · exact hchunks byte (List.mem_append_right _ hbyte) byte hlater rfl
    subst hextra
    simpa using hafter

theorem distinct_step {chunk buffer later more : List β}
    (hdistinct : (chunk ++ (more ++ later) ++ buffer).Nodup) :
    (later ++ overlay 0 chunk buffer).Nodup := by
  have hpart : List.Sublist (chunk ++ (later ++ buffer.drop chunk.length))
      (chunk ++ (more ++ later) ++ buffer) := by
    rw [List.append_assoc, List.append_assoc]
    apply List.Sublist.append_left
    exact ((List.Sublist.refl later).append
      (List.drop_sublist _ buffer)).trans (List.sublist_append_right _ _)
  rw [overlay_zero]
  exact (List.perm_append_comm_assoc _ _ _).nodup_iff.mp
    (hdistinct.sublist hpart)

theorem isCommand_of_dispatched {val : β → UInt8} {chunk buffer : List β}
    (hbuffer : commandDataSize ≤ (overlay 0 chunk buffer).length)
    (hcommand : (handlerFor
      ((overlay 0 chunk buffer).map val)).TakesCommand)
    (hchunk : chunk = (overlay 0 chunk buffer).take commandDataSize) :
    IsCommand val chunk ∧
      handlerFor ((overlay 0 chunk buffer).map val) =
        handlerFor (chunk.map val) ∧
      CommandData.ofBuffer ((overlay 0 chunk buffer).map val) =
        CommandData.ofBuffer (chunk.map val) := by
  have hlength : chunk.length = commandDataSize := by
    rw [hchunk, List.length_take]
    omega
  obtain ⟨hhandler, hcast, -⟩ := overlay_record val hlength buffer
  exact ⟨⟨hlength, hhandler ▸ hcommand⟩, hhandler, hcast⟩

theorem eq_nil_of_flatten {chunks : List (List β)}
    (hchunks : ∀ chunk ∈ chunks, chunk ≠ [])
    (hflatten : chunks.flatten = []) : chunks = [] := by
  apply List.eq_nil_iff_forall_not_mem.mpr
  intro chunk hmem
  exact hchunks chunk hmem (List.flatten_eq_nil_iff.mp hflatten chunk hmem)

theorem mem_of_handled (val : β → UInt8) (ispOnline : ℕ → Bool)
    {bytes buffer : List β} {rest chunks : List (List β)}
    (hflatten : bytes ++ rest.flatten = chunks.flatten) :
    ∀ byte ∈ bytes ++
        (recvieve val ispOnline buffer rest).flatMap Action.bytes,
      byte ∈ buffer.take commandDataSize ∨ byte ∈ chunks.flatten := by
  intro byte hbyte
  rw [← hflatten]
  rcases List.mem_append.mp hbyte with hread | hlater
  · exact .inr (List.mem_append_left _ hread)
  · rcases recvieve_bytes val ispOnline rest _ byte hlater with hold | hnew
    · exact .inl hold
    · exact .inr (List.mem_append_right _ hnew)

theorem framed_of_recvieve
    (val : β → UInt8) (ispOnline : ℕ → Bool)
    (chunks : List (List β)) (buffer : List β)
    (hchunks : ∀ chunk ∈ chunks, chunk ≠ [])
    (hbuffer : commandDataSize ≤ buffer.length)
    (hdistinct : (chunks.flatten ++ buffer).Nodup)
    (hexpected : ∀ action ∈ recvieve val ispOnline buffer chunks,
      action.Expected)
    (hwire : chunks.flatten =
      (recvieve val ispOnline buffer chunks).flatMap Action.bytes) :
    Framed val ispOnline buffer chunks
      (recvieve val ispOnline buffer chunks) := by
  -- on the number of outstanding chunks: a payload takes several at once
  induction hlength : chunks.length using Nat.strong_induction_on
    generalizing chunks buffer with
  | _ length ih =>
      cases chunks with
      | nil =>
          rw [recvieve_nil]
          exact .done buffer
      | cons chunk chunks =>
          have hnext : commandDataSize ≤ (overlay 0 chunk buffer).length := by
            rw [overlay_zero, List.length_append, List.length_drop]
            omega
          have hlater : ∀ later ∈ chunks, later ≠ [] := fun later h =>
            hchunks later (List.mem_cons_of_mem chunk h)
          have hcases := recvieve_cases val ispOnline buffer chunk chunks
          generalize recvieve val ispOnline buffer (chunk :: chunks) =
            actions at hcases hexpected hwire ⊢
          rw [List.flatten_cons] at hwire hdistinct
          cases hcases with
          -- file transfers and offline control are not among the messages
          | diverted action _ haction =>
              have hbad := hexpected action (by simp)
              rcases haction with rfl | rfl <;> exact absurd hbad id
          | forwarded hforward =>
              rw [List.flatMap_append, bytes_map_forwarded] at hwire
              apply Framed.tuning hforward
              apply ih chunks.length (by simp at hlength; omega) chunks
                (overlay 0 chunk buffer) hlater hnext ?_ ?_
                (List.append_cancel_left hwire) rfl
              · rw [← List.nil_append chunks.flatten] at hdistinct
                exact distinct_step hdistinct
              · intro action haction
                exact hexpected action (List.mem_append_right _ haction)
          | waiting reading hcommand hreading htake =>
              rw [List.flatMap_cons, List.flatMap_nil] at hwire
              obtain ⟨hchunk, hrest⟩ := chunk_eq_record rfl hwire
                (by simp) hdistinct
              have hrecord := isCommand_of_dispatched hnext hcommand hchunk
              have hnone := eq_nil_of_flatten hlater hrest
              subst hnone
              rw [hrecord.2.1, hrecord.2.2, List.length_nil] at hreading
              rw [← hchunk]
              apply Framed.last hrecord.1
              rw [hreading]
              intro hzero
              simp [hzero] at htake
          | handled reading bytes rest hcommand hreading htake =>
              obtain ⟨hsize, hflatten⟩ := takeExactly_spec htake
              rw [List.flatMap_cons, List.flatMap_append,
                reading.bytes_actions] at hwire
              obtain ⟨hchunk, hrest⟩ := chunk_eq_record rfl hwire
                (mem_of_handled val ispOnline hflatten) hdistinct
              have hrecord := isCommand_of_dispatched hnext hcommand hchunk
              rw [hrecord.2.1, hrecord.2.2] at hreading
              cases reading with
              -- a command that is read as a checksum is lost
              | checkSum =>
                  exact absurd (hexpected (.checkSum bytes)
                    (by simp [Reading.actions])) id
              | payload size =>
                  simp only [Reading.size] at hsize htake
                  subst hsize
                  rw [← hchunk]
                  apply Framed.command hrecord.1 hreading htake
                  apply ih rest.length ?_ rest (overlay 0 chunk buffer)
                    (takeExactly_nonempty htake hlater) hnext ?_ ?_ ?_ rfl
                  · have hle := takeExactly_length_le htake
                    simp only [List.length_cons] at hlength
                    omega
                  · rw [← hflatten] at hdistinct
                    exact distinct_step hdistinct
                  · intro action haction
                    apply hexpected
                    simp [haction]
                  · rw [← hflatten] at hrest
                    exact List.append_cancel_left hrest

/-- A stream is processed as its messages when its chunks are understood.  If
its bytes are distinct from one another and from those the buffer holds, it is
processed as its messages in no other case. -/
theorem processed_iff_framed {val : β → UInt8} (session : Session val) :
    (session.Understood → session.Processed) ∧
      ((session.chunks.flatten ++ session.buffer).Nodup →
        session.Processed → session.Understood) := by
  constructor
  · exact recvieve_of_framed
  · intro hdistinct hprocessed
    unfold Session.Processed at hprocessed
    rw [Session.Understood, ← hprocessed]
    have hbytes : session.chunks.flatten =
        (session.messages.flatMap Message.actions).flatMap Action.bytes := by
      simp [session.segmented, List.flatMap_assoc, Message.bytes_actions]
    apply framed_of_recvieve
    · intro chunk hchunk hnil
      have hpos := (session.sizes chunk hchunk).1
      simp [hnil] at hpos
    · rw [session.buffer_length]
      decide
    · exact hdistinct
    · intro action haction
      rw [hprocessed] at haction
      obtain ⟨message, -, hmem⟩ := List.mem_flatMap.mp haction
      exact message.actions_expected action hmem
    · rw [hprocessed]
      exact hbytes

def checkRecord : List UInt8 := rkidCheck ++ List.replicate 66 0

theorem handlerFor_checkRecord : handlerFor checkRecord = .checkDevice := by
  decide

def coalescedSession : Session (id : UInt8 → UInt8) where
  messages := [.command checkRecord, .command checkRecord]
  chunks := [checkRecord ++ checkRecord]
  buffer := List.replicate maxPacketSize 0
  ispOnline := fun _ => false
  wellFormed := by
    intro message hmessage
    simp only [List.mem_cons, List.not_mem_nil, or_self, or_false] at hmessage
    subst hmessage
    simp only [Message.WellFormed, IsCommand, IsSet, Handler.TakesCommand,
      List.map_id, handlerFor_checkRecord]
    decide
  segmented := by simp [Message.wire]
  sizes := by simp [checkRecord, maxPacketSize, rkidCheck, ascii]
  buffer_length := List.length_replicate

/-- The second command is lost. -/
theorem coalesced_not_processed : ¬ coalescedSession.Processed := by
  intro h
  have hhandler : handlerFor ((overlay 0 (checkRecord ++ checkRecord)
      (List.replicate maxPacketSize 0)).map id) = .checkDevice := by
    rw [List.map_id, overlay_zero, List.append_assoc,
      handlerFor_append (by decide), handlerFor_checkRecord]
  have hlength := congrArg List.length h
  rw [coalescedSession, recvieve_command (hhandler ▸ .inr (.inr rfl)),
    hhandler] at hlength
  simp [readingOf, Reading.size, Reading.actions, recvieve_nil,
    Message.actions] at hlength

end RkaiqToolServer
