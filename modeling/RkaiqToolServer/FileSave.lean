import RkaiqToolServer.ReceiveAccounting

/-!
# What a file transfer leaves behind

After its checks `HandlerReceiveFile` opens the target for writing, which
empties it, and then writes the data and closes the file without looking at
the result of either call.  The success reply therefore says that the file
could be opened, and not that it holds the data.
-/

namespace RkaiqToolServer

open ByteCodec

abbrev FileSystem := List UInt8 → Option (List UInt8)

/-- The effect of an event.  `unflushed` is the number of written bytes that
`fclose` fails to bring onto the disk. -/
def FileEvent.apply (unflushed : ℕ) (fileSystem : FileSystem) :
    FileEvent → FileSystem
  | .openFile path _ => Function.update fileSystem path (some [])
  | .write path bytes =>
      Function.update fileSystem path
        (some ((fileSystem path).getD [] ++
          bytes.take (bytes.length - unflushed)))
  | .reply _ | .fault | .waiting => fileSystem

def fileSystemAfter (unflushed : ℕ) (fileSystem : FileSystem)
    (events : List FileEvent) : FileSystem :=
  events.foldl (FileEvent.apply unflushed) fileSystem

/-! ## The packet that is stored -/

/-- The parsed packet, when the whole block was received. -/
def receivedRecord (host : FileHost) (buffer : List UInt8) (size : ℕ)
    (arrivals : List Arrival) : Option FileTransferData :=
  let packetSize := uint64At 8 buffer
  if FileLoopEntered host.packetMalloc buffer size then
    match receiveLoop host.startTime packetSize arrivals
        (overlay 0 (buffer.take size) (List.replicate packetSize.toNat 0))
        (packetSize - size.toUInt64) with
    | .complete receivedPacket =>
        FileTransferData.parse host.dataMalloc (receivedPacket ++ host.heap)
    | _ => none
  else none

/-- The packet passes the size check and the hash check. -/
structure Accepted (host : FileHost) (buffer : List UInt8) (size : ℕ)
    (arrivals : List Arrival) (record : FileTransferData) : Prop where
  received : receivedRecord host buffer size arrivals = some record
  dataSize : record.dataSize = uint64At 416 buffer
  hash : murMurHash record.data (intOfSize record.dataSize) =
    record.dataHash

def FileTransferData.targetPath
    (record : FileTransferData) (host : FileHost) : List UInt8 :=
  record.targetDir host ++ (ascii "/" ++ record.targetFileName host)

/-- A run that stores nothing ends with one of these. -/
def GivenUp (event : FileEvent) : Prop :=
  event = .fault ∨ event = .waiting ∨
    ∃ reason, event = .reply (transferFailed reason)

theorem checkPacket_cases (host : FileHost) (dataSize : UInt64)
    (packet : List UInt8) :
    (∃ record,
      FileTransferData.parse host.dataMalloc (packet ++ host.heap) =
        some record ∧
      record.dataSize = dataSize ∧
      murMurHash record.data (intOfSize record.dataSize) = record.dataHash ∧
      checkPacket host dataSize packet = saveFile host record) ∨
    (∀ record,
      FileTransferData.parse host.dataMalloc (packet ++ host.heap) =
        some record →
      record.dataSize = dataSize →
      murMurHash record.data (intOfSize record.dataSize) ≠
        record.dataHash) ∧
      ∃ event, GivenUp event ∧
        checkPacket host dataSize packet = [event] := by
  cases hparse : FileTransferData.parse host.dataMalloc
      (packet ++ host.heap) with
  | none =>
      right
      exact ⟨by simp, .fault, .inl rfl, by simp [checkPacket, hparse]⟩
  | some record =>
      by_cases hsize : record.dataSize = dataSize
      case neg =>
        right
        refine ⟨by simp [hsize], .reply (transferFailed "DataSizeError"),
          .inr (.inr ⟨_, rfl⟩), ?_⟩
        simp [checkPacket, hparse, hsize]
      by_cases hhash : murMurHash record.data (intOfSize record.dataSize) =
          record.dataHash
      · left
        exact ⟨record, rfl, hsize, hhash,
          checkPacket_of_checks hparse hsize (hsize ▸ hhash)⟩
      · right
        refine ⟨?_, .reply (transferFailed "HashCheckFail"),
          .inr (.inr ⟨_, rfl⟩), ?_⟩
        · rintro _ ⟨⟩ _
          exact hhash
        · subst dataSize
          simp [checkPacket, hparse, hhash]

theorem handlerReceiveFile_not_entered (host : FileHost)
    {buffer : List UInt8} {size : ℕ} (arrivals : List Arrival)
    (hentered : ¬ FileLoopEntered host.packetMalloc buffer size) :
    ∃ event, GivenUp event ∧
      handlerReceiveFile host buffer size arrivals = [event] := by
  rw [handlerReceiveFile]
  by_cases hpass : SizesPass (uint64At 8 buffer) (uint64At 416 buffer)
  · refine ⟨.fault, .inl rfl, ?_⟩
    rw [if_neg (not_not.mpr hpass), if_pos]
    by_contra hfits
    rw [not_or, not_not] at hfits
    exact hentered ⟨hpass, hfits.1, by omega⟩
  · exact ⟨.reply (transferFailed "TransferError"), .inr (.inr ⟨_, rfl⟩),
      by rw [if_pos hpass]⟩

theorem not_accepted_of_not_complete {host : FileHost}
    {buffer : List UInt8} {size : ℕ} {arrivals : List Arrival}
    (hloop : ∀ packet, receiveLoop host.startTime (uint64At 8 buffer)
      arrivals (overlay 0 (buffer.take size)
        (List.replicate (uint64At 8 buffer).toNat 0))
      (uint64At 8 buffer - size.toUInt64) ≠ .complete packet)
    (record : FileTransferData) :
    ¬ Accepted host buffer size arrivals record := by
  rintro ⟨hreceived, -, -⟩
  simp only [receivedRecord] at hreceived
  split at hreceived
  · -- no packet is complete, so nothing is parsed
    contradiction
  · contradiction

/-- Either the packet is accepted and stored, or the run gives up before the
file system is touched. -/
theorem handlerReceiveFile_cases (host : FileHost) (buffer : List UInt8)
    (size : ℕ) (arrivals : List Arrival) :
    (∃ record, Accepted host buffer size arrivals record ∧
      handlerReceiveFile host buffer size arrivals =
        saveFile host record) ∨
    (∀ record, ¬ Accepted host buffer size arrivals record) ∧
      ∃ event, GivenUp event ∧
        handlerReceiveFile host buffer size arrivals = [event] := by
  by_cases hentered : FileLoopEntered host.packetMalloc buffer size
  case neg =>
    right
    refine ⟨?_, handlerReceiveFile_not_entered host arrivals hentered⟩
    rintro record ⟨hreceived, -, -⟩
    simp [receivedRecord, hentered] at hreceived
  obtain ⟨hpass, halloc, hsize⟩ := id hentered
  have hblock : ¬ (¬ host.packetMalloc.Holds (uint64At 8 buffer) ∨
      (uint64At 8 buffer).toNat < size) := by
    simp only [halloc, not_true, false_or]
    omega
  rw [handlerReceiveFile, if_neg (not_not.mpr hpass), if_neg hblock]
  cases hloop : receiveLoop host.startTime (uint64At 8 buffer) arrivals
      (overlay 0 (buffer.take size)
        (List.replicate (uint64At 8 buffer).toNat 0))
      (uint64At 8 buffer - size.toUInt64) with
  | complete packet =>
      have hreceived : receivedRecord host buffer size arrivals =
          FileTransferData.parse host.dataMalloc
            (packet ++ host.heap) := by
        simp only [receivedRecord, if_pos hentered, hloop]
      simp only [hloop]
      rcases checkPacket_cases host (uint64At 416 buffer) packet with
        ⟨record, hparse, hdata, hhash, hsave⟩ | ⟨hrefused, hgiven⟩
      · left
        exact ⟨record, ⟨hreceived.trans hparse, hdata, hhash⟩, hsave⟩
      · right
        refine ⟨?_, hgiven⟩
        rintro record ⟨hrecord, hdata, hhash⟩
        exact hrefused record (hreceived.symm.trans hrecord) hdata hhash
  | timeout =>
      right
      simp only [hloop]
      exact ⟨not_accepted_of_not_complete (by simp [hloop]),
        _, .inr (.inr ⟨_, rfl⟩), rfl⟩
  | waiting =>
      right
      simp only [hloop]
      exact ⟨not_accepted_of_not_complete (by simp [hloop]),
        .waiting, .inr (.inl rfl), rfl⟩
  | fault =>
      right
      simp only [hloop]
      exact ⟨not_accepted_of_not_complete (by simp [hloop]),
        .fault, .inl rfl, rfl⟩

/-! ## What is wanted of a run -/

def SuccessReplied (events : List FileEvent) : Prop :=
  ∃ dstFileName, .reply (transferSuccess dstFileName) ∈ events

def FailedReplied (events : List FileEvent) : Prop :=
  ∃ reason, .reply (transferFailed reason) ∈ events

def NothingReplied (events : List FileEvent) : Prop :=
  ∀ text, .reply text ∉ events

/-- The success reply means that the target holds the data of the packet, and
without it the file system is as it was. -/
structure Truthful (host : FileHost) (unflushed : ℕ)
    (fileSystem : FileSystem) (buffer : List UInt8) (size : ℕ)
    (arrivals : List Arrival) : Prop where
  success : SuccessReplied (handlerReceiveFile host buffer size arrivals) →
    ∃ record, receivedRecord host buffer size arrivals = some record ∧
      fileSystemAfter unflushed fileSystem
        (handlerReceiveFile host buffer size arrivals)
        (record.targetPath host) = some record.data
  failed : FailedReplied (handlerReceiveFile host buffer size arrivals) →
    fileSystemAfter unflushed fileSystem
      (handlerReceiveFile host buffer size arrivals) = fileSystem
  silent : NothingReplied (handlerReceiveFile host buffer size arrivals) →
    fileSystemAfter unflushed fileSystem
      (handlerReceiveFile host buffer size arrivals) = fileSystem

/-- When the target can be opened, `fwrite` takes all of the data and `fclose`
brings all of them onto the disk. -/
def WrittenWhole (host : FileHost) (unflushed : ℕ)
    (record : FileTransferData) : Prop :=
  host.opendir (record.targetDir host) = true →
  host.fopen (record.targetPath host) = true →
    record.data = [] ∨
      record.data.length ≤ host.fwrite ∧ unflushed = 0

theorem transferSuccess_ne_transferFailed (dstFileName : List UInt8)
    (reason : String) :
    transferSuccess dstFileName ≠ transferFailed reason := by
  intro h
  have hletter := congrArg (fun text : List UInt8 => text[31]?) h
  revert hletter
  have hsuccess : (transferSuccess dstFileName)[31]? = some 83 := by
    rw [transferSuccess, List.getElem?_take_of_lt (by decide),
      List.getElem?_append_left (by decide)]
    decide
  have hfailed : (transferFailed reason)[31]? = some 70 := by
    rw [transferFailed, List.getElem?_append_left (by decide)]
    decide
  simp [hsuccess, hfailed]

/-! ## Storing -/

theorem fileSystemAfter_givenUp {event : FileEvent} (hgiven : GivenUp event)
    (unflushed : ℕ) (fileSystem : FileSystem) :
    fileSystemAfter unflushed fileSystem [event] = fileSystem := by
  rcases hgiven with rfl | rfl | ⟨reason, rfl⟩ <;> rfl

theorem not_successReplied_givenUp {event : FileEvent}
    (hgiven : GivenUp event) : ¬ SuccessReplied [event] := by
  rintro ⟨dstFileName, hreply⟩
  rw [List.mem_singleton] at hreply
  subst event
  rcases hgiven with h | h | ⟨reason, h⟩
  · contradiction
  · contradiction
  · exact transferSuccess_ne_transferFailed dstFileName reason
      (FileEvent.reply.inj h)

/-- `saveFile` gives up, or it opens the target, writes and reports success. -/
theorem saveFile_cases (host : FileHost) (record : FileTransferData) :
    (host.opendir (record.targetDir host) = true ∧
      host.fopen (record.targetPath host) = true ∧
      saveFile host record =
        [.openFile (record.targetPath host) record.data,
          .write (record.targetPath host) (record.data.take host.fwrite),
          .reply (transferSuccess (record.targetFileName host))]) ∨
    ¬ (host.opendir (record.targetDir host) = true ∧
      host.fopen (record.targetPath host) = true) ∧
      ∃ event, GivenUp event ∧ saveFile host record = [event] := by
  cases hdir : host.opendir (record.targetDir host) with
  | false =>
      right
      exact ⟨by simp, _, .inr (.inr ⟨"DirError", rfl⟩),
        by simp [saveFile, hdir]⟩
  | true =>
      cases hfile : host.fopen (record.targetPath host) with
      | false =>
          right
          rw [FileTransferData.targetPath] at hfile
          exact ⟨by simp, _, .inr (.inr ⟨"FileSaveError", rfl⟩),
            by simp [saveFile, hdir, hfile]⟩
      | true =>
          left
          rw [FileTransferData.targetPath] at hfile
          exact ⟨rfl, rfl,
            by simp [saveFile, hdir, hfile, FileTransferData.targetPath]⟩

/-- What a target that could be opened holds in the end. -/
theorem fileSystemAfter_saved (unflushed : ℕ) (fileSystem : FileSystem)
    (path data name : List UInt8) (fwrite : ℕ) :
    fileSystemAfter unflushed fileSystem
        [.openFile path data, .write path (data.take fwrite),
          .reply (transferSuccess name)] path =
      some ((data.take fwrite).take
        ((data.take fwrite).length - unflushed)) := by
  simp [fileSystemAfter, FileEvent.apply]

theorem written_eq_iff (data : List UInt8) (fwrite unflushed : ℕ) :
    (data.take fwrite).take ((data.take fwrite).length - unflushed) = data ↔
      data = [] ∨ data.length ≤ fwrite ∧ unflushed = 0 := by
  constructor
  · intro hwhole
    have hlength := congrArg List.length hwhole
    simp only [List.length_take] at hlength
    by_cases hempty : data = []
    · exact .inl hempty
    · have hpos := List.length_pos_iff.mpr hempty
      right
      omega
  · rintro (rfl | ⟨hall, rfl⟩)
    · simp
    · rw [List.take_of_length_le hall, Nat.sub_zero, List.take_length]

/-- The replies are truthful exactly when the data of every accepted packet
whose target can be opened get onto the disk. -/
theorem handlerReceiveFile_truthful_iff (host : FileHost) (unflushed : ℕ)
    (fileSystem : FileSystem) (buffer : List UInt8) (size : ℕ)
    (arrivals : List Arrival) :
    Truthful host unflushed fileSystem buffer size arrivals ↔
      ∀ record, Accepted host buffer size arrivals record →
        WrittenWhole host unflushed record := by
  have hgivenUp : ∀ event, GivenUp event →
      handlerReceiveFile host buffer size arrivals = [event] →
        Truthful host unflushed fileSystem buffer size arrivals := by
    intro event hgiven hevents
    have hsame := fileSystemAfter_givenUp hgiven unflushed fileSystem
    constructor
    · intro hsuccess
      rw [hevents] at hsuccess
      exact absurd hsuccess (not_successReplied_givenUp hgiven)
    · exact fun _ => by rw [hevents, hsame]
    · exact fun _ => by rw [hevents, hsame]
  rcases handlerReceiveFile_cases host buffer size arrivals with
    ⟨record, haccepted, hsave⟩ | ⟨hrefused, event, hgiven, hevents⟩
  case inr =>
    exact iff_of_true (hgivenUp event hgiven hevents)
      fun record haccepted => absurd haccepted (hrefused record)
  have hunique : ∀ other, Accepted host buffer size arrivals other →
      other = record := by
    intro other hother
    exact Option.some.inj (hother.received.symm.trans haccepted.received)
  rcases saveFile_cases host record with
    ⟨hdir, hfile, hevents⟩ | ⟨hclosed, event, hgiven, hevents⟩
  case inr =>
    apply iff_of_true (hgivenUp event hgiven (hsave.trans hevents))
    intro other hother hdir hfile
    rw [hunique other hother] at hdir hfile
    exact absurd ⟨hdir, hfile⟩ hclosed
  have hdisk := fileSystemAfter_saved unflushed fileSystem
    (record.targetPath host) record.data (record.targetFileName host)
    host.fwrite
  rw [← hevents, ← hsave] at hdisk
  have hwritten :=
    written_eq_iff record.data host.fwrite unflushed
  constructor
  · intro htruthful other hother _ _
    rw [hunique other hother]
    obtain ⟨stored, hreceived, hholds⟩ := htruthful.success
      ⟨record.targetFileName host, by rw [hsave, hevents]; simp⟩
    obtain rfl : stored = record :=
      Option.some.inj (hreceived.symm.trans haccepted.received)
    exact hwritten.mp (Option.some.inj (hdisk.symm.trans hholds))
  · intro hwhole
    have hdata := hwritten.mpr (hwhole record haccepted hdir hfile)
    constructor
    · intro _
      exact ⟨record, haccepted.received, hdisk.trans (congrArg some hdata)⟩
    · rintro ⟨reason, hreply⟩
      rw [hsave, hevents] at hreply
      simp only [List.mem_cons, FileEvent.reply.injEq, reduceCtorEq,
        false_or, List.not_mem_nil, or_false] at hreply
      exact absurd hreply.symm
        (transferSuccess_ne_transferFailed _ reason)
    · intro hsilent
      refine absurd ?_ (hsilent
        (transferSuccess (record.targetFileName host)))
      rw [hsave, hevents]
      simp

/-- One byte of data, and a disk with no room for it: the file is reported as
received, and it is empty. -/
theorem handlerReceiveFile_full_disk :
    let host : FileHost :=
      { startTime := 0, packetMalloc := .ample, dataMalloc := .ample,
        heap := [], dataPointer := [], stack := [],
        opendir := fun _ => true, fopen := fun _ => true, fwrite := 0 }
    let packet := ascii "SendFile" ++ (leBytes 8 429 ++
      (List.replicate 12 0 ++ (padded 256 (ascii "/tmp") ++ (leBytes 4 2 ++
        (padded 128 (ascii "iq") ++ (leBytes 8 1 ++
          (7 :: leBytes 4 (murMurHash [7] 1).toNat)))))))
    handlerReceiveFile host packet 429 [] =
        [.openFile (ascii "/tmp/iq") [7], .write (ascii "/tmp/iq") [],
          .reply (transferSuccess (ascii "iq"))] ∧
      ¬ Truthful host 0 (fun _ => none) packet 429 [] := by
  intro host packet
  have hevents : handlerReceiveFile host packet 429 [] =
      [.openFile (ascii "/tmp/iq") [7], .write (ascii "/tmp/iq") [],
        .reply (transferSuccess (ascii "iq"))] := by
    decide +kernel
  have hdata : (receivedRecord host packet 429 []).map
      FileTransferData.data = some [7] := by
    decide +kernel
  refine ⟨hevents, fun htruthful => ?_⟩
  obtain ⟨record, hrecord, hholds⟩ := htruthful.success
    ⟨ascii "iq", by rw [hevents]; simp⟩
  rw [hrecord, Option.map_some, Option.some.injEq] at hdata
  rw [hevents, hdata] at hholds
  simp only [fileSystemAfter, List.foldl_cons, List.foldl_nil,
    FileEvent.apply, Function.update_apply] at hholds
  split at hholds <;> simp at hholds

end RkaiqToolServer
