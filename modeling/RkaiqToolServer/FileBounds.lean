import RkaiqToolServer.FileIntegrity
import RkaiqToolServer.ReceiveAccounting

/-!
# The buffers of a file transfer

`HandlerReceiveFile` copies between the first chunk, a block of the announced
packet size and a block of the announced data size.  It looks at the two sizes
once, through a difference that wraps, and at the size of the chunk never.
Here its reads and writes of the three buffers are listed in their order, and
compared with the sizes of the buffers.
-/

namespace RkaiqToolServer

open ByteCodec ByteStores ListSplits MemoryAccess

inductive FileBuffer
  | chunk (size : ℕ)
  | receivedPacket (size : ℕ)
  | data (size : ℕ)
  deriving DecidableEq

def FileBuffer.size : FileBuffer → ℕ
  | .chunk size | .receivedPacket size | .data size => size

/-- The bytes of the block that `malloc` returns; a null block has none. -/
def Malloc.blockSize (malloc : Malloc) (size : UInt64) : ℕ :=
  if malloc.serves size then size.toNat else 0

theorem Malloc.holds_iff {malloc : Malloc} {size : UInt64} :
    malloc.Holds size ↔ size.toNat ≤ malloc.blockSize size := by
  have hempty : size = 0 ↔ size.toNat = 0 := by
    rw [← UInt64.toNat_inj, UInt64.toNat_zero]
  rw [Malloc.Holds, Malloc.blockSize, hempty]
  split <;> simp [*]

theorem Malloc.Holds.blockSize {malloc : Malloc} {size : UInt64}
    (hholds : malloc.Holds size) : malloc.blockSize size = size.toNat := by
  apply le_antisymm _ (Malloc.holds_iff.mp hholds)
  rw [Malloc.blockSize]
  split <;> omega

/-- Offset and size of the fields before the data. -/
def headerFields : List (ℕ × ℕ) :=
  [(0, 8), (8, 8), (16, 4), (20, 4), (24, 4), (28, 256), (284, 4), (288, 128),
    (416, 8)]

/-- The reads of the data after the parse: for the hash, and for the file. -/
def dataAccesses (host : FileHost) (dataSize : UInt64)
    (receivedData : FileTransferData) : List (Access FileBuffer) :=
  let data := FileBuffer.data (host.dataMalloc.blockSize receivedData.dataSize)
  let dstDir := receivedData.targetDir host
  let dstFilePath :=
    dstDir ++ (ascii "/" ++ receivedData.targetFileName host)
  if receivedData.dataSize ≠ dataSize then []
  else
    ⟨data, 0, (intOfSize receivedData.dataSize).toNat⟩ ::
      if murMurHash receivedData.data (intOfSize receivedData.dataSize) =
            receivedData.dataHash ∧
          host.opendir dstDir = true ∧ host.fopen dstFilePath = true then
        [⟨data, 0, receivedData.dataSize.toNat⟩]
      else []

def packetAccesses (host : FileHost) (packetSize dataSize : UInt64)
    (receivedPacket : List UInt8) : List (Access FileBuffer) :=
  let memory := receivedPacket ++ host.heap
  let packet :=
    FileBuffer.receivedPacket (host.packetMalloc.blockSize packetSize)
  let inner := uint64At 416 memory
  (headerFields.map fun field => ⟨packet, field.1, field.2⟩) ++
    (⟨packet, 424, inner.toNat⟩ ::
      ⟨.data (host.dataMalloc.blockSize inner), 0, inner.toNat⟩ ::
      ⟨packet, (424 + inner).toNat, 4⟩ ::
      match FileTransferData.parse host.dataMalloc memory with
      | none => []
      | some receivedData => dataAccesses host dataSize receivedData)

def loopAccesses (host : FileHost) (buffer : List UInt8) (size : ℕ)
    (arrivals : List Arrival) : List (Access FileBuffer) :=
  let packetSize := uint64At 8 buffer
  let packet :=
    FileBuffer.receivedPacket (host.packetMalloc.blockSize packetSize)
  let receivedPacket :=
    overlay 0 (buffer.take size) (List.replicate packetSize.toNat 0)
  ((fileRounds host.packetMalloc host.startTime buffer size arrivals).flatMap
    ReceiveRound.stores).map (Store.access packet) ++
    match receiveLoop host.startTime packetSize arrivals receivedPacket
        (packetSize - size.toUInt64) with
    | .complete receivedPacket =>
        packetAccesses host packetSize (uint64At 416 buffer) receivedPacket
    | _ => []

/-- The reads and writes of `HandlerReceiveFile`, up to the first one that ends
it. -/
def fileAccesses (host : FileHost) (buffer : List UInt8) (size : ℕ)
    (arrivals : List Arrival) : List (Access FileBuffer) :=
  let packetSize := uint64At 8 buffer
  let dataSize := uint64At 416 buffer
  let packet :=
    FileBuffer.receivedPacket (host.packetMalloc.blockSize packetSize)
  ⟨.chunk size, 8, 8⟩ :: ⟨.chunk size, 416, 8⟩ ::
    if ¬ SizesPass packetSize dataSize then []
    else
      ⟨packet, 0, packetSize.toNat⟩ :: ⟨.chunk size, 0, size⟩ ::
      ⟨packet, 0, size⟩ ::
      if ¬ host.packetMalloc.Holds packetSize ∨ packetSize.toNat < size then
        []
      else loopAccesses host buffer size arrivals

/-! ## When the packet comes -/

/-- The missing bytes come before it is too late. -/
def PacketComes (startTime : ℤ) (missing : ℕ) (arrivals : List Arrival) :
    Prop :=
  ∃ before after, arrivals = before ++ after ∧ InTime startTime before ∧
    missing ≤ (before.map Arrival.count).sum

theorem packetComes_zero (startTime : ℤ) (arrivals : List Arrival) :
    PacketComes startTime 0 arrivals :=
  ⟨[], arrivals, rfl, by simp [InTime], by omega⟩

theorem packetComes_nil {startTime : ℤ} {missing : ℕ} :
    PacketComes startTime missing [] ↔ missing = 0 := by
  constructor
  · rintro ⟨before, after, hsplit, -, hcount⟩
    obtain ⟨rfl, -⟩ := List.append_eq_nil_iff.mp hsplit.symm
    simpa using hcount
  · rintro rfl
    exact packetComes_zero startTime []

theorem packetComes_cons {startTime : ℤ} {missing : ℕ} {arrival : Arrival}
    {arrivals : List Arrival} (hmissing : missing ≠ 0) :
    PacketComes startTime missing (arrival :: arrivals) ↔
      arrival.currentTime - startTime < 20 ∧
        PacketComes startTime (missing - arrival.count) arrivals := by
  have hcount : ∀ sum : ℕ, missing ≤ arrival.count + sum ↔
      missing - arrival.count ≤ sum := by
    omega
  unfold PacketComes
  rw [exists_append_cons, or_iff_right (fun h => hmissing (by simpa using
    h.2))]
  simp only [inTime_cons, List.map_cons, List.sum_cons, hcount]
  constructor
  · rintro ⟨before, after, hsplit, ⟨hfirst, hbefore⟩, hsum⟩
    exact ⟨hfirst, before, after, hsplit, hbefore, hsum⟩
  · rintro ⟨hfirst, before, after, hsplit, hbefore, hsum⟩
    exact ⟨before, after, hsplit, ⟨hfirst, hbefore⟩, hsum⟩

/-! ## The loop under positive results -/

theorem not_failsBeforeWhole_of_positive {arrivals : List Arrival}
    (hpositive : ∀ arrival ∈ arrivals, arrival.Positive) (startTime : ℤ)
    (missing : ℕ) : ¬ FailsBeforeWhole startTime missing arrivals := by
  rintro ⟨before, arrival, after, rfl, hfailed, -, -⟩
  obtain ⟨chunk, hrecv, -, -⟩ := hpositive arrival (by simp)
  rw [hfailed] at hrecv
  contradiction

/-- The loop never stores more than what is missing. -/
theorem storedBytes_receiveRounds_le (startTime : ℤ) (packetSize : UInt64)
    {arrivals : List Arrival}
    (hpositive : ∀ arrival ∈ arrivals, arrival.Positive) :
    ∀ remainSize : UInt64,
      (storedBytes ((receiveRounds startTime packetSize arrivals
        remainSize).flatMap ReceiveRound.stores)).length ≤
          remainSize.toNat := by
  induction arrivals with
  | nil =>
      intro remainSize
      simp [receiveRounds]
  | cons arrival arrivals ih =>
      intro remainSize
      obtain ⟨⟨bytes, hrecv, -, -⟩, hrest⟩ := List.forall_mem_cons.mp hpositive
      by_cases hzero : remainSize = 0
      · simp [receiveRounds, hzero]
      by_cases hintime : arrival.currentTime - startTime < 20
      case neg =>
        rw [receiveRounds, if_neg hzero, if_pos (by omega)]
        simp
      have hleft := sub_storedChunk_toNat remainSize bytes
      have hlength := length_storedChunk remainSize bytes
      have hlater := ih hrest (remainSize -
        (storedChunk remainSize bytes).length.toUInt64)
      rw [receiveRounds_received hzero hintime hrecv, List.flatMap_cons,
        storedBytes_append, List.length_append]
      simp only [ReceiveRound.stores, storedBytes_cons, storedBytes_nil,
        List.append_nil]
      omega

/-- The loop ends with a packet exactly when the missing bytes come in
time. -/
theorem receiveLoop_complete_iff (startTime : ℤ) {packetSize : UInt64}
    {arrivals : List Arrival}
    (hpositive : ∀ arrival ∈ arrivals, arrival.Positive) :
    ∀ {block : List UInt8} {remainSize : UInt64},
      remainSize.toNat ≤ packetSize.toNat →
      block.length = packetSize.toNat →
        ((∃ packet, receiveLoop startTime packetSize arrivals block
            remainSize = .complete packet) ↔
          PacketComes startTime remainSize.toNat arrivals) := by
  induction arrivals with
  | nil =>
      intro block remainSize _ _
      rw [receiveLoop, packetComes_nil, ← UInt64.toNat_zero,
        UInt64.toNat_inj]
      split <;> simp [*]
  | cons arrival arrivals ih =>
      intro block remainSize hsize hblock
      obtain ⟨⟨bytes, hrecv, -, -⟩, hrest⟩ := List.forall_mem_cons.mp hpositive
      by_cases hzero : remainSize = 0
      · subst remainSize
        simp [receiveLoop, packetComes_zero]
      have hmissing : remainSize.toNat ≠ 0 := by
        intro h
        exact hzero (UInt64.toNat_inj.mp h)
      have hcount : arrival.count = min bytes.length maxPacketSize := by
        rw [Arrival.count, hrecv]
      rw [packetComes_cons hmissing]
      by_cases hintime : arrival.currentTime - startTime < 20
      case neg =>
        rw [receiveLoop, if_neg hzero, if_pos (by omega)]
        simp [hintime]
      obtain ⟨stored, hstored, hloop⟩ := receiveLoop_received hzero hintime
        hrecv hsize hblock arrivals
      have hleft := sub_storedChunk_toNat remainSize bytes
      rw [hloop, ih hrest (by omega) hstored, hleft, hcount,
        and_iff_right hintime]

/-! ## The copies out of the block -/

theorem parse_dataSize {malloc : Malloc} {memory : List UInt8}
    {record : FileTransferData}
    (hparse : FileTransferData.parse malloc memory = some record) :
    record.dataSize = uint64At 416 memory ∧
      malloc.Holds record.dataSize := by
  rw [FileTransferData.parse] at hparse
  split at hparse
  case isFalse => contradiction
  case isTrue hblocks =>
    have hrecord := Option.some.inj hparse
    have hsize : record.dataSize = uint64At 416 memory := by
      rw [← hrecord, FileTransferData.dataSize]
      unfold uint64At
      rw [slice_slice (by omega), Nat.zero_add]
    exact ⟨hsize, hsize ▸ hblocks.1⟩

theorem intOfSize_toNat_le (size : UInt64) :
    (intOfSize size).toNat ≤ size.toNat := by
  have hmod := Nat.mod_le size.toNat (2 ^ 32)
  unfold intOfSize signed
  split <;> omega

theorem dataAccesses_inBounds (host : FileHost) (dataSize : UInt64)
    {record : FileTransferData}
    (halloc : host.dataMalloc.Holds record.dataSize) :
    InBounds FileBuffer.size (dataAccesses host dataSize record) := by
  have hblock := halloc.blockSize
  have hcovered := intOfSize_toNat_le record.dataSize
  simp only [dataAccesses]
  split
  · simp
  · rw [inBounds_cons]
    constructor
    · apply Access.inside_start
      rw [FileBuffer.size, hblock]
      exact hcovered
    · split
      · rw [inBounds_cons]
        refine ⟨Access.inside_start ?_, inBounds_nil⟩
        rw [FileBuffer.size, hblock]
      · simp

theorem headerFields_inBounds {blockSize : ℕ} (hsize : 424 ≤ blockSize) :
    InBounds FileBuffer.size (headerFields.map fun field =>
      (⟨.receivedPacket blockSize, field.1, field.2⟩ :
        Access FileBuffer)) := by
  have hfields : ∀ field ∈ headerFields, field.1 + field.2 ≤ 424 := by
    decide
  intro access haccess
  obtain ⟨field, hfield, rfl⟩ := List.mem_map.mp haccess
  have hend := hfields field hfield
  exact Access.inside_natCast (by rw [FileBuffer.size]; omega)

/-- The copies stay inside exactly when the data and their hash fit behind the
header, and the data have a block. -/
theorem packetAccesses_inBounds_iff (host : FileHost)
    {packetSize dataSize : UInt64} {receivedPacket : List UInt8}
    (halloc : host.packetMalloc.Holds packetSize)
    (hheader : 424 ≤ packetSize.toNat)
    (hinner : uint64At 416 (receivedPacket ++ host.heap) = dataSize) :
    InBounds FileBuffer.size
        (packetAccesses host packetSize dataSize receivedPacket) ↔
      dataSize.toNat + 428 ≤ packetSize.toNat ∧
        host.dataMalloc.Holds dataSize := by
  have hblock := halloc.blockSize
  have hfields := headerFields_inBounds (hheader.trans hblock.ge)
  have hlast : InBounds FileBuffer.size
      (match FileTransferData.parse host.dataMalloc
          (receivedPacket ++ host.heap) with
      | none => []
      | some record => dataAccesses host dataSize record) := by
    split
    · exact inBounds_nil
    case _ record hparse =>
      exact dataAccesses_inBounds host dataSize (parse_dataSize hparse).2
  rw [packetAccesses]
  simp only [hinner]
  rw [inBounds_append, and_iff_right hfields, inBounds_cons, inBounds_cons,
    inBounds_cons, and_iff_left hlast, Access.inside_iff, Access.inside_iff,
    Access.inside_iff]
  simp only [FileBuffer.size, hblock]
  have hlarge := halloc.toNat_lt
  have hhash : (424 + dataSize).toNat =
      (424 + dataSize.toNat) % 2 ^ 64 := by
    rw [UInt64.toNat_add]
    rfl
  rw [Malloc.holds_iff]
  constructor
  · rintro ⟨hdata, hcopy, hafter⟩
    constructor <;> omega
  · rintro ⟨hfits, hcopy⟩
    refine ⟨by omega, by omega, by omega⟩

/-! ## The whole handler -/

/-- The sizes of the header, of the first chunk and of the packet agree, and
the host has memory for them: the chunk holds the header and fits into the
block, and when all of the packet comes, the data and the hash end inside it,
and the data have a block too. -/
def FileSizesFit (host : FileHost) (buffer : List UInt8) (size : ℕ)
    (arrivals : List Arrival) : Prop :=
  let packetSize := uint64At 8 buffer
  let dataSize := uint64At 416 buffer
  424 ≤ size ∧ (SizesPass packetSize dataSize →
    host.packetMalloc.Holds packetSize ∧ size ≤ packetSize.toNat ∧
      (PacketComes host.startTime (packetSize.toNat - size) arrivals →
        dataSize.toNat + 428 ≤ packetSize.toNat ∧
          host.dataMalloc.Holds dataSize))

/-- The block before the loop: the first chunk, and zeros. -/
theorem overlay_chunk {buffer : List UInt8} {size packetSize : ℕ}
    (hbuffer : size ≤ buffer.length) :
    overlay 0 (buffer.take size) (List.replicate packetSize 0) =
      buffer.take size ++ List.replicate (packetSize - size) 0 := by
  have hfirst : (buffer.take size).length = size := by
    simpa using hbuffer
  rw [overlay_zero, hfirst, List.drop_replicate]

theorem fileRounds_accounted (startTime : ℤ) {packetSize : UInt64}
    {size : ℕ} {arrivals : List Arrival}
    (hpositive : ∀ arrival ∈ arrivals, arrival.Positive)
    (hlarge : packetSize.toNat < 2 ^ 63) (hsize : size ≤ packetSize.toNat) :
    Accounted size (receiveRounds startTime packetSize arrivals
      (packetSize - size.toUInt64)) := by
  have hremain := sub_size_toNat hsize
  rw [receiveRounds_accounted_iff (by omega) (by omega)]
  exact not_failsBeforeWhole_of_positive hpositive _ _

/-- Under positive results the block begins with the first chunk, also after
the loop. -/
theorem uint64At_complete {startTime : ℤ} {packetSize : UInt64}
    {buffer packet : List UInt8} {size : ℕ} {arrivals : List Arrival}
    (hpositive : ∀ arrival ∈ arrivals, arrival.Positive)
    (hbuffer : size ≤ buffer.length) (hheader : 424 ≤ size)
    (hlarge : packetSize.toNat < 2 ^ 63) (hsize : size ≤ packetSize.toNat)
    (hloop : receiveLoop startTime packetSize arrivals
      (overlay 0 (buffer.take size) (List.replicate packetSize.toNat 0))
      (packetSize - size.toUInt64) = .complete packet)
    (heap : List UInt8) :
    uint64At 416 (packet ++ heap) = uint64At 416 buffer := by
  have hfirst : (buffer.take size).length = size := by
    simpa using hbuffer
  have haccounted :=
    fileRounds_accounted startTime hpositive hlarge hsize
  have hstored := storedBytes_receiveRounds_le startTime packetSize
    hpositive (packetSize - size.toUInt64)
  have hpacket := receiveLoop_complete hloop
  rw [overlay_chunk hbuffer, applyStores_inOrder
    (by rw [hfirst]; exact haccounted.inOrder)
    (by rw [List.length_replicate, ← sub_size_toNat hsize]; exact hstored)]
    at hpacket
  have hchunk : uint64At 416 (buffer.take size) = uint64At 416 buffer :=
    uint64At_take hheader
  rw [← hchunk, hpacket, List.append_assoc, List.append_assoc]
  unfold uint64At
  rw [slice_append_left (by omega)]

/-- A run whose first chunk does not reach behind the sizes leaves it at
once. -/
theorem chunk_inside_iff {size offset : ℕ} :
    Access.Inside FileBuffer.size ⟨.chunk size, (offset : ℤ), 8⟩ ↔
      offset + 8 ≤ size := by
  rw [Access.inside_iff, FileBuffer.size]
  simp only
  omega

/-- The loop writes inside the block, and what follows it does when the data
and the hash fit and the data have a block. -/
theorem loopAccesses_inBounds_iff (host : FileHost) {buffer : List UInt8}
    {size : ℕ} {arrivals : List Arrival} (hbuffer : size ≤ buffer.length)
    (hpositive : ∀ arrival ∈ arrivals, arrival.Positive)
    (hheader : 424 ≤ size)
    (hentered : FileLoopEntered host.packetMalloc buffer size) :
    InBounds FileBuffer.size (loopAccesses host buffer size arrivals) ↔
      (PacketComes host.startTime ((uint64At 8 buffer).toNat - size)
          arrivals →
        (uint64At 416 buffer).toNat + 428 ≤ (uint64At 8 buffer).toNat ∧
          host.dataMalloc.Holds (uint64At 416 buffer)) := by
  obtain ⟨-, halloc, hsize⟩ := id hentered
  have hremain := sub_size_toNat hsize
  have haccounted :=
    fileRounds_accounted host.startTime hpositive halloc.toNat_lt hsize
  have hstored := storedBytes_receiveRounds_le host.startTime
    (uint64At 8 buffer) hpositive (uint64At 8 buffer - size.toUInt64)
  have hwrites : InBounds FileBuffer.size
      (((fileRounds host.packetMalloc host.startTime buffer size
        arrivals).flatMap ReceiveRound.stores).map (Store.access
          (.receivedPacket
            (host.packetMalloc.blockSize (uint64At 8 buffer))))) := by
    rw [fileRounds, if_pos hentered]
    apply inBounds_of_inOrder haccounted.inOrder
    rw [FileBuffer.size, halloc.blockSize]
    omega
  have hblock := length_firstChunk buffer hsize
  have hmissing : (uint64At 8 buffer - size.toUInt64).toNat ≤
      (uint64At 8 buffer).toNat := by
    omega
  have hcomes := receiveLoop_complete_iff host.startTime hpositive
    hmissing hblock
  rw [hremain] at hcomes
  simp only [loopAccesses]
  rw [inBounds_append, and_iff_right hwrites, ← hcomes]
  split
  case _ packet hloop =>
    rw [packetAccesses_inBounds_iff host halloc (by omega)
      (uint64At_complete hpositive hbuffer hheader halloc.toNat_lt hsize
        hloop _)]
    simp [hloop]
  case _ hother =>
    have hnever : ¬ ∃ packet, receiveLoop host.startTime (uint64At 8 buffer)
        arrivals (overlay 0 (buffer.take size)
          (List.replicate (uint64At 8 buffer).toNat 0))
        (uint64At 8 buffer - size.toUInt64) = .complete packet := by
      rintro ⟨packet, hloop⟩
      exact hother packet hloop
    exact iff_of_true inBounds_nil fun h => absurd h hnever

theorem receiveLoop_length {startTime : ℤ} {packetSize : UInt64}
    {arrivals : List Arrival} :
    ∀ {block packet : List UInt8} {remainSize : UInt64},
      receiveLoop startTime packetSize arrivals block remainSize =
          .complete packet → packet.length = block.length := by
  induction arrivals with
  | nil =>
      intro block packet remainSize hloop
      rw [receiveLoop] at hloop
      split at hloop
      · rw [Reassembly.complete.inj hloop]
      · contradiction
  | cons arrival arrivals ih =>
      intro block packet remainSize hloop
      rw [receiveLoop] at hloop
      by_cases hzero : remainSize = 0
      · rw [if_pos hzero] at hloop
        rw [Reassembly.complete.inj hloop]
      by_cases hlate : arrival.currentTime - startTime ≥ 20
      · rw [if_neg hzero, if_pos hlate] at hloop
        contradiction
      rw [if_neg hzero, if_neg hlate] at hloop
      cases hrecv : arrival.recv with
      | none =>
          simp only [hrecv] at hloop
          exact ih hloop
      | some bytes =>
          simp only [hrecv, targetSize_toNat] at hloop
          split at hloop
          case isTrue hroom => rw [ih hloop, length_overlay hroom]
          case isFalse => contradiction

/-- Under positive results the loop never leaves the block. -/
theorem receiveLoop_ne_fault {startTime : ℤ} {packetSize : UInt64}
    {arrivals : List Arrival}
    (hpositive : ∀ arrival ∈ arrivals, arrival.Positive) :
    ∀ {block : List UInt8} {remainSize : UInt64},
      remainSize.toNat ≤ packetSize.toNat →
      block.length = packetSize.toNat →
        receiveLoop startTime packetSize arrivals block remainSize ≠
          .fault := by
  induction arrivals with
  | nil =>
      intro block remainSize _ _
      rw [receiveLoop]
      split <;> simp
  | cons arrival arrivals ih =>
      intro block remainSize hsize hblock
      obtain ⟨⟨bytes, hrecv, -, -⟩, hrest⟩ := List.forall_mem_cons.mp hpositive
      by_cases hzero : remainSize = 0
      · simp [receiveLoop, hzero]
      by_cases hintime : arrival.currentTime - startTime < 20
      case neg =>
        rw [receiveLoop, if_neg hzero, if_pos (by omega)]
        simp
      obtain ⟨stored, hstored, hloop⟩ := receiveLoop_received hzero hintime
        hrecv hsize hblock arrivals
      have hleft := sub_storedChunk_toNat remainSize bytes
      rw [hloop]
      exact ih hrest (by omega) hstored

theorem parse_of_inBounds {host : FileHost} {packetSize dataSize : UInt64}
    {receivedPacket : List UInt8}
    (halloc : host.packetMalloc.Holds packetSize)
    (hlength : receivedPacket.length = packetSize.toNat)
    (hinside : InBounds FileBuffer.size
      (packetAccesses host packetSize dataSize receivedPacket)) :
    FileTransferData.parse host.dataMalloc (receivedPacket ++ host.heap) ≠
      none := by
  rw [packetAccesses] at hinside
  simp only [inBounds_append, inBounds_cons, Access.inside_iff,
    FileBuffer.size, halloc.blockSize] at hinside
  obtain ⟨-, hread, hdata, hhash, -⟩ := hinside
  rw [FileTransferData.parse]
  generalize uint64At 416 (receivedPacket ++ host.heap) = inner at *
  have hafter : (424 + inner).toNat = (424 + inner.toNat) % 2 ^ 64 := by
    rw [UInt64.toNat_add]
    rfl
  have hlarge := halloc.toNat_lt
  have hinner : host.dataMalloc.Holds inner := by
    rw [Malloc.holds_iff]
    omega
  simp only [hinner, true_and, List.length_append]
  rw [if_pos (by omega)]
  simp

theorem fault_not_mem_checkPacket {host : FileHost} {dataSize : UInt64}
    {receivedPacket : List UInt8}
    (hparse : FileTransferData.parse host.dataMalloc
      (receivedPacket ++ host.heap) ≠ none) :
    .fault ∉ checkPacket host dataSize receivedPacket := by
  obtain ⟨record, hrecord⟩ := Option.ne_none_iff_exists'.mp hparse
  simp only [checkPacket, hrecord]
  split
  · simp
  · split
    · simp
    · simp only [saveFile]
      split
      · simp
      · split <;> simp

/-- A run whose accesses are inside the buffers never faults. -/
theorem handlerReceiveFile_no_fault {host : FileHost}
    {buffer : List UInt8} {size : ℕ} {arrivals : List Arrival}
    (hpositive : ∀ arrival ∈ arrivals, arrival.Positive)
    (hinside : InBounds FileBuffer.size
      (fileAccesses host buffer size arrivals)) :
    .fault ∉ handlerReceiveFile host buffer size arrivals := by
  simp only [fileAccesses, inBounds_cons] at hinside
  obtain ⟨-, -, hinside⟩ := hinside
  rw [handlerReceiveFile]
  by_cases hpass : SizesPass (uint64At 8 buffer) (uint64At 416 buffer)
  case neg =>
    simp [hpass]
  rw [if_neg (not_not.mpr hpass)] at hinside ⊢
  rw [inBounds_cons, inBounds_cons, inBounds_cons] at hinside
  obtain ⟨hmemset, -, hcopy, hinside⟩ := hinside
  rw [Access.inside_iff, FileBuffer.size] at hmemset hcopy
  simp only at hmemset hcopy
  have halloc : host.packetMalloc.Holds (uint64At 8 buffer) := by
    rw [Malloc.holds_iff]
    omega
  have hblock := halloc.blockSize
  have hsize : size ≤ (uint64At 8 buffer).toNat := by omega
  have hlength := length_firstChunk buffer hsize
  have hsmall : ¬ (¬ host.packetMalloc.Holds (uint64At 8 buffer) ∨
      (uint64At 8 buffer).toNat < size) := by
    simp only [halloc, not_true, false_or]
    omega
  rw [if_neg hsmall] at hinside ⊢
  simp only [loopAccesses] at hinside
  have hafter := (inBounds_append.mp hinside).2
  simp only
  split
  case _ packet hloop =>
    rw [hloop] at hafter
    apply fault_not_mem_checkPacket
    exact parse_of_inBounds halloc
      (by rw [receiveLoop_length hloop, hlength]) hafter
  case _ => simp
  case _ => simp
  case _ hloop =>
    have hremain := sub_size_toNat hsize
    exact absurd hloop (receiveLoop_ne_fault hpositive (by omega) hlength)

end RkaiqToolServer
