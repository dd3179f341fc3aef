import RkaiqToolServer.CommandData
import RkaiqToolServer.MurMurHash

/-!
# Receiving a file

A "SendFile" message is the first chunk of one packet: a packed header of 424
bytes, the data, and the hash of the data.  `HandlerReceiveFile` takes the
announced sizes from that chunk, collects the rest of the packet from the
client socket into a block of its own, parses the block field by field, and
stores the data when their hash is the one in the packet.

The handler has no bounds checks of its own, and never looks whether `malloc`
gave it a block.  What `malloc` serves, and the bytes that can be read after
the block and after the parsed record on the stack, belong to the host here; a
read past those, a write past the block and a write to a null block end the
handler with `fault`.
-/

namespace RkaiqToolServer

open ByteCodec

inductive FileEvent where
  /-- `fopen(path, "w")` succeeded and `data` are about to be written. -/
  | openFile (path data : List UInt8)
  | write (path bytes : List UInt8)
  | reply (text : List UInt8)
  | fault
  /-- Blocked in `recv` when the arrivals end. -/
  | waiting
  deriving DecidableEq

/-- One round of the receive loop: the clock it reads, and what `recv` returns
(`none` for -1). -/
structure Arrival where
  currentTime : ℤ
  recv : Option (List UInt8)

/-- What `malloc` has a block for.  It never serves a size above
`PTRDIFF_MAX`; below that the host decides. -/
structure Malloc where
  serves : UInt64 → Bool
  refuses : ∀ size : UInt64, 2 ^ 63 ≤ size.toNat → serves size = false

/-- The block can be written as far as it was asked for: no byte of a null
block is touched when none was asked for. -/
def Malloc.Holds (malloc : Malloc) (size : UInt64) : Prop :=
  size = 0 ∨ malloc.serves size = true

instance (malloc : Malloc) (size : UInt64) : Decidable (malloc.Holds size) :=
  inferInstanceAs (Decidable (_ ∨ _))

theorem Malloc.Holds.toNat_lt {malloc : Malloc} {size : UInt64}
    (hholds : malloc.Holds size) : size.toNat < 2 ^ 63 := by
  rcases hholds with rfl | hserves
  · simp
  · by_contra hhuge
    rw [malloc.refuses size (by omega)] at hserves
    contradiction

/-- A host with memory for everything below `PTRDIFF_MAX`. -/
def Malloc.ample : Malloc where
  serves size := decide (size.toNat < 2 ^ 63)
  refuses size hhuge := by simpa using hhuge

theorem Malloc.ample_holds {size : UInt64} (hsize : size.toNat < 2 ^ 63) :
    Malloc.ample.Holds size :=
  .inr (by simpa [Malloc.ample] using hsize)

structure FileHost where
  startTime : ℤ
  /-- `malloc` at its call for the block of the packet, and at the later one
  for the block of the data. -/
  packetMalloc : Malloc
  dataMalloc : Malloc
  /-- The readable bytes that follow the block of the packet. -/
  heap : List UInt8
  /-- The bytes of the pointer `data` inside the parsed record. -/
  dataPointer : List UInt8
  /-- The readable bytes that follow the parsed record. -/
  stack : List UInt8
  opendir : List UInt8 → Bool
  fopen : List UInt8 → Bool
  /-- The number of bytes `fwrite` gets onto the disk. -/
  fwrite : ℕ

def uint64At (offset : ℕ) (bytes : List UInt8) : UInt64 :=
  UInt64.ofNat (leNat (slice offset 8 bytes))

/-! ## The receive loop -/

inductive Reassembly where
  | complete (receivedPacket : List UInt8)
  | timeout
  | waiting
  | fault
  deriving DecidableEq

def receiveLoop (startTime : ℤ) (packetSize : UInt64) :
    List Arrival → List UInt8 → UInt64 → Reassembly
  | [], receivedPacket, remainSize =>
      if remainSize = 0 then .complete receivedPacket else .waiting
  | arrival :: arrivals, receivedPacket, remainSize =>
      if remainSize = 0 then .complete receivedPacket
      else if arrival.currentTime - startTime ≥ 20 then .timeout
      else
        let offset := packetSize - remainSize
        let targetSize :=
          if remainSize > maxPacketSize.toUInt64 then maxPacketSize.toUInt64
          else remainSize
        match arrival.recv with
        -- recv_size is -1 and is subtracted like any other count
        | none =>
            receiveLoop startTime packetSize arrivals receivedPacket
              (remainSize + 1)
        | some bytes =>
            let chunk := bytes.take targetSize.toNat
            if offset.toNat + chunk.length ≤ receivedPacket.length then
              receiveLoop startTime packetSize arrivals
                (overlay offset.toNat chunk receivedPacket)
                (remainSize - chunk.length.toUInt64)
            else .fault

/-! ## The parsed packet -/

/-- `FileTransferData_t` after the parse.  The fields up to `dataSize` are
packed in the record as they are in the packet. -/
structure FileTransferData where
  header : List UInt8
  data : List UInt8
  dataHash : BitVec 32

def FileTransferData.dataSize (record : FileTransferData) : UInt64 :=
  uint64At 416 record.header

def FileTransferData.image
    (record : FileTransferData) (host : FileHost) : List UInt8 :=
  record.header ++ (host.dataPointer ++
    (leBytes 4 record.dataHash.toNat ++ host.stack))

def FileTransferData.targetDir
    (record : FileTransferData) (host : FileHost) : List UInt8 :=
  cString ((record.image host).drop 28)

def FileTransferData.targetFileName
    (record : FileTransferData) (host : FileHost) : List UInt8 :=
  cString ((record.image host).drop 288)

/-- The field by field copies out of the received block and the memory that
follows it; the data go into a block of their own. -/
def FileTransferData.parse (malloc : Malloc) (memory : List UInt8) :
    Option FileTransferData :=
  let dataSize := uint64At 416 memory
  if malloc.Holds dataSize ∧ 424 + dataSize.toNat + 4 ≤ memory.length then
    some
      { header := slice 0 424 memory
        data := slice 424 dataSize.toNat memory
        dataHash := dataWord (slice (424 + dataSize.toNat) 4 memory) }
  else none

/-! ## The handler -/

def transferFailed (reason : String) : List UInt8 :=
  ascii "##StatusMessage##FileTransfer##Failed##" ++ (ascii reason ++
    ascii "##")

/-- `snprintf` into the 200 bytes of `tmpBuf`. -/
def transferSuccess (dstFileName : List UInt8) : List UInt8 :=
  (ascii "##StatusMessage##FileTransfer##Success##" ++ (dstFileName ++
    ascii "##")).take 199

/-- The `int` that a 64-bit size is converted to. -/
def intOfSize (size : UInt64) : ℤ := signed 32 (size.toNat % 2 ^ 32)

def saveFile (host : FileHost) (receivedData : FileTransferData) :
    List FileEvent :=
  let dstDir := receivedData.targetDir host
  let dstFileName := receivedData.targetFileName host
  let dstFilePath := dstDir ++ (ascii "/" ++ dstFileName)
  if host.opendir dstDir = false then
    [.reply (transferFailed "DirError")]
  else if host.fopen dstFilePath = false then
    [.reply (transferFailed "FileSaveError")]
  else
    [.openFile dstFilePath receivedData.data,
      .write dstFilePath (receivedData.data.take host.fwrite),
      .reply (transferSuccess dstFileName)]

def checkPacket (host : FileHost) (dataSize : UInt64)
    (receivedPacket : List UInt8) : List FileEvent :=
  match FileTransferData.parse host.dataMalloc
      (receivedPacket ++ host.heap) with
  | none => [.fault]
  | some receivedData =>
      if receivedData.dataSize ≠ dataSize then
        [.reply (transferFailed "DataSizeError")]
      else if murMurHash receivedData.data (intOfSize receivedData.dataSize) ≠
          receivedData.dataHash then
        [.reply (transferFailed "HashCheckFail")]
      else saveFile host receivedData

theorem checkPacket_of_checks {host : FileHost} {dataSize : UInt64}
    {packet : List UInt8} {record : FileTransferData}
    (hparse : FileTransferData.parse host.dataMalloc
      (packet ++ host.heap) = some record)
    (hsize : record.dataSize = dataSize)
    (hhash : murMurHash record.data (intOfSize dataSize) =
      record.dataHash) :
    checkPacket host dataSize packet = saveFile host record := by
  subst dataSize
  simp [checkPacket, hparse, hhash]

def SizesPass (packetSize dataSize : UInt64) : Prop :=
  ¬ (packetSize ≤ 0 ∨ packetSize - dataSize > 500)

instance (packetSize dataSize : UInt64) :
    Decidable (SizesPass packetSize dataSize) :=
  inferInstanceAs (Decidable (¬ _))

def handlerReceiveFile (host : FileHost) (buffer : List UInt8) (size : ℕ)
    (arrivals : List Arrival) : List FileEvent :=
  let packetSize := uint64At 8 buffer
  let dataSize := uint64At 416 buffer
  if ¬ SizesPass packetSize dataSize then
    [.reply (transferFailed "TransferError")]
  -- memset of a null block, or memcpy of the chunk past the end of the block
  else if ¬ host.packetMalloc.Holds packetSize ∨
      packetSize.toNat < size then
    [.fault]
  else
    let receivedPacket :=
      overlay 0 (buffer.take size) (List.replicate packetSize.toNat 0)
    match receiveLoop host.startTime packetSize arrivals receivedPacket
        (packetSize - size.toUInt64) with
    | .complete receivedPacket => checkPacket host dataSize receivedPacket
    | .timeout => [.reply (transferFailed "Timeout")]
    | .waiting => [.waiting]
    | .fault => [.fault]

/-! ## A packet delivered in chunks -/

def InTime (startTime : ℤ) (arrivals : List Arrival) : Prop :=
  ∀ arrival ∈ arrivals, arrival.currentTime - startTime < 20

instance (startTime : ℤ) (arrivals : List Arrival) :
    Decidable (InTime startTime arrivals) :=
  inferInstanceAs (Decidable (∀ arrival ∈ arrivals, _))

def received (arrivals : List Arrival) : List UInt8 :=
  (arrivals.filterMap Arrival.recv).flatten

def Arrival.Positive (arrival : Arrival) : Prop :=
  ∃ chunk, arrival.recv = some chunk ∧
    1 ≤ chunk.length ∧ chunk.length ≤ maxPacketSize

/-- The first chunk, which is in the buffer, and the later ones are the
packet. -/
structure Segmentation (packet buffer : List UInt8) (size : ℕ)
    (arrivals : List Arrival) : Prop where
  buffered : size ≤ buffer.length
  positive : ∀ arrival ∈ arrivals, arrival.Positive
  whole : buffer.take size ++ received arrivals = packet

theorem received_cons {arrival : Arrival} {chunk : List UInt8}
    (hrecv : arrival.recv = some chunk) (arrivals : List Arrival) :
    received (arrival :: arrivals) = chunk ++ received arrivals := by
  simp [received, hrecv]

theorem toUInt64_add_sub (first second : ℕ) :
    (first + second).toUInt64 - first.toUInt64 = second.toUInt64 := by
  simp only [Nat.toUInt64, UInt64.ofNat_add]
  rw [UInt64.add_comm, UInt64.add_sub_cancel]

theorem receiveLoop_cons
    {startTime : ℤ} {packetSize : UInt64} {arrival : Arrival}
    {got chunk rest : List UInt8} (arrivals : List Arrival)
    (hrecv : arrival.recv = some chunk) (hpos : 1 ≤ chunk.length)
    (hchunk : chunk.length ≤ maxPacketSize)
    (hsize : packetSize.toNat = got.length + (chunk.length + rest.length))
    (htime : arrival.currentTime - startTime < 20) :
    receiveLoop startTime packetSize (arrival :: arrivals)
        (got ++ List.replicate (chunk.length + rest.length) 0)
        (chunk.length + rest.length).toUInt64 =
      receiveLoop startTime packetSize arrivals
        ((got ++ chunk) ++ List.replicate rest.length 0)
        rest.length.toUInt64 := by
  have hbound := packetSize.toNat_lt
  have hremain : (chunk.length + rest.length).toUInt64.toNat =
      chunk.length + rest.length := by
    simp only [Nat.toUInt64, UInt64.toNat_ofNat']
    omega
  have hopen : (chunk.length + rest.length).toUInt64 ≠ 0 := by
    intro hzero
    rw [hzero] at hremain
    simp only [UInt64.toNat_zero] at hremain
    omega
  have hoffset : (packetSize -
      (chunk.length + rest.length).toUInt64).toNat = got.length := by
    rw [UInt64.toNat_sub_of_le _ _ (by rw [UInt64.le_iff_toNat_le]; omega)]
    omega
  have htake : chunk.take (if (chunk.length + rest.length).toUInt64 >
      maxPacketSize.toUInt64 then maxPacketSize.toUInt64
      else (chunk.length + rest.length).toUInt64).toNat = chunk := by
    apply List.take_of_length_le
    split
    · exact hchunk
    · omega
  have hleft : (chunk.length + rest.length).toUInt64 -
      chunk.length.toUInt64 = rest.length.toUInt64 :=
    toUInt64_add_sub _ _
  rw [receiveLoop, if_neg hopen, if_neg (by omega)]
  simp only [hrecv, htake, hoffset, hleft]
  rw [if_pos (by simp), List.replicate_add,
    overlay_append rfl (by simp), List.append_assoc]

/-- The loop ends with the whole packet, unless a round starts too late. -/
theorem receiveLoop_positive
    {startTime : ℤ} {packetSize : UInt64} {arrivals : List Arrival}
    (hpositive : ∀ arrival ∈ arrivals, arrival.Positive)
    {got : List UInt8}
    (hsize : packetSize.toNat = got.length + (received arrivals).length) :
    receiveLoop startTime packetSize arrivals
        (got ++ List.replicate (received arrivals).length 0)
        (received arrivals).length.toUInt64 =
      if InTime startTime arrivals then
        .complete (got ++ received arrivals)
      else .timeout := by
  induction arrivals generalizing got with
  | nil => simp [receiveLoop, received, InTime]
  | cons arrival arrivals ih =>
      obtain ⟨⟨chunk, hrecv, hpos, hchunk⟩, hrest⟩ :=
        List.forall_mem_cons.mp hpositive
      rw [received_cons hrecv, List.length_append] at hsize ⊢
      by_cases htime : arrival.currentTime - startTime < 20
      · rw [receiveLoop_cons arrivals hrecv hpos hchunk hsize htime,
          ih hrest (by simp only [List.length_append]; omega)]
        have hintime : InTime startTime (arrival :: arrivals) ↔
            InTime startTime arrivals := by
          simp only [InTime, List.forall_mem_cons, htime, true_and]
        simp only [hintime, List.append_assoc]
      · have hlate : ¬ InTime startTime (arrival :: arrivals) := by
          simp only [InTime, List.forall_mem_cons, htime, false_and,
            not_false_iff]
        have hopen : (chunk.length + (received arrivals).length).toUInt64 ≠
            0 := by
          have hbound := packetSize.toNat_lt
          intro hzero
          have hnat := congrArg UInt64.toNat hzero
          simp only [Nat.toUInt64, UInt64.toNat_ofNat',
            UInt64.toNat_zero] at hnat
          omega
        rw [if_neg hlate, receiveLoop, if_neg hopen, if_pos (by omega)]

/-- What the handler does with a packet depends on the packet and on the time
only, not on where the chunks end. -/
theorem handlerReceiveFile_segmented
    (host : FileHost) {packet buffer : List UInt8} {size : ℕ}
    {arrivals : List Arrival}
    (hseg : Segmentation packet buffer size arrivals)
    (hlength : packet.length = (uint64At 8 buffer).toNat)
    (hpass : SizesPass (uint64At 8 buffer) (uint64At 416 buffer))
    (halloc : host.packetMalloc.Holds (uint64At 8 buffer)) :
    handlerReceiveFile host buffer size arrivals =
      if InTime host.startTime arrivals then
        checkPacket host (uint64At 416 buffer) packet
      else [.reply (transferFailed "Timeout")] := by
  have hfirst : (buffer.take size).length = size := by
    simp [hseg.buffered]
  have hsum : (uint64At 8 buffer).toNat =
      size + (received arrivals).length := by
    rw [← hlength, ← hseg.whole, List.length_append, hfirst]
  have hblock : overlay 0 (buffer.take size)
      (List.replicate (uint64At 8 buffer).toNat (0 : UInt8)) =
      buffer.take size ++ List.replicate (received arrivals).length 0 := by
    rw [hsum, List.replicate_add, overlay_zero]
    simp [hseg.buffered]
  have hremain : uint64At 8 buffer - size.toUInt64 =
      (received arrivals).length.toUInt64 := by
    have hofNat : uint64At 8 buffer =
        (size + (received arrivals).length).toUInt64 := by
      rw [← hsum]
      simp
    rw [hofNat, toUInt64_add_sub]
  have hloop : receiveLoop host.startTime (uint64At 8 buffer) arrivals
      (buffer.take size ++ List.replicate (received arrivals).length 0)
      (received arrivals).length.toUInt64 = _ :=
    receiveLoop_positive hseg.positive (hsum.trans (by rw [hfirst]))
  rw [handlerReceiveFile, if_neg (not_not.mpr hpass),
    if_neg (by simp only [halloc, not_true, false_or]; omega)]
  simp only [hblock, hremain, hloop]
  by_cases htime : InTime host.startTime arrivals
  · simp only [htime, if_true, hseg.whole]
  · simp only [htime, if_false]

end RkaiqToolServer
