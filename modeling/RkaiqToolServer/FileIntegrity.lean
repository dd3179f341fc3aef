import RkaiqToolServer.FileRoundTrip

/-!
# What the checks on a received file are worth

The target is opened after the announced sizes, the parsed size and the hash
have been compared.  The comparison protects the stored bytes when the hash
field lies inside the packet and the size survives its conversion to the `int`
that `MurMurHash` takes.  For every other pair of sizes that the handler lets
through there are packets whose data are stored unprotected.
-/

namespace RkaiqToolServer

open ByteCodec

/-- A run of the handler on a packet that comes in chunks. -/
structure Transfer where
  host : FileHost
  packet : List UInt8
  buffer : List UInt8
  size : ℕ
  arrivals : List Arrival
  segmented : Segmentation packet buffer size arrivals

/-- The sizes in the first chunk; the packet has the announced length. -/
structure Transfer.Announces (transfer : Transfer)
    (packetSize dataSize : UInt64) : Prop where
  packetSize_eq : uint64At 8 transfer.buffer = packetSize
  dataSize_eq : uint64At 416 transfer.buffer = dataSize
  length_eq : transfer.packet.length = packetSize.toNat

def Transfer.Stores (transfer : Transfer) (data : List UInt8) : Prop :=
  ∃ path, .openFile path data ∈
    handlerReceiveFile transfer.host transfer.buffer transfer.size
      transfer.arrivals

def packetHash (packet : List UInt8) (dataSize : UInt64) :
    Option (BitVec 32) :=
  if 424 + dataSize.toNat + 4 ≤ packet.length then
    some (dataWord (slice (424 + dataSize.toNat) 4 packet))
  else none

/-- The packets differ inside one block of the data only: four bytes aligned
from the start of the data, or what is left of them at the end. -/
def DifferInBlock (dataSize : UInt64) (first second : List UInt8) : Prop :=
  ∃ header before block other after tail,
    header.length = 424 ∧
      (before ++ (block ++ after)).length = dataSize.toNat ∧
      4 ∣ before.length ∧ block.length = other.length ∧
      (block.length = 4 ∨ block.length < 4 ∧ after = []) ∧
      block ≠ other ∧
      first = header ++ ((before ++ (block ++ after)) ++ tail) ∧
      second = header ++ ((before ++ (other ++ after)) ++ tail)

structure Intact (packetSize dataSize : UInt64) : Prop where
  verified : ∀ (transfer : Transfer) (data : List UInt8),
    transfer.Announces packetSize dataSize → transfer.Stores data →
      data.length = dataSize.toNat ∧
        packetHash transfer.packet dataSize =
          some (murMurHash data (intOfSize dataSize))
  covered : ∀ (transfer changed : Transfer) (data other : List UInt8),
    transfer.Announces packetSize dataSize →
    changed.Announces packetSize dataSize →
    DifferInBlock dataSize transfer.packet changed.packet →
      transfer.Stores data → ¬ changed.Stores other

/-! ## What is stored -/

theorem slice_header (memory : List UInt8) :
    uint64At 416 (slice 0 424 memory) = uint64At 416 memory := by
  rw [uint64At, slice_slice (by omega), Nat.zero_add, uint64At]

theorem FileTransferData.parse_cases {malloc : Malloc}
    {memory : List UInt8} {record : FileTransferData}
    (h : parse malloc memory = some record) :
    malloc.Holds record.dataSize ∧
      424 + record.dataSize.toNat + 4 ≤ memory.length ∧
      record.data = slice 424 record.dataSize.toNat memory ∧
      record.dataHash =
        dataWord (slice (424 + record.dataSize.toNat) 4 memory) := by
  simp only [parse] at h
  split at h
  next hbounds =>
      simp only [Option.some.injEq] at h
      subst record
      simp only [dataSize, slice_header, and_true]
      exact hbounds
  next => contradiction

theorem saveFile_opens {host : FileHost} {record : FileTransferData}
    {path data : List UInt8}
    (h : .openFile path data ∈ saveFile host record) :
    data = record.data := by
  simp only [saveFile] at h
  split at h
  next => simp at h
  next =>
      split at h
      next => simp at h
      next =>
          simp only [List.mem_cons, FileEvent.openFile.injEq, reduceCtorEq,
            List.not_mem_nil, or_self, or_false] at h
          exact h.2

theorem checkPacket_opens {host : FileHost} {dataSize : UInt64}
    {packet path data : List UInt8}
    (h : .openFile path data ∈ checkPacket host dataSize packet) :
    host.dataMalloc.Holds dataSize ∧
      424 + dataSize.toNat + 4 ≤ (packet ++ host.heap).length ∧
      data = slice 424 dataSize.toNat (packet ++ host.heap) ∧
      murMurHash data (intOfSize dataSize) =
        dataWord (slice (424 + dataSize.toNat) 4 (packet ++ host.heap)) := by
  unfold checkPacket at h
  split at h
  next => simp at h
  next record hparse =>
      obtain ⟨halloc, hbound, hdata, hhash⟩ :=
        FileTransferData.parse_cases hparse
      split at h
      next => simp at h
      next hsize =>
          rw [not_not] at hsize
          subst dataSize
          split at h
          next => simp at h
          next hequal =>
              rw [not_not] at hequal
              rw [saveFile_opens h, ← hhash]
              exact ⟨halloc, hbound, hdata, hequal⟩

theorem Transfer.stores_cases {transfer : Transfer}
    {packetSize dataSize : UInt64} {data : List UInt8}
    (hannounces : transfer.Announces packetSize dataSize)
    (hstores : transfer.Stores data) :
    SizesPass packetSize dataSize ∧
      transfer.host.packetMalloc.Holds packetSize ∧
      transfer.host.dataMalloc.Holds dataSize ∧
      data = slice 424 dataSize.toNat
        (transfer.packet ++ transfer.host.heap) ∧
      murMurHash data (intOfSize dataSize) =
        dataWord (slice (424 + dataSize.toNat) 4
          (transfer.packet ++ transfer.host.heap)) := by
  obtain ⟨path, hmem⟩ := hstores
  obtain ⟨rfl, rfl, hlength⟩ := hannounces
  by_cases hpass : SizesPass (uint64At 8 transfer.buffer)
      (uint64At 416 transfer.buffer)
  · by_cases halloc : transfer.host.packetMalloc.Holds
        (uint64At 8 transfer.buffer)
    · rw [handlerReceiveFile_segmented _ transfer.segmented hlength hpass
        halloc] at hmem
      split at hmem
      next =>
          obtain ⟨hdataSize, -, hdata, hhash⟩ := checkPacket_opens hmem
          exact ⟨hpass, halloc, hdataSize, hdata, hhash⟩
      next => simp at hmem
    · simp [handlerReceiveFile, hpass, halloc] at hmem
  · simp [handlerReceiveFile, hpass] at hmem

/-! ## Sizes for which the checks protect the data -/

theorem intOfSize_lt (dataSize : UInt64) : intOfSize dataSize < 2 ^ 31 := by
  have hlt : dataSize.toNat % 2 ^ 32 < 2 ^ 32 := Nat.mod_lt _ (by omega)
  unfold intOfSize signed
  split <;> omega

theorem intOfSize_of_lt {dataSize : UInt64}
    (hsize : dataSize.toNat < 2 ^ 31) :
    intOfSize dataSize = dataSize.toNat := by
  rw [intOfSize, Nat.mod_eq_of_lt (by omega)]
  exact signed_of_lt hsize

theorem differInBlock_hashes {dataSize : UInt64}
    {first second firstHeap secondHeap : List UInt8}
    (hsize : dataSize.toNat < 2 ^ 31)
    (hdiffer : DifferInBlock dataSize first second)
    (hbound : dataSize.toNat + 428 ≤ first.length)
    (hfirst : murMurHash (slice 424 dataSize.toNat (first ++ firstHeap))
        (intOfSize dataSize) =
      dataWord (slice (424 + dataSize.toNat) 4 (first ++ firstHeap))) :
    murMurHash (slice 424 dataSize.toNat (second ++ secondHeap))
        (intOfSize dataSize) ≠
      dataWord (slice (424 + dataSize.toNat) 4 (second ++ secondHeap)) := by
  obtain ⟨header, before, block, other, after, tail, hheader, hdata, hdvd,
    hlength, hblock, hne, rfl, rfl⟩ := hdiffer
  have hother : (before ++ (other ++ after)).length = dataSize.toNat := by
    simpa [← hlength] using hdata
  have htail : 4 ≤ tail.length := by
    simp only [List.length_append] at hbound hdata
    omega
  have hash_of : ∀ (data heap : List UInt8),
      data.length = dataSize.toNat →
      slice (424 + dataSize.toNat) 4 (header ++ (data ++ tail) ++ heap) =
        tail.take 4 := by
    intro data heap hdata
    rw [← List.append_assoc, List.append_assoc _ tail heap, slice,
      List.drop_left' (by simp [hheader, hdata]),
      List.take_append_of_le_length htail]
  have data_of : ∀ (data heap : List UInt8),
      data.length = dataSize.toNat →
      slice 424 dataSize.toNat (header ++ (data ++ tail) ++ heap) = data := by
    intro data heap hdata
    rw [List.append_assoc, List.append_assoc]
    exact slice_field hheader hdata
  rw [hash_of _ _ hother, data_of _ _ hother]
  rw [hash_of _ _ hdata, data_of _ _ hdata] at hfirst
  intro hsecond
  apply hne
  apply murMurHash_block_injective hdvd hlength hblock _
    (hfirst.trans hsecond.symm)
  rw [intOfSize_of_lt hsize, hdata]

theorem intact_of_inside {packetSize dataSize : UInt64}
    (hsize : dataSize.toNat < 2 ^ 31)
    (hinside : dataSize.toNat + 428 ≤ packetSize.toNat) :
    Intact packetSize dataSize := by
  constructor
  · intro transfer data hannounces hstores
    obtain ⟨-, -, -, hdata, hhash⟩ := transfer.stores_cases hannounces hstores
    have hlength := hannounces.length_eq
    have hfield : slice (424 + dataSize.toNat) 4
        (transfer.packet ++ transfer.host.heap) =
        slice (424 + dataSize.toNat) 4 transfer.packet :=
      slice_append_left (by omega)
    rw [hfield] at hhash
    constructor
    · rw [hdata]
      apply length_slice
      simp only [List.length_append]
      omega
    · rw [packetHash, if_pos (by omega), hhash]
  · intro transfer changed data other hannounces hchanged hdiffer hstores
      hother
    obtain ⟨-, -, -, rfl, hhash⟩ := transfer.stores_cases hannounces hstores
    obtain ⟨-, -, -, rfl, hhash'⟩ := changed.stores_cases hchanged hother
    have hlength := hannounces.length_eq
    exact differInBlock_hashes hsize hdiffer (by omega) hhash hhash'

theorem intact_of_never {packetSize dataSize : UInt64}
    (hnever : ∀ (transfer : Transfer) (data : List UInt8),
      transfer.Announces packetSize dataSize → ¬ transfer.Stores data) :
    Intact packetSize dataSize := by
  constructor
  · intro transfer data hannounces hstores
    exact absurd hstores (hnever transfer data hannounces)
  · intro transfer changed data other hannounces hchanged hdiffer hstores
    exact absurd hstores (hnever transfer data hannounces)

/-! ## Sizes for which they do not -/

theorem uint64At_take {offset count : ℕ} {bytes : List UInt8}
    (hbound : offset + 8 ≤ count) :
    uint64At offset (bytes.take count) = uint64At offset bytes := by
  have htake : bytes.take count = slice 0 count bytes := by simp [slice]
  rw [htake, uint64At, slice_slice hbound, Nat.zero_add, uint64At]

def plainHeader (packetSize dataSize : UInt64) : FileHeader where
  packetSize := packetSize
  commandID := 0
  commandResult := 0
  targetDir := []
  targetFileName := []
  dataSize := dataSize
  dir_fits := ⟨by simp, by simp⟩
  name_fits := ⟨by simp, by simp⟩

theorem received_bytewise (bytes : List UInt8) :
    received (bytes.map fun byte =>
      { currentTime := 0, recv := some [byte] }) = bytes := by
  induction bytes with
  | nil => rfl
  | cons byte rest ih =>
      rw [List.map_cons, @received_cons _ [byte] rfl, ih]
      rfl

/-- As much of the packet as fits the buffer, then single bytes, on a host
where every call succeeds at once. -/
def Transfer.bytewise (packet heap : List UInt8) : Transfer where
  host :=
    { startTime := 0, packetMalloc := .ample, dataMalloc := .ample,
      heap := heap, dataPointer := [], stack := [],
      opendir := fun _ => true, fopen := fun _ => true, fwrite := 0 }
  packet := packet
  buffer := (packet ++ heap).take maxPacketSize
  size := min packet.length maxPacketSize
  arrivals := (packet.drop maxPacketSize).map fun byte =>
    { currentTime := 0, recv := some [byte] }
  segmented := by
    constructor
    · simp only [List.length_take, List.length_append]
      omega
    · intro arrival harrival
      obtain ⟨byte, -, rfl⟩ := List.mem_map.mp harrival
      exact ⟨[byte], rfl, by simp, by simp [maxPacketSize]⟩
    · rw [received_bytewise, List.take_take, min_assoc, min_self,
        List.take_append_of_le_length (by omega), ← List.take_take,
        List.take_of_length_le (by simp), List.take_append_drop]

theorem Transfer.bytewise_stores {packetSize dataSize : UInt64}
    {packet heap data hash after : List UInt8}
    (hmemory : packet ++ heap =
      (plainHeader packetSize dataSize).bytes ++ (data ++ (hash ++ after)))
    (hlength : packet.length = packetSize.toNat)
    (hpass : SizesPass packetSize dataSize)
    (hpacket : packetSize.toNat < 2 ^ 63) (hblock : dataSize.toNat < 2 ^ 63)
    (hdata : data.length = dataSize.toNat) (hhash : hash.length = 4)
    (hsum : murMurHash data (intOfSize dataSize) = dataWord hash) :
    (bytewise packet heap).Announces packetSize dataSize ∧
      (bytewise packet heap).Stores data := by
  have hannounces : (bytewise packet heap).Announces packetSize
      dataSize := by
    constructor
    · simp only [bytewise]
      rw [uint64At_take (by simp [maxPacketSize]), hmemory,
        FileHeader.packetSize_bytes, plainHeader]
    · simp only [bytewise]
      rw [uint64At_take (by simp [maxPacketSize]), hmemory,
        FileHeader.dataSize_bytes, plainHeader]
    · exact hlength
  have htime : InTime (bytewise packet heap).host.startTime
      (bytewise packet heap).arrivals := by
    intro arrival harrival
    obtain ⟨byte, -, rfl⟩ := List.mem_map.mp harrival
    simp [bytewise]
  have hsegmented := handlerReceiveFile_segmented
    (bytewise packet heap).host (bytewise packet heap).segmented
    (by rw [hannounces.packetSize_eq, hannounces.length_eq])
    (by rw [hannounces.packetSize_eq, hannounces.dataSize_eq]; exact hpass)
    (by rw [hannounces.packetSize_eq]; exact Malloc.ample_holds hpacket)
  have hparse : FileTransferData.parse .ample (packet ++ heap) =
      some ((plainHeader packetSize dataSize).record data
        (dataWord hash)) := by
    rw [hmemory]
    exact (plainHeader packetSize dataSize).parse_memory after
      (Malloc.ample_holds hblock) hdata hhash
  have hcheck : checkPacket (bytewise packet heap).host dataSize packet =
      saveFile (bytewise packet heap).host
        ((plainHeader packetSize dataSize).record data (dataWord hash)) :=
    checkPacket_of_checks hparse (FileHeader.dataSize_record _ _ _) hsum
  refine ⟨hannounces, ascii "/", ?_⟩
  rw [hsegmented, if_pos htime, hannounces.dataSize_eq]
  simp only [bytewise] at hcheck ⊢
  rw [hcheck]
  simp [saveFile, FileHeader.targetDir_record,
    FileHeader.targetFileName_record, FileHeader.data_record, plainHeader]

/-- The hash field is not in the packet: it is read from the heap. -/
theorem not_intact_of_overread {packetSize dataSize : UInt64}
    (hpass : SizesPass packetSize dataSize)
    (hpacket : packetSize.toNat < 2 ^ 63) (hblock : dataSize.toNat < 2 ^ 63)
    (hshort : packetSize.toNat < dataSize.toNat + 428) :
    ¬ Intact packetSize dataSize := by
  intro hintact
  let data := List.replicate dataSize.toNat (0 : UInt8)
  let hash := leBytes 4 (murMurHash data (intOfSize dataSize)).toNat
  -- the heap behind the block continues the packet up to its hash
  let memory := (plainHeader packetSize dataSize).bytes ++
    (data ++ (hash ++ []))
  have hmemory : memory.length = dataSize.toNat + 428 := by
    simp only [memory, data, hash, List.length_append,
      FileHeader.length_bytes, List.length_replicate, length_leBytes,
      List.length_nil]
    omega
  have hlength : (memory.take packetSize.toNat).length =
      packetSize.toNat := by
    rw [List.length_take]
    omega
  obtain ⟨hannounces, hstores⟩ := Transfer.bytewise_stores
    (List.take_append_drop packetSize.toNat memory) hlength hpass hpacket
    hblock (by simp [data]) (length_leBytes 4 _)
    (dataWord_leBytes _).symm
  have hfield := (hintact.verified _ _ hannounces hstores).2
  rw [packetHash, if_neg] at hfield
  · contradiction
  · simp only [Transfer.bytewise]
    omega

/-- The size does not survive the conversion to `int`: the last byte is not
hashed. -/
theorem not_intact_of_truncated {packetSize dataSize : UInt64}
    (hpass : SizesPass packetSize dataSize)
    (hpacket : packetSize.toNat < 2 ^ 63) (hblock : dataSize.toNat < 2 ^ 63)
    (hinside : dataSize.toNat + 428 ≤ packetSize.toNat)
    (hlarge : 2 ^ 31 ≤ dataSize.toNat) :
    ¬ Intact packetSize dataSize := by
  intro hintact
  let last := dataSize.toNat - 1
  let before := List.replicate (4 * (last / 4)) (0 : UInt8)
  let block : UInt8 → List UInt8 := fun byte =>
    List.replicate (last % 4) 0 ++ [byte]
  let data : UInt8 → List UInt8 := fun byte => before ++ (block byte ++ [])
  let hash := leBytes 4 (murMurHash (data 0) (intOfSize dataSize)).toNat
  let after := List.replicate (packetSize.toNat - dataSize.toNat - 428)
    (0 : UInt8)
  let packet : UInt8 → List UInt8 := fun byte =>
    (plainHeader packetSize dataSize).bytes ++
      (data byte ++ (hash ++ after))
  have hdata : ∀ byte, (data byte).length = dataSize.toNat := by
    intro byte
    simp only [data, before, block, last, List.length_append,
      List.length_replicate, List.length_cons, List.length_nil]
    omega
  have hlength : ∀ byte, (packet byte).length = packetSize.toNat := by
    intro byte
    simp only [packet, after, hash, hdata, List.length_append,
      FileHeader.length_bytes, List.length_replicate, length_leBytes]
    omega
  -- the packets differ in the last byte of their data only
  have hcovered : (intOfSize dataSize).toNat ≤ last := by
    have hlt := intOfSize_lt dataSize
    omega
  have hhash : ∀ byte, murMurHash (data byte) (intOfSize dataSize) =
      murMurHash (data 0) (intOfSize dataSize) := by
    intro byte
    apply murMurHash_eq_of_take
    have hsplit : ∀ byte, data byte =
        (before ++ List.replicate (last % 4) 0) ++ [byte] := by
      intro byte
      simp [data, block]
    have hprefix : (intOfSize dataSize).toNat ≤
        (before ++ List.replicate (last % 4) (0 : UInt8)).length := by
      simp only [before, List.length_append, List.length_replicate]
      omega
    rw [hsplit, hsplit, List.take_append_of_le_length hprefix,
      List.take_append_of_le_length hprefix]
  have hstores : ∀ byte,
      (Transfer.bytewise (packet byte) []).Announces packetSize dataSize ∧
        (Transfer.bytewise (packet byte) []).Stores (data byte) := by
    intro byte
    apply Transfer.bytewise_stores (List.append_nil _) (hlength byte) hpass
      hpacket hblock (hdata byte) (length_leBytes 4 _)
    rw [dataWord_leBytes, hhash byte]
  apply hintact.covered _ _ (data 0) (data 1) (hstores 0).1 (hstores 1).1 ?_
    (hstores 0).2 (hstores 1).2
  refine ⟨(plainHeader packetSize dataSize).bytes, before, block 0, block 1,
    [], hash ++ after, FileHeader.length_bytes _, hdata 0, ?_, ?_, ?_, ?_,
    rfl, rfl⟩
  · simp [before]
  · simp [block]
  · have hlt : last % 4 < 4 := Nat.mod_lt _ (by omega)
    simp only [block, List.length_append, List.length_replicate,
      List.length_cons, List.length_nil, and_true]
    omega
  · simp [block]

/-- Every packet of these sizes is protected exactly when the hash field lies
inside the packet and the data size fits an `int`, or when no host has memory
for one of the two blocks, so that nothing is stored. -/
theorem intact_iff (packetSize dataSize : UInt64) :
    (SizesPass packetSize dataSize → Intact packetSize dataSize) ↔
      (SizesPass packetSize dataSize →
        (dataSize.toNat < 2 ^ 31 ∧
            dataSize.toNat + 428 ≤ packetSize.toNat) ∨
          2 ^ 63 ≤ packetSize.toNat ∨ 2 ^ 63 ≤ dataSize.toNat) := by
  apply imp_congr_right
  intro hpass
  constructor
  · intro hintact
    by_contra hsizes
    simp only [not_or, not_and_or, not_lt, not_le] at hsizes
    obtain ⟨hsizes, hpacket, hblock⟩ := hsizes
    by_cases hinside : dataSize.toNat + 428 ≤ packetSize.toNat
    · exact not_intact_of_truncated hpass hpacket hblock hinside
        (by omega) hintact
    · exact not_intact_of_overread hpass hpacket hblock (by omega) hintact
  · rintro (⟨hsize, hinside⟩ | hhuge | hhuge)
    · exact intact_of_inside hsize hinside
    · apply intact_of_never
      intro transfer data hannounces hstores
      have hholds := (transfer.stores_cases hannounces hstores).2.1
      exact absurd hhuge (not_le.mpr hholds.toNat_lt)
    · apply intact_of_never
      intro transfer data hannounces hstores
      have hholds := (transfer.stores_cases hannounces hstores).2.2.1
      exact absurd hhuge (not_le.mpr hholds.toNat_lt)

/-- 2^31 bytes of data: the `int` length is negative and nothing is hashed. -/
theorem twoGigabytes_not_intact :
    SizesPass 2147484076 2147483648 ∧ ¬ Intact 2147484076 2147483648 := by
  have hpacket : (2147484076 : UInt64).toNat = 2147484076 := by simp
  have hdata : (2147483648 : UInt64).toNat = 2147483648 := by simp
  have hpass : SizesPass 2147484076 2147483648 := by decide
  apply And.intro hpass
  apply not_intact_of_truncated hpass
  · rw [hpacket]
    omega
  · rw [hdata]
    omega
  · omega
  · omega

end RkaiqToolServer
