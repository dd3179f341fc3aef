import RkaiqToolServer.FileTransfer

/-!
# A transferred file arrives

The client builds one packet from the two names, the data and their hash.
Every field of the packet is read back by the parse of the receiving handler,
and a packet that arrives in time is stored under its name, whatever the
chunks it arrives in.
-/

namespace RkaiqToolServer

open ByteCodec

/-! ## The packet a client builds -/

/-- A text that fits its field together with the zero byte that ends it. -/
structure FitsField (size : ℕ) (text : List UInt8) : Prop where
  length_lt : text.length < size
  no_zero : ∀ byte ∈ text, byte ≠ 0

structure FileHeader where
  packetSize : UInt64
  commandID : UInt32
  commandResult : UInt32
  targetDir : List UInt8
  targetFileName : List UInt8
  dataSize : UInt64
  dir_fits : FitsField 256 targetDir
  name_fits : FitsField 128 targetFileName

def FileHeader.beforeDir (header : FileHeader) : List UInt8 :=
  rkidSendFile ++ (leBytes 8 header.packetSize.toNat ++
    (leBytes 4 header.commandID.toNat ++
      (leBytes 4 header.commandResult.toNat ++
        leBytes 4 header.targetDir.length)))

def FileHeader.afterDir (header : FileHeader) : List UInt8 :=
  leBytes 4 header.targetFileName.length ++
    (padded 128 header.targetFileName ++ leBytes 8 header.dataSize.toNat)

def FileHeader.bytes (header : FileHeader) : List UInt8 :=
  header.beforeDir ++ (padded 256 header.targetDir ++ header.afterDir)

theorem uint64At_append {offset : ℕ} {before : List UInt8}
    (hbefore : before.length = offset) (value : UInt64)
    (after : List UInt8) :
    uint64At offset (before ++ (leBytes 8 value.toNat ++ after)) = value := by
  have hvalue : value.toNat < 256 ^ 8 := value.toNat_lt
  rw [uint64At, slice_field hbefore (length_leBytes 8 _),
    leNat_leBytes hvalue]
  simp

theorem FileHeader.length_beforeDir (header : FileHeader) :
    header.beforeDir.length = 28 := by
  have htag : rkidSendFile.length = 8 := by decide
  simp [beforeDir, htag]

theorem FileHeader.length_bytes (header : FileHeader) :
    header.bytes.length = 424 := by
  have hdir := length_padded header.dir_fits.length_lt.le
  have hname := length_padded header.name_fits.length_lt.le
  simp [bytes, afterDir, header.length_beforeDir, hdir, hname]

theorem FileHeader.packetSize_bytes (header : FileHeader)
    (after : List UInt8) :
    uint64At 8 (header.bytes ++ after) = header.packetSize := by
  have htag : rkidSendFile.length = 8 := by decide
  simp only [bytes, beforeDir, List.append_assoc]
  exact uint64At_append htag _ _

theorem FileHeader.dataSize_bytes (header : FileHeader)
    (after : List UInt8) :
    uint64At 416 (header.bytes ++ after) = header.dataSize := by
  have hdir := length_padded header.dir_fits.length_lt.le
  have hname := length_padded header.name_fits.length_lt.le
  have hsplit : header.bytes ++ after =
      (header.beforeDir ++ (padded 256 header.targetDir ++
        (leBytes 4 header.targetFileName.length ++
          padded 128 header.targetFileName))) ++
        (leBytes 8 header.dataSize.toNat ++ after) := by
    simp only [bytes, afterDir, List.append_assoc]
  rw [hsplit]
  apply uint64At_append
  simp [header.length_beforeDir, hdir, hname]

def FileHeader.record (header : FileHeader) (data : List UInt8)
    (dataHash : BitVec 32) : FileTransferData where
  header := header.bytes
  data := data
  dataHash := dataHash

theorem FileHeader.data_record (header : FileHeader)
    (data : List UInt8) (dataHash : BitVec 32) :
    (header.record data dataHash).data = data := rfl

theorem FileHeader.dataSize_record (header : FileHeader)
    (data : List UInt8) (dataHash : BitVec 32) :
    (header.record data dataHash).dataSize = header.dataSize := by
  have hsize := header.dataSize_bytes []
  rw [List.append_nil] at hsize
  exact hsize

theorem FileHeader.targetDir_record (header : FileHeader)
    (data : List UInt8) (dataHash : BitVec 32) (host : FileHost) :
    (header.record data dataHash).targetDir host = header.targetDir := by
  simp only [FileTransferData.targetDir, FileTransferData.image, record,
    bytes, List.append_assoc]
  rw [List.drop_left' header.length_beforeDir]
  exact cString_padded header.dir_fits.length_lt header.dir_fits.no_zero

theorem FileHeader.targetFileName_record (header : FileHeader)
    (data : List UInt8) (dataHash : BitVec 32) (host : FileHost) :
    (header.record data dataHash).targetFileName host =
      header.targetFileName := by
  have hdir := length_padded header.dir_fits.length_lt.le
  have hbefore : (header.beforeDir ++ (padded 256 header.targetDir ++
      leBytes 4 header.targetFileName.length)).length = 288 := by
    simp [header.length_beforeDir, hdir]
  have hsplit : header.bytes =
      (header.beforeDir ++ (padded 256 header.targetDir ++
        leBytes 4 header.targetFileName.length)) ++
        (padded 128 header.targetFileName ++
          leBytes 8 header.dataSize.toNat) := by
    simp only [bytes, afterDir, List.append_assoc]
  simp only [FileTransferData.targetFileName, FileTransferData.image, record]
  rw [hsplit, List.append_assoc _ _ (host.dataPointer ++ _),
    List.drop_left' hbefore, List.append_assoc]
  exact cString_padded header.name_fits.length_lt header.name_fits.no_zero

theorem FileHeader.parse_memory (header : FileHeader)
    {data hash : List UInt8} (after : List UInt8)
    {malloc : Malloc} (halloc : malloc.Holds header.dataSize)
    (hdata : data.length = header.dataSize.toNat) (hhash : hash.length = 4) :
    FileTransferData.parse malloc (header.bytes ++ (data ++ (hash ++ after))) =
      some (header.record data (dataWord hash)) := by
  have hheader := header.length_bytes
  have hhead : slice 0 424 (header.bytes ++ (data ++ (hash ++ after))) =
      header.bytes := slice_zero hheader
  have hbody : slice 424 header.dataSize.toNat
      (header.bytes ++ (data ++ (hash ++ after))) = data :=
    slice_field hheader hdata
  have htail : slice (424 + header.dataSize.toNat) 4
      (header.bytes ++ (data ++ (hash ++ after))) = hash := by
    rw [← List.append_assoc]
    exact slice_field (by simp [hheader, hdata]) hhash
  rw [FileTransferData.parse, header.dataSize_bytes, if_pos, hhead, hbody,
    htail, record]
  refine ⟨halloc, ?_⟩
  simp only [List.length_append, hheader, hdata, hhash]
  omega

/-! ## A whole file -/

structure SentFile where
  commandID : UInt32
  commandResult : UInt32
  targetDir : List UInt8
  targetFileName : List UInt8
  data : List UInt8
  dir_fits : FitsField 256 targetDir
  name_fits : FitsField 128 targetFileName
  data_lt : data.length < 2 ^ 31

def SentFile.header (file : SentFile) : FileHeader where
  packetSize := (428 + file.data.length).toUInt64
  commandID := file.commandID
  commandResult := file.commandResult
  targetDir := file.targetDir
  targetFileName := file.targetFileName
  dataSize := file.data.length.toUInt64
  dir_fits := file.dir_fits
  name_fits := file.name_fits

def SentFile.hash (file : SentFile) : BitVec 32 :=
  murMurHash file.data file.data.length

def SentFile.packet (file : SentFile) : List UInt8 :=
  file.header.bytes ++ (file.data ++ leBytes 4 file.hash.toNat)

def SentFile.path (file : SentFile) : List UInt8 :=
  file.targetDir ++ (ascii "/" ++ file.targetFileName)

theorem SentFile.length_packet (file : SentFile) :
    file.packet.length = 428 + file.data.length := by
  simp only [packet, List.length_append, file.header.length_bytes,
    length_leBytes]
  omega

theorem toNat_toUInt64 {value : ℕ} (hvalue : value < 2 ^ 64) :
    value.toUInt64.toNat = value := by
  simp only [Nat.toUInt64, UInt64.toNat_ofNat']
  exact Nat.mod_eq_of_lt hvalue

theorem SentFile.toNat_packetSize (file : SentFile) :
    file.header.packetSize.toNat = 428 + file.data.length := by
  have hlt := file.data_lt
  exact toNat_toUInt64 (by omega)

theorem SentFile.toNat_dataSize (file : SentFile) :
    file.header.dataSize.toNat = file.data.length := by
  have hlt := file.data_lt
  exact toNat_toUInt64 (by omega)

theorem SentFile.sizesPass (file : SentFile) :
    SizesPass file.header.packetSize file.header.dataSize := by
  have hpacket := file.toNat_packetSize
  have hdata := file.toNat_dataSize
  have hdiff : (file.header.packetSize - file.header.dataSize).toNat =
      428 := by
    rw [UInt64.toNat_sub_of_le _ _ (by rw [UInt64.le_iff_toNat_le]; omega)]
    omega
  simp only [SizesPass, gt_iff_lt, UInt64.le_iff_toNat_le,
    UInt64.lt_iff_toNat_lt, hdiff, hpacket]
  simp

theorem SentFile.hash_checked (file : SentFile) :
    murMurHash file.data (intOfSize file.header.dataSize) =
      dataWord (leBytes 4 file.hash.toNat) := by
  have hlt := file.data_lt
  have hint : intOfSize file.header.dataSize = file.data.length := by
    rw [intOfSize, file.toNat_dataSize, Nat.mod_eq_of_lt (by omega)]
    exact signed_of_lt hlt
  rw [hint, dataWord_leBytes, hash]

theorem SentFile.checkPacket_stores (file : SentFile) {host : FileHost}
    (halloc : host.dataMalloc.Holds file.header.dataSize)
    (hdir : host.opendir file.targetDir = true)
    (hopen : host.fopen file.path = true)
    (hdisk : file.data.length ≤ host.fwrite) :
    checkPacket host file.header.dataSize file.packet =
      [.openFile file.path file.data, .write file.path file.data,
        .reply (transferSuccess file.targetFileName)] := by
  have hparse := file.header.parse_memory host.heap halloc
    file.toNat_dataSize.symm (length_leBytes 4 file.hash.toNat)
  have htargetDir : file.header.targetDir = file.targetDir := rfl
  have htargetFileName : file.header.targetFileName =
      file.targetFileName := rfl
  have hpath : file.targetDir ++ (ascii "/" ++ file.targetFileName) =
      file.path := rfl
  have hcheck : checkPacket host file.header.dataSize file.packet =
      saveFile host (file.header.record file.data
        (dataWord (leBytes 4 file.hash.toNat))) := by
    apply checkPacket_of_checks
    · rw [packet, List.append_assoc, List.append_assoc]
      exact hparse
    · exact file.header.dataSize_record _ _
    · exact file.hash_checked
  rw [hcheck]
  simp only [saveFile, file.header.targetDir_record,
    file.header.targetFileName_record, htargetDir, htargetFileName, hpath,
    hdir, hopen, reduceCtorEq, if_false, file.header.data_record,
    List.take_of_length_le hdisk]

/-- The packet of a file is stored under its name and answered with the
success reply, for every segmentation that arrives in time; the host has
memory for the two blocks. -/
theorem handlerReceiveFile_stores (file : SentFile) (host : FileHost)
    (hpacket : host.packetMalloc.Holds file.header.packetSize)
    (hblock : host.dataMalloc.Holds file.header.dataSize)
    {first stale : List UInt8} {arrivals : List Arrival}
    (hheader : 424 ≤ first.length)
    (hseg : Segmentation file.packet (first ++ stale) first.length arrivals)
    (htime : InTime host.startTime arrivals)
    (hdir : host.opendir file.targetDir = true)
    (hopen : host.fopen file.path = true)
    (hdisk : file.data.length ≤ host.fwrite) :
    handlerReceiveFile host (first ++ stale) first.length arrivals =
      [.openFile file.path file.data, .write file.path file.data,
        .reply (transferSuccess file.targetFileName)] := by
  have hbytes := file.header.length_bytes
  obtain ⟨more, hmore⟩ : ∃ more, first = file.header.bytes ++ more := by
    have hwhole := hseg.whole
    rw [List.take_left] at hwhole
    have hpre : file.header.bytes <+: first :=
      List.prefix_of_prefix_length_le (List.prefix_append _ _)
        (hwhole ▸ List.prefix_append _ _) (by omega)
    obtain ⟨more, hmore⟩ := hpre
    exact ⟨more, hmore.symm⟩
  have hpacketSize : uint64At 8 (first ++ stale) =
      file.header.packetSize := by
    rw [hmore, List.append_assoc, file.header.packetSize_bytes]
  have hdataSize : uint64At 416 (first ++ stale) =
      file.header.dataSize := by
    rw [hmore, List.append_assoc, file.header.dataSize_bytes]
  rw [handlerReceiveFile_segmented host hseg, if_pos htime, hdataSize]
  · exact file.checkPacket_stores hblock hdir hopen hdisk
  · rw [hpacketSize, file.toNat_packetSize, file.length_packet]
  · rw [hpacketSize, hdataSize]
    exact file.sizesPass
  · rw [hpacketSize]
    exact hpacket

theorem threeBytes_stored :
    let file : SentFile :=
      { commandID := 1, commandResult := 0, targetDir := ascii "/tmp",
        targetFileName := ascii "iq", data := [1, 2, 3],
        dir_fits := ⟨by simp [ascii], by simp [ascii]⟩,
        name_fits := ⟨by simp [ascii], by simp [ascii]⟩,
        data_lt := by simp }
    let host : FileHost :=
      { startTime := 5, packetMalloc := .ample, dataMalloc := .ample,
        heap := [], dataPointer := [], stack := [],
        opendir := fun dir => dir == ascii "/tmp",
        fopen := fun path => path == ascii "/tmp/iq", fwrite := 4096 }
    let first := file.packet.take 424
    let later := file.packet.drop 424
    handlerReceiveFile host (first ++ [7]) first.length
        [{ currentTime := 5, recv := some (later.take 2) },
          { currentTime := 6, recv := some (later.drop 2) }] =
      [.openFile (ascii "/tmp/iq") [1, 2, 3],
        .write (ascii "/tmp/iq") [1, 2, 3],
        .reply (ascii "##StatusMessage##FileTransfer##Success##iq##")] := by
  intro file host first later
  have hpacket : file.packet.length = 431 := file.length_packet
  have hfirst : first.length = 424 := by simp [first, hpacket]
  have hlater : later.length = 7 := by simp [later, hpacket]
  have hpath : file.path = ascii "/tmp/iq" := by decide
  have hreply : transferSuccess file.targetFileName =
      ascii "##StatusMessage##FileTransfer##Success##iq##" := by decide
  rw [← hpath, ← hreply]
  apply handlerReceiveFile_stores file host
    (Malloc.ample_holds (by decide)) (Malloc.ample_holds (by decide))
    hfirst.ge
  · constructor
    · simp
    · simp [Arrival.Positive, maxPacketSize, hlater]
    · rw [List.take_left]
      simp only [received, List.filterMap_cons, List.filterMap_nil,
        List.flatten_cons, List.flatten_nil, List.append_nil,
        List.take_append_drop, first, later]
  · simp [InTime, host]
  · decide
  · decide
  · decide

end RkaiqToolServer
