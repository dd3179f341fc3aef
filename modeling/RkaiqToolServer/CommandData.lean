import RkaiqToolServer.ByteCodec

/-!
# The packed command record and its tags

Every local command of the tool protocol is one `CommandData_t`: 72 packed
bytes that begin with the tag of the party they are for.  This file gives the
record, its constants, the cast of a receive buffer to it, and the tag
comparisons by which the server decides who handles a received message.
-/

namespace RkaiqToolServer

open ByteCodec

/-! ## Constants of `rkaiq_common.h` -/

def rkidIspOn : List UInt8 := ascii "ISP_ON"
def rkidIspOff : List UInt8 := ascii "ISP_OFF"
def rkidCheck : List UInt8 := ascii "IGNORE"
def rkidSendFile : List UInt8 := ascii "SendFile"
def rkidOfflineRaw : List UInt8 := ascii "OffRAW"

def maxPacketSize : ℕ := 8192

def commandDataSize : ℕ := 72

/-- `cmdStatus`: `RES_FAILED` restarts the enumeration at zero. -/
def knockKnock : UInt8 := 0x80
def ready : UInt8 := 0x81
def busy : UInt8 := 0x82
def resFailed : UInt8 := 0x00
def resSuccess : UInt8 := 0x01

def pcToDevice : UInt16 := 0x00
def deviceToPc : UInt16 := 0x01

def cmdTypeUapiSet : UInt16 := 0x00
def cmdTypeUapiGet : UInt16 := 0x01
def cmdTypeCapture : UInt16 := 0x02
def cmdTypeStatus : UInt16 := 0x80
def cmdTypeStreaming : UInt16 := 0xff

def cmdIdCaptureStatus : UInt16 := 0x0001
def cmdIdCaptureRawCapture : UInt16 := 0x0002
def cmdIdGetStatus : UInt16 := 0x0100
def cmdIdGetMode : UInt16 := 0x0101
def cmdIdStartRtsp : UInt16 := 0x0102
def cmdIdStopRtsp : UInt16 := 0x0103

def dataIdCaptureRawStatus : UInt8 := 0x00
def dataIdCaptureRawGetParam : UInt8 := 0x01
def dataIdCaptureRawSetParam : UInt8 := 0x02
def dataIdCaptureRawStart : UInt8 := 0x03
def dataIdCaptureRawChecksum : UInt8 := 0x04

/-! ## The record -/

structure CommandData where
  rkid : Vector UInt8 8
  cmdType : UInt16
  cmdID : UInt16
  version : Vector UInt8 8
  datLen : UInt16
  dat : Vector UInt8 48
  checkSum : UInt16
  deriving DecidableEq

def arrayAt (size offset : ℕ) (bytes : List UInt8) : Vector UInt8 size :=
  Vector.ofFn fun index => bytes.getD (offset + index) 0

def uint16At (offset : ℕ) (bytes : List UInt8) : UInt16 :=
  UInt16.ofNat (leNat (slice offset 2 bytes))

/-- The cast `(CommandData_t*)buffer`. -/
def CommandData.ofBuffer (buffer : List UInt8) : CommandData where
  rkid := arrayAt 8 0 buffer
  cmdType := uint16At 8 buffer
  cmdID := uint16At 10 buffer
  version := arrayAt 8 12 buffer
  datLen := uint16At 20 buffer
  dat := arrayAt 48 22 buffer
  checkSum := uint16At 70 buffer

def CommandData.toBuffer (cmd : CommandData) : List UInt8 :=
  cmd.rkid.toList ++ (leBytes 2 cmd.cmdType.toNat ++
    (leBytes 2 cmd.cmdID.toNat ++ (cmd.version.toList ++
      (leBytes 2 cmd.datLen.toNat ++ (cmd.dat.toList ++
        leBytes 2 cmd.checkSum.toNat)))))

theorem arrayAt_append {size offset : ℕ} {before : List UInt8}
    (hbefore : before.length = offset) (array : Vector UInt8 size)
    (after : List UInt8) :
    arrayAt size offset (before ++ (array.toList ++ after)) = array := by
  apply Vector.ext
  intro index hindex
  have hlength : array.toList.length = size := by simp
  simp only [arrayAt, Vector.getElem_ofFn, List.getD_eq_getElem?_getD]
  rw [List.getElem?_append_right (by omega), hbefore,
    Nat.add_sub_cancel_left, List.getElem?_append_left (by omega)]
  simp [hindex]

theorem uint16At_append {offset : ℕ} {before : List UInt8}
    (hbefore : before.length = offset) (value : UInt16)
    (after : List UInt8) :
    uint16At offset (before ++ (leBytes 2 value.toNat ++ after)) = value := by
  rw [uint16At, slice_field hbefore (length_leBytes 2 _),
    leNat_leBytes value.toNat_lt]
  simp

theorem CommandData.length_toBuffer (cmd : CommandData) :
    cmd.toBuffer.length = commandDataSize := by
  simp [toBuffer, commandDataSize]

/-- Every field of the record is read back from its bytes. -/
theorem CommandData.ofBuffer_toBuffer (cmd : CommandData) :
    CommandData.ofBuffer cmd.toBuffer = cmd := by
  have hrkid : arrayAt 8 0 cmd.toBuffer = cmd.rkid := by
    exact arrayAt_append List.length_nil cmd.rkid _
  have hcmdType : uint16At 8 cmd.toBuffer = cmd.cmdType := by
    exact uint16At_append (by simp) cmd.cmdType _
  have hcmdID : uint16At 10 cmd.toBuffer = cmd.cmdID := by
    rw [toBuffer, ← List.append_assoc]
    exact uint16At_append (by simp) cmd.cmdID _
  have hversion : arrayAt 8 12 cmd.toBuffer = cmd.version := by
    rw [toBuffer, ← List.append_assoc, ← List.append_assoc]
    exact arrayAt_append (by simp) cmd.version _
  have hdatLen : uint16At 20 cmd.toBuffer = cmd.datLen := by
    rw [toBuffer, ← List.append_assoc, ← List.append_assoc,
      ← List.append_assoc]
    exact uint16At_append (by simp) cmd.datLen _
  have hdat : arrayAt 48 22 cmd.toBuffer = cmd.dat := by
    rw [toBuffer, ← List.append_assoc, ← List.append_assoc,
      ← List.append_assoc, ← List.append_assoc]
    exact arrayAt_append (by simp) cmd.dat _
  have hcheckSum : uint16At 70 cmd.toBuffer = cmd.checkSum := by
    rw [toBuffer, ← List.append_assoc, ← List.append_assoc,
      ← List.append_assoc, ← List.append_assoc, ← List.append_assoc,
      ← List.append_nil (leBytes 2 cmd.checkSum.toNat)]
    exact uint16At_append (by simp) cmd.checkSum []
  simp only [ofBuffer, hrkid, hcmdType, hcmdID, hversion, hdatLen, hdat,
    hcheckSum]

theorem CommandData.ofBuffer_append
    {record : List UInt8} (hrecord : record.length = commandDataSize)
    (more : List UInt8) :
    CommandData.ofBuffer (record ++ more) = CommandData.ofBuffer record := by
  have hlength : record.length = 72 := hrecord
  have harray : ∀ size offset, offset + size ≤ 72 →
      arrayAt size offset (record ++ more) =
        arrayAt size offset record := by
    intro size offset hbound
    apply Vector.ext
    intro index hindex
    simp only [arrayAt, Vector.getElem_ofFn, List.getD_eq_getElem?_getD]
    rw [List.getElem?_append_left (by omega)]
  have hword : ∀ offset, offset + 2 ≤ 72 →
      uint16At offset (record ++ more) = uint16At offset record := by
    intro offset hbound
    simp only [uint16At]
    rw [slice_append_left (by omega)]
  simp only [CommandData.ofBuffer, harray 8 0 (by omega),
    harray 8 12 (by omega), harray 48 22 (by omega), hword 8 (by omega),
    hword 10 (by omega), hword 20 (by omega), hword 70 (by omega)]

/-- `cmd->dat[index]`. -/
def CommandData.datAt (cmd : CommandData) (index : ℕ) : UInt8 :=
  cmd.dat.toList.getD index 0

/-- `*(int*)cmd->dat`. -/
def CommandData.paramSize (cmd : CommandData) : ℤ :=
  signed 32 (leNat (cmd.dat.toList.take 4))

/-! ## Replies -/

/-- `strncpy` of a tag into an eight-byte field: the rest is zeroed. -/
def strncpy8 (text : List UInt8) : Vector UInt8 8 :=
  Vector.ofFn fun index => text.getD index 0

/-- The loop over the first `datLen` bytes of `dat` that every reply ends
with. -/
def CommandData.withCheckSum (cmd : CommandData) : CommandData :=
  { cmd with
    checkSum :=
      (cmd.dat.toList.take cmd.datLen.toNat).foldl
        (fun sum byte => sum + UInt16.ofNat byte.toNat) 0 }

/-- `memset(cmd->dat, 0, 48)` followed by stores into its first bytes. -/
def datOf (bytes : List UInt8) : Vector UInt8 48 :=
  Vector.ofFn fun index => bytes.getD index 0

theorem getD_datOf {bytes : List UInt8} {index : ℕ} (hindex : index < 48) :
    (datOf bytes).toList.getD index 0 = bytes.getD index 0 := by
  simp [datOf, hindex]

theorem toList_ofFn_getD (size : ℕ) {bytes : List UInt8}
    (hbytes : bytes.length ≤ size) :
    (Vector.ofFn fun index : Fin size => bytes.getD index 0).toList =
      bytes ++ List.replicate (size - bytes.length) 0 := by
  apply List.ext_getElem
  · simp only [Vector.length_toList, List.length_append,
      List.length_replicate]
    omega
  · intro index hindex hindex'
    rw [Vector.getElem_toList, Vector.getElem_ofFn,
      List.getD_eq_getElem?_getD]
    by_cases hin : index < bytes.length
    · rw [List.getElem?_eq_getElem hin, List.getElem_append_left hin]
      rfl
    · rw [List.getElem?_eq_none (not_lt.mp hin),
        List.getElem_append_right (not_lt.mp hin), List.getElem_replicate]
      rfl

theorem toList_datOf {bytes : List UInt8} (hbytes : bytes.length ≤ 48) :
    (datOf bytes).toList = bytes ++ List.replicate (48 - bytes.length) 0 :=
  toList_ofFn_getD 48 hbytes

@[simp] theorem CommandData.dat_withCheckSum (cmd : CommandData) :
    cmd.withCheckSum.dat = cmd.dat := rfl

theorem datAt_of_dat {cmd : CommandData} {bytes : List UInt8} {index : ℕ}
    (hdat : cmd.dat = datOf bytes) (hindex : index < 48) :
    cmd.datAt index = bytes.getD index 0 := by
  rw [CommandData.datAt, hdat]
  exact getD_datOf hindex

/-! ## Who handles a received message -/

/-- `strcmp((char*)buffer, tag) == 0`. -/
def strcmpEq (buffer tag : List UInt8) : Bool :=
  (tag ++ [0]).isPrefixOf buffer

/-- `memcmp(buffer, tag, n) == 0` for a tag of `n` bytes. -/
def memcmpEq (buffer tag : List UInt8) : Bool :=
  tag.isPrefixOf buffer

inductive Handler
  | rawCapture
  | onLine
  | checkDevice
  | receiveFile
  | offlineRaw
  | forward
  deriving DecidableEq

/-- The chain of tag comparisons of `HandlerTCPMessage`. -/
def handlerFor (buffer : List UInt8) : Handler :=
  if strcmpEq buffer rkidIspOff then .rawCapture
  else if strcmpEq buffer rkidIspOn then .onLine
  else if strcmpEq buffer rkidCheck then .checkDevice
  else if memcmpEq buffer rkidSendFile then .receiveFile
  else if memcmpEq buffer rkidOfflineRaw then .offlineRaw
  else .forward

/-- Tags are at most eight bytes long, so bytes from the ninth on never
decide who handles a message. -/
theorem handlerFor_append
    {start : List UInt8} (hstart : 8 ≤ start.length) (more : List UInt8) :
    handlerFor (start ++ more) = handlerFor start := by
  have hsame : ∀ tag : List UInt8, tag.length ≤ 8 →
      tag.isPrefixOf (start ++ more) = tag.isPrefixOf start := by
    intro tag htag
    rw [Bool.eq_iff_iff, List.isPrefixOf_iff_prefix,
      List.isPrefixOf_iff_prefix]
    constructor
    · intro h
      exact List.prefix_of_prefix_length_le h
        (List.prefix_append start more) (by omega)
    · intro h
      exact h.trans (List.prefix_append start more)
  unfold handlerFor strcmpEq memcmpEq
  rw [hsame (rkidIspOff ++ [0]) (by decide),
    hsame (rkidIspOn ++ [0]) (by decide),
    hsame (rkidCheck ++ [0]) (by decide),
    hsame rkidSendFile (by decide), hsame rkidOfflineRaw (by decide)]

end RkaiqToolServer
