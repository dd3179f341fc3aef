import RkaiqToolServer.OnLineCapture
import RkaiqToolServer.PayloadCheckSum

/-!
# The payload of a reply and its sum

Every builder of a reply counts the bytes it has put into `dat` by hand and
sums that many.  The two that answer a request for the sensor's parameters
online count three bytes of a record that is longer, so the sum misses the
height and what follows it.
-/

namespace RkaiqToolServer

open ByteCodec StepRun

/-! ## Answers to the sum of a frame -/

def dataResultAs (cmdId captureCheckSum : UInt16)
    (cmd recvCmd : CommandData) : CommandData :=
  { cmd with
    rkid := strncpy8 rkidIspOn
    cmdType := cmdTypeCapture
    cmdID := cmdId
    datLen := 2
    dat := datOf [0x04,
      if captureCheckSum = recvCmd.checksumValue then resSuccess
      else resFailed] }.withCheckSum

def sendYuvDataResult (captureCheckSum : UInt16)
    (cmd recvCmd : CommandData) : CommandData :=
  dataResultAs cmdIdCaptureYuvCapture captureCheckSum cmd recvCmd

def sendOnlineRawDataResult (captureCheckSum : UInt16)
    (cmd recvCmd : CommandData) : CommandData :=
  dataResultAs cmdIdCaptureOnlineRawCapture captureCheckSum cmd recvCmd

/-! ## The builders -/

/-- The builders of the raw and the online protocol with what each reads;
`doAnswer` and `doAnswer2` stand in both. -/
inductive ReplyBuilder
  | initCommandStreamingAns (cmd : CommandData) (retStatus : UInt8)
  | initCommandPingAns (cmd : CommandData) (retStatus : UInt8)
  | initCommandRawCapAns (cmd : CommandData) (retStatus : UInt8)
  | getSensorPara (dev : Device) (s : RawState) (retStatus : UInt8)
  | setCapConf (dev : Device) (s : RawState) (recvCmd : CommandData)
      (retStatus : UInt8)
  | sendRawDataResult (s : RawState) (cmd recvCmd : CommandData)
  | doAnswer (cmd : CommandData) (cmdId : UInt16) (retStatus : UInt8)
  | doAnswer2 (cmd : CommandData) (cmdId checkSum : UInt16) (result : UInt8)
  | sendYuvDataResult (captureCheckSum : UInt16) (cmd recvCmd : CommandData)
  | sendOnlineRawDataResult (captureCheckSum : UInt16)
      (cmd recvCmd : CommandData)
  | replyStatus (cmd : CommandData) (retStatus : UInt8)
  | replyOnlineRawStatus (cmd : CommandData) (retStatus : UInt8)
  | replySensorPara (calls : OnLineCalls) (s : OnLineState)
  | replyOnlineRawSensorPara (calls : OnLineCalls) (gSensorHdrMode : UInt32)
      (s : OnLineState)
  | setSensorPara
  | setOnlineRawSensorPara

def ReplyBuilder.replies : ReplyBuilder → List CommandData
  | .initCommandStreamingAns cmd retStatus =>
      [RkaiqToolServer.initCommandStreamingAns cmd retStatus]
  | .initCommandPingAns cmd retStatus => [initCommandRawPingAns cmd retStatus]
  | .initCommandRawCapAns cmd retStatus =>
      [RkaiqToolServer.initCommandRawCapAns cmd retStatus]
  | .getSensorPara dev s retStatus =>
      repliesOf (RkaiqToolServer.getSensorPara dev s retStatus).2
  | .setCapConf dev s recvCmd retStatus =>
      repliesOf (RkaiqToolServer.setCapConf dev s recvCmd retStatus).2
  | .sendRawDataResult s cmd recvCmd =>
      repliesOf (RkaiqToolServer.sendRawDataResult s cmd recvCmd).2
  | .doAnswer cmd cmdId retStatus => [doCaptureAnswer cmd cmdId retStatus]
  | .doAnswer2 cmd cmdId checkSum result =>
      [RkaiqToolServer.doAnswer2 cmd cmdId checkSum result]
  | .sendYuvDataResult captureCheckSum cmd recvCmd =>
      [RkaiqToolServer.sendYuvDataResult captureCheckSum cmd recvCmd]
  | .sendOnlineRawDataResult captureCheckSum cmd recvCmd =>
      [RkaiqToolServer.sendOnlineRawDataResult captureCheckSum cmd recvCmd]
  | .replyStatus cmd retStatus => [RkaiqToolServer.replyStatus cmd retStatus]
  | .replyOnlineRawStatus cmd retStatus =>
      [RkaiqToolServer.replyOnlineRawStatus cmd retStatus]
  | .replySensorPara calls s => (RkaiqToolServer.replySensorPara calls s).2
  | .replyOnlineRawSensorPara calls gSensorHdrMode s =>
      (RkaiqToolServer.replyOnlineRawSensorPara calls gSensorHdrMode s).2
  | .setSensorPara => [RkaiqToolServer.setSensorPara]
  | .setOnlineRawSensorPara => [RkaiqToolServer.setOnlineRawSensorPara]

/-! ## What the sum has to cover -/

def byteSum (bytes : List UInt8) : ℕ := (bytes.map UInt8.toNat).sum

/-- No byte behind the first `datLen` is set, and the sum is that of the whole
of `dat`. -/
structure CommandData.PayloadCovered (cmd : CommandData) : Prop where
  unset : ∀ index, cmd.datLen.toNat ≤ index → index < 48 →
    cmd.datAt index = 0
  checkSum : cmd.checkSum.toNat = byteSum cmd.dat.toList % 2 ^ 16

/-- The node that `ReplyOnlineRawSensorPara` takes its format from. -/
def onlineRawNode (calls : OnLineCalls) : Option (List UInt8) :=
  captureDevNode
    (if calls.gDeviceId = 0 then (List.ofFn calls.mediaNodes).take 1
    else if calls.gDeviceId = 1 then
      ((List.ofFn calls.mediaNodes).drop 1).take 1
    else [])

/-- What the values put behind the first three bytes have to be: only the two
builders of the online parameters can miss it. -/
def ReplyBuilder.LeavesTailUnset : ReplyBuilder → Prop
  | .replySensorPara calls s =>
      captureDevNode (List.ofFn calls.mediaNodes) ≠ none →
        (if calls.streamDevGiven then s.gHeight
          else calls.videoFormat.height) % 2 ^ 16 = 0 ∧
        calls.videoFormat.pixelFormat ≠ ascii "YUYV"
  | .replyOnlineRawSensorPara calls gSensorHdrMode _ =>
      onlineRawNode calls ≠ none →
        calls.videoFormat.height % 2 ^ 16 = 0 ∧ calls.bits = 0 ∧
        calls.hdrMode.getD gSensorHdrMode ≠ hdrX2 ∧
        calls.hdrMode.getD gSensorHdrMode ≠ hdrX3
  | _ => True

/-! ## The sum of the first bytes -/

@[simp] theorem byteSum_append (first second : List UInt8) :
    byteSum (first ++ second) = byteSum first + byteSum second := by
  simp [byteSum]

theorem byteSum_eq_zero {bytes : List UInt8} :
    byteSum bytes = 0 ↔ ∀ byte ∈ bytes, byte = 0 := by
  simp only [byteSum, List.sum_eq_zero_iff, List.mem_map,
    forall_exists_index, and_imp, forall_apply_eq_imp_iff₂]
  have htoNat : ∀ byte : UInt8, byte.toNat = 0 ↔ byte = 0 := by
    intro byte
    rw [← UInt8.toNat_inj]
    rfl
  simp only [htoNat]

theorem toNat_foldl_add (bytes : List UInt8) (start : UInt16) :
    (bytes.foldl (fun sum byte => sum + UInt16.ofNat byte.toNat)
      start).toNat = (start.toNat + byteSum bytes) % 2 ^ 16 := by
  induction bytes generalizing start with
  | nil =>
      have hstart := start.toNat_lt
      simp only [List.foldl_nil, byteSum, List.map_nil, List.sum_nil]
      omega
  | cons byte rest ih =>
      have hbyte := byte.toNat_lt
      rw [List.foldl_cons, ih, UInt16.toNat_add, UInt16.toNat_ofNat']
      simp only [byteSum, List.map_cons, List.sum_cons]
      omega

theorem toNat_checkSum (cmd : CommandData) :
    cmd.withCheckSum.checkSum.toNat =
      byteSum (cmd.dat.toList.take cmd.datLen.toNat) % 2 ^ 16 := by
  simp only [CommandData.withCheckSum, toNat_foldl_add]
  simp

/-- The two halves of the law fail together: a byte left out of the sum is
missed by it. -/
theorem payloadCovered_withCheckSum {cmd : CommandData} :
    cmd.withCheckSum.PayloadCovered ↔
      ∀ byte ∈ cmd.dat.toList.drop cmd.datLen.toNat, byte = 0 := by
  constructor
  · intro hcovered byte hbyte
    obtain ⟨index, hindex, hget⟩ := List.getElem_of_mem hbyte
    rw [List.length_drop, Vector.length_toList] at hindex
    have hunset := hcovered.unset (cmd.datLen.toNat + index)
      (Nat.le_add_right _ _) (by omega)
    rw [List.getElem_drop] at hget
    rw [← hget]
    simpa [CommandData.datAt, List.getD_eq_getElem?_getD,
      show cmd.datLen.toNat + index < 48 by omega] using hunset
  · intro hzero
    constructor
    · intro index hfrom hindex
      change cmd.datLen.toNat ≤ index at hfrom
      apply hzero
      have hdat : (cmd.dat.toList.drop cmd.datLen.toNat)[
          index - cmd.datLen.toNat]? = some (cmd.withCheckSum.datAt index) := by
        rw [List.getElem?_drop, Nat.add_sub_cancel' hfrom]
        simp [CommandData.datAt, hindex]
      exact List.mem_of_getElem? hdat
    · have hsplit : byteSum cmd.dat.toList =
          byteSum (cmd.dat.toList.take cmd.datLen.toNat) := by
        rw [← List.take_append_drop cmd.datLen.toNat cmd.dat.toList,
          byteSum_append, byteSum_eq_zero.mpr hzero]
        simp
      rw [toNat_checkSum, CommandData.dat_withCheckSum, hsplit]

section Stored

variable {rkid version : Vector UInt8 8} {cmdType cmdID datLen : UInt16}
  {checkSum : UInt16} {bytes : List UInt8}

/-- A reply built by `memset` and stores is covered when the stored bytes
behind the first `datLen` are zero. -/
theorem payloadCovered_stored (hlength : bytes.length ≤ 48) :
    (CommandData.withCheckSum ⟨rkid, cmdType, cmdID, version, datLen,
      datOf bytes, checkSum⟩).PayloadCovered ↔
        ∀ byte ∈ bytes.drop datLen.toNat, byte = 0 := by
  have hpadding : ∀ count, ∀ byte ∈ (List.replicate count
      (0 : UInt8)).drop (datLen.toNat - bytes.length), byte = 0 := by
    intro count byte hbyte
    exact List.eq_of_mem_replicate (List.mem_of_mem_drop hbyte)
  rw [payloadCovered_withCheckSum, toList_datOf hlength, List.drop_append,
    List.forall_mem_append]
  exact and_iff_left (hpadding _)

theorem payloadCovered_counted (hlength : bytes.length ≤ 48)
    (hcounted : bytes.length ≤ datLen.toNat) :
    (CommandData.withCheckSum ⟨rkid, cmdType, cmdID, version, datLen,
      datOf bytes, checkSum⟩).PayloadCovered := by
  rw [payloadCovered_stored hlength, List.drop_eq_nil_of_le hcounted]
  simp

end Stored

theorem leBytes_unset {width value : ℕ} :
    (∀ byte ∈ leBytes width value, byte = 0) ↔ value % 256 ^ width = 0 := by
  induction width generalizing value with
  | zero => simp [leBytes, Nat.mod_one]
  | succ width ih =>
      have hlow : UInt8.ofNat value = 0 ↔ value % 256 = 0 := by
        rw [← UInt8.toNat_inj, UInt8.toNat_ofNat']
        rfl
      rw [leBytes, List.forall_mem_cons, ih, hlow, pow_succ,
        mul_comm (256 ^ width), Nat.mod_mul]
      simp

/-! ## The parameters asked for online -/

theorem uint16Bytes_unset {value : ℤ} :
    (∀ byte ∈ uint16Bytes value, byte = 0) ↔ value % 2 ^ 16 = 0 := by
  rw [uint16Bytes, leBytes_unset]
  omega

theorem length_uint16Bytes (value : ℤ) : (uint16Bytes value).length = 2 := by
  rw [uint16Bytes, length_leBytes]

/-- The two builders count three bytes: what they put behind the width is
left out. -/
theorem payloadCovered_paramReply {cmdId : UInt16} {dataId : UInt8}
    {width : ℤ} {rest : List UInt8} (hlength : rest.length ≤ 45) :
    (paramReply cmdId ([dataId] ++ uint16Bytes width ++
      rest)).PayloadCovered ↔ ∀ byte ∈ rest, byte = 0 := by
  have hhead : ([dataId] ++ uint16Bytes width).length = 3 := by
    simp [length_uint16Bytes]
  rw [paramReply, payloadCovered_stored
    (by rw [List.length_append, hhead]; omega)]
  rw [show (3 : UInt16).toNat = ([dataId] ++ uint16Bytes width).length by
    rw [hhead]; rfl, List.drop_left]

theorem replySensorPara_covered (calls : OnLineCalls) (s : OnLineState) :
    (∀ reply ∈ (replySensorPara calls s).2, reply.PayloadCovered) ↔
      (ReplyBuilder.replySensorPara calls s).LeavesTailUnset := by
  rw [ReplyBuilder.LeavesTailUnset, replySensorPara]
  cases captureDevNode (List.ofFn calls.mediaNodes) with
  | none => simp
  | some node =>
      have hformat : (∀ byte ∈ [if calls.videoFormat.pixelFormat = ascii "YUYV"
            then rkispFormatYuyv else rkispFormatNv12], byte = 0) ↔
          calls.videoFormat.pixelFormat ≠ ascii "YUYV" := by
        simp [rkispFormatYuyv, rkispFormatNv12]
      rw [List.forall_mem_singleton, List.append_assoc _ (uint16Bytes _) _,
        payloadCovered_paramReply (by simp [length_uint16Bytes]),
        List.forall_mem_append, uint16Bytes_unset, hformat]
      cases calls.streamDevGiven <;> simp

theorem onlineRawFormat_unset {hdrMode : UInt32} :
    (∀ byte ∈ leBytes 2 (onlineRawFormat hdrMode), byte = 0) ↔
      hdrMode ≠ hdrX2 ∧ hdrMode ≠ hdrX3 := by
  rw [leBytes_unset, onlineRawFormat]
  split_ifs with hx2 hx3 <;> simp [*]

theorem replyOnlineRawSensorPara_covered (calls : OnLineCalls)
    (gSensorHdrMode : UInt32) (s : OnLineState) :
    (∀ reply ∈ (replyOnlineRawSensorPara calls gSensorHdrMode s).2,
        reply.PayloadCovered) ↔
      (ReplyBuilder.replyOnlineRawSensorPara calls gSensorHdrMode
        s).LeavesTailUnset := by
  have hnode : captureDevNode (if calls.gDeviceId = 0 then
      [calls.mediaNodes 0] else if calls.gDeviceId = 1 then
      [calls.mediaNodes 1] else []) = onlineRawNode calls := rfl
  rw [ReplyBuilder.LeavesTailUnset, replyOnlineRawSensorPara, hnode]
  cases onlineRawNode calls with
  | none => simp
  | some node =>
      have hbits : (∀ byte ∈ leBytes 4 calls.bits.toNat, byte = 0) ↔
          calls.bits = 0 := by
        have hlt := calls.bits.toNat_lt
        rw [leBytes_unset, ← UInt32.toNat_inj, UInt32.toNat_zero]
        omega
      rw [List.forall_mem_singleton, List.append_assoc,
        List.append_assoc _ (uint16Bytes _) _,
        payloadCovered_paramReply (by simp [length_uint16Bytes]),
        List.forall_mem_append, List.forall_mem_append, uint16Bytes_unset,
        hbits, onlineRawFormat_unset]
      simp

/-! ## The other builders -/

/-- `datLen` is the size of the parameters without the byte before them; the
byte left out is the upper one of the format. -/
theorem getSensorPara_covered (dev : Device) (s : RawState)
    (retStatus : UInt8) :
    ∀ reply ∈ repliesOf (getSensorPara dev s retStatus).2,
      reply.PayloadCovered := by
  rw [getSensorPara]
  cases dev.readings with
  | none =>
      simp only [repliesOf, List.filterMap_cons, List.filterMap_nil,
        List.forall_mem_singleton]
      exact payloadCovered_counted (by simp) (by simp)
  | some readings =>
      have hformat : leBytes 2 (sensorImageFormat s) =
          [UInt8.ofNat (sensorImageFormat s), 0] := by
        rw [sensorImageFormat]
        split_ifs <;> rfl
      have hcounted : ∀ front : List UInt8, front.length = 20 →
          ∀ byte ∈ (front ++ [(0 : UInt8)]).drop (20 : UInt16).toNat,
            byte = 0 := by
        intro front hfront
        rw [show (20 : UInt16).toNat = front.length by rw [hfront]; rfl,
          List.drop_left]
        simp
      simp only [repliesOf, List.filterMap_cons, List.filterMap_nil,
        List.forall_mem_singleton]
      rw [payloadCovered_stored (by simp), hformat,
        List.append_cons _ (UInt8.ofNat _)]
      exact hcounted _ (by simp)

theorem setCapConf_covered (dev : Device) (s : RawState)
    (recvCmd : CommandData) (retStatus : UInt8) :
    ∀ reply ∈ repliesOf (setCapConf dev s recvCmd retStatus).2,
      reply.PayloadCovered := by
  rw [setCapConf, repliesOf_setCapConf, List.forall_mem_singleton]
  exact payloadCovered_counted (by simp) (by simp)

theorem sendRawDataResult_covered (s : RawState)
    (sendCmd recvCmd : CommandData) :
    ∀ reply ∈ repliesOf (sendRawDataResult s sendCmd recvCmd).2,
      reply.PayloadCovered := by
  rw [sendRawDataResult]
  split_ifs with hsum
  · simp only [repliesOf, List.filterMap_cons, List.filterMap_nil,
      List.forall_mem_singleton]
    exact payloadCovered_counted (by simp) (by simp)
  · rw [andThen_snd, repliesOf_append, repliesOf_stopCapture, List.nil_append]
    simp only [repliesOf, List.filterMap_cons, List.filterMap_nil,
      List.forall_mem_singleton]
    exact payloadCovered_counted (by simp) (by simp)

/-! ## Every builder -/

/-- The sum of every reply of a builder is that of its whole payload exactly
when what the builder puts behind the bytes it counts is zero. -/
theorem replies_payloadCovered_iff (builder : ReplyBuilder) :
    (∀ reply ∈ builder.replies, reply.PayloadCovered) ↔
      builder.LeavesTailUnset := by
  cases builder with
  | getSensorPara dev s retStatus =>
      exact iff_of_true (getSensorPara_covered dev s retStatus) trivial
  | setCapConf dev s recvCmd retStatus =>
      exact iff_of_true (setCapConf_covered dev s recvCmd retStatus) trivial
  | sendRawDataResult s cmd recvCmd =>
      exact iff_of_true (sendRawDataResult_covered s cmd recvCmd) trivial
  | replySensorPara calls s => exact replySensorPara_covered calls s
  | replyOnlineRawSensorPara calls gSensorHdrMode s =>
      exact replyOnlineRawSensorPara_covered calls gSensorHdrMode s
  | _ =>
      refine iff_of_true ?_ trivial
      rw [ReplyBuilder.replies, List.forall_mem_singleton]
      exact payloadCovered_counted (by simp) (by simp)

/-- A camera of 480 lines in NV12. -/
def nv12Calls : OnLineCalls where
  ispOnline := true
  mediaNodes := fun _ => ascii "/dev/video0\n"
  streamDevGiven := false
  gDeviceId := 0
  videoFormat := { width := 640, height := 480, pixelFormat := ascii "NV12" }
  hdrMode := none
  bits := 10

theorem sensorPara_height_not_covered :
    ¬ ∀ builder : ReplyBuilder, ∀ reply ∈ builder.replies,
      reply.PayloadCovered := by
  intro hcovered
  have htail := (replySensorPara_covered nv12Calls
    { captureStatus := ready, gWidth := 0, gHeight := 0 }).mp
      (hcovered (.replySensorPara nv12Calls _))
  exact absurd (htail (by decide)).1 (by decide)

end RkaiqToolServer
