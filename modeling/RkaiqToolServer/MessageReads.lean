import RkaiqToolServer.PrefixReads
import RkaiqToolServer.TcpMessage

/-!
# What the dispatch reads of the buffer

The dispatch compares the tag, the type and the identifiers of a record with
constants, one after the other, and reads the fields that the command it has
come to takes.  For each handler this file says exactly which beginnings of the
buffer determine the command.
-/

namespace RkaiqToolServer

open ByteCodec PrefixReads

/-! ## The fields of a record -/

theorem toList_arrayAt {size offset : ℕ} {bytes : List UInt8}
    (hbound : offset + size ≤ bytes.length) :
    (arrayAt size offset bytes).toList = slice offset size bytes := by
  apply List.ext_getElem
  · rw [Vector.length_toList, length_slice hbound]
  · intro index hindex hindex'
    rw [Vector.length_toList] at hindex
    simp only [arrayAt, slice, Vector.getElem_toList, Vector.getElem_ofFn,
      List.getElem_take, List.getElem_drop]
    rw [List.getD_eq_getElem?_getD, List.getElem?_eq_getElem (by omega)]
    rfl

theorem dat_ofBuffer {buffer : List UInt8}
    (hlength : buffer.length = maxPacketSize) :
    (CommandData.ofBuffer buffer).dat.toList = slice 22 48 buffer := by
  have hsize : maxPacketSize = 8192 := rfl
  exact toList_arrayAt (by omega)

theorem slice_dat_ofBuffer {buffer : List UInt8} {offset length : ℕ}
    (hlength : buffer.length = maxPacketSize)
    (hbound : offset + length ≤ 48) :
    slice offset length (CommandData.ofBuffer buffer).dat.toList =
      slice (22 + offset) length buffer := by
  rw [dat_ofBuffer hlength, slice_slice hbound]

theorem slice_datAt {buffer : List UInt8} {index : ℕ}
    (hlength : buffer.length = maxPacketSize) (hindex : index < 48) :
    slice (22 + index) 1 buffer =
      [(CommandData.ofBuffer buffer).datAt index] := by
  have hsize : maxPacketSize = 8192 := rfl
  have hdat : index < (CommandData.ofBuffer buffer).dat.toList.length := by
    rw [Vector.length_toList]
    exact hindex
  rw [← slice_dat_ofBuffer hlength (by omega), slice,
    List.drop_eq_getElem_cons hdat, CommandData.datAt,
    List.getD_eq_getElem?_getD, List.getElem?_eq_getElem hdat]
  simp

/-- A little-endian word is read from its bytes alone. -/
theorem uint16At_eq_iff {first second : List UInt8} {offset : ℕ}
    (hfirst : offset + 2 ≤ first.length)
    (hsecond : offset + 2 ≤ second.length) :
    uint16At offset first = uint16At offset second ↔
      slice offset 2 first = slice offset 2 second := by
  have hbound : ∀ bytes : List UInt8, offset + 2 ≤ bytes.length →
      leNat (slice offset 2 bytes) < 2 ^ 16 := by
    intro bytes hbytes
    have hlt := leNat_lt (slice offset 2 bytes)
    rw [length_slice hbytes] at hlt
    exact hlt
  constructor
  · intro hsame
    have hnat := congrArg UInt16.toNat hsame
    rw [uint16At, uint16At, UInt16.toNat_ofNat_of_lt' (hbound _ hfirst),
      UInt16.toNat_ofNat_of_lt' (hbound _ hsecond)] at hnat
    exact leNat_injective
      ((length_slice hfirst).trans (length_slice hsecond).symm) hnat
  · intro hslice
    rw [uint16At, uint16At, hslice]

theorem uint16At_eq_value_iff {bytes : List UInt8} {offset : ℕ}
    (hbytes : offset + 2 ≤ bytes.length) (value : UInt16) :
    uint16At offset bytes = value ↔
      FieldAt offset (leBytes 2 value.toNat) bytes := by
  rw [fieldAt_iff, length_leBytes]
  constructor
  · rintro rfl
    have hlt := leNat_lt (slice offset 2 bytes)
    have hback := leBytes_leNat (slice offset 2 bytes)
    rw [length_slice hbytes] at hlt hback
    rw [uint16At, UInt16.toNat_ofNat_of_lt' hlt, hback]
  · intro hslice
    rw [uint16At, hslice, leNat_leBytes value.toNat_lt]
    simp

/-! ## Comparisons of the dispatch -/

theorem compares_tag {tag : List UInt8} (htag : tag.length < 8192) :
    Compares maxPacketSize 0 (tag ++ [0])
      (fun buffer => strcmpEq buffer tag = true) where
  holds_iff buffer _ := by
    rw [strcmpEq, List.isPrefixOf_iff_prefix]
    rfl
  fits := by
    have hsize : maxPacketSize = 8192 := rfl
    simp only [List.length_append, List.length_singleton]
    omega

theorem compares_start {tag : List UInt8} (htag : tag.length < 8192) :
    Compares maxPacketSize 0 tag
      (fun buffer => memcmpEq buffer tag = true) where
  holds_iff buffer _ := by
    rw [memcmpEq, List.isPrefixOf_iff_prefix]
    rfl
  fits := by
    have hsize : maxPacketSize = 8192 := rfl
    omega

theorem compares_cmdType (value : UInt16) :
    Compares maxPacketSize 8 (leBytes 2 value.toNat)
      (fun buffer => (CommandData.ofBuffer buffer).cmdType = value) where
  holds_iff buffer hlength := by
    have hsize : maxPacketSize = 8192 := rfl
    exact uint16At_eq_value_iff (by omega) value
  fits := by
    rw [length_leBytes]
    decide

theorem compares_cmdID (value : UInt16) :
    Compares maxPacketSize 10 (leBytes 2 value.toNat)
      (fun buffer => (CommandData.ofBuffer buffer).cmdID = value) where
  holds_iff buffer hlength := by
    have hsize : maxPacketSize = 8192 := rfl
    exact uint16At_eq_value_iff (by omega) value
  fits := by
    rw [length_leBytes]
    decide

theorem compares_datAt {index : ℕ} (hindex : index < 48) (value : UInt8) :
    Compares maxPacketSize (22 + index) [value]
      (fun buffer => (CommandData.ofBuffer buffer).datAt index = value) where
  holds_iff buffer hlength := by
    rw [fieldAt_iff, List.length_singleton, slice_datAt hlength hindex,
      List.singleton_inj]
  fits := by
    have hsize : maxPacketSize = 8192 := rfl
    rw [List.length_singleton]
    omega

theorem compares_dataId (value : UInt8) :
    Compares maxPacketSize 22 [value]
      (fun buffer => (CommandData.ofBuffer buffer).datAt 0 = value) :=
  compares_datAt (show 0 < 48 by omega) value

instance uint8_nontrivial : Nontrivial UInt8 := ⟨0, 1, by decide⟩

/-! ## Fields that are read -/

theorem reads_uint16At {offset : ℕ} (hfits : offset + 2 ≤ maxPacketSize) :
    Reads maxPacketSize offset 2 (uint16At offset) where
  same first second hfirst hsecond htake :=
    (uint16At_eq_iff (by omega) (by omega)).mpr
      (slice_eq_of_take_eq htake le_rfl)
  fixes first second hfirst hsecond hsame :=
    (uint16At_eq_iff (by omega) (by omega)).mp hsame
  fits := hfits
  pos := by omega

theorem uint16At_dat {buffer : List UInt8} {offset : ℕ}
    (hlength : buffer.length = maxPacketSize) (hbound : offset + 2 ≤ 48) :
    uint16At offset (CommandData.ofBuffer buffer).dat.toList =
      uint16At (22 + offset) buffer := by
  rw [uint16At, uint16At, slice_dat_ofBuffer hlength hbound]

/-- Two buffers that agree on the bytes of a word of the data agree on it. -/
theorem uint16At_dat_congr {first second : List UInt8} {offset count : ℕ}
    (hfirst : first.length = maxPacketSize)
    (hsecond : second.length = maxPacketSize)
    (htake : first.take count = second.take count)
    (hbound : offset + 2 ≤ 48) (hcount : 22 + offset + 2 ≤ count) :
    uint16At offset (CommandData.ofBuffer first).dat.toList =
      uint16At offset (CommandData.ofBuffer second).dat.toList := by
  rw [uint16At_dat hfirst hbound, uint16At_dat hsecond hbound, uint16At,
    uint16At, slice_eq_of_take_eq htake hcount]

theorem uint32At_dat_congr {first second : List UInt8} {offset count : ℕ}
    (hfirst : first.length = maxPacketSize)
    (hsecond : second.length = maxPacketSize)
    (htake : first.take count = second.take count)
    (hbound : offset + 4 ≤ 48) (hcount : 22 + offset + 4 ≤ count) :
    uint32At offset (CommandData.ofBuffer first).dat.toList =
      uint32At offset (CommandData.ofBuffer second).dat.toList := by
  rw [uint32At, uint32At, slice_dat_ofBuffer hfirst hbound,
    slice_dat_ofBuffer hsecond hbound, slice_eq_of_take_eq htake hcount]

theorem datAt_congr {first second : List UInt8} {index count : ℕ}
    (hfirst : first.length = maxPacketSize)
    (hsecond : second.length = maxPacketSize)
    (htake : first.take count = second.take count)
    (hindex : index < 48) (hcount : 22 + index + 1 ≤ count) :
    (CommandData.ofBuffer first).datAt index =
      (CommandData.ofBuffer second).datAt index := by
  rw [← List.singleton_inj, ← slice_datAt hfirst hindex,
    ← slice_datAt hsecond hindex, slice_eq_of_take_eq htake hcount]

theorem reads_datAt {index : ℕ} (hindex : index < 48) :
    Reads maxPacketSize (22 + index) 1
      (fun buffer => (CommandData.ofBuffer buffer).datAt index) where
  same first second hfirst hsecond htake :=
    datAt_congr hfirst hsecond htake hindex le_rfl
  fixes first second hfirst hsecond hsame := by
    rw [slice_datAt hfirst hindex, slice_datAt hsecond hindex]
    exact congrArg (fun byte => [byte]) hsame
  fits := by
    have hsize : maxPacketSize = 8192 := rfl
    omega
  pos := by omega

theorem reads_uint16At_dat {offset : ℕ} (hbound : offset + 2 ≤ 48) :
    Reads maxPacketSize (22 + offset) 2 (fun buffer =>
      uint16At offset (CommandData.ofBuffer buffer).dat.toList) where
  same first second hfirst hsecond htake :=
    uint16At_dat_congr hfirst hsecond htake hbound le_rfl
  fixes first second hfirst hsecond hsame := by
    have hsize : maxPacketSize = 8192 := rfl
    simp only [uint16At_dat hfirst hbound, uint16At_dat hsecond hbound]
      at hsame
    exact (uint16At_eq_iff (by omega) (by omega)).mp hsame
  fits := by
    have hsize : maxPacketSize = 8192 := rfl
    omega
  pos := by omega

theorem reads_checksumValue :
    Reads maxPacketSize 23 2
      (fun buffer => (CommandData.ofBuffer buffer).checksumValue) :=
  reads_uint16At_dat (show 1 + 2 ≤ 48 by omega)

theorem paramSize_eq {buffer : List UInt8}
    (hlength : buffer.length = maxPacketSize) :
    (CommandData.ofBuffer buffer).paramSize =
      signed 32 (leNat (slice 22 4 buffer)) := by
  rw [CommandData.paramSize]
  have hslice := slice_dat_ofBuffer hlength (show 0 + 4 ≤ 48 by omega)
  rw [slice, List.drop_zero, Nat.add_zero] at hslice
  rw [hslice]

theorem reads_paramSize :
    Reads maxPacketSize 22 4
      (fun buffer => (CommandData.ofBuffer buffer).paramSize) where
  same first second hfirst hsecond htake := by
    simp only [paramSize_eq hfirst, paramSize_eq hsecond]
    rw [slice_eq_of_take_eq htake le_rfl]
  fixes first second hfirst hsecond hsame := by
    have hsize : maxPacketSize = 8192 := rfl
    have hword : ∀ buffer : List UInt8, buffer.length = maxPacketSize →
        (slice 22 4 buffer).length = 4 ∧
          leNat (slice 22 4 buffer) < 2 ^ 32 := by
      intro buffer hbuffer
      have hslice : (slice 22 4 buffer).length = 4 :=
        length_slice (by omega)
      have hlt := leNat_lt (slice 22 4 buffer)
      rw [hslice] at hlt
      exact ⟨hslice, hlt⟩
    simp only [paramSize_eq hfirst, paramSize_eq hsecond] at hsame
    obtain ⟨hlength, hlt⟩ := hword first hfirst
    obtain ⟨hlength', hlt'⟩ := hword second hsecond
    exact leNat_injective (hlength.trans hlength'.symm)
      (signed_injective hlt hlt' hsame)
  fits := by decide
  pos := by omega

theorem reads_cmdID :
    Reads maxPacketSize 10 2
      (fun buffer => (CommandData.ofBuffer buffer).cmdID) :=
  reads_uint16At (by decide)

/-- The last word that SET_PARAM reads is the focus position. -/
theorem reads_focusPosition :
    Reads maxPacketSize 39 4
      (fun buffer => (CommandData.ofBuffer buffer).captureParams.focusPosition)
    where
  same first second hfirst hsecond htake :=
    uint32At_dat_congr hfirst hsecond htake (by omega) (by omega)
  fixes first second hfirst hsecond hsame := by
    have hsize : maxPacketSize = 8192 := rfl
    have hword : ∀ buffer : List UInt8, buffer.length = maxPacketSize →
        (slice 39 4 buffer).length = 4 ∧
          (CommandData.ofBuffer buffer).captureParams.focusPosition.toNat =
            leNat (slice 39 4 buffer) := by
      intro buffer hbuffer
      have hslice : (slice 39 4 buffer).length = 4 :=
        length_slice (by omega)
      have hlt := leNat_lt (slice 39 4 buffer)
      rw [hslice] at hlt
      refine ⟨hslice, ?_⟩
      simp only [CommandData.captureParams, uint32At]
      rw [slice_dat_ofBuffer hbuffer (show 17 + 4 ≤ 48 by omega)]
      exact UInt32.toNat_ofNat_of_lt' hlt
    obtain ⟨hlength, hvalue⟩ := hword first hfirst
    obtain ⟨hlength', hvalue'⟩ := hword second hsecond
    refine leNat_injective (hlength.trans hlength'.symm) ?_
    rw [← hvalue, ← hvalue']
    exact congrArg UInt32.toNat hsame
  fits := by decide
  pos := by omega

/-- The last word that GET_PARAM reads is the height. -/
theorem reads_getParam :
    Reads maxPacketSize 25 2 (fun buffer =>
      RawCaptureCommand.getParam
        (uint16At 1 (CommandData.ofBuffer buffer).dat.toList)
        (uint16At 3 (CommandData.ofBuffer buffer).dat.toList)) := by
  refine (reads_uint16At_dat (show 3 + 2 ≤ 48 by omega)).of_last ?_ ?_
  · intro first second hfirst hsecond htake
    have hword : ∀ offset, offset + 2 ≤ 5 →
        uint16At offset (CommandData.ofBuffer first).dat.toList =
          uint16At offset (CommandData.ofBuffer second).dat.toList :=
      fun offset hbound =>
        uint16At_dat_congr hfirst hsecond htake (by omega) (by omega)
    rw [hword 1 (by omega), hword 3 (by omega)]
  · intro first second hsame
    exact (RawCaptureCommand.getParam.inj hsame).2

/-- A command that takes the identifier and the size of its parameters. -/
theorem determined_withParamSize_iff (message : UInt16 → ℤ → OnLineMessage)
    (hmessage : ∀ cmdID cmdID' paramSize paramSize',
      message cmdID paramSize = message cmdID' paramSize' →
        paramSize = paramSize') (chunk : List UInt8) :
    Determined maxPacketSize (fun buffer =>
        message (CommandData.ofBuffer buffer).cmdID
          (CommandData.ofBuffer buffer).paramSize) chunk ↔
      26 ≤ chunk.length := by
  refine determined_iff_le_length (reads_paramSize.of_last ?_
    fun first second hsame => hmessage _ _ _ _ hsame)
  intro first second hfirst hsecond htake
  have hsize : maxPacketSize = 8192 := rfl
  have hid : (CommandData.ofBuffer first).cmdID =
      (CommandData.ofBuffer second).cmdID :=
    (uint16At_eq_iff (by omega) (by omega)).mpr
      (slice_eq_of_take_eq htake (by omega))
  rw [hid, reads_paramSize.same first second hfirst hsecond htake]

theorem reads_setParam :
    Reads maxPacketSize 39 4 (fun buffer =>
      RawCaptureCommand.setParam
        (CommandData.ofBuffer buffer).captureParams) := by
  refine reads_focusPosition.of_last ?_ ?_
  · intro first second hfirst hsecond htake
    have hword : ∀ offset, offset + 4 ≤ 21 →
        uint32At offset (CommandData.ofBuffer first).dat.toList =
          uint32At offset (CommandData.ofBuffer second).dat.toList :=
      fun offset hbound =>
        uint32At_dat_congr hfirst hsecond htake (by omega) (by omega)
    have hbyte : ∀ index, index < 21 →
        (CommandData.ofBuffer first).datAt index =
          (CommandData.ofBuffer second).datAt index :=
      fun index hindex =>
        datAt_congr hfirst hsecond htake (by omega) (by omega)
    simp only [CommandData.captureParams, hword 1 (by omega),
      hword 5 (by omega), hword 13 (by omega), hword 17 (by omega),
      hbyte 9 (by omega), hbyte 10 (by omega), hbyte 11 (by omega),
      hbyte 12 (by omega)]
  · intro first second hsame
    rw [RawCaptureCommand.setParam.inj hsame]

/-! ## The commands of the raw-capture handler -/

/-- The chunk holds what the sub-commands of a raw capture ask for: a second
byte, the frame size, the parameters or the checksum. -/
def RawCaptureHeld (chunk : List UInt8) : Prop :=
  Decides 22 [dataIdCaptureRawStatus] chunk
    (Decides 23 [knockKnock] chunk True True)
    (Decides 22 [dataIdCaptureRawGetParam] chunk (27 ≤ chunk.length)
      (Decides 22 [dataIdCaptureRawSetParam] chunk (43 ≤ chunk.length)
        (Decides 22 [dataIdCaptureRawStart] chunk True
          (Decides 22 [dataIdCaptureRawChecksum] chunk (25 ≤ chunk.length)
            True))))

instance (chunk : List UInt8) : Decidable (RawCaptureHeld chunk) :=
  inferInstanceAs (Decidable (Decides ..))

theorem determined_rawCaptureCommand_iff (chunk : List UInt8) :
    Determined maxPacketSize
        (fun buffer => (CommandData.ofBuffer buffer).rawCaptureCommand)
        chunk ↔ RawCaptureHeld chunk := by
  unfold CommandData.rawCaptureCommand RawCaptureHeld
  refine determined_branch_iff (compares_dataId dataIdCaptureRawStatus) ?_ ?_ ?_
  · intro first second
    split_ifs <;> simp
  · refine determined_branch_iff
      (compares_datAt (show 1 < 48 by omega) knockKnock)
      ?_ (determined_const ..) (determined_const ..)
    simp
  refine determined_branch_iff (compares_dataId dataIdCaptureRawGetParam)
    ?_ (determined_iff_le_length reads_getParam) ?_
  · intro first second
    split_ifs <;> simp
  refine determined_branch_iff (compares_dataId dataIdCaptureRawSetParam)
    ?_ (determined_iff_le_length reads_setParam) ?_
  · intro first second
    split_ifs <;> simp
  refine determined_branch_iff (compares_dataId dataIdCaptureRawStart)
    ?_ (determined_const ..) ?_
  · intro first second
    split_ifs <;> simp
  refine determined_branch_iff (compares_dataId dataIdCaptureRawChecksum)
    ?_ ?_ (determined_const ..)
  · simp
  exact (determined_map_iff (fun _ _ => RawCaptureCommand.checksum.inj)
    chunk).trans (determined_iff_le_length reads_checksumValue)

def CaptureHeld (chunk : List UInt8) : Prop :=
  Decides 10 (leBytes 2 cmdIdCaptureStatus.toNat) chunk
    (Decides 22 [knockKnock] chunk True True)
    (Decides 10 (leBytes 2 cmdIdCaptureRawCapture.toNat) chunk
      (RawCaptureHeld chunk) True)

instance (chunk : List UInt8) : Decidable (CaptureHeld chunk) :=
  inferInstanceAs (Decidable (Decides ..))

theorem determined_captureMessage_iff (chunk : List UInt8) :
    Determined maxPacketSize
        (fun buffer => (CommandData.ofBuffer buffer).captureMessage) chunk ↔
      CaptureHeld chunk := by
  unfold CommandData.captureMessage CaptureHeld
  refine determined_branch_iff (compares_cmdID cmdIdCaptureStatus) ?_ ?_ ?_
  · intro first second
    split_ifs <;> simp
  · refine determined_branch_iff (compares_dataId knockKnock)
      ?_ (determined_const ..) (determined_const ..)
    simp
  refine determined_branch_iff (compares_cmdID cmdIdCaptureRawCapture)
    ?_ ?_ (determined_const ..)
  · simp
  exact (determined_map_iff (fun _ _ => CaptureMessage.rawCapture.inj)
    chunk).trans (determined_rawCaptureCommand_iff chunk)

/-- `CMD_TYPE_STREAMING` is followed by the parameters of a set command when
`cmdID` is 0xffff. -/
def RawHeld (chunk : List UInt8) : Prop :=
  Decides 8 (leBytes 2 cmdTypeCapture.toNat) chunk (CaptureHeld chunk)
    (Decides 8 (leBytes 2 cmdTypeStreaming.toNat) chunk
      (Decides 10 (leBytes 2 0xffff) chunk (26 ≤ chunk.length)
        (CaptureHeld chunk))
      True)

instance (chunk : List UInt8) : Decidable (RawHeld chunk) :=
  inferInstanceAs (Decidable (Decides ..))

theorem determined_rawMessage_iff (chunk : List UInt8) :
    Determined maxPacketSize
        (fun buffer => (CommandData.ofBuffer buffer).rawMessage) chunk ↔
      RawHeld chunk := by
  unfold CommandData.rawMessage RawHeld
  refine determined_branch_iff (compares_cmdType cmdTypeCapture) ?_ ?_ ?_
  · intro first second
    split_ifs <;> simp
  · exact (determined_map_iff (fun _ _ => RawMessage.capture.inj)
      chunk).trans (determined_captureMessage_iff chunk)
  refine determined_branch_iff (compares_cmdType cmdTypeStreaming)
    ?_ ?_ (determined_const ..)
  · intro first second
    split_ifs <;> simp
  refine determined_branch_iff (compares_cmdID 0xffff) ?_ ?_ ?_
  · simp
  · exact (determined_map_iff (fun _ _ => RawMessage.streamingSet.inj)
      chunk).trans (determined_iff_le_length reads_paramSize)
  · exact (determined_map_iff (fun _ _ => RawMessage.streaming.inj)
      chunk).trans (determined_captureMessage_iff chunk)

/-! ## The commands of the other record handlers -/

def OnLineCaptureHeld (chunk : List UInt8) : Prop :=
  Decides 22 [dataIdCaptureYuvSetParam] chunk (33 ≤ chunk.length)
    (Decides 22 [dataIdCaptureOnlineRawSetParam] chunk (33 ≤ chunk.length)
      (23 ≤ chunk.length))

instance (chunk : List UInt8) : Decidable (OnLineCaptureHeld chunk) :=
  inferInstanceAs (Decidable (Decides ..))

theorem determined_onLineCaptureCommand_iff (chunk : List UInt8) :
    Determined maxPacketSize
        (fun buffer => (CommandData.ofBuffer buffer).onLineCaptureCommand)
        chunk ↔ OnLineCaptureHeld chunk := by
  have hframenumber : Determined maxPacketSize
      (fun buffer => (CommandData.ofBuffer buffer).framenumber) chunk ↔
        33 ≤ chunk.length :=
    determined_iff_le_length (reads_datAt (show 10 < 48 by omega))
  unfold CommandData.onLineCaptureCommand OnLineCaptureHeld
  refine determined_branch_iff (compares_dataId dataIdCaptureYuvSetParam)
    ?_ ?_ ?_
  · intro first second
    split_ifs <;> simp
  · exact (determined_map_iff (fun _ _ => OnLineCaptureCommand.yuvSetParam.inj)
      chunk).trans hframenumber
  refine determined_branch_iff (compares_dataId dataIdCaptureOnlineRawSetParam)
    ?_ ?_ ?_
  · simp
  · exact (determined_map_iff
      (fun _ _ => OnLineCaptureCommand.onlineRawSetParam.inj)
      chunk).trans hframenumber
  · exact (determined_map_iff (fun _ _ => OnLineCaptureCommand.other.inj)
      chunk).trans
        (determined_iff_le_length (reads_datAt (show 0 < 48 by omega)))

def OnLineHeld (chunk : List UInt8) : Prop :=
  Decides 8 (leBytes 2 cmdTypeStreaming.toNat) chunk
    (Decides 10 (leBytes 2 0xffff) chunk (26 ≤ chunk.length) True)
    (Decides 8 (leBytes 2 cmdTypeStatus.toNat) chunk (12 ≤ chunk.length)
      (Decides 8 (leBytes 2 cmdTypeUapiSet.toNat) chunk (26 ≤ chunk.length)
        (Decides 8 (leBytes 2 cmdTypeUapiGet.toNat) chunk
          (26 ≤ chunk.length)
          (Decides 8 (leBytes 2 cmdTypeCapture.toNat) chunk
            (OnLineCaptureHeld chunk) True))))

instance (chunk : List UInt8) : Decidable (OnLineHeld chunk) :=
  inferInstanceAs (Decidable (Decides ..))

theorem determined_onLineMessage_iff (chunk : List UInt8) :
    Determined maxPacketSize
        (fun buffer => (CommandData.ofBuffer buffer).onLineMessage) chunk ↔
      OnLineHeld chunk := by
  unfold CommandData.onLineMessage OnLineHeld
  refine determined_branch_iff (compares_cmdType cmdTypeStreaming) ?_ ?_ ?_
  · intro first second
    split_ifs <;> simp
  · refine determined_branch_iff (compares_cmdID 0xffff)
      ?_ ?_ (determined_const ..)
    · simp
    exact (determined_map_iff (fun _ _ => OnLineMessage.streamingSet.inj)
      chunk).trans (determined_iff_le_length reads_paramSize)
  refine determined_branch_iff (compares_cmdType cmdTypeStatus) ?_ ?_ ?_
  · intro first second
    split_ifs <;> simp
  · exact (determined_map_iff (fun _ _ => OnLineMessage.status.inj)
      chunk).trans (determined_iff_le_length reads_cmdID)
  refine determined_branch_iff (compares_cmdType cmdTypeUapiSet) ?_ ?_ ?_
  · intro first second
    split_ifs <;> simp
  · exact determined_withParamSize_iff .uapiSet
      (fun _ _ _ _ hsame => (OnLineMessage.uapiSet.inj hsame).2) chunk
  refine determined_branch_iff (compares_cmdType cmdTypeUapiGet) ?_ ?_ ?_
  · intro first second
    split_ifs <;> simp
  · exact determined_withParamSize_iff .uapiGet
      (fun _ _ _ _ hsame => (OnLineMessage.uapiGet.inj hsame).2) chunk
  refine determined_branch_iff (compares_cmdType cmdTypeCapture)
    ?_ ?_ (determined_const ..)
  · simp
  exact (determined_map_iff (fun _ _ => OnLineMessage.capture.inj)
    chunk).trans (determined_onLineCaptureCommand_iff chunk)

def CheckHeld (chunk : List UInt8) : Prop :=
  Decides 10 (leBytes 2 cmdIdCaptureStatus.toNat) chunk
    (Decides 22 [knockKnock] chunk True True)
    (Decides 10 (leBytes 2 cmdIdGetStatus.toNat) chunk True
      (Decides 10 (leBytes 2 cmdIdGetMode.toNat) chunk True
        (Decides 10 (leBytes 2 cmdIdStartRtsp.toNat) chunk True
          (Decides 10 (leBytes 2 cmdIdStopRtsp.toNat) chunk True True))))

instance (chunk : List UInt8) : Decidable (CheckHeld chunk) :=
  inferInstanceAs (Decidable (Decides ..))

theorem determined_checkMessage_iff (chunk : List UInt8) :
    Determined maxPacketSize
        (fun buffer => (CommandData.ofBuffer buffer).checkMessage) chunk ↔
      CheckHeld chunk := by
  unfold CommandData.checkMessage CheckHeld
  refine determined_branch_iff (compares_cmdID cmdIdCaptureStatus) ?_ ?_ ?_
  · intro first second
    split_ifs <;> simp
  · refine determined_branch_iff (compares_dataId knockKnock)
      ?_ (determined_const ..) (determined_const ..)
    simp
  refine determined_branch_iff (compares_cmdID cmdIdGetStatus)
    ?_ (determined_const ..) ?_
  · intro first second
    split_ifs <;> simp
  refine determined_branch_iff (compares_cmdID cmdIdGetMode)
    ?_ (determined_const ..) ?_
  · intro first second
    split_ifs <;> simp
  refine determined_branch_iff (compares_cmdID cmdIdStartRtsp)
    ?_ (determined_const ..) ?_
  · intro first second
    split_ifs <;> simp
  refine determined_branch_iff (compares_cmdID cmdIdStopRtsp)
    ?_ (determined_const ..) (determined_const ..)
  simp

end RkaiqToolServer
