import RkaiqToolServer.LiveSource
import RkaiqToolServer.NaluSearch

/-!
# Splitting off the parameter sets

`split_h264_separate` and `split_h265_separate` cut the leading parameter sets
of a stream into buffers of their own.  The length of the first start code is
taken for that of all of them: the units are still cut where they end, but the
type of a unit whose start code has the other length is read one byte beside
its header.
-/

namespace RkaiqToolServer

/-- The two codecs that have such units. -/
inductive NalCodec
  | h264
  | h265
  deriving DecidableEq

def nalType : NalCodec → UInt8 → ℕ
  | .h264, byte => (byte &&& 0x1F).toNat
  | .h265, byte => ((byte &&& 0x7E) >>> 1).toNat

def parameterSetTypes : NalCodec → List ℕ
  | .h264 => [7, 8]
  | .h265 => [32, 33, 34]

def isParameterSet (codec : NalCodec) (byte : UInt8) : Bool :=
  (parameterSetTypes codec).contains (nalType codec byte)

/-! ## The split -/

structure SubBuffer where
  bytes : List UInt8
  userFlag : UInt32
  usTimeStamp : ℤ
  /-- The type was set to that of a video. -/
  video : Bool
  deriving DecidableEq

/-- Only the H.264 function sets the type. -/
def subBuffer (codec : NalCodec) (timestamp : ℤ) (bytes : List UInt8) :
    SubBuffer where
  bytes := bytes
  userFlag := kExtraIntra
  usTimeStamp := timestamp
  video := codec == .h264

def NalBuffer.slice (buffer : NalBuffer) (start size : ℕ) : List UInt8 :=
  (List.range' start size).map buffer.byte

/-- The rounds of the loop, `none` when `fuel` runs out; `alloc k` is whether
the `k`-th buffer can be allocated. -/
def splitRounds (codec : NalCodec) (buffer : NalBuffer) (timestamp : ℤ)
    (alloc : ℕ → Bool) (startLen : ℕ) :
    ℕ → ℕ → ℕ → List SubBuffer → Option (List SubBuffer)
  | 0, _, _, _ => none
  | fuel + 1, k, nalStart, l =>
      if nalStart = buffer.stop then some l
      else
        let header := nalStart + startLen
        let nalEnd := buffer.findNaluStartcode header
        let size := nalEnd + startLen - header
        if isParameterSet codec (buffer.byte header) = false then some l
        else if alloc k = false then some []
        else
          splitRounds codec buffer timestamp alloc startLen fuel (k + 1)
            nalEnd
            (l ++ [subBuffer codec timestamp
              (buffer.slice (header - startLen) size)])

/-- A start code of three bytes has its 1 in the third of them. -/
def NalBuffer.startLen (buffer : NalBuffer) (nalStart : ℕ) : ℕ :=
  if buffer.byte (nalStart + 2) = 1 then 3 else 4

def splitSeparate (codec : NalCodec) (buffer : NalBuffer) (timestamp : ℤ)
    (alloc : ℕ → Bool) : Option (List SubBuffer) :=
  let nalStart := buffer.findNaluStartcode 0
  splitRounds codec buffer timestamp alloc (buffer.startLen nalStart)
    (buffer.stop + 1) 0 nalStart []

def splitH264Separate (buffer : NalBuffer) (timestamp : ℤ)
    (alloc : ℕ → Bool) : Option (List SubBuffer) :=
  splitSeparate .h264 buffer timestamp alloc

def splitH265Separate (buffer : NalBuffer) (timestamp : ℤ)
    (alloc : ℕ → Bool) : Option (List SubBuffer) :=
  splitSeparate .h265 buffer timestamp alloc

/-! ## Streams -/

/-- What stands between two start codes: no start code, and no zero at the
end. -/
structure NalPayload (payload : List UInt8) : Prop where
  nonempty : payload ≠ []
  noStartcode : ¬ [0, 0, 1] <:+: payload
  ends : payload.getLast? ≠ some 0

structure NalUnit where
  fourByte : Bool
  payload : List UInt8
  wellFormed : NalPayload payload

def NalUnit.startCode (unit : NalUnit) : List UInt8 :=
  if unit.fourByte then [0, 0, 0, 1] else [0, 0, 1]

def NalUnit.bytes (unit : NalUnit) : List UInt8 :=
  unit.startCode ++ unit.payload

def NalUnit.header (unit : NalUnit) : UInt8 :=
  unit.payload.headD 0

def annexB (units : List NalUnit) : List UInt8 :=
  units.flatMap NalUnit.bytes

def streamBuffer (units : List NalUnit) (behind : ℕ → UInt8)
    (address : ℕ) : NalBuffer :=
  ⟨annexB units, behind, address⟩

def leadingSets (codec : NalCodec) (units : List NalUnit) : List NalUnit :=
  units.takeWhile fun unit => isParameterSet codec unit.header

/-- The leading parameter sets are returned, each with its start code, and
make up the beginning of the stream. -/
structure SplitsLeading (codec : NalCodec) (units : List NalUnit)
    (split : Option (List SubBuffer)) : Prop where
  returned : split.map (List.map SubBuffer.bytes) =
    some ((leadingSets codec units).map NalUnit.bytes)
  prefixed : ∀ l, split = some l → l.flatMap SubBuffer.bytes <+: annexB units

/-! ## Bytes of a stream -/

section Bytes

variable {buffer : NalBuffer} {before mid after : List UInt8}

theorem byte_of_getElem? (hbytes : buffer.bytes = before ++ (mid ++ after))
    {i : ℕ} {value : UInt8} (hget : mid[i]? = some value) :
    buffer.byte (before.length + i) = value := by
  obtain ⟨hi, -⟩ := List.getElem?_eq_some_iff.mp hget
  have hinside : before.length + i < buffer.stop := by
    simp only [NalBuffer.stop, hbytes, List.length_append]
    omega
  rw [NalBuffer.byte, if_pos hinside, hbytes, List.getD_eq_getElem?_getD,
    List.getElem?_append_right (Nat.le_add_right _ _),
    Nat.add_sub_cancel_left, List.getElem?_append_left hi, hget]
  rfl

theorem getElem?_of_byte (hbytes : buffer.bytes = before ++ (mid ++ after))
    {q : ℕ} {value : UInt8} (hfrom : before.length ≤ q)
    (hto : q < before.length + mid.length) (hbyte : buffer.byte q = value) :
    mid[q - before.length]? = some value := by
  have hi : q - before.length < mid.length := by omega
  have hread := byte_of_getElem? hbytes (List.getElem?_eq_getElem hi)
  rw [Nat.add_sub_cancel' hfrom, hbyte] at hread
  rw [List.getElem?_eq_getElem hi, hread]

theorem infix_of_getElem? {payload : List UInt8} {i : ℕ} {a b c : UInt8}
    (hfirst : payload[i]? = some a) (hsecond : payload[i + 1]? = some b)
    (hthird : payload[i + 2]? = some c) : [a, b, c] <:+: payload := by
  obtain ⟨hi, ha⟩ := List.getElem?_eq_some_iff.mp hfirst
  obtain ⟨hi', hb⟩ := List.getElem?_eq_some_iff.mp hsecond
  obtain ⟨hi'', hc⟩ := List.getElem?_eq_some_iff.mp hthird
  refine ⟨payload.take i, payload.drop (i + 3), ?_⟩
  have hdrop : payload.drop i = [a, b, c] ++ payload.drop (i + 3) := by
    rw [List.drop_eq_getElem_cons hi, List.drop_eq_getElem_cons hi',
      List.drop_eq_getElem_cons hi'', ha, hb, hc]
    rfl
  rw [List.append_assoc, ← hdrop, List.take_append_drop]

/-- The payload of a unit and what follows it hold no start code that begins
in the payload. -/
theorem payload_quiet (hbytes : buffer.bytes = before ++ (mid ++ after))
    (hpayload : NalPayload mid) :
    buffer.Quiet before.length (before.length + mid.length) := by
  intro q hfrom hto
  by_contra hstart
  rw [Bool.not_eq_false, NalBuffer.startcodeAt_iff] at hstart
  obtain ⟨hzero, hzero', hone⟩ := hstart
  have hlast : mid[mid.length - 1]? ≠ some 0 := by
    rw [← List.getLast?_eq_getElem?]
    exact hpayload.ends
  have hfirst := getElem?_of_byte hbytes hfrom hto hzero
  rcases Nat.lt_or_ge (q + 1) (before.length + mid.length) with hin | hout
  · have hsecond := getElem?_of_byte hbytes (by omega) hin hzero'
    rcases Nat.lt_or_ge (q + 2) (before.length + mid.length) with hin' | hout'
    · have hthird := getElem?_of_byte hbytes (by omega) hin' hone
      apply hpayload.noStartcode
      apply infix_of_getElem? hfirst
      · rwa [← Nat.sub_add_comm hfrom]
      · rwa [← Nat.sub_add_comm hfrom]
    · apply hlast
      rwa [show mid.length - 1 = q + 1 - before.length by omega]
  · apply hlast
    rwa [show mid.length - 1 = q - before.length by omega]

theorem last_byte_ne_zero (hbytes : buffer.bytes = before ++ (mid ++ after))
    (hpayload : NalPayload mid) :
    buffer.byte (before.length + mid.length - 1) ≠ 0 := by
  have hpos := List.length_pos_of_ne_nil hpayload.nonempty
  intro hzero
  have hlast := getElem?_of_byte hbytes (by omega) (by omega) hzero
  apply hpayload.ends
  rw [List.getLast?_eq_getElem?]
  rwa [show mid.length - 1 =
    before.length + mid.length - 1 - before.length by omega]

end Bytes

/-! ## From a unit to the next -/

theorem annexB_cons (unit : NalUnit) (units : List NalUnit) :
    annexB (unit :: units) = unit.bytes ++ annexB units := by
  simp [annexB]

theorem length_startCode (unit : NalUnit) :
    unit.startCode.length = if unit.fourByte then 4 else 3 := by
  rw [NalUnit.startCode]
  split_ifs <;> rfl

theorem length_payload_pos (unit : NalUnit) : 0 < unit.payload.length :=
  List.length_pos_of_ne_nil unit.wellFormed.nonempty

theorem NalBuffer.Quiet.mono {buffer : NalBuffer} {p out out' : ℕ}
    (hquiet : buffer.Quiet p out) (hle : out' ≤ out) :
    buffer.Quiet p out' :=
  fun q hfrom hto => hquiet q hfrom (by omega)

/-- A search that meets no start code before the next unit ends where that
unit begins, or at the end of the stream. -/
theorem findNaluStartcode_units {buffer : NalBuffer} {before : List UInt8}
    {units : List NalUnit} {p : ℕ}
    (hbytes : buffer.bytes = before ++ annexB units)
    (hle : p ≤ before.length) (hquiet : buffer.Quiet p before.length)
    (hbefore : p < before.length → buffer.byte (before.length - 1) ≠ 0) :
    buffer.findNaluStartcode p = before.length := by
  cases units with
  | nil =>
      have hstop : buffer.stop = before.length := by
        simp [NalBuffer.stop, hbytes, annexB]
      rw [← hstop]
      exact NalBuffer.findNaluStartcode_eq_stop
        (hquiet.mono (by rw [hstop]; omega))
  | cons unit units =>
      rw [annexB_cons, NalUnit.bytes, List.append_assoc] at hbytes
      have hpos := length_payload_pos unit
      have hstop : buffer.stop = before.length + (unit.startCode.length +
          (unit.payload.length + (annexB units).length)) := by
        simp [NalBuffer.stop, hbytes]
      have hlength := length_startCode unit
      cases hfour : unit.fourByte with
      | false =>
          have hcode : unit.startCode = [0, 0, 1] := by
            rw [NalUnit.startCode, hfour]
            rfl
          rw [hcode] at hbytes hstop
          have hat : buffer.startcodeAt before.length = true := by
            rw [NalBuffer.startcodeAt_iff]
            exact ⟨byte_of_getElem? (i := 0) hbytes rfl,
              byte_of_getElem? (i := 1) hbytes rfl,
              byte_of_getElem? (i := 2) hbytes rfl⟩
          refine NalBuffer.findNaluStartcode_three hle ?_ hat hquiet hbefore
          rw [hstop]
          simp only [List.length_cons, List.length_nil]
          omega
      | true =>
          have hcode : unit.startCode = [0, 0, 0, 1] := by
            rw [NalUnit.startCode, hfour]
            rfl
          rw [hcode] at hbytes hstop
          have hzero : buffer.byte before.length = 0 :=
            byte_of_getElem? (i := 0) hbytes rfl
          have hthird : buffer.byte (before.length + 2) = 0 :=
            byte_of_getElem? (i := 2) hbytes rfl
          have hat : buffer.startcodeAt (before.length + 1) = true := by
            rw [NalBuffer.startcodeAt_iff]
            exact ⟨byte_of_getElem? (i := 1) hbytes rfl, hthird,
              byte_of_getElem? (i := 3) hbytes rfl⟩
          refine NalBuffer.findNaluStartcode_four hle ?_ hzero hat ?_
          · rw [hstop]
            simp only [List.length_cons, List.length_nil]
            omega
          · intro q hfrom hto
            rcases Nat.lt_succ_iff_lt_or_eq.mp hto with hlt | heq
            · exact hquiet q hfrom hlt
            · simp [NalBuffer.startcodeAt, heq, hthird]

section Unit

variable {buffer : NalBuffer} {before : List UInt8} {unit : NalUnit}
  {units : List NalUnit} {startLen : ℕ}

theorem length_bytes (unit : NalUnit) :
    unit.bytes.length = unit.startCode.length + unit.payload.length := by
  rw [NalUnit.bytes, List.length_append]

theorem bytes_payload (hbytes : buffer.bytes = before ++ annexB (unit :: units)) :
    buffer.bytes = (before ++ unit.startCode) ++
      (unit.payload ++ annexB units) := by
  rw [hbytes, annexB_cons, NalUnit.bytes]
  simp only [List.append_assoc]

theorem byte_startCode_four
    (hbytes : buffer.bytes = before ++ annexB (unit :: units))
    (hfour : unit.fourByte = true) : buffer.byte (before.length + 3) = 1 := by
  have hcode : buffer.bytes = before ++ (unit.startCode ++
      (unit.payload ++ annexB units)) := by
    rw [bytes_payload hbytes, List.append_assoc]
  apply byte_of_getElem? hcode
  rw [NalUnit.startCode, if_pos hfour]
  rfl

/-- No start code begins between the third byte of a unit and its end. -/
theorem unit_quiet (hbytes : buffer.bytes = before ++ annexB (unit :: units))
    (hlen : 3 ≤ startLen) :
    buffer.Quiet (before.length + startLen)
      (before.length + unit.bytes.length) := by
  intro q hfrom hto
  have hcode := length_startCode unit
  have hlength := length_bytes unit
  have hquiet := payload_quiet (bytes_payload hbytes) unit.wellFormed
  rw [List.length_append] at hquiet
  rcases Nat.lt_or_ge q (before.length + unit.startCode.length) with
    hcodeByte | hin
  · have hfour : unit.fourByte = true := by
      by_contra hthree
      rw [if_neg hthree] at hcode
      omega
    have hq : q = before.length + 3 := by
      rw [if_pos hfour] at hcode
      omega
    rw [hq]
    simp [NalBuffer.startcodeAt, byte_startCode_four hbytes hfour]
  · exact hquiet q hin (by omega)

/-- From the header of a unit, or from the byte before or behind it, the
search reaches the next unit. -/
theorem findNaluStartcode_next
    (hbytes : buffer.bytes = before ++ annexB (unit :: units))
    (hlen : startLen = 3 ∨ startLen = 4) :
    buffer.findNaluStartcode (before.length + startLen) =
      before.length + unit.bytes.length := by
  have hcode := length_startCode unit
  have hpos := length_payload_pos unit
  have hlength := length_bytes unit
  have hlast := last_byte_ne_zero (bytes_payload hbytes) unit.wellFormed
  have hquiet : buffer.Quiet (before.length + startLen)
      (before.length + unit.bytes.length) := unit_quiet hbytes (by omega)
  have hnext : buffer.bytes = (before ++ unit.bytes) ++ annexB units := by
    rw [hbytes, annexB_cons, List.append_assoc]
  have hend : (before ++ unit.bytes).length =
      before.length + unit.bytes.length := List.length_append
  rw [List.length_append] at hlast
  have hfound : buffer.findNaluStartcode (before.length + startLen) =
      (before ++ unit.bytes).length := by
    apply findNaluStartcode_units hnext
    · rw [hend]
      split_ifs at hcode <;> omega
    · rw [hend]
      exact hquiet
    · intro _
      rw [hend, hlength, ← Nat.add_assoc]
      exact hlast
  rw [hfound, hend]

end Unit

/-! ## The rounds over a stream -/

/-- The units from `start` on that the types read `startLen` bytes behind their
beginnings take for parameter sets. -/
def unitsTaken (codec : NalCodec) (buffer : NalBuffer) (startLen : ℕ) :
    ℕ → List NalUnit → List NalUnit
  | _, [] => []
  | start, unit :: units =>
      if isParameterSet codec (buffer.byte (start + startLen)) then
        unit :: unitsTaken codec buffer startLen
          (start + unit.bytes.length) units
      else []

theorem slice_eq {buffer : NalBuffer} {before mid after : List UInt8}
    (hbytes : buffer.bytes = before ++ (mid ++ after)) :
    buffer.slice before.length mid.length = mid := by
  apply List.ext_getElem?
  intro i
  rw [NalBuffer.slice, List.getElem?_map]
  by_cases hi : i < mid.length
  · rw [List.getElem?_range' hi, Option.map_some, Nat.one_mul,
      byte_of_getElem? hbytes (List.getElem?_eq_getElem hi),
      List.getElem?_eq_getElem hi]
  · rw [List.getElem?_eq_none (by simpa using hi),
      List.getElem?_eq_none (not_lt.mp hi)]
    rfl

section Rounds

variable {codec : NalCodec} {buffer : NalBuffer} {timestamp : ℤ}
  {alloc : ℕ → Bool} {startLen : ℕ}

theorem alloc_succ {k count : ℕ} :
    (∀ i < count + 1, alloc (k + i) = true) ↔
      alloc k = true ∧ ∀ i < count, alloc (k + 1 + i) = true := by
  constructor
  · intro hall
    refine ⟨by simpa using hall 0 (by omega), fun i hi => ?_⟩
    have hnext := hall (i + 1) (by omega)
    rwa [← Nat.add_assoc, Nat.add_right_comm] at hnext
  · rintro ⟨hfirst, hrest⟩ i hi
    cases i with
    | zero => exact hfirst
    | succ i =>
        have hnext := hrest i (by omega)
        rwa [Nat.add_right_comm, Nat.add_assoc] at hnext

/-- The rounds return every unit whose type they take for a parameter set's,
cut where it ends, unless an allocation fails. -/
theorem splitRounds_units (hlen : startLen = 3 ∨ startLen = 4)
    {units : List NalUnit} :
    ∀ {before : List UInt8} {fuel k : ℕ} {l : List SubBuffer},
      buffer.bytes = before ++ annexB units → units.length < fuel →
      splitRounds codec buffer timestamp alloc startLen fuel k
          before.length l =
        some (if ∀ i < (unitsTaken codec buffer startLen before.length
              units).length, alloc (k + i) = true then
            l ++ (unitsTaken codec buffer startLen before.length units).map
              fun unit => subBuffer codec timestamp unit.bytes
          else []) := by
  induction units with
  | nil =>
      intro before fuel k l hbytes hfuel
      obtain ⟨fuel, rfl⟩ := Nat.exists_eq_succ_of_ne_zero (by omega :
        fuel ≠ 0)
      have hstop : before.length = buffer.stop := by
        simp [NalBuffer.stop, hbytes, annexB]
      rw [splitRounds, if_pos hstop]
      simp [unitsTaken]
  | cons unit units ih =>
      intro before fuel k l hbytes hfuel
      obtain ⟨fuel, rfl⟩ := Nat.exists_eq_succ_of_ne_zero (by omega :
        fuel ≠ 0)
      have hpos := length_payload_pos unit
      have hinside : before.length ≠ buffer.stop := by
        simp only [NalBuffer.stop, hbytes, annexB_cons, NalUnit.bytes,
          List.length_append]
        omega
      have hnext := findNaluStartcode_next hbytes hlen
      rw [annexB_cons] at hbytes
      have hslice := slice_eq hbytes
      rw [splitRounds, if_neg hinside, unitsTaken]
      simp only [hnext, Nat.add_sub_cancel]
      by_cases htype : isParameterSet codec
          (buffer.byte (before.length + startLen)) = true
      · have hsize : before.length + unit.bytes.length + startLen -
            (before.length + startLen) = unit.bytes.length := by
          omega
        have hfollowing : buffer.bytes =
            (before ++ unit.bytes) ++ annexB units := by
          rw [hbytes, List.append_assoc]
        have hrest := @ih (before ++ unit.bytes) fuel (k + 1)
          (l ++ [subBuffer codec timestamp unit.bytes]) hfollowing
          (by rw [List.length_cons] at hfuel; omega)
        rw [List.length_append] at hrest
        simp only [htype, Bool.true_eq_false, if_false, if_true,
          List.length_cons, alloc_succ, hsize, hslice, hrest]
        cases halloc : alloc k with
        | false => simp
        | true => simp
      · rw [Bool.not_eq_true] at htype
        simp [htype]

end Rounds

/-! ## The whole split -/

def firstStartLen : List NalUnit → ℕ
  | [] => 3
  | unit :: _ => unit.startCode.length

/-- The type read `startLen` bytes behind the beginning of a unit is that of a
parameter set exactly when the unit's own is, up to the first unit that is
none. -/
def TypesSeen (codec : NalCodec) (buffer : NalBuffer) (startLen : ℕ) :
    ℕ → List NalUnit → Prop
  | _, [] => True
  | start, unit :: units =>
      isParameterSet codec (buffer.byte (start + startLen)) =
          isParameterSet codec unit.header ∧
        (isParameterSet codec unit.header = true →
          TypesSeen codec buffer startLen (start + unit.bytes.length) units)

/-- The types are seen as they are; when a unit taken cannot be allocated,
nothing is returned and nothing should be. -/
def SplitSeen (codec : NalCodec) (units : List NalUnit)
    (buffer : NalBuffer) (alloc : ℕ → Bool) : Prop :=
  if ∀ i < (unitsTaken codec buffer (firstStartLen units) 0 units).length,
      alloc i = true then
    TypesSeen codec buffer (firstStartLen units) 0 units
  else leadingSets codec units = []

section Whole

variable {codec : NalCodec} {units : List NalUnit} {buffer : NalBuffer}

theorem length_unitsTaken_iff {startLen : ℕ} {start : ℕ} :
    (unitsTaken codec buffer startLen start units).length =
        (leadingSets codec units).length ↔
      TypesSeen codec buffer startLen start units := by
  induction units generalizing start with
  | nil => simp [unitsTaken, leadingSets, TypesSeen]
  | cons unit units ih =>
      rw [leadingSets] at ih
      rw [unitsTaken, leadingSets, TypesSeen, List.takeWhile_cons]
      cases isParameterSet codec (buffer.byte (start + startLen)) <;>
        cases isParameterSet codec unit.header <;> simp [ih]

theorem unitsTaken_begins {startLen : ℕ} {start : ℕ} :
    unitsTaken codec buffer startLen start units <+: units := by
  induction units generalizing start with
  | nil => exact List.prefix_rfl
  | cons unit units ih =>
      rw [unitsTaken]
      split_ifs
      · exact List.prefix_cons_inj unit |>.mpr ih
      · exact List.nil_prefix

theorem annexB_begins {first : List NalUnit} (hbegins : first <+: units) :
    annexB first <+: annexB units := by
  obtain ⟨rest, rfl⟩ := hbegins
  simp [annexB]

theorem length_le_annexB (units : List NalUnit) :
    units.length ≤ (annexB units).length := by
  induction units with
  | nil => exact Nat.zero_le _
  | cons unit units ih =>
      have hpos := length_payload_pos unit
      simp only [annexB_cons, NalUnit.bytes, List.length_append,
        List.length_cons]
      omega

theorem startLen_first {unit : NalUnit}
    (hbytes : buffer.bytes = annexB (unit :: units)) :
    buffer.startLen 0 = unit.startCode.length := by
  have hmid : buffer.bytes = [] ++ (unit.startCode ++
      (unit.payload ++ annexB units)) := by
    rw [hbytes, annexB_cons, NalUnit.bytes, List.append_assoc,
      List.nil_append]
  have hread : ∀ value, unit.startCode[2]? = some value →
      buffer.byte 2 = value := by
    intro value hvalue
    simpa using byte_of_getElem? hmid hvalue
  rw [NalBuffer.startLen]
  cases hfour : unit.fourByte with
  | false =>
      rw [hread 1 (by rw [NalUnit.startCode, hfour]; rfl)]
      rw [length_startCode, hfour]
      rfl
  | true =>
      rw [hread 0 (by rw [NalUnit.startCode, hfour]; rfl)]
      rw [length_startCode, hfour]
      rfl

end Whole

theorem splitSeparate_units (codec : NalCodec) (units : List NalUnit)
    (behind : ℕ → UInt8) (address : ℕ) (timestamp : ℤ) (alloc : ℕ → Bool) :
    let buffer := streamBuffer units behind address
    let taken := unitsTaken codec buffer (firstStartLen units) 0 units
    splitSeparate codec buffer timestamp alloc =
      some (if ∀ i < taken.length, alloc i = true then
        taken.map fun unit => subBuffer codec timestamp unit.bytes
      else []) := by
  intro buffer taken
  have hbytes : buffer.bytes = [] ++ annexB units := rfl
  have hfirst : buffer.findNaluStartcode 0 = 0 :=
    findNaluStartcode_units hbytes le_rfl
      (fun q _ hto => absurd hto (Nat.not_lt_zero q))
      (fun hlt => absurd hlt (Nat.lt_irrefl 0))
  have hfuel : units.length < buffer.stop + 1 :=
    Nat.lt_succ_of_le (length_le_annexB units)
  have hlen : buffer.startLen 0 = 3 ∨ buffer.startLen 0 = 4 := by
    rw [NalBuffer.startLen]
    split_ifs
    · exact .inl rfl
    · exact .inr rfl
  have hrounds := @splitRounds_units codec buffer timestamp alloc
    (buffer.startLen 0) hlen units [] (buffer.stop + 1) 0 [] hbytes hfuel
  have htaken : unitsTaken codec buffer (buffer.startLen 0) 0 units =
      taken := by
    cases units with
    | nil => rfl
    | cons unit units =>
        rw [startLen_first (show buffer.bytes = annexB (unit :: units)
          from rfl)]
        rfl
  simp only [List.length_nil, htaken, Nat.zero_add, List.nil_append]
    at hrounds
  rw [splitSeparate, hfirst]
  exact hrounds

/-- The leading parameter sets are returned exactly when the split sees the
types of the units as they are. -/
theorem splitSeparate_iff (codec : NalCodec) (units : List NalUnit)
    (behind : ℕ → UInt8) (address : ℕ) (timestamp : ℤ) (alloc : ℕ → Bool) :
    SplitsLeading codec units (splitSeparate codec
        (streamBuffer units behind address) timestamp alloc) ↔
      SplitSeen codec units (streamBuffer units behind address) alloc := by
  have hsplit := splitSeparate_units codec units behind address timestamp
    alloc
  simp only at hsplit
  rw [hsplit, SplitSeen]
  have hbegins : unitsTaken codec (streamBuffer units behind address)
      (firstStartLen units) 0 units <+: units := unitsTaken_begins
  rw [← length_unitsTaken_iff]
  generalize unitsTaken codec (streamBuffer units behind address)
    (firstStartLen units) 0 units = taken at hbegins ⊢
  have hleading : leadingSets codec units <+: units :=
    List.takeWhile_prefix _
  split_ifs with halloc
  · constructor
    · intro hleads
      have hbytes := congrArg (Option.map List.length) hleads.returned
      simpa using hbytes
    · intro hlength
      have hsame : taken = leadingSets codec units := by
        rw [List.prefix_iff_eq_take.mp hbegins,
          List.prefix_iff_eq_take.mp hleading, hlength]
      constructor
      · simp [subBuffer, hsame]
      · intro l hl
        injection hl with hl
        have hflat : l.flatMap SubBuffer.bytes = annexB taken := by
          rw [← hl, List.flatMap_map]
          rfl
        rw [hflat]
        exact annexB_begins hbegins
  · constructor
    · intro hleads
      have hbytes := hleads.returned
      simpa using hbytes.symm
    · intro hnone
      constructor
      · simp [hnone]
      · intro l hl
        injection hl with hl
        rw [← hl]
        exact List.nil_prefix

/-- Both functions, on every stream. -/
theorem split_leading_iff (units : List NalUnit) (behind : ℕ → UInt8)
    (address : ℕ) (timestamp : ℤ) (alloc : ℕ → Bool) :
    let buffer := streamBuffer units behind address
    (SplitsLeading .h264 units (splitH264Separate buffer timestamp alloc) ↔
      SplitSeen .h264 units buffer alloc) ∧
    (SplitsLeading .h265 units (splitH265Separate buffer timestamp alloc) ↔
      SplitSeen .h265 units buffer alloc) :=
  ⟨splitSeparate_iff .h264 units behind address timestamp alloc,
    splitSeparate_iff .h265 units behind address timestamp alloc⟩

theorem nalPayload_sps : NalPayload [0x67, 0x42] := by
  constructor <;> decide

theorem nalPayload_pps : NalPayload [0x68, 0xCE] := by
  constructor <;> decide

/-- A start code of three bytes and then one of four. -/
def mixedSets : List NalUnit :=
  [⟨false, [0x67, 0x42], nalPayload_sps⟩, ⟨true, [0x68, 0xCE], nalPayload_pps⟩]

theorem mixed_start_codes_lose_set :
    ¬ ∀ (units : List NalUnit) (behind : ℕ → UInt8) (address : ℕ)
      (timestamp : ℤ) (alloc : ℕ → Bool),
      SplitsLeading .h264 units (splitH264Separate
        (streamBuffer units behind address) timestamp alloc) := by
  intro hsplits
  have hreturned := (hsplits mixedSets (fun _ => 0) 0 0
    fun _ => true).returned
  exact absurd hreturned (by decide +kernel)

/-! ## Streams with one length of start code -/

theorem typesSeen_uniform {codec : NalCodec} {buffer : NalBuffer}
    {startLen : ℕ} {units : List NalUnit} :
    ∀ {before : List UInt8}, buffer.bytes = before ++ annexB units →
      (∀ unit ∈ units, unit.startCode.length = startLen) →
      TypesSeen codec buffer startLen before.length units := by
  induction units with
  | nil => exact fun _ _ => trivial
  | cons unit units ih =>
      intro before hbytes huniform
      rw [List.forall_mem_cons] at huniform
      rw [annexB_cons] at hbytes
      have hpayload : buffer.bytes = (before ++ unit.startCode) ++
          (unit.payload ++ annexB units) := by
        rw [hbytes, NalUnit.bytes]
        simp only [List.append_assoc]
      have hheader : buffer.byte (before.length + startLen) =
          unit.header := by
        rw [← huniform.1, ← List.length_append, ← Nat.add_zero
          (before ++ unit.startCode).length]
        apply byte_of_getElem? hpayload
        rw [NalUnit.header]
        cases hparts : unit.payload with
        | nil => exact absurd hparts unit.wellFormed.nonempty
        | cons first rest => rfl
      have hrest : buffer.bytes =
          (before ++ unit.bytes) ++ annexB units := by
        rw [hbytes, List.append_assoc]
      rw [TypesSeen, hheader]
      refine ⟨rfl, fun _ => ?_⟩
      rw [← List.length_append]
      exact ih hrest huniform.2

/-- A stream whose start codes have one length is split right whenever the
allocations succeed. -/
theorem splitsLeading_uniform {codec : NalCodec} {units : List NalUnit}
    (huniform : ∀ unit ∈ units,
      unit.startCode.length = firstStartLen units)
    (behind : ℕ → UInt8) (address : ℕ) (timestamp : ℤ) :
    SplitsLeading codec units (splitSeparate codec
      (streamBuffer units behind address) timestamp fun _ => true) := by
  rw [splitSeparate_iff, SplitSeen, if_pos fun _ _ => rfl]
  have hbytes : (streamBuffer units behind address).bytes =
      [] ++ annexB units := rfl
  exact typesSeen_uniform hbytes huniform

end RkaiqToolServer
