import RkaiqToolServer.AiqVerification
import RkaiqToolServer.MemoryAccess

/-!
# The buffers of a response of the service

`RkAiqSocketClientINETReceive` works on three buffers: the six bytes of the
header, a block of the announced packet size and the buffer of the caller.
The announced size is compared with the requested one once, through a
difference that wraps, and the size inside the packet only after the copies.
The reads and writes are listed here in their order and compared with the
sizes of the buffers.
-/

namespace RkaiqToolServer

open ByteCodec MemoryAccess

inductive AiqBuffer
  | tmpStr
  | receivedPacket (size : ℕ)
  | data (size : ℕ)
  deriving DecidableEq

def AiqBuffer.size : AiqBuffer → ℕ
  | .tmpStr => 6
  | .receivedPacket size | .data size => size

/-- `DomainTCPClient::Receive(buff, size)` clears and fills the buffer it is
given, if there is a socket. -/
def AiqRecv.accesses (recv : AiqRecv) (buffer : AiqBuffer) (offset : ℤ)
    (size : ℕ) : List (Access AiqBuffer) :=
  match recv with
  | .noSocket => []
  | .received _ | .failed => [⟨buffer, offset, size⟩]

def aiqLoopAccesses (startTime : ℤ) (packetSize : ℕ) :
    List AiqArrival → ℤ → List (Access AiqBuffer)
  | [], _ => []
  | arrival :: arrivals, remainSize =>
      if remainSize > 0 then
        if arrival.currentTime - startTime ≥ 2 then []
        else
          let offset := wrapInt (packetSize - remainSize)
          let targetSize := min remainSize.toNat maxPacketSize
          let left := remainSize - (arrival.recv.receive targetSize).2
          arrival.recv.accesses (.receivedPacket packetSize) offset
              targetSize ++
            if 2 ^ 31 ≤ left then []
            else aiqLoopAccesses startTime packetSize arrivals left
      else []

/-- Offset and size of the fields before the data. -/
def aiqHeaderFields : List (ℕ × ℕ) :=
  [(0, 2), (2, 4), (6, 4), (10, 4), (14, 4)]

def aiqPacketAccesses (heap : List UInt8) (packetSize : ℕ)
    (dataSize : BitVec 32) (receivedPacket : List UInt8) :
    List (Access AiqBuffer) :=
  let memory := receivedPacket ++ heap
  let packet := AiqBuffer.receivedPacket packetSize
  let inner := (wordAt 14 memory).toNat
  (aiqHeaderFields.map fun field => ⟨packet, field.1, field.2⟩) ++
    (⟨packet, 18, inner⟩ :: ⟨packet, wrapInt (18 + inner), 4⟩ ::
      match RkAiqSocketData.parse memory with
      | none => []
      | some receivedData =>
          if receivedData.dataSize ≠ dataSize then []
          else [⟨.data dataSize.toNat, 0, receivedData.dataSize.toNat⟩])

/-- The reads and writes of `RkAiqSocketClientINETReceive` after its request,
up to the first one that ends it. -/
def aiqAccesses (startTime : ℤ) (heap : List UInt8) (dataSize : BitVec 32)
    (header : AiqRecv) (arrivals : List AiqArrival) :
    List (Access AiqBuffer) :=
  let size := (aiqPacketSize header).toNat
  let packet := AiqBuffer.receivedPacket size
  header.accesses .tmpStr 0 6 ++
    (⟨.tmpStr, 0, 2⟩ ::
      if (aiqTmpStr header).take 2 ≠ aiqMagic then []
      else
        ⟨.tmpStr, 2, 4⟩ ::
          if ¬ AiqHeaderPasses dataSize header then []
          else
            ⟨packet, 0, size⟩ :: ⟨.tmpStr, 0, 6⟩ :: ⟨packet, 0, 6⟩ ::
              if size < 6 then []
              else
                aiqLoopAccesses startTime size arrivals
                    (aiqRemainSize header) ++
                  match aiqReassembly startTime header arrivals with
                  | .complete receivedPacket =>
                      aiqPacketAccesses heap size dataSize receivedPacket
                  | _ => [])

/-! ## The loop -/

/-- With bytes missing, a receive writes inside the block exactly when its
offset is an `int` that is not negative. -/
theorem aiqRecv_accesses_inBounds_iff {packetSize : ℕ}
    (hpacket : packetSize < 2 ^ 32) {remainSize : ℤ}
    (hmissing : 0 < remainSize ∧ remainSize < 2 ^ 31) (recv : AiqRecv) :
    InBounds AiqBuffer.size (recv.accesses (.receivedPacket packetSize)
        (wrapInt (packetSize - remainSize))
        (min remainSize.toNat maxPacketSize)) ↔
      ¬ (recv ≠ .noSocket ∧ ¬ (0 ≤ packetSize - remainSize ∧
        packetSize - remainSize < 2 ^ 31)) := by
  have htarget : 0 < min remainSize.toNat maxPacketSize := by
    have hmax : 0 < maxPacketSize := by decide
    omega
  have hwrite : Access.Inside AiqBuffer.size
      ⟨.receivedPacket packetSize, wrapInt (packetSize - remainSize),
        min remainSize.toNat maxPacketSize⟩ ↔
      0 ≤ packetSize - remainSize ∧ packetSize - remainSize < 2 ^ 31 := by
    rw [Access.inside_iff, AiqBuffer.size]
    simp only
    by_cases hint : packetSize - remainSize < 2 ^ 31
    · rw [wrapInt_of_range (by omega) hint]
      omega
    · rw [wrapInt_of_overflow (by omega) (by omega)]
      omega
  cases recv with
  | noSocket => simp [AiqRecv.accesses]
  | received bytes =>
      rw [AiqRecv.accesses, inBounds_cons, hwrite]
      simp only [inBounds_nil, and_true, ne_eq, reduceCtorEq,
        not_false_eq_true, true_and, not_not]
  | failed =>
      rw [AiqRecv.accesses, inBounds_cons, hwrite]
      simp only [inBounds_nil, and_true, ne_eq, reduceCtorEq,
        not_false_eq_true, true_and, not_not]

theorem aiqLoopAccesses_inBounds_iff (startTime : ℤ) {packetSize : ℕ}
    (hpacket : packetSize < 2 ^ 32) {arrivals : List AiqArrival} :
    ∀ {remainSize : ℤ}, remainSize < 2 ^ 31 →
      (InBounds AiqBuffer.size
          (aiqLoopAccesses startTime packetSize arrivals remainSize) ↔
        ¬ OffsetLeaves startTime (packetSize - remainSize) remainSize
          arrivals) := by
  induction arrivals with
  | nil =>
      intro remainSize _
      simp [aiqLoopAccesses, not_offsetLeaves_nil]
  | cons arrival arrivals ih =>
      intro remainSize hint
      rw [aiqLoopAccesses]
      by_cases hopen : remainSize > 0
      case neg =>
        rw [if_neg hopen]
        exact iff_of_true inBounds_nil
          (not_offsetLeaves_whole (by omega) _ _ _)
      have hmissing : 0 < remainSize ∧ remainSize < 2 ^ 31 := ⟨hopen, hint⟩
      rw [offsetLeaves_cons hmissing]
      by_cases hintime : arrival.currentTime - startTime < 2
      case neg =>
        rw [if_pos hopen, if_pos (by omega)]
        exact iff_of_true inBounds_nil fun hleaves => hintime hleaves.1
      rw [if_pos hopen, if_neg (by omega), inBounds_append,
        aiqRecv_accesses_inBounds_iff hpacket hmissing,
        and_iff_right hintime, not_or]
      apply and_congr_right
      intro _
      rcases aiqLeft_cases hopen arrival with hleft | ⟨hleft, hover⟩
      · have hgot : (packetSize : ℤ) - (remainSize - arrival.count) =
            packetSize - remainSize + arrival.count := by
          ring
        rw [hleft]
        by_cases hlast : 2 ^ 31 ≤ remainSize - arrival.count
        · rw [if_pos hlast]
          exact iff_of_true inBounds_nil
            (not_offsetLeaves_whole (by omega) _ _ _)
        · rw [if_neg hlast, ih (by omega), hgot]
      · rw [if_neg (by omega), ih (by omega)]
        exact iff_of_true (not_offsetLeaves_whole (by omega) _ _ _)
          (not_offsetLeaves_whole (by omega) _ _ _)

/-! ## The copies out of the block -/

theorem aiqHeaderFields_inBounds_iff {packetSize : ℕ} :
    InBounds AiqBuffer.size (aiqHeaderFields.map fun field =>
      (⟨.receivedPacket packetSize, field.1, field.2⟩ :
        Access AiqBuffer)) ↔ 18 ≤ packetSize := by
  simp only [aiqHeaderFields, List.map_cons, List.map_nil, inBounds_cons,
    inBounds_nil, and_true, Access.inside_iff, AiqBuffer.size]
  omega

/-- The copies stay inside exactly when the data and their hash fit behind the
header, at offsets that an `int` can hold. -/
theorem aiqPacketAccesses_inBounds_iff (heap : List UInt8) {packetSize : ℕ}
    (hpacket : packetSize < 2 ^ 32) (dataSize : BitVec 32)
    {receivedPacket : List UInt8}
    (hlength : receivedPacket.length = packetSize) :
    InBounds AiqBuffer.size
        (aiqPacketAccesses heap packetSize dataSize receivedPacket) ↔
      22 + (wordAt 14 receivedPacket).toNat ≤ packetSize ∧
        18 + (wordAt 14 receivedPacket).toNat < 2 ^ 31 := by
  have hlast : InBounds AiqBuffer.size
      (match RkAiqSocketData.parse (receivedPacket ++ heap) with
      | none => []
      | some receivedData =>
          if receivedData.dataSize ≠ dataSize then []
          else [⟨.data dataSize.toNat, 0, receivedData.dataSize.toNat⟩]) := by
    split
    · exact inBounds_nil
    case _ receivedData _ =>
      split
      case isTrue => exact inBounds_nil
      case isFalse hsize =>
        rw [not_not.mp hsize, inBounds_cons]
        exact ⟨Access.inside_start le_rfl, inBounds_nil⟩
  have hinner := (wordAt 14 receivedPacket).isLt
  rw [aiqPacketAccesses]
  by_cases hfields : 18 ≤ packetSize
  case neg =>
    rw [inBounds_append, aiqHeaderFields_inBounds_iff]
    exact iff_of_false (fun h => hfields h.1) (by omega)
  have hword : wordAt 14 (receivedPacket ++ heap) =
      wordAt 14 receivedPacket := by
    unfold wordAt
    rw [slice_append_left (by omega)]
  rw [hword]
  generalize (wordAt 14 receivedPacket).toNat = inner at hinner ⊢
  rw [inBounds_append, inBounds_cons, inBounds_cons, and_iff_left hlast,
    aiqHeaderFields_inBounds_iff, Access.inside_iff, Access.inside_iff]
  simp only [AiqBuffer.size]
  constructor
  · rintro ⟨-, hdata, hhash⟩
    by_cases hint : (18 : ℤ) + inner < 2 ^ 31
    · rw [wrapInt_of_range (by omega) hint] at hhash
      omega
    · by_cases hwrap : (18 : ℤ) + inner < 2 ^ 32
      · rw [wrapInt_of_overflow (by omega) hwrap] at hhash
        omega
      · omega
  · rintro ⟨hfits, hint⟩
    rw [wrapInt_of_range (by omega) (by omega)]
    exact ⟨hfields, by omega, by omega⟩

/-! ## The whole receive -/

/-- The sizes of a response agree once its header has passed: the packet has
room for the six bytes, the receives stay in its block, and when they bring
all of it, the data and their hash fit behind the fields. -/
def AiqSizesFit (startTime : ℤ) (dataSize : BitVec 32) (header : AiqRecv)
    (arrivals : List AiqArrival) : Prop :=
  AiqHeaderPasses dataSize header →
    6 ≤ (aiqPacketSize header).toNat ∧
    ¬ OffsetLeaves startTime 6 (aiqRemainSize header) arrivals ∧
    ∀ packet, AiqBrings startTime (aiqRemainSize header)
        (aiqPacketSize header).toNat (aiqTmpStr header) arrivals packet →
      22 + (wordAt 14 packet).toNat ≤ (aiqPacketSize header).toNat ∧
        18 + (wordAt 14 packet).toNat < 2 ^ 31

/-- The receives and the copies, for a packet that has room for its first six
bytes. -/
theorem aiqLoopAccesses_and_packet_iff (startTime : ℤ) (heap : List UInt8)
    (dataSize : BitVec 32) {header : AiqRecv}
    (hroom : 6 ≤ (aiqPacketSize header).toNat)
    (arrivals : List AiqArrival) :
    InBounds AiqBuffer.size
        (aiqLoopAccesses startTime (aiqPacketSize header).toNat arrivals
            (aiqRemainSize header) ++
          match aiqReassembly startTime header arrivals with
          | .complete receivedPacket =>
              aiqPacketAccesses heap (aiqPacketSize header).toNat dataSize
                receivedPacket
          | _ => []) ↔
      ¬ OffsetLeaves startTime 6 (aiqRemainSize header) arrivals ∧
      ∀ packet, AiqBrings startTime (aiqRemainSize header)
          (aiqPacketSize header).toNat (aiqTmpStr header) arrivals packet →
        22 + (wordAt 14 packet).toNat ≤ (aiqPacketSize header).toNat ∧
          18 + (wordAt 14 packet).toNat < 2 ^ 31 := by
  have hsize := (aiqPacketSize header).isLt
  have hloop : InBounds AiqBuffer.size (aiqLoopAccesses startTime
      (aiqPacketSize header).toNat arrivals (aiqRemainSize header)) ↔
      ¬ OffsetLeaves startTime 6 (aiqRemainSize header) arrivals := by
    rcases aiqRemainSize_cases hroom with ⟨hremain, hint⟩ | hnegative
    · rw [aiqLoopAccesses_inBounds_iff startTime hsize hint, hremain,
        sub_sub_cancel]
    · rw [aiqLoopAccesses_inBounds_iff startTime hsize (by omega)]
      exact iff_of_true (not_offsetLeaves_whole (by omega) _ _ _)
        (not_offsetLeaves_whole (by omega) _ _ _)
  rw [inBounds_append, hloop]
  apply and_congr_right
  intro hstays
  constructor
  · intro hinside packet hbrings
    have hcomplete := (aiqReassembly_complete_iff hroom).mpr
      ⟨hstays, hbrings⟩
    rw [hcomplete] at hinside
    exact (aiqPacketAccesses_inBounds_iff heap hsize dataSize
      hbrings.length_packet).mp hinside
  · intro hfits
    split
    case _ packet hcomplete =>
      obtain ⟨-, hbrings⟩ := (aiqReassembly_complete_iff hroom).mp hcomplete
      exact (aiqPacketAccesses_inBounds_iff heap hsize dataSize
        hbrings.length_packet).mpr (hfits packet hbrings)
    · exact inBounds_nil

theorem aiqRecv_accesses_tmpStr (recv : AiqRecv) :
    InBounds AiqBuffer.size (recv.accesses .tmpStr 0 6) := by
  cases recv <;> simp [AiqRecv.accesses, Access.inside_iff, AiqBuffer.size]

/-- The reads before the size of the packet is looked at. -/
theorem aiqTmpStr_inside :
    Access.Inside AiqBuffer.size ⟨.tmpStr, 0, 2⟩ ∧
      Access.Inside AiqBuffer.size ⟨.tmpStr, 2, 4⟩ := by
  decide

/-- Behind a header that has passed. -/
theorem aiqAccesses_of_passes (startTime : ℤ) (heap : List UInt8)
    {dataSize : BitVec 32} {header : AiqRecv}
    (hpasses : AiqHeaderPasses dataSize header)
    (arrivals : List AiqArrival) :
    InBounds AiqBuffer.size
        (aiqAccesses startTime heap dataSize header arrivals) ↔
      AiqSizesFit startTime dataSize header arrivals := by
  have hread : Access.Inside AiqBuffer.size ⟨.tmpStr, 0, 6⟩ := by decide
  have hmemset : Access.Inside AiqBuffer.size
      ⟨.receivedPacket (aiqPacketSize header).toNat, 0,
        (aiqPacketSize header).toNat⟩ := Access.inside_start le_rfl
  have hcopy : Access.Inside AiqBuffer.size
      ⟨.receivedPacket (aiqPacketSize header).toNat, 0, 6⟩ ↔
      6 ≤ (aiqPacketSize header).toNat := by
    rw [Access.inside_iff, AiqBuffer.size]
    simp only
    omega
  rw [aiqAccesses, inBounds_append,
    and_iff_right (aiqRecv_accesses_tmpStr header), inBounds_cons,
    and_iff_right aiqTmpStr_inside.1, if_neg (not_not.mpr hpasses.1),
    inBounds_cons, and_iff_right aiqTmpStr_inside.2,
    if_neg (not_not.mpr hpasses), inBounds_cons, inBounds_cons, inBounds_cons,
    and_iff_right hmemset, and_iff_right hread, hcopy, AiqSizesFit]
  simp only [hpasses, forall_const]
  apply and_congr_right
  intro hroom
  rw [if_neg (by omega)]
  exact aiqLoopAccesses_and_packet_iff startTime heap dataSize hroom arrivals

/-- The reads and writes of a run stay inside the three buffers exactly when
the sizes of the response fit. -/
theorem aiqAccesses_inBounds_iff (startTime : ℤ) (heap : List UInt8)
    (dataSize : BitVec 32) (header : AiqRecv) (arrivals : List AiqArrival) :
    InBounds AiqBuffer.size
        (aiqAccesses startTime heap dataSize header arrivals) ↔
      AiqSizesFit startTime dataSize header arrivals := by
  by_cases hpasses : AiqHeaderPasses dataSize header
  case pos => exact aiqAccesses_of_passes startTime heap hpasses arrivals
  refine iff_of_true ?_ fun h => absurd h hpasses
  rw [aiqAccesses, inBounds_append,
    and_iff_right (aiqRecv_accesses_tmpStr header), inBounds_cons,
    and_iff_right aiqTmpStr_inside.1]
  by_cases hmagic : (aiqTmpStr header).take 2 = aiqMagic
  case neg =>
    rw [if_pos hmagic]
    exact inBounds_nil
  rw [if_neg (not_not.mpr hmagic), inBounds_cons,
    and_iff_right aiqTmpStr_inside.2, if_pos hpasses]
  exact inBounds_nil

/-- The announced packet is shorter than the six bytes it is announced in. -/
theorem aiqAccesses_short_packet :
    ¬ InBounds AiqBuffer.size
      (aiqAccesses 0 [] 1 (.received (aiqMagic ++ leBytes 4 5)) []) := by
  decide

/-! ## The accesses and the run -/

/-- A loop that stays in its block goes wrong only when the number of missing
bytes is no `int` any more. -/
theorem aiqReceiveLoop_ne_fault {startTime : ℤ} {packetSize : ℕ}
    (hpacket : packetSize < 2 ^ 32) {arrivals : List AiqArrival} :
    ∀ {block : List UInt8} {remainSize : ℤ},
      remainSize + arrivals.length < 2 ^ 31 →
      ¬ OffsetLeaves startTime (packetSize - remainSize) remainSize
        arrivals →
        aiqReceiveLoop startTime packetSize arrivals block remainSize ≠
          .fault := by
  induction arrivals with
  | nil =>
      intro block remainSize _ _
      rw [aiqReceiveLoop]
      split <;> simp
  | cons arrival arrivals ih =>
      intro block remainSize hint hstays
      rw [List.length_cons] at hint
      rw [aiqReceiveLoop]
      by_cases hopen : remainSize > 0
      case neg => simp [hopen]
      by_cases hintime : arrival.currentTime - startTime < 2
      case neg =>
        rw [if_pos hopen, if_pos (by omega)]
        simp
      have hmissing : 0 < remainSize ∧ remainSize < 2 ^ 31 := by omega
      rw [offsetLeaves_cons hmissing, and_iff_right hintime, not_or]
        at hstays
      obtain ⟨hfirst, hlater⟩ := hstays
      have hcount : -1 ≤ arrival.count := by
        rw [AiqArrival.count]
        split <;> omega
      have hgot : (packetSize : ℤ) - remainSize + arrival.count =
          packetSize - (remainSize - arrival.count) := by
        ring
      rw [hgot] at hlater
      have hoffset : ¬ (wrapInt (packetSize - remainSize) < 0 ∧
          arrival.recv ≠ .noSocket) := by
        rintro ⟨hnegative, hsocket⟩
        rw [← not_le, wrapInt_nonneg_iff (by omega) (by omega)] at hnegative
        exact hfirst ⟨hsocket, hnegative⟩
      rw [if_pos hopen, if_neg (by omega)]
      simp only [hoffset, false_or]
      rcases aiqLeft_cases hopen arrival with hleft | ⟨hleft, -⟩
      · rw [hleft, if_neg (by omega)]
        exact ih (by omega) hlater
      · rw [if_neg (by omega), aiqReceiveLoop_whole hleft]
        simp

/-- A run whose accesses are inside the buffers does not fault, unless failed
receives make the number of missing bytes too large. -/
theorem rkAiqSocketClientINETReceive_no_fault {startTime : ℤ}
    {heap : List UInt8} {dataSize : BitVec 32} {header : AiqRecv}
    {arrivals : List AiqArrival}
    (hint : aiqRemainSize header + arrivals.length < 2 ^ 31)
    (hinside : InBounds AiqBuffer.size
      (aiqAccesses startTime heap dataSize header arrivals)) :
    rkAiqSocketClientINETReceive startTime heap dataSize header arrivals ≠
      .fault := by
  rw [rkAiqSocketClientINETReceive_eq]
  by_cases hpasses : AiqHeaderPasses dataSize header
  case neg => simp [hpasses]
  rw [aiqAccesses_of_passes startTime heap hpasses] at hinside
  obtain ⟨hroom, hstays, hfits⟩ := hinside hpasses
  have hsize := (aiqPacketSize header).isLt
  have hloop : aiqReassembly startTime header arrivals ≠ .fault := by
    rcases aiqRemainSize_cases hroom with ⟨hremain, -⟩ | hnegative
    · apply aiqReceiveLoop_ne_fault hsize hint
      rwa [hremain, sub_sub_cancel, ← hremain]
    · rw [aiqReassembly, aiqReceiveLoop_whole hnegative.le]
      simp
  rw [if_pos hpasses, if_neg (by omega)]
  split
  case _ packet hcomplete =>
    obtain ⟨-, hbrings⟩ := (aiqReassembly_complete_iff hroom).mp hcomplete
    obtain ⟨hdata, hsmall⟩ := hfits packet hbrings
    have hlength := hbrings.length_packet
    have hword : wordAt 14 (packet ++ heap) = wordAt 14 packet := by
      unfold wordAt
      rw [slice_append_left (by omega)]
    rw [aiqCheckPacket, RkAiqSocketData.parse, hword, if_pos (by
      rw [List.length_append]
      omega)]
    simp only
    split <;> simp
  case _ => simp
  case _ => simp
  case _ hfault => exact absurd hfault hloop

end RkaiqToolServer
