import RkaiqToolServer.FileBounds

/-!
# The packet of an offline raw command

`HandlerOfflineRawProcess` collects a packet like `HandlerReceiveFile` does, in
a block of the announced size.  A packet of one to fifty bytes is accepted,
while the first chunk is copied with its own size and 28 bytes are read back.
-/

namespace RkaiqToolServer

open ByteCodec ByteStores MemoryAccess

inductive OfflineBuffer
  | chunk (size : ℕ)
  | receivedPacket (size : ℕ)
  deriving DecidableEq

def OfflineBuffer.size : OfflineBuffer → ℕ
  | .chunk size | .receivedPacket size => size

def offlineFields : List (ℕ × ℕ) :=
  [(0, 8), (8, 8), (16, 4), (20, 4), (24, 4)]

def offlineLoopAccesses (startTime : ℤ) (buffer : List UInt8) (size : ℕ)
    (arrivals : List Arrival) : List (Access OfflineBuffer) :=
  let packetSize := uint64At 8 buffer
  let packet := OfflineBuffer.receivedPacket packetSize.toNat
  let receivedPacket :=
    overlay 0 (buffer.take size) (List.replicate packetSize.toNat 0)
  ((offlineRawRounds startTime buffer size arrivals).flatMap
    ReceiveRound.stores).map (Store.access packet) ++
    match receiveLoop startTime packetSize arrivals receivedPacket
        (packetSize - size.toUInt64) with
    | .complete _ =>
        offlineFields.map fun field => ⟨packet, field.1, field.2⟩
    | _ => []

/-- The reads and writes of `HandlerOfflineRawProcess`, up to a copy of the
chunk past the block. -/
def offlineAccesses (startTime : ℤ) (buffer : List UInt8) (size : ℕ)
    (arrivals : List Arrival) : List (Access OfflineBuffer) :=
  let packetSize := uint64At 8 buffer
  let packet := OfflineBuffer.receivedPacket packetSize.toNat
  ⟨.chunk size, 8, 8⟩ ::
    if packetSize ≤ 0 ∨ packetSize > 50 then []
    else
      ⟨packet, 0, packetSize.toNat⟩ :: ⟨.chunk size, 0, size⟩ ::
      ⟨packet, 0, size⟩ ::
      if packetSize.toNat < size then []
      else offlineLoopAccesses startTime buffer size arrivals

/-- No receive is made once the packet's bytes are there, and when they come in
time the loop ends with all of them. -/
def LoopEndsWhole (startTime : ℤ) (buffer : List UInt8) (size : ℕ)
    (arrivals : List Arrival) : Prop :=
  let rounds := offlineRawRounds startTime buffer size arrivals
  let packetSize := (uint64At 8 buffer).toNat
  OfflineRawLoopEntered buffer size →
    (∀ before round after, rounds = before ++ round :: after →
      size + (storedBytes (before.flatMap ReceiveRound.stores)).length <
        packetSize) ∧
    (PacketComes startTime (packetSize - size) arrivals →
      size + (storedBytes (rounds.flatMap ReceiveRound.stores)).length =
        packetSize)

/-- The chunk holds the packet's size and fits into the packet, and a packet
that comes whole has the fields. -/
def OfflineSizesFit (startTime : ℤ) (buffer : List UInt8) (size : ℕ)
    (arrivals : List Arrival) : Prop :=
  let packetSize := uint64At 8 buffer
  16 ≤ size ∧ (¬ (packetSize ≤ 0 ∨ packetSize > 50) →
    size ≤ packetSize.toNat ∧
      (PacketComes startTime (packetSize.toNat - size) arrivals →
        28 ≤ packetSize.toNat))

/-! ## The loop -/

/-- A round begins with bytes missing. -/
theorem missing_before_round {startTime : ℤ} {packetSize : UInt64}
    {arrivals : List Arrival}
    (hpositive : ∀ arrival ∈ arrivals, arrival.Positive) :
    ∀ {remainSize : UInt64} {before : List ReceiveRound}
      {round : ReceiveRound} {after : List ReceiveRound},
      receiveRounds startTime packetSize arrivals remainSize =
          before ++ round :: after →
        (storedBytes (before.flatMap ReceiveRound.stores)).length <
          remainSize.toNat := by
  induction arrivals with
  | nil =>
      intro remainSize before round after hsplit
      simp [receiveRounds] at hsplit
  | cons arrival arrivals ih =>
      intro remainSize before round after hsplit
      obtain ⟨⟨bytes, hrecv, -, -⟩, hrest⟩ := List.forall_mem_cons.mp hpositive
      by_cases hzero : remainSize = 0
      · simp [receiveRounds, hzero] at hsplit
      by_cases hintime : arrival.currentTime - startTime < 20
      case neg =>
        rw [receiveRounds, if_neg hzero, if_pos (by omega)] at hsplit
        simp at hsplit
      have hmissing : 0 < remainSize.toNat := by
        by_contra hnone
        exact hzero (UInt64.toNat_inj.mp (by
          rw [UInt64.toNat_zero]
          omega))
      rw [receiveRounds_received hzero hintime hrecv] at hsplit
      cases before with
      | nil => simpa using hmissing
      | cons first before =>
          obtain ⟨rfl, hlater⟩ := List.cons_eq_cons.mp hsplit
          have hstored := ih hrest hlater
          have hleft := sub_storedChunk_toNat remainSize bytes
          have hlength := length_storedChunk remainSize bytes
          rw [List.flatMap_cons, storedBytes_append, List.length_append]
          simp only [ReceiveRound.stores, storedBytes_cons, storedBytes_nil,
            List.append_nil]
          omega

/-- A packet that comes in time is stored whole. -/
theorem storedBytes_of_packetComes {startTime : ℤ} {packetSize : UInt64}
    {arrivals : List Arrival}
    (hpositive : ∀ arrival ∈ arrivals, arrival.Positive) :
    ∀ {remainSize : UInt64},
      PacketComes startTime remainSize.toNat arrivals →
        (storedBytes ((receiveRounds startTime packetSize arrivals
          remainSize).flatMap ReceiveRound.stores)).length =
            remainSize.toNat := by
  induction arrivals with
  | nil =>
      intro remainSize hcomes
      rw [packetComes_nil.mp hcomes]
      rfl
  | cons arrival arrivals ih =>
      intro remainSize hcomes
      obtain ⟨⟨bytes, hrecv, -, -⟩, hrest⟩ := List.forall_mem_cons.mp hpositive
      by_cases hzero : remainSize = 0
      · simp [receiveRounds, hzero]
      have hmissing : remainSize.toNat ≠ 0 := by
        intro h
        exact hzero (UInt64.toNat_inj.mp h)
      obtain ⟨hintime, hlater⟩ := (packetComes_cons hmissing).mp hcomes
      have hcount : arrival.count = min bytes.length maxPacketSize := by
        rw [Arrival.count, hrecv]
      have hleft := sub_storedChunk_toNat remainSize bytes
      have hlength := length_storedChunk remainSize bytes
      rw [hcount, ← hleft] at hlater
      have hstored := ih hrest hlater
      rw [receiveRounds_received hzero hintime hrecv, List.flatMap_cons,
        storedBytes_append, List.length_append]
      simp only [ReceiveRound.stores, storedBytes_cons, storedBytes_nil,
        List.append_nil]
      omega

theorem loopEndsWhole_of_positive (startTime : ℤ) (buffer : List UInt8)
    (size : ℕ) {arrivals : List Arrival}
    (hpositive : ∀ arrival ∈ arrivals, arrival.Positive) :
    LoopEndsWhole startTime buffer size arrivals := by
  rw [LoopEndsWhole]
  intro hentered
  have hremain := sub_size_toNat hentered.2
  have hsize := hentered.2
  rw [offlineRawRounds, if_pos hentered]
  constructor
  · intro before round after hsplit
    have hmissing := missing_before_round hpositive hsplit
    omega
  · intro hcomes
    rw [← hremain] at hcomes
    rw [storedBytes_of_packetComes hpositive hcomes]
    omega

/-! ## The handler -/

theorem offlineFields_inBounds_iff {packetSize : ℕ} :
    InBounds OfflineBuffer.size (offlineFields.map fun field =>
      (⟨.receivedPacket packetSize, field.1, field.2⟩ :
        Access OfflineBuffer)) ↔ 28 ≤ packetSize := by
  constructor
  · intro h
    have hlast := h ⟨.receivedPacket packetSize, 24, 4⟩
      (List.mem_map_of_mem (f := fun field : ℕ × ℕ =>
        (⟨.receivedPacket packetSize, field.1, field.2⟩ :
          Access OfflineBuffer)) (show (24, 4) ∈ offlineFields by decide))
    rw [Access.inside_iff, OfflineBuffer.size] at hlast
    simp only at hlast
    omega
  · intro hsize access haccess
    obtain ⟨field, hfield, rfl⟩ := List.mem_map.mp haccess
    have hend : ∀ field ∈ offlineFields, field.1 + field.2 ≤ 28 := by
      decide
    have hfits := hend field hfield
    exact Access.inside_natCast (by rw [OfflineBuffer.size]; omega)

/-- The loop writes inside the block, and what is read from a complete packet
is inside when the packet has 28 bytes. -/
theorem offlineLoopAccesses_inBounds_iff (startTime : ℤ)
    {buffer : List UInt8} {size : ℕ} {arrivals : List Arrival}
    (hpositive : ∀ arrival ∈ arrivals, arrival.Positive)
    (hentered : OfflineRawLoopEntered buffer size) :
    InBounds OfflineBuffer.size
        (offlineLoopAccesses startTime buffer size arrivals) ↔
      (PacketComes startTime ((uint64At 8 buffer).toNat - size) arrivals →
        28 ≤ (uint64At 8 buffer).toNat) := by
  obtain ⟨-, hsize⟩ := id hentered
  have hremain := sub_size_toNat hsize
  have hwrites : InBounds OfflineBuffer.size
      (((offlineRawRounds startTime buffer size arrivals).flatMap
        ReceiveRound.stores).map (Store.access
          (.receivedPacket (uint64At 8 buffer).toNat))) := by
    have haccounted := (offlineRawRounds_accounted_iff startTime buffer size
      arrivals).mpr fun _ => not_failsBeforeWhole_of_positive hpositive _ _
    have hstored := storedBytes_receiveRounds_le startTime
      (uint64At 8 buffer) hpositive (uint64At 8 buffer - size.toUInt64)
    refine inBounds_of_inOrder haccounted.inOrder ?_
    rw [OfflineBuffer.size, offlineRawRounds, if_pos hentered]
    omega
  have hblock := length_firstChunk buffer hsize
  have hmissing : (uint64At 8 buffer - size.toUInt64).toNat ≤
      (uint64At 8 buffer).toNat := by
    omega
  have hcomes := receiveLoop_complete_iff startTime hpositive hmissing hblock
  rw [hremain] at hcomes
  simp only [offlineLoopAccesses]
  rw [inBounds_append, and_iff_right hwrites, ← hcomes]
  split
  case _ packet hloop =>
    rw [offlineFields_inBounds_iff]
    simp [hloop]
  case _ hother =>
    have hnever : ¬ ∃ packet, receiveLoop startTime (uint64At 8 buffer)
        arrivals (overlay 0 (buffer.take size)
          (List.replicate (uint64At 8 buffer).toNat 0))
        (uint64At 8 buffer - size.toUInt64) = .complete packet := by
      rintro ⟨packet, hloop⟩
      exact hother packet hloop
    exact iff_of_true inBounds_nil fun h => absurd h hnever

/-- The handler stays in its buffers exactly when the sizes fit; the loop ends
with the packet anyway. -/
theorem offlineRaw_inBounds_iff (startTime : ℤ) (buffer : List UInt8)
    (size : ℕ) (arrivals : List Arrival)
    (hpositive : ∀ arrival ∈ arrivals, arrival.Positive) :
    (InBounds OfflineBuffer.size
        (offlineAccesses startTime buffer size arrivals) ∧
      LoopEndsWhole startTime buffer size arrivals) ↔
      OfflineSizesFit startTime buffer size arrivals := by
  rw [and_iff_left (loopEndsWhole_of_positive startTime buffer size hpositive)]
  simp only [offlineAccesses, OfflineSizesFit]
  have hheader : Access.Inside OfflineBuffer.size ⟨.chunk size, 8, 8⟩ ↔
      16 ≤ size := by
    rw [Access.inside_iff, OfflineBuffer.size]
    simp only
    omega
  rw [inBounds_cons, hheader]
  refine and_congr_right fun _ => ?_
  by_cases hrange : uint64At 8 buffer ≤ 0 ∨ uint64At 8 buffer > 50
  · rw [if_pos hrange]
    exact iff_of_true inBounds_nil fun hnot => absurd hrange hnot
  rw [if_neg hrange, inBounds_cons, inBounds_cons, inBounds_cons]
  have hmemset : Access.Inside OfflineBuffer.size
      ⟨.receivedPacket (uint64At 8 buffer).toNat, 0,
        (uint64At 8 buffer).toNat⟩ := Access.inside_start le_rfl
  have hread : Access.Inside OfflineBuffer.size ⟨.chunk size, 0, size⟩ :=
    Access.inside_start le_rfl
  rw [and_iff_right hmemset, and_iff_right hread, forall_prop_of_true hrange]
  by_cases hsize : size ≤ (uint64At 8 buffer).toNat
  · have hcopy : Access.Inside OfflineBuffer.size
        ⟨.receivedPacket (uint64At 8 buffer).toNat, 0, size⟩ :=
      Access.inside_start hsize
    rw [if_neg (not_lt.mpr hsize), and_iff_right hcopy, and_iff_right hsize]
    exact offlineLoopAccesses_inBounds_iff startTime hpositive ⟨hrange, hsize⟩
  · -- the copy of the chunk runs past the block
    have hcopy : ¬ Access.Inside OfflineBuffer.size
        ⟨.receivedPacket (uint64At 8 buffer).toNat, 0, size⟩ := by
      rw [Access.inside_iff, OfflineBuffer.size]
      simp only
      omega
    exact iff_of_false (fun h => hcopy h.1) fun h => hsize h.1

theorem offlineRaw_inBounds_iff_two_chunks :
    (InBounds OfflineBuffer.size
        (offlineAccesses 0 (padded 8 (ascii "OffRAW") ++ leBytes 8 28) 16
          [⟨0, some (List.replicate 12 0)⟩]) ∧
      LoopEndsWhole 0 (padded 8 (ascii "OffRAW") ++ leBytes 8 28) 16
        [⟨0, some (List.replicate 12 0)⟩]) ↔
      OfflineSizesFit 0 (padded 8 (ascii "OffRAW") ++ leBytes 8 28) 16
        [⟨0, some (List.replicate 12 0)⟩] :=
  offlineRaw_inBounds_iff 0 _ 16 _ (by simp [Arrival.Positive, maxPacketSize])

/-- A packet of twenty bytes is read up to its byte 28. -/
theorem offlineRaw_not_inBounds :
    ¬ ∀ (startTime : ℤ) (buffer : List UInt8) (size : ℕ)
      (arrivals : List Arrival),
      (∀ arrival ∈ arrivals, arrival.Positive) →
        InBounds OfflineBuffer.size
            (offlineAccesses startTime buffer size arrivals) ∧
          LoopEndsWhole startTime buffer size arrivals := by
  intro h
  have hinside := (h 0 (padded 8 (ascii "OffRAW") ++
    (leBytes 8 20 ++ List.replicate 4 0)) 20 [] (by simp)).1
  exact absurd hinside (by decide)

end RkaiqToolServer
