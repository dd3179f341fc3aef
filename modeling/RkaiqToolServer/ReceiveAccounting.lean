import RkaiqToolServer.ByteStores
import RkaiqToolServer.FileTransfer
import RkaiqToolServer.ListSplits

/-!
# The accounts of the receive loops

`HandlerReceiveFile` and `HandlerOfflineRawProcess` collect the rest of their
packet with the same loop: the offset and the size of the next receive are
derived from the number of bytes that are missing, and the result of `recv` is
subtracted from that number.  The client socket has a receive timeout, so -1
is an ordinary result; it makes the number larger and the offset smaller.
-/

namespace RkaiqToolServer

open ByteCodec ByteStores ListSplits

/-- One receive of a loop: `recv` is what it stored, `none` when it returned
-1, and `left` the number of missing bytes after it. -/
structure ReceiveRound where
  offset : UInt64
  remainSize : UInt64
  recv : Option (List UInt8)
  left : UInt64

def ReceiveRound.stores (round : ReceiveRound) : List Store :=
  match round.recv with
  | none => []
  | some bytes => [⟨round.offset.toNat, bytes⟩]

def receiveRounds (startTime : ℤ) (packetSize : UInt64) :
    List Arrival → UInt64 → List ReceiveRound
  | [], _ => []
  | arrival :: arrivals, remainSize =>
      if remainSize = 0 then []
      else if arrival.currentTime - startTime ≥ 20 then []
      else
        let offset := packetSize - remainSize
        let targetSize :=
          if remainSize > maxPacketSize.toUInt64 then maxPacketSize.toUInt64
          else remainSize
        let recv := arrival.recv.map fun bytes =>
          bytes.take targetSize.toNat
        let left :=
          match recv with
          | none => remainSize + 1
          | some chunk => remainSize - chunk.length.toUInt64
        { offset := offset, remainSize := remainSize, recv := recv,
          left := left } ::
          receiveRounds startTime packetSize arrivals left

/-- The loop of `HandlerReceiveFile` and the tests before it; a first chunk
that does not fit into the block, or no block at all, ends the handler. -/
def FileLoopEntered (malloc : Malloc) (buffer : List UInt8) (size : ℕ) :
    Prop :=
  SizesPass (uint64At 8 buffer) (uint64At 416 buffer) ∧
    malloc.Holds (uint64At 8 buffer) ∧ size ≤ (uint64At 8 buffer).toNat

instance (malloc : Malloc) (buffer : List UInt8) (size : ℕ) :
    Decidable (FileLoopEntered malloc buffer size) :=
  inferInstanceAs (Decidable (_ ∧ _))

def fileRounds (malloc : Malloc) (startTime : ℤ) (buffer : List UInt8)
    (size : ℕ) (arrivals : List Arrival) : List ReceiveRound :=
  let packetSize := uint64At 8 buffer
  if FileLoopEntered malloc buffer size then
    receiveRounds startTime packetSize arrivals (packetSize - size.toUInt64)
  else []

def OfflineRawLoopEntered (buffer : List UInt8) (size : ℕ) : Prop :=
  ¬ (uint64At 8 buffer ≤ 0 ∨ uint64At 8 buffer > 50) ∧
    size ≤ (uint64At 8 buffer).toNat

instance (buffer : List UInt8) (size : ℕ) :
    Decidable (OfflineRawLoopEntered buffer size) :=
  inferInstanceAs (Decidable (_ ∧ _))

def offlineRawRounds (startTime : ℤ) (buffer : List UInt8) (size : ℕ)
    (arrivals : List Arrival) : List ReceiveRound :=
  let packetSize := uint64At 8 buffer
  if OfflineRawLoopEntered buffer size then
    receiveRounds startTime packetSize arrivals (packetSize - size.toUInt64)
  else []

/-- The number of missing bytes never grows, and every byte is stored at the
number of packet bytes before it; `size` is that of the first chunk. -/
structure Accounted (size : ℕ) (rounds : List ReceiveRound) : Prop where
  falling : ∀ round ∈ rounds, round.left ≤ round.remainSize
  inOrder : InOrder size (rounds.flatMap ReceiveRound.stores)

theorem accounted_nil (size : ℕ) : Accounted size [] :=
  ⟨by simp, trivial⟩

/-! ## The rounds are the loop -/

/-- What the loop leaves in the block are the stores of its rounds. -/
theorem receiveLoop_complete {startTime : ℤ} {packetSize : UInt64}
    {arrivals : List Arrival} :
    ∀ {block packet : List UInt8} {remainSize : UInt64},
      receiveLoop startTime packetSize arrivals block remainSize =
          .complete packet →
        packet = applyStores block ((receiveRounds startTime packetSize
          arrivals remainSize).flatMap ReceiveRound.stores) := by
  unfold applyStores
  induction arrivals with
  | nil =>
      intro block packet remainSize hloop
      rw [receiveLoop] at hloop
      split at hloop
      · simpa [receiveRounds] using hloop.symm
      · contradiction
  | cons arrival arrivals ih =>
      intro block packet remainSize hloop
      rw [receiveLoop] at hloop
      rw [receiveRounds]
      split at hloop
      case isTrue hzero =>
        rw [if_pos hzero]
        simpa using hloop.symm
      case isFalse hopen =>
        rw [if_neg hopen]
        split at hloop
        · contradiction
        case isFalse hintime =>
          rw [if_neg hintime]
          cases hrecv : arrival.recv with
          | none =>
              simp only [hrecv] at hloop
              simpa [ReceiveRound.stores] using ih hloop
          | some bytes =>
              simp only [hrecv, Option.map_some] at hloop ⊢
              generalize (if remainSize > maxPacketSize.toUInt64 then
                maxPacketSize.toUInt64 else remainSize) = targetSize
                at hloop ⊢
              split at hloop
              · simpa [ReceiveRound.stores, Store.apply] using ih hloop
              · contradiction

/-! ## A receive that fails -/

/-- The bytes a receive can bring at most. -/
def Arrival.count (arrival : Arrival) : ℕ :=
  match arrival.recv with
  | none => 0
  | some bytes => min bytes.length maxPacketSize

/-- A receive that comes in time, and finds bytes missing, returns -1. -/
def FailsBeforeWhole (startTime : ℤ) (missing : ℕ)
    (arrivals : List Arrival) : Prop :=
  ∃ before arrival after, arrivals = before ++ arrival :: after ∧
    arrival.recv = none ∧ InTime startTime (before ++ [arrival]) ∧
      (before.map Arrival.count).sum < missing

theorem inTime_cons {startTime : ℤ} {arrival : Arrival}
    {arrivals : List Arrival} :
    InTime startTime (arrival :: arrivals) ↔
      arrival.currentTime - startTime < 20 ∧ InTime startTime arrivals := by
  simp [InTime]

theorem not_failsBeforeWhole_zero (startTime : ℤ)
    (arrivals : List Arrival) : ¬ FailsBeforeWhole startTime 0 arrivals := by
  rintro ⟨before, arrival, after, -, -, -, hmissing⟩
  omega

theorem not_failsBeforeWhole_nil (startTime : ℤ) (missing : ℕ) :
    ¬ FailsBeforeWhole startTime missing [] :=
  not_exists_append_nil

/-- The first receive is in time, and fails or leaves it to a later one. -/
theorem failsBeforeWhole_cons {startTime : ℤ} {missing : ℕ}
    {arrival : Arrival} {arrivals : List Arrival} :
    FailsBeforeWhole startTime missing (arrival :: arrivals) ↔
      arrival.currentTime - startTime < 20 ∧
        (arrival.recv = none ∧ 0 < missing ∨
          FailsBeforeWhole startTime (missing - arrival.count) arrivals) := by
  have hcount : ∀ sum : ℕ, arrival.count + sum < missing ↔
      sum < missing - arrival.count := by
    omega
  unfold FailsBeforeWhole
  rw [exists_append_cons_cons]
  simp only [List.nil_append, List.cons_append, inTime_cons, List.map_nil,
    List.map_cons, List.sum_nil, List.sum_cons, hcount]
  constructor
  · rintro (⟨hrecv, ⟨hintime, -⟩, hmissing⟩ |
      ⟨before, failed, after, hsplit, hrecv, ⟨hintime, hbefore⟩, hmissing⟩)
    · exact ⟨hintime, .inl ⟨hrecv, hmissing⟩⟩
    · exact ⟨hintime, .inr ⟨before, failed, after, hsplit, hrecv, hbefore,
        hmissing⟩⟩
  · rintro ⟨hintime, ⟨hrecv, hmissing⟩ |
      ⟨before, failed, after, hsplit, hrecv, hbefore, hmissing⟩⟩
    · exact .inl ⟨hrecv, ⟨hintime, by simp [InTime]⟩, hmissing⟩
    · exact .inr ⟨before, failed, after, hsplit, hrecv, ⟨hintime, hbefore⟩,
        hmissing⟩

/-! ## The accounts -/

theorem targetSize_toNat (remainSize : UInt64) :
    (if remainSize > maxPacketSize.toUInt64 then maxPacketSize.toUInt64
      else remainSize).toNat = min remainSize.toNat maxPacketSize := by
  have hpacket : maxPacketSize.toUInt64.toNat = maxPacketSize := by decide
  split
  case isTrue hlarge =>
    rw [gt_iff_lt, UInt64.lt_iff_toNat_lt, hpacket] at hlarge
    omega
  case isFalse hsmall =>
    rw [gt_iff_lt, UInt64.lt_iff_toNat_lt, hpacket] at hsmall
    omega

def storedChunk (remainSize : UInt64) (bytes : List UInt8) : List UInt8 :=
  bytes.take (min remainSize.toNat maxPacketSize)

theorem length_storedChunk (remainSize : UInt64) (bytes : List UInt8) :
    (storedChunk remainSize bytes).length =
      min remainSize.toNat (min bytes.length maxPacketSize) := by
  rw [storedChunk, List.length_take]
  omega

theorem sub_storedChunk_toNat (remainSize : UInt64) (bytes : List UInt8) :
    (remainSize - (storedChunk remainSize bytes).length.toUInt64).toNat =
      remainSize.toNat - min bytes.length maxPacketSize := by
  have hlength := length_storedChunk remainSize bytes
  have hbound := remainSize.toNat_lt
  have hcount : (storedChunk remainSize bytes).length.toUInt64.toNat =
      (storedChunk remainSize bytes).length := by
    simp only [Nat.toUInt64, UInt64.toNat_ofNat']
    omega
  rw [UInt64.toNat_sub_of_le _ _ (by
    rw [UInt64.le_iff_toNat_le]
    omega)]
  omega

theorem receiveRounds_received {startTime : ℤ} {packetSize : UInt64}
    {arrival : Arrival} {bytes : List UInt8} {remainSize : UInt64}
    (hopen : remainSize ≠ 0)
    (hintime : arrival.currentTime - startTime < 20)
    (hrecv : arrival.recv = some bytes) (arrivals : List Arrival) :
    receiveRounds startTime packetSize (arrival :: arrivals) remainSize =
      { offset := packetSize - remainSize
        remainSize := remainSize
        recv := some (storedChunk remainSize bytes)
        left := remainSize -
          (storedChunk remainSize bytes).length.toUInt64 } ::
      receiveRounds startTime packetSize arrivals
        (remainSize - (storedChunk remainSize bytes).length.toUInt64) := by
  rw [receiveRounds, if_neg hopen, if_neg (by omega)]
  simp only [hrecv, Option.map_some, targetSize_toNat, storedChunk]

/-- A receive with bytes missing and all of the packet in the block stays
inside the block. -/
theorem receiveLoop_received {startTime : ℤ} {packetSize : UInt64}
    {arrival : Arrival} {bytes block : List UInt8} {remainSize : UInt64}
    (hopen : remainSize ≠ 0)
    (hintime : arrival.currentTime - startTime < 20)
    (hrecv : arrival.recv = some bytes)
    (hsize : remainSize.toNat ≤ packetSize.toNat)
    (hblock : block.length = packetSize.toNat) (arrivals : List Arrival) :
    ∃ stored, stored.length = packetSize.toNat ∧
      receiveLoop startTime packetSize (arrival :: arrivals) block
          remainSize =
        receiveLoop startTime packetSize arrivals stored
          (remainSize - (storedChunk remainSize bytes).length.toUInt64) := by
  have hoffset : (packetSize - remainSize).toNat =
      packetSize.toNat - remainSize.toNat :=
    UInt64.toNat_sub_of_le _ _ (UInt64.le_iff_toNat_le.mpr hsize)
  have hlength := length_storedChunk remainSize bytes
  have hroom : packetSize.toNat - remainSize.toNat +
      (storedChunk remainSize bytes).length ≤ block.length := by
    omega
  refine ⟨overlay (packetSize.toNat - remainSize.toNat)
    (storedChunk remainSize bytes) block, ?_, ?_⟩
  · rw [length_overlay hroom, hblock]
  · rw [receiveLoop, if_neg hopen, if_neg (by omega)]
    simp only [hrecv, targetSize_toNat, hoffset]
    exact if_pos hroom

/-- A failed receive leaves more bytes missing than before. -/
theorem not_accounted_failed {remainSize offset : UInt64} {got : ℕ}
    (hbound : remainSize.toNat < 2 ^ 64 - 1)
    (rounds : List ReceiveRound) :
    ¬ Accounted got
      ({ offset := offset, remainSize := remainSize, recv := none,
         left := remainSize + 1 } :: rounds) := by
  intro haccounted
  have hfalling := haccounted.falling _ List.mem_cons_self
  rw [UInt64.le_iff_toNat_le, UInt64.toNat_add] at hfalling
  simp only [UInt64.toNat_one] at hfalling
  omega

theorem accounted_received {remainSize offset : UInt64} {got : ℕ}
    {chunk : List UInt8} (hoffset : offset.toNat = got)
    (hchunk : chunk.length ≤ remainSize.toNat)
    (rounds : List ReceiveRound) :
    Accounted got
        ({ offset := offset, remainSize := remainSize, recv := some chunk,
           left := remainSize - chunk.length.toUInt64 } :: rounds) ↔
      Accounted (got + chunk.length) rounds := by
  have hlength : chunk.length.toUInt64.toNat = chunk.length := by
    have hbound := remainSize.toNat_lt
    simp only [Nat.toUInt64, UInt64.toNat_ofNat']
    omega
  have hleft : remainSize - chunk.length.toUInt64 ≤ remainSize := by
    rw [UInt64.le_iff_toNat_le, UInt64.toNat_sub_of_le _ _ (by
      rw [UInt64.le_iff_toNat_le]
      omega)]
    omega
  constructor
  · intro haccounted
    exact ⟨fun round hround =>
        haccounted.falling round (List.mem_cons_of_mem _ hround),
      haccounted.inOrder.2⟩
  · rintro ⟨hfalling, hinOrder⟩
    exact ⟨List.forall_mem_cons.mpr ⟨hleft, hfalling⟩,
      by rw [hoffset], hinOrder⟩

theorem receiveRounds_accounted_iff {startTime : ℤ} {packetSize : UInt64}
    (hpacket : packetSize.toNat < 2 ^ 64 - 1) {arrivals : List Arrival} :
    ∀ {got : ℕ} {remainSize : UInt64},
      packetSize.toNat = got + remainSize.toNat →
        (Accounted got
            (receiveRounds startTime packetSize arrivals remainSize) ↔
          ¬ FailsBeforeWhole startTime remainSize.toNat arrivals) := by
  induction arrivals with
  | nil =>
      intro got remainSize _
      simp [receiveRounds, accounted_nil, not_failsBeforeWhole_nil]
  | cons arrival arrivals ih =>
      intro got remainSize hsize
      by_cases hzero : remainSize = 0
      · subst remainSize
        simp [receiveRounds, accounted_nil, not_failsBeforeWhole_zero]
      by_cases hintime : arrival.currentTime - startTime < 20
      case neg =>
        rw [receiveRounds, if_neg hzero, if_pos (by omega)]
        simp [accounted_nil, failsBeforeWhole_cons, hintime]
      have hmissing : remainSize.toNat ≠ 0 := by
        intro h
        exact hzero (UInt64.toNat_inj.mp h)
      cases hrecv : arrival.recv with
      | none =>
          have hfails : FailsBeforeWhole startTime remainSize.toNat
              (arrival :: arrivals) :=
            failsBeforeWhole_cons.mpr
              ⟨hintime, .inl ⟨hrecv, by omega⟩⟩
          rw [receiveRounds, if_neg hzero, if_neg (by omega), hrecv]
          exact iff_of_false (not_accounted_failed (by omega) _)
            (not_not_intro hfails)
      | some bytes =>
          have hoffset : (packetSize - remainSize).toNat = got := by
            rw [UInt64.toNat_sub_of_le _ _ (by
              rw [UInt64.le_iff_toNat_le]
              omega)]
            omega
          have hlength := length_storedChunk remainSize bytes
          have hleft := sub_storedChunk_toNat remainSize bytes
          have hcount : arrival.count = min bytes.length maxPacketSize := by
            rw [Arrival.count, hrecv]
          rw [receiveRounds_received hzero hintime hrecv,
            accounted_received hoffset (by omega), ih (by omega), hleft,
            failsBeforeWhole_cons, hcount]
          simp [hrecv, hintime]

/-- The block that holds the first chunk has the packet's size. -/
theorem length_firstChunk {packetSize : UInt64} (buffer : List UInt8)
    {size : ℕ} (hsize : size ≤ packetSize.toNat) :
    (overlay 0 (buffer.take size)
      (List.replicate packetSize.toNat (0 : UInt8))).length =
        packetSize.toNat := by
  rw [length_overlay (by simp; omega), List.length_replicate]

theorem sub_size_toNat {packetSize : UInt64} {size : ℕ}
    (hsize : size ≤ packetSize.toNat) :
    (packetSize - size.toUInt64).toNat = packetSize.toNat - size := by
  have hbound := packetSize.toNat_lt
  have hcount : size.toUInt64.toNat = size := by
    simp only [Nat.toUInt64, UInt64.toNat_ofNat']
    omega
  rw [UInt64.toNat_sub_of_le _ _ (by
    rw [UInt64.le_iff_toNat_le]
    omega), hcount]

/-- The loop of the raw process, whose packet has at most 50 bytes. -/
theorem offlineRawRounds_accounted_iff (startTime : ℤ) (buffer : List UInt8)
    (size : ℕ) (arrivals : List Arrival) :
    Accounted size (offlineRawRounds startTime buffer size arrivals) ↔
      (OfflineRawLoopEntered buffer size → ¬ FailsBeforeWhole startTime
        ((uint64At 8 buffer).toNat - size) arrivals) := by
  rw [offlineRawRounds]
  by_cases hentered : OfflineRawLoopEntered buffer size
  · obtain ⟨hrange, hsize⟩ := id hentered
    have hsmall : (uint64At 8 buffer).toNat ≤ 50 := by
      have hle : uint64At 8 buffer ≤ 50 := by
        rw [not_or] at hrange
        exact UInt64.not_lt.mp hrange.2
      simpa [UInt64.le_iff_toNat_le] using hle
    rw [if_pos hentered, receiveRounds_accounted_iff (by omega)
      (by rw [sub_size_toNat hsize]; omega), sub_size_toNat hsize]
    simp [hentered]
  · simp [hentered, accounted_nil]

/-- The accounts of a loop are right exactly when none of its receives
fails. -/
theorem receiveLoops_accounted_iff (malloc : Malloc) (startTime : ℤ)
    (buffer : List UInt8) (size : ℕ) (arrivals : List Arrival) :
    (Accounted size (fileRounds malloc startTime buffer size arrivals) ↔
        (FileLoopEntered malloc buffer size → ¬ FailsBeforeWhole startTime
          ((uint64At 8 buffer).toNat - size) arrivals)) ∧
      (Accounted size (offlineRawRounds startTime buffer size arrivals) ↔
        (OfflineRawLoopEntered buffer size → ¬ FailsBeforeWhole startTime
          ((uint64At 8 buffer).toNat - size) arrivals)) := by
  refine ⟨?_, offlineRawRounds_accounted_iff startTime buffer size arrivals⟩
  rw [fileRounds]
  by_cases hentered : FileLoopEntered malloc buffer size
  · obtain ⟨-, halloc, hsize⟩ := id hentered
    have hlarge := halloc.toNat_lt
    rw [if_pos hentered, receiveRounds_accounted_iff (by omega)
      (by rw [sub_size_toNat hsize]; omega), sub_size_toNat hsize]
    simp [hentered]
  · simp [hentered, accounted_nil]

/-- After a timeout the next byte is stored over the last one, in both
loops. -/
theorem receiveLoops_timeout :
    ¬ Accounted 424 (fileRounds .ample 0
        (ascii "SendFile" ++ (leBytes 8 600 ++
          (List.replicate 400 0 ++ leBytes 8 172))) 424
        [⟨3, none⟩, ⟨3, some [1]⟩]) ∧
      ¬ Accounted 16 (offlineRawRounds 0
        (padded 8 (ascii "OffRAW") ++ leBytes 8 28) 16
        [⟨3, none⟩, ⟨3, some [1]⟩]) := by
  constructor
  · intro haccounted
    exact absurd haccounted.inOrder (by decide)
  · intro haccounted
    exact absurd haccounted.inOrder (by decide)

end RkaiqToolServer
