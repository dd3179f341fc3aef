import RkaiqToolServer.AiqPacket
import RkaiqToolServer.ListSplits

/-!
# The response that the receives put together

The receive loop counts the bytes that are missing in an `int` and takes the
offset of the next receive from that number.  A failed receive counts as -1:
the next one writes over the last byte that came.  When no receive is made at
an offset outside the block, the loop ends with the bytes that the receives
bring, less one for each that failed.
-/

namespace RkaiqToolServer

open ByteCodec ListSplits

/-! ## Where the receives write -/

def AiqInTime (startTime : ℤ) (arrivals : List AiqArrival) : Prop :=
  ∀ arrival ∈ arrivals, arrival.currentTime - startTime < 2

theorem aiqInTime_cons {startTime : ℤ} {arrival : AiqArrival}
    {arrivals : List AiqArrival} :
    AiqInTime startTime (arrival :: arrivals) ↔
      arrival.currentTime - startTime < 2 ∧ AiqInTime startTime arrivals := by
  simp [AiqInTime]

/-- What a receive counts for at most. -/
def AiqArrival.count (arrival : AiqArrival) : ℤ :=
  match arrival.recv with
  | .received bytes => (min bytes.length maxPacketSize : ℕ)
  | .failed | .noSocket => -1

/-- After these receives some bytes are missing, as an `int` can tell. -/
def AiqMissing (missing : ℤ) (before : List AiqArrival) : Prop :=
  0 < missing - (before.map AiqArrival.count).sum ∧
    missing - (before.map AiqArrival.count).sum < 2 ^ 31

/-- A receive that is reached, in time and with bytes missing all along, is
made on a socket at an offset before the block or too large for an `int`:
`got` bytes are there when the receives begin. -/
def OffsetLeaves (startTime got missing : ℤ) (arrivals : List AiqArrival) :
    Prop :=
  ∃ before arrival after, arrivals = before ++ arrival :: after ∧
    arrival.recv ≠ .noSocket ∧ AiqInTime startTime (before ++ [arrival]) ∧
      (∀ earlier, earlier <+: before → AiqMissing missing earlier) ∧
        ¬ (0 ≤ got + (before.map AiqArrival.count).sum ∧
          got + (before.map AiqArrival.count).sum < 2 ^ 31)

theorem not_offsetLeaves_nil (startTime got missing : ℤ) :
    ¬ OffsetLeaves startTime got missing [] :=
  not_exists_append_nil

theorem not_offsetLeaves_whole {missing : ℤ}
    (hmissing : ¬ (0 < missing ∧ missing < 2 ^ 31)) (startTime got : ℤ)
    (arrivals : List AiqArrival) :
    ¬ OffsetLeaves startTime got missing arrivals := by
  rintro ⟨before, arrival, after, -, -, -, hreached, -⟩
  have hfirst := hreached [] List.nil_prefix
  simp only [AiqMissing, List.map_nil, List.sum_nil, sub_zero] at hfirst
  exact hmissing hfirst

theorem aiqMissing_cons {missing : ℤ} {arrival : AiqArrival}
    {before : List AiqArrival} :
    AiqMissing missing (arrival :: before) ↔
      AiqMissing (missing - arrival.count) before := by
  unfold AiqMissing
  rw [List.map_cons, List.sum_cons, ← sub_sub]

/-- The first receive is in time, and leaves or a later one does. -/
theorem offsetLeaves_cons {startTime got missing : ℤ} {arrival : AiqArrival}
    (hmissing : 0 < missing ∧ missing < 2 ^ 31)
    {arrivals : List AiqArrival} :
    OffsetLeaves startTime got missing (arrival :: arrivals) ↔
      arrival.currentTime - startTime < 2 ∧
        (arrival.recv ≠ .noSocket ∧ ¬ (0 ≤ got ∧ got < 2 ^ 31) ∨
          OffsetLeaves startTime (got + arrival.count)
            (missing - arrival.count) arrivals) := by
  have hnone : AiqMissing missing [] := by
    simpa [AiqMissing] using hmissing
  unfold OffsetLeaves
  rw [exists_append_cons_cons]
  simp only [List.nil_append, List.cons_append, aiqInTime_cons,
    List.prefix_nil, forall_eq, hnone, forall_prefix_cons, aiqMissing_cons,
    List.map_nil, List.map_cons, List.sum_nil, List.sum_cons, add_zero,
    ← add_assoc, true_and]
  constructor
  · rintro (⟨hsocket, ⟨hintime, -⟩, hleaves⟩ |
      ⟨before, left, after, hsplit, hsocket, ⟨hintime, hbefore⟩, hrest⟩)
    · exact ⟨hintime, .inl ⟨hsocket, hleaves⟩⟩
    · exact ⟨hintime, .inr ⟨before, left, after, hsplit, hsocket, hbefore,
        hrest⟩⟩
  · rintro ⟨hintime, ⟨hsocket, hleaves⟩ |
      ⟨before, left, after, hsplit, hsocket, hbefore, hrest⟩⟩
    · exact .inl ⟨hsocket, ⟨hintime, by simp [AiqInTime]⟩, hleaves⟩
    · exact .inr ⟨before, left, after, hsplit, hsocket,
        ⟨hintime, hbefore⟩, hrest⟩

/-! ## What the receives bring -/

/-- The bytes there after a receive: a failed one takes the last byte back. -/
def AiqArrival.extend (got : List UInt8) (arrival : AiqArrival) :
    List UInt8 :=
  match arrival.recv with
  | .received bytes => got ++ bytes.take maxPacketSize
  | .failed | .noSocket => got.dropLast

/-- The receives up to the first that leaves no byte missing come in time, and
`packet` is what they add to the bytes `got`; a packet that needs no receive is
filled with zeros. -/
def AiqBrings (startTime missing : ℤ) (packetSize : ℕ) (got : List UInt8)
    (arrivals : List AiqArrival) (packet : List UInt8) : Prop :=
  ∃ before after, arrivals = before ++ after ∧ AiqInTime startTime before ∧
    (∀ earlier, earlier <+: before → earlier ≠ before →
      AiqMissing missing earlier) ∧
    missing - (before.map AiqArrival.count).sum ≤ 0 ∧
    packet =
      padded packetSize ((before.foldl AiqArrival.extend got).take packetSize)

theorem AiqBrings.length_packet {startTime missing : ℤ} {packetSize : ℕ}
    {got packet : List UInt8} {arrivals : List AiqArrival}
    (hbrings : AiqBrings startTime missing packetSize got arrivals packet) :
    packet.length = packetSize := by
  obtain ⟨before, after, -, -, -, -, rfl⟩ := hbrings
  exact length_padded (List.length_take_le _ _)

theorem aiqBrings_whole {missing : ℤ} (hmissing : missing ≤ 0)
    {startTime : ℤ} {packetSize : ℕ} {got packet : List UInt8}
    {arrivals : List AiqArrival} :
    AiqBrings startTime missing packetSize got arrivals packet ↔
      packet = padded packetSize (got.take packetSize) := by
  constructor
  · rintro ⟨before, after, -, -, hreached, -, rfl⟩
    cases before with
    | nil => rfl
    | cons first before =>
        have hfirst := hreached [] List.nil_prefix (by simp)
        simp only [AiqMissing, List.map_nil, List.sum_nil, sub_zero] at hfirst
        omega
  · intro hpacket
    refine ⟨[], arrivals, rfl, by simp [AiqInTime], ?_, by simpa using
      hmissing, hpacket⟩
    intro earlier hearlier hproper
    exact absurd (List.prefix_nil.mp hearlier) hproper

/-- With bytes missing at least one receive is needed. -/
theorem not_aiqBrings_nil {missing : ℤ} (hmissing : 0 < missing)
    (startTime : ℤ) (packetSize : ℕ) (got packet : List UInt8) :
    ¬ AiqBrings startTime missing packetSize got [] packet := by
  rintro ⟨before, after, hsplit, -, -, hwhole, -⟩
  obtain ⟨rfl, -⟩ := List.append_eq_nil_iff.mp hsplit.symm
  simp only [List.map_nil, List.sum_nil, sub_zero] at hwhole
  omega

/-- With bytes missing the first receive is in time, and the number of them is
an `int`. -/
theorem aiqBrings_cons {startTime missing : ℤ} {packetSize : ℕ}
    {got packet : List UInt8} {arrival : AiqArrival}
    (hmissing : 0 < missing) {arrivals : List AiqArrival} :
    AiqBrings startTime missing packetSize got (arrival :: arrivals)
        packet ↔
      (missing < 2 ^ 31 ∧ arrival.currentTime - startTime < 2) ∧
        AiqBrings startTime (missing - arrival.count) packetSize
          (arrival.extend got) arrivals packet := by
  have hnone : AiqMissing missing [] ↔ missing < 2 ^ 31 := by
    simp [AiqMissing, hmissing]
  unfold AiqBrings
  rw [exists_append_cons, or_iff_right (by
    rintro ⟨-, -, hwhole, -⟩
    simp only [List.map_nil, List.sum_nil, sub_zero] at hwhole
    omega)]
  simp only [forall_prefix_cons, aiqInTime_cons, aiqMissing_cons, hnone,
    List.map_cons, List.sum_cons, ← sub_sub, List.foldl_cons, ne_eq,
    List.cons.injEq, true_and, reduceCtorEq, not_false_eq_true,
    forall_const]
  constructor
  · rintro ⟨before, after, hsplit, ⟨hintime, hbefore⟩, ⟨hint, hreached⟩,
      hrest⟩
    exact ⟨⟨hint, hintime⟩, before, after, hsplit, hbefore, hreached, hrest⟩
  · rintro ⟨⟨hint, hintime⟩, before, after, hsplit, hbefore, hreached,
      hrest⟩
    exact ⟨before, after, hsplit, ⟨hintime, hbefore⟩, ⟨hint, hreached⟩,
      hrest⟩

theorem not_aiqBrings_overflow {missing : ℤ} (hlarge : 2 ^ 31 ≤ missing)
    (startTime : ℤ) (packetSize : ℕ) (got packet : List UInt8)
    (arrivals : List AiqArrival) :
    ¬ AiqBrings startTime missing packetSize got arrivals packet := by
  cases arrivals with
  | nil => exact not_aiqBrings_nil (by omega) _ _ _ _
  | cons arrival arrivals =>
      rw [aiqBrings_cons (by omega)]
      rintro ⟨⟨hint, -⟩, -⟩
      omega

/-! ## The loop -/

/-- Before the block only receives without a socket are possible, and these
bring nothing. -/
theorem aiqReceiveLoop_before {startTime : ℤ} {packetSize : ℕ}
    {arrivals : List AiqArrival} :
    ∀ (block got packet : List UInt8) {remainSize : ℤ},
      packetSize < remainSize → remainSize < 2 ^ 31 →
      ¬ OffsetLeaves startTime (packetSize - remainSize) remainSize
        arrivals →
      aiqReceiveLoop startTime packetSize arrivals block remainSize ≠
          .complete packet ∧
        ¬ AiqBrings startTime remainSize packetSize got arrivals packet := by
  induction arrivals with
  | nil =>
      intro block got packet remainSize hbefore _ _
      constructor
      · rw [aiqReceiveLoop, if_pos (by omega)]
        simp
      · exact not_aiqBrings_nil (by omega) _ _ _ _
  | cons arrival arrivals ih =>
      intro block got packet remainSize hbefore hint hstays
      have hmissing : 0 < remainSize ∧ remainSize < 2 ^ 31 := by omega
      rw [aiqReceiveLoop, if_pos (by omega)]
      by_cases hintime : arrival.currentTime - startTime < 2
      case neg =>
        rw [if_pos (by omega), aiqBrings_cons hmissing.1]
        exact ⟨by simp, fun hbrings => hintime hbrings.1.2⟩
      rw [offsetLeaves_cons hmissing, and_iff_right hintime, not_or]
        at hstays
      obtain ⟨hfirst, hlater⟩ := hstays
      have hsocket : arrival.recv = .noSocket := by
        by_contra hsocket
        exact hfirst ⟨hsocket, by omega⟩
      have hcount : arrival.count = -1 := by
        rw [AiqArrival.count, hsocket]
      rw [if_neg (by omega), aiqBrings_cons hmissing.1,
        and_iff_right (⟨hint, hintime⟩ : remainSize < 2 ^ 31 ∧
          arrival.currentTime - startTime < 2), hcount]
      rw [hcount] at hlater
      simp only [hsocket, AiqRecv.receive, ne_eq, not_true, and_false,
        false_or]
      by_cases hlast : 2 ^ 31 ≤ remainSize - -1
      · rw [if_pos hlast]
        exact ⟨by simp, not_aiqBrings_overflow hlast _ _ _ _ _⟩
      · have hgot : (packetSize : ℤ) - remainSize + -1 =
            packetSize - (remainSize - -1) := by
          ring
        rw [hgot] at hlater
        rw [if_neg hlast]
        exact ih _ _ packet (by omega) (by omega) hlater

theorem aiqReceiveLoop_whole {remainSize : ℤ} (hwhole : remainSize ≤ 0)
    {startTime : ℤ} {packetSize : ℕ} {arrivals : List AiqArrival}
    {block : List UInt8} :
    aiqReceiveLoop startTime packetSize arrivals block remainSize =
      .complete block := by
  cases arrivals <;> rw [aiqReceiveLoop, if_neg (by omega)]

/-- The block begins with the bytes that came. -/
structure AiqHeld (packetSize : ℕ) (block got : List UInt8) : Prop where
  size : block.length = packetSize
  start : block.take got.length = got

theorem AiqHeld.length_le {packetSize : ℕ} {block got : List UInt8}
    (hheld : AiqHeld packetSize block got) : got.length ≤ packetSize := by
  rw [← hheld.start, List.length_take, hheld.size]
  exact min_le_right _ _

theorem AiqHeld.dropLast {packetSize : ℕ} {block got : List UInt8}
    (hheld : AiqHeld packetSize block got) :
    AiqHeld packetSize block got.dropLast := by
  refine ⟨hheld.size, ?_⟩
  have hlength : got.dropLast.length = got.length - 1 :=
    List.length_dropLast
  rw [hlength, List.dropLast_eq_take]
  calc
    block.take (got.length - 1) =
        (block.take got.length).take (got.length - 1) := by
          rw [List.take_take, min_eq_left (by omega)]
    _ = got.take (got.length - 1) := by rw [hheld.start]

/-- A receive clears the bytes it is asked for and writes what comes. -/
theorem AiqHeld.received {packetSize : ℕ} {block got : List UInt8}
    (hheld : AiqHeld packetSize block got) (chunk : List UInt8)
    {targetSize : ℕ} (hchunk : chunk.length ≤ targetSize)
    (hroom : got.length + targetSize ≤ packetSize) :
    AiqHeld packetSize
      (overlay got.length (padded targetSize chunk) block)
      (got ++ chunk) := by
  constructor
  · rw [length_overlay (by rw [length_padded hchunk, hheld.size]; exact hroom),
      hheld.size]
  · rw [overlay, padded, hheld.start, List.append_assoc, ← List.append_assoc
      got, List.take_left]

/-- A block that is full is what came, whatever comes after. -/
theorem AiqHeld.whole {packetSize : ℕ} {block got : List UInt8}
    (hheld : AiqHeld packetSize block got) (hfull : got.length = packetSize)
    (more : List UInt8) :
    padded packetSize ((got ++ more).take packetSize) = block := by
  have hblock : block = got := by
    rw [← hheld.start, hfull, ← hheld.size, List.take_length]
  rw [← hfull, List.take_left, padded, Nat.sub_self, hblock]
  simp

/-- A full block ends the loop with what came. -/
theorem AiqHeld.complete_iff {startTime : ℤ} {packetSize : ℕ}
    {packet block got : List UInt8} {arrivals : List AiqArrival}
    (hheld : AiqHeld packetSize block got)
    (hfull : ¬ (packetSize : ℤ) - got.length > 0) :
    Reassembly.complete block = .complete packet ↔
      AiqBrings startTime (packetSize - got.length) packetSize got arrivals
        packet := by
  have hlength := hheld.length_le
  have hwhole := hheld.whole (by omega) []
  rw [List.append_nil] at hwhole
  rw [aiqBrings_whole (by omega), hwhole, Reassembly.complete.injEq, eq_comm]

/-- A receive that fails counts one byte back. -/
theorem AiqArrival.counts_back {arrival : AiqArrival}
    (hrecv : arrival.recv = .failed ∨ arrival.recv = .noSocket)
    (got : List UInt8) :
    arrival.count = -1 ∧ arrival.extend got = got.dropLast := by
  rcases hrecv with hrecv | hrecv
  · rw [AiqArrival.count, AiqArrival.extend, hrecv]
    exact ⟨rfl, rfl⟩
  · rw [AiqArrival.count, AiqArrival.extend, hrecv]
    exact ⟨rfl, rfl⟩

/-- After a failed receive the loop goes on with one byte less. -/
theorem aiqReceiveLoop_failed {startTime : ℤ} {packetSize : ℕ}
    {packet block got : List UInt8} {arrivals : List AiqArrival}
    (hheld : AiqHeld packetSize block got)
    (hstays : ¬ OffsetLeaves startTime (got.length + -1)
      (packetSize - got.length - -1) arrivals)
    (hrest : packetSize - (got.dropLast.length : ℤ) < 2 ^ 31 →
      ¬ OffsetLeaves startTime got.dropLast.length
        (packetSize - got.dropLast.length) arrivals →
      (aiqReceiveLoop startTime packetSize arrivals block
          (packetSize - got.dropLast.length) = .complete packet ↔
        AiqBrings startTime (packetSize - got.dropLast.length) packetSize
          got.dropLast arrivals packet)) :
    (if 2 ^ 31 ≤ (packetSize : ℤ) - got.length - -1 then Reassembly.fault
      else aiqReceiveLoop startTime packetSize arrivals block
        (packetSize - got.length - -1)) = .complete packet ↔
      AiqBrings startTime (packetSize - got.length - -1) packetSize
        got.dropLast arrivals packet := by
  have hlength := hheld.length_le
  by_cases hlast : 2 ^ 31 ≤ (packetSize : ℤ) - got.length - -1
  · rw [if_pos hlast]
    exact iff_of_false (by simp) (not_aiqBrings_overflow hlast _ _ _ _ _)
  rw [if_neg hlast]
  by_cases hempty : got = []
  · subst got
    simp only [List.length_nil, Nat.cast_zero] at hstays hlast ⊢
    have hout := aiqReceiveLoop_before block [].dropLast packet
      (show (packetSize : ℤ) < packetSize - 0 - -1 by omega) (by omega) (by
        rwa [show (packetSize : ℤ) - (packetSize - 0 - -1) = 0 + -1 by ring])
    exact iff_of_false hout.1 hout.2
  · have hpos : 0 < got.length := List.length_pos_iff.mpr hempty
    have hdrop : got.dropLast.length = got.length - 1 :=
      List.length_dropLast
    have hgot : ((got.dropLast.length : ℕ) : ℤ) = got.length + -1 := by
      omega
    have hleft : (packetSize : ℤ) - got.length - -1 =
        packetSize - got.dropLast.length := by
      omega
    rw [hleft] at hstays hlast ⊢
    exact hrest (by omega) (by rwa [hgot] at hstays ⊢)

/-- After a receive that brings bytes the loop goes on behind them. -/
theorem aiqReceiveLoop_received {startTime : ℤ} {packetSize : ℕ}
    {packet block got bytes : List UInt8} {arrivals : List AiqArrival}
    (hheld : AiqHeld packetSize block got)
    (hmissing : 0 < (packetSize : ℤ) - got.length ∧
      (packetSize : ℤ) - got.length < 2 ^ 31)
    (hstays : ¬ OffsetLeaves startTime
      (got.length + (min bytes.length maxPacketSize : ℕ))
      (packetSize - got.length - (min bytes.length maxPacketSize : ℕ))
      arrivals)
    (hrest : ∀ {block got : List UInt8}, AiqHeld packetSize block got →
      (packetSize : ℤ) - got.length < 2 ^ 31 →
      ¬ OffsetLeaves startTime got.length (packetSize - got.length)
        arrivals →
        (aiqReceiveLoop startTime packetSize arrivals block
            (packetSize - got.length) = .complete packet ↔
          AiqBrings startTime (packetSize - got.length) packetSize got
            arrivals packet)) :
    aiqReceiveLoop startTime packetSize arrivals
        (overlay got.length
          (padded (min ((packetSize : ℤ) - got.length).toNat maxPacketSize)
            (bytes.take
              (min ((packetSize : ℤ) - got.length).toNat maxPacketSize)))
          block)
        (packetSize - got.length - (bytes.take
          (min ((packetSize : ℤ) - got.length).toNat maxPacketSize)).length) =
        .complete packet ↔
      AiqBrings startTime
        (packetSize - got.length - (min bytes.length maxPacketSize : ℕ))
        packetSize (got ++ bytes.take maxPacketSize) arrivals packet := by
  have hlength := hheld.length_le
  generalize htarget :
    min ((packetSize : ℤ) - got.length).toNat maxPacketSize = targetSize
  have hheld' := hheld.received (bytes.take targetSize)
    (List.length_take_le targetSize bytes) (by omega)
  have hchunk : (bytes.take targetSize).length =
      min targetSize bytes.length := List.length_take
  have hleft : (packetSize : ℤ) - got.length -
      (bytes.take targetSize).length =
        packetSize - (got ++ bytes.take targetSize).length := by
    rw [List.length_append]
    omega
  rw [hleft]
  by_cases hlast : min bytes.length maxPacketSize ≤
      packetSize - got.length
  · have hbytes : bytes.take maxPacketSize = bytes.take targetSize := by
      rw [List.take_eq_take_iff]
      omega
    have hgot : (got.length : ℤ) + (min bytes.length maxPacketSize : ℕ) =
        ((got ++ bytes.take targetSize).length : ℕ) := by
      rw [List.length_append]
      omega
    have hmissing' : (packetSize : ℤ) - got.length -
        (min bytes.length maxPacketSize : ℕ) =
          packetSize - (got ++ bytes.take targetSize).length := by
      omega
    rw [hgot, hmissing'] at hstays
    rw [hmissing', hbytes]
    exact hrest hheld' (by omega) hstays
  · -- the last receive, which could have brought more
    have hfull : (got ++ bytes.take targetSize).length = packetSize := by
      rw [List.length_append]
      omega
    have hmore : got ++ bytes.take maxPacketSize =
        (got ++ bytes.take targetSize) ++
          (bytes.take maxPacketSize).drop targetSize := by
      have hbytes : bytes.take targetSize =
          (bytes.take maxPacketSize).take targetSize := by
        rw [List.take_take, min_eq_left (by omega)]
      rw [hbytes, List.append_assoc, List.take_append_drop]
    have hwhole := hheld'.whole hfull
      ((bytes.take maxPacketSize).drop targetSize)
    rw [aiqBrings_whole (by omega), hmore, hwhole, hfull, sub_self,
      aiqReceiveLoop_whole le_rfl, Reassembly.complete.injEq, eq_comm]

/-- A loop that stays in its block ends with the bytes brought. -/
theorem aiqReceiveLoop_complete_iff {startTime : ℤ} {packetSize : ℕ}
    {packet : List UInt8} {arrivals : List AiqArrival} :
    ∀ {block got : List UInt8}, AiqHeld packetSize block got →
      (packetSize : ℤ) - got.length < 2 ^ 31 →
      ¬ OffsetLeaves startTime got.length (packetSize - got.length)
        arrivals →
        (aiqReceiveLoop startTime packetSize arrivals block
            (packetSize - got.length) = .complete packet ↔
          AiqBrings startTime (packetSize - got.length) packetSize got
            arrivals packet) := by
  induction arrivals with
  | nil =>
      intro block got hheld hint _
      rw [aiqReceiveLoop]
      by_cases hopen : (packetSize : ℤ) - got.length > 0
      · rw [if_pos hopen]
        exact iff_of_false (by simp) (not_aiqBrings_nil hopen _ _ _ _)
      · rw [if_neg hopen]
        exact hheld.complete_iff hopen
  | cons arrival arrivals ih =>
      intro block got hheld hint hstays
      have hlength := hheld.length_le
      rw [aiqReceiveLoop]
      by_cases hopen : (packetSize : ℤ) - got.length > 0
      case neg =>
        rw [if_neg hopen]
        exact hheld.complete_iff hopen
      by_cases hintime : arrival.currentTime - startTime < 2
      case neg =>
        rw [if_pos hopen, if_pos (by omega), aiqBrings_cons hopen]
        exact iff_of_false (by simp) fun hbrings => hintime hbrings.1.2
      have hmissing : 0 < (packetSize : ℤ) - got.length ∧
          (packetSize : ℤ) - got.length < 2 ^ 31 := ⟨hopen, hint⟩
      rw [offsetLeaves_cons hmissing, and_iff_right hintime, not_or]
        at hstays
      obtain ⟨hfirst, hlater⟩ := hstays
      have hoffset : (packetSize : ℤ) - (packetSize - got.length) =
          got.length := by
        ring
      have hstart : arrival.recv ≠ .noSocket →
          wrapInt (got.length : ℤ) = got.length := by
        intro hsocket
        have hsmall : (got.length : ℤ) < 2 ^ 31 := by
          by_contra hlarge
          exact hfirst ⟨hsocket, by omega⟩
        exact wrapInt_of_range (by omega) hsmall
      rw [if_pos hopen, if_neg (by omega), aiqBrings_cons hopen,
        and_iff_right ⟨hint, hintime⟩, hoffset]
      cases hrecv : arrival.recv with
      | noSocket =>
          obtain ⟨hcount, hextend⟩ := arrival.counts_back (.inr hrecv) got
          have hsame : ∀ offset : ℕ, overlay offset [] block = block := by
            intro offset
            simp [overlay]
          rw [hcount] at hlater ⊢
          rw [hextend]
          simp only [AiqRecv.receive, hsame, ne_eq, not_true, and_false,
            false_or]
          exact aiqReceiveLoop_failed hheld hlater (ih hheld.dropLast)
      | failed =>
          obtain ⟨hcount, hextend⟩ := arrival.counts_back (.inl hrecv) got
          rw [hcount] at hlater ⊢
          rw [hextend, hstart (by simp [hrecv])]
          simp only [AiqRecv.receive, Int.toNat_natCast]
          have hcleared := hheld.received []
            (show ([] : List UInt8).length ≤
              min ((packetSize : ℤ) - got.length).toNat maxPacketSize by simp)
            (by omega)
          rw [List.append_nil] at hcleared
          have hnot : ¬ ((got.length : ℤ) < 0 ∧
              AiqRecv.failed ≠ .noSocket) := by
            omega
          simp only [hnot, false_or]
          exact aiqReceiveLoop_failed hcleared hlater (ih hcleared.dropLast)
      | received bytes =>
          rw [hstart (by simp [hrecv])]
          simp only [AiqRecv.receive, Int.toNat_natCast]
          have hcontinues : ¬ (((got.length : ℤ) < 0 ∧
              AiqRecv.received bytes ≠ .noSocket) ∨
                2 ^ 31 ≤ (packetSize : ℤ) - got.length -
                  (bytes.take (min ((packetSize : ℤ) - got.length).toNat
                    maxPacketSize)).length) := by
            omega
          have hcount : arrival.count =
              (min bytes.length maxPacketSize : ℕ) := by
            rw [AiqArrival.count, hrecv]
          have hextend : arrival.extend got =
              got ++ bytes.take maxPacketSize := by
            rw [AiqArrival.extend, hrecv]
          rw [hcount] at hlater ⊢
          rw [hextend]
          simp only [hcontinues, if_false]
          exact aiqReceiveLoop_received hheld hmissing hlater ih

/-- What a receive takes off the missing bytes is its count, or the loop is
over by both numbers. -/
theorem aiqLeft_cases {remainSize : ℤ} (hopen : 0 < remainSize)
    (arrival : AiqArrival) :
    remainSize - (arrival.recv.receive
        (min remainSize.toNat maxPacketSize)).2 =
        remainSize - arrival.count ∨
      remainSize - (arrival.recv.receive
          (min remainSize.toNat maxPacketSize)).2 ≤ 0 ∧
        remainSize - arrival.count ≤ 0 := by
  cases hrecv : arrival.recv with
  | received bytes =>
      simp only [AiqRecv.receive, AiqArrival.count, hrecv, List.length_take]
      omega
  | failed | noSocket =>
      left
      simp only [AiqRecv.receive, AiqArrival.count, hrecv]

/-- An offset that is before the block or no `int` is negative. -/
theorem wrapInt_nonneg_iff {value : ℤ} (hlow : -2 ^ 31 ≤ value)
    (hhigh : value < 2 ^ 32) :
    0 ≤ wrapInt value ↔ 0 ≤ value ∧ value < 2 ^ 31 := by
  by_cases hint : value < 2 ^ 31
  · rw [wrapInt_of_range hlow hint]
    omega
  · rw [wrapInt_of_overflow (by omega) hhigh]
    omega

/-- A loop that ends with a block has not left it. -/
theorem aiqReceiveLoop_stays {startTime : ℤ} {packetSize : ℕ}
    (hpacket : packetSize < 2 ^ 32) {packet : List UInt8}
    {arrivals : List AiqArrival} :
    ∀ {block : List UInt8} {remainSize : ℤ}, remainSize < 2 ^ 31 →
      aiqReceiveLoop startTime packetSize arrivals block remainSize =
          .complete packet →
        ¬ OffsetLeaves startTime (packetSize - remainSize) remainSize
          arrivals := by
  induction arrivals with
  | nil =>
      intro block remainSize _ _
      exact not_offsetLeaves_nil _ _ _
  | cons arrival arrivals ih =>
      intro block remainSize hint hloop
      by_cases hopen : remainSize > 0
      case neg => exact not_offsetLeaves_whole (by omega) _ _ _
      by_cases hintime : arrival.currentTime - startTime < 2
      case neg =>
        rw [offsetLeaves_cons ⟨hopen, hint⟩]
        exact fun hleaves => hintime hleaves.1
      rw [aiqReceiveLoop, if_pos hopen, if_neg (by omega)] at hloop
      simp only at hloop
      split at hloop
      case isTrue => contradiction
      case isFalse hcontinues =>
        rw [not_or, not_and_or, not_not, not_lt,
          wrapInt_nonneg_iff (by omega) (by omega)] at hcontinues
        obtain ⟨hoffset, hleft⟩ := hcontinues
        rw [offsetLeaves_cons ⟨hopen, hint⟩, and_iff_right hintime, not_or]
        refine ⟨by tauto, ?_⟩
        have hrest := ih (by omega) hloop
        rcases aiqLeft_cases hopen arrival with hexact | ⟨-, hover⟩
        · rw [hexact] at hrest
          have hgot : (packetSize : ℤ) - remainSize + arrival.count =
              packetSize - (remainSize - arrival.count) := by
            ring
          rwa [hgot]
        · exact not_offsetLeaves_whole (by omega) _ _ _

/-! ## After the header -/

/-- The first six bytes, as the first receive leaves them. -/
def aiqTmpStr (header : AiqRecv) : List UInt8 :=
  overlay 0 (header.receive 6).1 (List.replicate 6 0)

def aiqPacketSize (header : AiqRecv) : BitVec 32 :=
  wordAt 2 (aiqTmpStr header)

def aiqRemainSize (header : AiqRecv) : ℤ :=
  signed 32 (aiqPacketSize header - 6).toNat

def aiqReassembly (startTime : ℤ) (header : AiqRecv)
    (arrivals : List AiqArrival) : Reassembly :=
  aiqReceiveLoop startTime (aiqPacketSize header).toNat arrivals
    (overlay 0 (aiqTmpStr header)
      (List.replicate (aiqPacketSize header).toNat 0))
    (aiqRemainSize header)

theorem length_aiqTmpStr (header : AiqRecv) :
    (aiqTmpStr header).length = 6 := by
  have hsix : (header.receive 6).1.length ≤ 6 := by
    cases header with
    | received bytes =>
        exact (length_padded (List.length_take_le 6 bytes)).le
    | failed => exact (length_padded (by simp)).le
    | noSocket => simp [AiqRecv.receive]
  rw [aiqTmpStr, length_overlay (by rw [List.length_replicate]; omega),
    List.length_replicate]

/-- What is missing after the six bytes, unless no `int` can tell. -/
theorem aiqRemainSize_cases {header : AiqRecv}
    (hroom : 6 ≤ (aiqPacketSize header).toNat) :
    aiqRemainSize header = (aiqPacketSize header).toNat - 6 ∧
        aiqRemainSize header < 2 ^ 31 ∨
      aiqRemainSize header < 0 := by
  have hsize := (aiqPacketSize header).isLt
  have hrest : (aiqPacketSize header - 6).toNat =
      (aiqPacketSize header).toNat - 6 := by
    rw [BitVec.toNat_sub]
    simp only [BitVec.reduceToNat]
    omega
  rw [aiqRemainSize, hrest, signed]
  split
  case isTrue hsmall =>
    norm_num at hsmall
    left
    omega
  case isFalse hlarge =>
    norm_num at hlarge ⊢
    omega

/-- The receives put together the packet that they bring, if they stay in its
block. -/
theorem aiqReassembly_complete_iff {startTime : ℤ} {header : AiqRecv}
    (hroom : 6 ≤ (aiqPacketSize header).toNat) {arrivals : List AiqArrival}
    {packet : List UInt8} :
    aiqReassembly startTime header arrivals = .complete packet ↔
      ¬ OffsetLeaves startTime 6 (aiqRemainSize header) arrivals ∧
        AiqBrings startTime (aiqRemainSize header)
          (aiqPacketSize header).toNat (aiqTmpStr header) arrivals
          packet := by
  have hsize := (aiqPacketSize header).isLt
  have hsix := length_aiqTmpStr header
  have hblock : overlay 0 (aiqTmpStr header)
      (List.replicate (aiqPacketSize header).toNat (0 : UInt8)) =
        padded (aiqPacketSize header).toNat (aiqTmpStr header) := by
    rw [overlay_zero, padded, List.drop_replicate]
  rw [aiqReassembly, hblock]
  rcases aiqRemainSize_cases hroom with ⟨hremain, hint⟩ | hnegative
  · have hheld : AiqHeld (aiqPacketSize header).toNat
        (padded (aiqPacketSize header).toNat (aiqTmpStr header))
        (aiqTmpStr header) :=
      ⟨length_padded (by omega), by rw [padded, List.take_left]⟩
    have hgot : ((aiqTmpStr header).length : ℤ) = 6 := by omega
    constructor
    · intro hloop
      have hstays := aiqReceiveLoop_stays hsize hint hloop
      rw [hremain, sub_sub_cancel, ← hgot] at hstays
      rw [hremain, ← hgot] at hloop hint ⊢
      exact ⟨hstays,
        (aiqReceiveLoop_complete_iff hheld hint hstays).mp hloop⟩
    · rw [hremain, ← hgot] at hint ⊢
      rintro ⟨hstays, hbrings⟩
      exact (aiqReceiveLoop_complete_iff hheld hint hstays).mpr hbrings
  · have hstays : ¬ OffsetLeaves startTime 6 (aiqRemainSize header)
        arrivals := not_offsetLeaves_whole (by omega) _ _ _
    rw [aiqReceiveLoop_whole hnegative.le, aiqBrings_whole hnegative.le,
      and_iff_right hstays, Reassembly.complete.injEq, eq_comm,
      List.take_of_length_le (by omega)]

end RkaiqToolServer
