import RkaiqToolServer.AiqPacket

/-!
# What is sent to the service is what would be received

The encoder lays the fields of a packet out one after the other and the decoder
takes them from fixed offsets.  The two agree on every field and on what the
packet size counts, and the receive loop puts the chunks of a packet together
again.
-/

namespace RkaiqToolServer

open ByteCodec

theorem wordAt_append {offset : ℕ} {before : List UInt8}
    (hbefore : before.length = offset) (word : BitVec 32)
    (after : List UInt8) :
    wordAt offset (before ++ (leBytes 4 word.toNat ++ after)) = word := by
  rw [wordAt, slice_field hbefore (length_leBytes 4 _), dataWord_leBytes]

theorem length_aiqMagic : aiqMagic.length = 2 := by decide

/-! ## The fields of a packet -/

theorem RkAiqSocketData.length_body (packet : RkAiqSocketData) :
    packet.body.length = 16 + packet.data.length := by
  simp only [body, List.length_append, length_leBytes]
  omega

theorem RkAiqSocketData.length_dataToSend (packet : RkAiqSocketData) :
    packet.dataToSend.length = 22 + packet.data.length := by
  simp only [dataToSend, List.length_append, length_leBytes,
    length_aiqMagic, packet.length_body]
  omega

/-- Every field is read back from the packet, whatever memory follows it. -/
theorem RkAiqSocketData.parse_dataToSend (packet : RkAiqSocketData)
    (hsize : packet.data.length = packet.dataSize.toNat)
    (hint : 18 + packet.data.length < 2 ^ 31) (after : List UInt8) :
    RkAiqSocketData.parse (packet.dataToSend ++ after) = some packet := by
  have hmagic := length_aiqMagic
  have hpacketSize : wordAt 2 (packet.dataToSend ++ after) =
      packet.packetSize := by
    simp only [dataToSend, List.append_assoc]
    exact wordAt_append hmagic _ _
  have hcommandID : wordAt 6 (packet.dataToSend ++ after) =
      packet.commandID := by
    rw [dataToSend, body, List.append_assoc _ _ after, List.append_assoc _ _
      after]
    exact wordAt_append (by simp [hmagic]) _ _
  have hcommandResult : wordAt 10 (packet.dataToSend ++ after) =
      packet.commandResult := by
    rw [dataToSend, body, ← List.append_assoc _ (leBytes 4 _) _,
      List.append_assoc _ _ after, List.append_assoc _ _ after]
    exact wordAt_append (by simp [hmagic]) _ _
  have hdataSize : wordAt 14 (packet.dataToSend ++ after) =
      packet.dataSize := by
    rw [dataToSend, body, ← List.append_assoc _ (leBytes 4 _) _,
      ← List.append_assoc _ (leBytes 4 _) _, List.append_assoc _ _ after,
      List.append_assoc _ _ after]
    exact wordAt_append (by simp [hmagic]) _ _
  have hdata : slice 18 packet.dataSize.toNat (packet.dataToSend ++ after) =
      packet.data := by
    rw [dataToSend, body, ← List.append_assoc _ (leBytes 4 _) _,
      ← List.append_assoc _ (leBytes 4 _) _,
      ← List.append_assoc _ (leBytes 4 _) _, List.append_assoc _ _ after,
      List.append_assoc _ _ after]
    exact slice_field (by simp [hmagic]) hsize
  have hdataHash : wordAt (18 + packet.dataSize.toNat)
      (packet.dataToSend ++ after) = packet.dataHash := by
    rw [dataToSend, body, ← List.append_assoc _ (leBytes 4 _) _,
      ← List.append_assoc _ (leBytes 4 _) _,
      ← List.append_assoc _ (leBytes 4 _) _, ← List.append_assoc _ packet.data,
      List.append_assoc _ _ after]
    exact wordAt_append (by simp [hmagic, hsize]; omega) _ _
  have hlength := packet.length_dataToSend
  rw [parse, hpacketSize, hcommandID, hcommandResult, hdataSize, hdata,
    hdataHash, if_pos]
  simp only [List.length_append, hlength]
  omega

/-! ## The receive loop -/

def AiqArrival.Positive (arrival : AiqArrival) (chunk : List UInt8) : Prop :=
  arrival.recv = .received chunk ∧
    1 ≤ chunk.length ∧ chunk.length ≤ maxPacketSize

def AiqArrival.bytes (arrival : AiqArrival) : List UInt8 :=
  match arrival.recv with
  | .received chunk => chunk
  | _ => []

/-- The first six bytes arrive together, the rest in chunks that `recv` can
return. -/
structure AiqSegmentation (wire first : List UInt8)
    (arrivals : List AiqArrival) : Prop where
  together : first.length = 6
  positive : ∀ arrival ∈ arrivals, arrival.Positive arrival.bytes
  whole : first ++ arrivals.flatMap AiqArrival.bytes = wire

theorem aiqReceiveLoop_cons
    {startTime : ℤ} {packetSize : ℕ} {arrival : AiqArrival}
    {got chunk : List UInt8} {rest : ℕ} (arrivals : List AiqArrival)
    (hpositive : arrival.Positive chunk) (hint : packetSize < 2 ^ 31)
    (hsize : packetSize = got.length + (chunk.length + rest))
    (htime : arrival.currentTime - startTime < 2) :
    aiqReceiveLoop startTime packetSize (arrival :: arrivals)
        (got ++ List.replicate (chunk.length + rest) 0)
        ((chunk.length + rest : ℕ) : ℤ) =
      aiqReceiveLoop startTime packetSize arrivals
        ((got ++ chunk) ++ List.replicate rest 0) (rest : ℤ) := by
  obtain ⟨hrecv, hpos, hmax⟩ := hpositive
  have hoffset : wrapInt ((packetSize : ℤ) -
      ((chunk.length + rest : ℕ) : ℤ)) = got.length := by
    rw [wrapInt_of_range (by omega) (by omega), hsize]
    push_cast
    omega
  have htake : chunk.take (min (chunk.length + rest) maxPacketSize) =
      chunk := List.take_of_length_le (by omega)
  have hleft : ((chunk.length + rest : ℕ) : ℤ) - (chunk.length : ℤ) =
      rest := by
    push_cast
    omega
  -- the buffer is cleared up to the size asked for, and already is zero there
  have hclear : overlay got.length
      (padded (min (chunk.length + rest) maxPacketSize) chunk)
      (got ++ List.replicate (chunk.length + rest) 0) =
      (got ++ chunk) ++ List.replicate rest 0 := by
    obtain ⟨asked, hasked⟩ : ∃ asked,
        min (chunk.length + rest) maxPacketSize = chunk.length + asked :=
      ⟨min (chunk.length + rest) maxPacketSize - chunk.length, by omega⟩
    have hrest : rest = asked + (rest - asked) := by omega
    have hsplit : List.replicate (chunk.length + rest) (0 : UInt8) =
        List.replicate (chunk.length + asked) 0 ++
          List.replicate (rest - asked) 0 := by
      rw [← List.replicate_add]
      congr 1
      omega
    have hpadded : padded (chunk.length + asked) chunk =
        chunk ++ List.replicate asked 0 := by
      rw [padded, Nat.add_sub_cancel_left]
    rw [hasked, hsplit, hpadded, overlay_append rfl (by simp),
      List.append_assoc, List.append_assoc, ← List.replicate_add, ← hrest]
  rw [aiqReceiveLoop, if_pos (by push_cast; omega), if_neg (by omega)]
  simp only [hoffset, Int.toNat_natCast, hrecv, AiqRecv.receive, htake,
    hclear, hleft]
  rw [if_neg (by omega)]

theorem aiqReceiveLoop_positive
    {startTime : ℤ} {packetSize : ℕ} {arrivals : List AiqArrival}
    (hpositive : ∀ arrival ∈ arrivals, arrival.Positive arrival.bytes)
    (htime : ∀ arrival ∈ arrivals, arrival.currentTime - startTime < 2)
    (hint : packetSize < 2 ^ 31) {got : List UInt8}
    (hsize : packetSize =
      got.length + (arrivals.flatMap AiqArrival.bytes).length) :
    aiqReceiveLoop startTime packetSize arrivals
        (got ++ List.replicate (arrivals.flatMap AiqArrival.bytes).length 0)
        ((arrivals.flatMap AiqArrival.bytes).length : ℤ) =
      .complete (got ++ arrivals.flatMap AiqArrival.bytes) := by
  induction arrivals generalizing got with
  | nil => simp [aiqReceiveLoop]
  | cons arrival arrivals ih =>
      rw [List.flatMap_cons, List.length_append] at hsize ⊢
      rw [aiqReceiveLoop_cons arrivals (hpositive arrival (by simp)) hint hsize
        (htime arrival (by simp)), ih, List.append_assoc]
      · intro later hlater
        exact hpositive later (List.mem_cons_of_mem arrival hlater)
      · intro later hlater
        exact htime later (List.mem_cons_of_mem arrival hlater)
      · rw [List.length_append]
        omega

/-! ## The round trip -/

theorem toNat_ofNat_packetSize {size : ℕ} (hsize : 22 + size < 2 ^ 31) :
    (BitVec.ofNat 32 (22 + size)).toNat = 22 + size ∧
      (BitVec.ofNat 32 (22 + size) - BitVec.ofNat 32 size).toNat = 22 ∧
      (BitVec.ofNat 32 (22 + size) - 6).toNat = 16 + size := by
  refine ⟨?_, ?_, ?_⟩
  · rw [BitVec.toNat_ofNat]
    omega
  · rw [BitVec.toNat_sub, BitVec.toNat_ofNat, BitVec.toNat_ofNat]
    omega
  · rw [BitVec.toNat_sub, BitVec.toNat_ofNat]
    simp only [BitVec.reduceToNat]
    omega

theorem aiqCheckPacket_dataToSend {commandID : BitVec 32}
    {data : List UInt8} (hsize : 22 + data.length < 2 ^ 31)
    (heap : List UInt8) :
    aiqCheckPacket heap (BitVec.ofNat 32 data.length)
        (aiqPacket commandID data).dataToSend =
      .returned 0 (some (aiqPacket commandID data)) := by
  have hparse := (aiqPacket commandID data).parse_dataToSend
    (by simp only [aiqPacket, BitVec.toNat_ofNat]; omega)
    (by simp only [aiqPacket]; omega) heap
  simp only [aiqCheckPacket, hparse]
  rw [if_neg]
  simp [aiqPacket]

theorem rkAiqSocketClientINETReceive_dataToSend {commandID : BitVec 32}
    {data : List UInt8} (hsize : 22 + data.length < 2 ^ 31)
    (startTime : ℤ) (heap : List UInt8) {first : List UInt8}
    {arrivals : List AiqArrival}
    (hseg : AiqSegmentation (aiqPacket commandID data).dataToSend first
      arrivals)
    (htime : ∀ arrival ∈ arrivals, arrival.currentTime - startTime < 2) :
    rkAiqSocketClientINETReceive startTime heap
        (BitVec.ofNat 32 data.length) (.received first) arrivals =
      .returned 0 (some (aiqPacket commandID data)) := by
  obtain ⟨hpacket, hdiff, hremain⟩ := toNat_ofNat_packetSize hsize
  have hfirst : first =
      aiqMagic ++ leBytes 4 (BitVec.ofNat 32 (22 + data.length)).toNat := by
    have hprefix := List.append_inj_left hseg.whole
      (by simp [hseg.together, length_aiqMagic])
    simpa [aiqPacket] using hprefix
  have hbody : (arrivals.flatMap AiqArrival.bytes).length =
      16 + data.length := by
    have hlength := congrArg List.length hseg.whole
    rw [List.length_append, hseg.together,
      RkAiqSocketData.length_dataToSend] at hlength
    simp only [aiqPacket] at hlength
    omega
  have htmpStr : overlay 0 ((AiqRecv.received first).receive 6).1
      (List.replicate 6 (0 : UInt8)) = first := by
    have hsix := hseg.together
    simp only [AiqRecv.receive, padded, overlay_zero]
    rw [List.take_of_length_le hsix.le, hsix]
    simp [hsix]
  have hmark : first.take 2 = aiqMagic := by
    rw [hfirst, ← length_aiqMagic, List.take_left]
  have hword : wordAt 2 first = BitVec.ofNat 32 (22 + data.length) := by
    rw [hfirst, ← List.append_nil (leBytes 4 _)]
    exact wordAt_append length_aiqMagic _ []
  have hblock : overlay 0 first
      (List.replicate (22 + data.length) (0 : UInt8)) =
      first ++ List.replicate (16 + data.length) 0 := by
    rw [overlay_zero, hseg.together, List.drop_replicate]
    congr 2
    omega
  have hremainSize : signed 32 (16 + data.length) =
      ((16 + data.length : ℕ) : ℤ) := signed_of_lt (by omega)
  have hloop := aiqReceiveLoop_positive hseg.positive htime hsize
    (show 22 + data.length = first.length + _ by
      rw [hseg.together, hbody]
      omega)
  rw [hbody, hseg.whole] at hloop
  have hnonzero : ¬ (BitVec.ofNat 32 (22 + data.length) = 0 ∨
      (BitVec.ofNat 32 (22 + data.length) -
        BitVec.ofNat 32 data.length).toNat > 200) := by
    rw [hdiff]
    rintro (hzero | hlarge)
    · have hnat : (0 : BitVec 32).toNat = 0 := rfl
      rw [hzero, hnat] at hpacket
      omega
    · omega
  simp only [rkAiqSocketClientINETReceive, htmpStr, hmark, hword, hpacket,
    hblock, hremain, hremainSize, hloop]
  rw [if_neg (by simp), if_neg hnonzero, if_neg (by omega)]
  exact aiqCheckPacket_dataToSend hsize heap

/-- What `RkAiqSocketClientINETSend` puts on the wire is received as the same
command and the same data, for every segmentation that arrives in time. -/
theorem rkAiqSocketClientINETReceive_sent (commandID : BitVec 32)
    {data : List UInt8} (hsize : 22 + data.length < 2 ^ 31)
    {client : DomainTCPClient} (hopen : client.sock ≠ -1) (errno : ℕ)
    {calls : ForwardCalls} {count : ℕ} (hsend : calls.send = .sent count)
    (hcount : 22 + data.length ≤ count)
    (startTime : ℤ) (heap : List UInt8) {first : List UInt8}
    {arrivals : List AiqArrival}
    (hseg : AiqSegmentation
      (rkAiqSocketClientINETSend client errno commandID data calls).1.handed
      first arrivals)
    (htime : ∀ arrival ∈ arrivals, arrival.currentTime - startTime < 2) :
    ∃ receivedData,
      rkAiqSocketClientINETReceive startTime heap
          (BitVec.ofNat 32 data.length) (.received first) arrivals =
        .returned 0 (some receivedData) ∧
      receivedData.commandID = commandID ∧ receivedData.data = data := by
  have hlength := (aiqPacket commandID data).length_dataToSend
  have hwire : (rkAiqSocketClientINETSend client errno commandID data
      calls).1.handed = (aiqPacket commandID data).dataToSend := by
    rw [rkAiqSocketClientINETSend, sendToAiq_handed, send_handed_eq_iff]
    exact .inr ⟨hopen, count, hsend, hlength.trans_le hcount⟩
  rw [hwire] at hseg
  exact ⟨aiqPacket commandID data,
    rkAiqSocketClientINETReceive_dataToSend hsize startTime heap hseg htime,
    rfl, rfl⟩

/-- Three bytes of data, received as the first six bytes and two chunks. -/
theorem threeBytes_received :
    let client : DomainTCPClient := { sock := 5 }
    let calls : ForwardCalls :=
      { send := .sent 25, setup := { created := none, connected := false } }
    let data : List UInt8 := [1, 2, 3]
    let wire := (rkAiqSocketClientINETSend client 0 17 data calls).1.handed
    ∃ receivedData,
      rkAiqSocketClientINETReceive 5 [] (BitVec.ofNat 32 data.length)
          (.received (wire.take 6))
          [{ currentTime := 5, recv := .received ((wire.drop 6).take 4) },
            { currentTime := 6, recv := .received ((wire.drop 6).drop 4) }] =
        .returned 0 (some receivedData) ∧
      receivedData.commandID = 17 ∧ receivedData.data = data := by
  intro client calls data wire
  have hlength : wire.length = 25 := by decide
  have hsize : 22 + data.length < 2 ^ 31 := by decide
  have hopen : client.sock ≠ -1 := by decide
  have hsend : calls.send = .sent 25 := rfl
  have hcount : 22 + data.length ≤ 25 := by decide
  refine rkAiqSocketClientINETReceive_sent 17 hsize hopen 0 hsend hcount 5 []
    ?_ ?_
  · constructor
    · simp [hlength]
    · simp [AiqArrival.Positive, AiqArrival.bytes, hlength, maxPacketSize]
    · simp only [AiqArrival.bytes, List.flatMap_cons, List.flatMap_nil,
        List.append_nil, List.take_append_drop, wire]
  · simp

end RkaiqToolServer
