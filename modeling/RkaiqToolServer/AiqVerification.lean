import RkaiqToolServer.AiqReassembly

/-!
# What is accepted as a response of the service

`RkAiqSocketClientINETReceive` leaves by its value 1 before it touches the
caller's buffer, whatever stops it.  The one check that does not stop it is
that of the hash: a mismatch is logged, and the data are copied to the caller
all the same.
-/

namespace RkaiqToolServer

open ByteCodec

def AiqReceive.callerData (data : List UInt8) : AiqReceive → List UInt8
  | .returned _ (some receivedData) => overlay 0 receivedData.data data
  | _ => data

def RkAiqSocketData.hashMatches (receivedData : RkAiqSocketData) : Prop :=
  murMurHash receivedData.data (signed 32 receivedData.dataSize.toNat) =
    receivedData.dataHash

instance (receivedData : RkAiqSocketData) :
    Decidable receivedData.hashMatches :=
  inferInstanceAs (Decidable (_ = _))

/-- The mark and the announced size pass their checks. -/
def AiqHeaderPasses (dataSize : BitVec 32) (header : AiqRecv) : Prop :=
  (aiqTmpStr header).take 2 = aiqMagic ∧
    ¬ (aiqPacketSize header = 0 ∨
      (aiqPacketSize header - dataSize).toNat > 200)

instance (dataSize : BitVec 32) (header : AiqRecv) :
    Decidable (AiqHeaderPasses dataSize header) :=
  inferInstanceAs (Decidable (_ ∧ _))

/-- The receives bring a whole response, and this is what its fields say. -/
structure AiqResponse (startTime : ℤ) (heap : List UInt8)
    (dataSize : BitVec 32) (header : AiqRecv) (arrivals : List AiqArrival)
    (receivedData : RkAiqSocketData) : Prop where
  passes : AiqHeaderPasses dataSize header
  room : 6 ≤ (aiqPacketSize header).toNat
  stays : ¬ OffsetLeaves startTime 6 (aiqRemainSize header) arrivals
  parsed : ∃ packet,
    AiqBrings startTime (aiqRemainSize header) (aiqPacketSize header).toNat
        (aiqTmpStr header) arrivals packet ∧
      RkAiqSocketData.parse (packet ++ heap) = some receivedData

theorem AiqResponse.reassembled {startTime : ℤ} {heap : List UInt8}
    {dataSize : BitVec 32} {header : AiqRecv} {arrivals : List AiqArrival}
    {receivedData : RkAiqSocketData}
    (hresponse : AiqResponse startTime heap dataSize header arrivals
      receivedData) :
    ∃ packet, aiqReassembly startTime header arrivals = .complete packet ∧
      RkAiqSocketData.parse (packet ++ heap) = some receivedData := by
  obtain ⟨packet, hbrings, hparse⟩ := hresponse.parsed
  exact ⟨packet, (aiqReassembly_complete_iff hresponse.room).mpr
    ⟨hresponse.stays, hbrings⟩, hparse⟩

theorem aiqResponse_unique {startTime : ℤ} {heap : List UInt8}
    {dataSize : BitVec 32} {header : AiqRecv} {arrivals : List AiqArrival}
    {first second : RkAiqSocketData}
    (hfirst : AiqResponse startTime heap dataSize header arrivals first)
    (hsecond : AiqResponse startTime heap dataSize header arrivals second) :
    first = second := by
  obtain ⟨packet, hpacket, hparse⟩ := hfirst.reassembled
  obtain ⟨other, hother, hparsed⟩ := hsecond.reassembled
  obtain rfl : packet = other :=
    Reassembly.complete.inj (hpacket.symm.trans hother)
  exact Option.some.inj (hparse.symm.trans hparsed)

/-- The run in terms of its parts. -/
theorem rkAiqSocketClientINETReceive_eq (startTime : ℤ)
    (heap : List UInt8) (dataSize : BitVec 32) (header : AiqRecv)
    (arrivals : List AiqArrival) :
    rkAiqSocketClientINETReceive startTime heap dataSize header arrivals =
      if AiqHeaderPasses dataSize header then
        if (aiqPacketSize header).toNat < 6 then .fault
        else
          match aiqReassembly startTime header arrivals with
          | .complete receivedPacket =>
              aiqCheckPacket heap dataSize receivedPacket
          | .timeout => .returned 1 none
          | .waiting => .waiting
          | .fault => .fault
      else .returned 1 none := by
  have htmpStr : overlay 0 (header.receive 6).1 (List.replicate 6 0) =
      aiqTmpStr header := rfl
  have hsize : wordAt 2 (aiqTmpStr header) = aiqPacketSize header := rfl
  rw [rkAiqSocketClientINETReceive, htmpStr]
  simp only [hsize]
  by_cases hmagic : (aiqTmpStr header).take 2 = aiqMagic
  · by_cases hsizes : aiqPacketSize header = 0 ∨
        (aiqPacketSize header - dataSize).toNat > 200
    · have hfails : ¬ AiqHeaderPasses dataSize header :=
        fun h => h.2 hsizes
      rw [if_neg (not_not.mpr hmagic), if_pos hsizes, if_neg hfails]
    · have hpasses : AiqHeaderPasses dataSize header := ⟨hmagic, hsizes⟩
      rw [if_neg (not_not.mpr hmagic), if_neg hsizes, if_pos hpasses]
      rfl
  · have hfails : ¬ AiqHeaderPasses dataSize header := fun h => hmagic h.1
    rw [if_pos hmagic, if_neg hfails]

theorem not_aiqResponse_of_not_complete {startTime : ℤ}
    {heap : List UInt8} {dataSize : BitVec 32} {header : AiqRecv}
    {arrivals : List AiqArrival}
    (hloop : ∀ packet,
      aiqReassembly startTime header arrivals ≠ .complete packet)
    (receivedData : RkAiqSocketData) :
    ¬ AiqResponse startTime heap dataSize header arrivals receivedData := by
  intro hresponse
  obtain ⟨packet, hpacket, -⟩ := hresponse.reassembled
  exact hloop packet hpacket

/-- Either the run stops before the copy, or the response has the requested
size and its data are copied. -/
theorem rkAiqSocketClientINETReceive_cases (startTime : ℤ)
    (heap : List UInt8) (dataSize : BitVec 32) (header : AiqRecv)
    (arrivals : List AiqArrival) :
    (∃ receivedData,
      AiqResponse startTime heap dataSize header arrivals receivedData ∧
      receivedData.dataSize = dataSize ∧
      rkAiqSocketClientINETReceive startTime heap dataSize header arrivals =
        .returned 0 (some receivedData)) ∨
    (∀ receivedData,
      AiqResponse startTime heap dataSize header arrivals receivedData →
        receivedData.dataSize ≠ dataSize) ∧
      rkAiqSocketClientINETReceive startTime heap dataSize header arrivals ∈
        [.returned 1 none, .waiting, .fault] := by
  rw [rkAiqSocketClientINETReceive_eq]
  by_cases hpasses : AiqHeaderPasses dataSize header
  case neg =>
    right
    rw [if_neg hpasses]
    exact ⟨fun receivedData h => absurd h.passes hpasses, by simp⟩
  by_cases hroom : (aiqPacketSize header).toNat < 6
  · right
    rw [if_pos hpasses, if_pos hroom]
    exact ⟨fun receivedData h => absurd h.room (by omega), by simp⟩
  rw [if_pos hpasses, if_neg hroom]
  cases hloop : aiqReassembly startTime header arrivals with
  | complete receivedPacket =>
      have hroom' : 6 ≤ (aiqPacketSize header).toNat := by omega
      cases hparse : RkAiqSocketData.parse (receivedPacket ++ heap) with
      | none =>
          right
          refine ⟨fun receivedData h => ?_, by simp [aiqCheckPacket, hparse]⟩
          obtain ⟨packet, hpacket, hparsed⟩ := h.reassembled
          obtain rfl : receivedPacket = packet :=
            Reassembly.complete.inj (hloop.symm.trans hpacket)
          rw [hparse] at hparsed
          contradiction
      | some receivedData =>
          have hresponse : AiqResponse startTime heap dataSize header
              arrivals receivedData := by
            obtain ⟨hstays, hbrings⟩ :=
              (aiqReassembly_complete_iff hroom').mp hloop
            exact ⟨hpasses, hroom', hstays, receivedPacket, hbrings, hparse⟩
          by_cases hsize : receivedData.dataSize = dataSize
          · left
            exact ⟨receivedData, hresponse, hsize,
              by simp [aiqCheckPacket, hparse, hsize]⟩
          · right
            refine ⟨fun other h => ?_,
              by simp [aiqCheckPacket, hparse, hsize]⟩
            rw [aiqResponse_unique h hresponse]
            exact hsize
  | timeout | waiting | fault =>
      right
      exact ⟨fun receivedData h => absurd h
        (not_aiqResponse_of_not_complete (by simp [hloop]) receivedData),
        by simp⟩

/-! ## What is wanted of a run -/

/-- A run that returns 0 or writes to the caller has received data of the
requested size that match their hash, and any other value leaves the caller's
buffer as it was. -/
structure AiqVerified (dataSize : BitVec 32) (data : List UInt8)
    (run : AiqReceive) : Prop where
  success : ∀ received, run = .returned 0 received →
    ∃ receivedData, received = some receivedData ∧
      receivedData.dataSize = dataSize ∧ receivedData.hashMatches
  written : ∀ ret receivedData, run = .returned ret (some receivedData) →
    receivedData.dataSize = dataSize ∧ receivedData.hashMatches
  unchanged : ∀ ret received, run = .returned ret received → ret ≠ 0 →
    run.callerData data = data

/-- Only verified responses are accepted exactly when every response of the
requested size carries the hash of its data. -/
theorem rkAiqSocketClientINETReceive_verified_iff (startTime : ℤ)
    (heap : List UInt8) (dataSize : BitVec 32) (data : List UInt8)
    (header : AiqRecv) (arrivals : List AiqArrival) :
    AiqVerified dataSize data (rkAiqSocketClientINETReceive startTime heap
        dataSize header arrivals) ↔
      ∀ receivedData,
        AiqResponse startTime heap dataSize header arrivals receivedData →
          receivedData.dataSize = dataSize → receivedData.hashMatches := by
  rcases rkAiqSocketClientINETReceive_cases startTime heap dataSize header
    arrivals with ⟨receivedData, hresponse, hsize, hrun⟩ | ⟨hother, hrun⟩
  · rw [hrun]
    constructor
    · intro hverified other h _
      rw [aiqResponse_unique h hresponse]
      exact (hverified.written 0 receivedData rfl).2
    · intro hhash
      have hmatches := hhash receivedData hresponse hsize
      constructor
      · rintro _ ⟨⟩
        exact ⟨receivedData, rfl, hsize, hmatches⟩
      · rintro _ _ ⟨⟩
        exact ⟨hsize, hmatches⟩
      · rintro _ _ ⟨⟩ hret
        exact absurd rfl hret
  · apply iff_of_true
    · simp only [List.mem_cons, List.not_mem_nil, or_false] at hrun
      rcases hrun with hrun | hrun | hrun <;> rw [hrun] <;> constructor <;>
        simp [AiqReceive.callerData]
    · intro receivedData h hsize
      exact absurd hsize (hother receivedData h)

/-- One byte of data with a wrong hash is copied to the caller. -/
theorem rkAiqSocketClientINETReceive_wrong_hash :
    let wire : List UInt8 := aiqMagic ++ (leBytes 4 23 ++ (leBytes 4 17 ++
      (leBytes 4 0 ++ (leBytes 4 1 ++ ([7] ++ leBytes 4 0)))))
    let run := rkAiqSocketClientINETReceive 0 [] 1
      (.received (wire.take 6)) [⟨0, .received (wire.drop 6)⟩]
    (run = .returned 0 (some
        { packetSize := 23, commandID := 17, commandResult := 0,
          dataSize := 1, data := [7], dataHash := 0 }) ∧
      run.callerData [0] = [7]) ∧ ¬ AiqVerified 1 [0] run := by
  intro wire run
  have hrun : run = .returned 0 (some
      { packetSize := 23, commandID := 17, commandResult := 0,
        dataSize := 1, data := [7], dataHash := 0 }) := by
    decide
  refine ⟨⟨hrun, by rw [hrun]; rfl⟩, fun hverified => ?_⟩
  have hhash := (hverified.written 0 _ hrun).2
  exact absurd hhash (by decide)

end RkaiqToolServer
