import RkaiqToolServer.ByteStores
import RkaiqToolServer.CommandData
import RkaiqToolServer.MessageForward

/-!
# The answer to a parameter block

After a parameter block `DoCheckSum` waits for a command that carries the sum
the other side has computed.  Its loop means to retry a receive that times out
three times, but it keeps the result of `recv` in a `size_t`: no result is
below zero, a failure is subtracted from what is left like any other count,
and the next bytes are stored one place too early.
-/

namespace RkaiqToolServer

open ByteCodec ByteStores MemoryAccess

/-- What one `recv` returns: the bytes it stores, none when the peer has closed
the connection, or -1 with `errno`. -/
inductive CheckRecv
  | received (bytes : List UInt8)
  | failed (errno : ℕ)
  deriving DecidableEq

def CheckRecv.bytes : CheckRecv → List UInt8
  | .received bytes => bytes
  | .failed _ => []

/-- The stored result when `remainSize` bytes are asked for; -1 becomes the
largest `size_t`. -/
def CheckRecv.recvSize (recv : CheckRecv) (remainSize : ℕ) : UInt64 :=
  match recv with
  | .received bytes => (bytes.take remainSize).length.toUInt64
  | .failed _ => -1

/-- An `int` less a `size_t`, converted to `int`. -/
def intMinusSize (remainSize : ℤ) (recvSize : UInt64) : ℤ :=
  wrapInt (remainSize - recvSize.toNat)

structure CheckLoop where
  remainSize : ℤ
  tryCount : ℤ
  /-- The loop was left by `break`. -/
  broken : Bool
  recvData : List UInt8
  /-- What the receives have written, in their order. -/
  stores : List Store

def CheckLoop.initial (stack : List UInt8) : CheckLoop where
  remainSize := commandDataSize
  tryCount := 3
  broken := false
  recvData := stack
  stores := []

def CheckLoop.Running (s : CheckLoop) : Prop :=
  s.broken = false ∧ 0 < s.remainSize

instance (s : CheckLoop) : Decidable s.Running :=
  inferInstanceAs (Decidable (_ ∧ _))

def CheckLoop.store (s : CheckLoop) (store : Store) : CheckLoop :=
  { s with
    recvData := store.apply s.recvData
    stores := s.stores ++ [store] }

def CheckLoop.subtract (s : CheckLoop) (recvSize : UInt64) : CheckLoop :=
  { s with remainSize := intMinusSize s.remainSize recvSize }

/-- One round; after the last one nothing changes any more. -/
def CheckLoop.round (s : CheckLoop) (recv : CheckRecv) : CheckLoop :=
  if s.Running then
    let recvSize := recv.recvSize s.remainSize.toNat
    let stored := s.store
      ⟨commandDataSize - s.remainSize, recv.bytes.take s.remainSize.toNat⟩
    if recvSize < 0 then
      if recv = .failed eagain then
        let tryCount := s.tryCount - 1
        { stored with
          tryCount := tryCount
          broken := decide (tryCount < 0) }
      else stored.subtract recvSize
    else stored.subtract recvSize
  else s

def checkLoop (stack : List UInt8) (outcomes : ℕ → CheckRecv) :
    ℕ → CheckLoop
  | 0 => .initial stack
  | rounds + 1 => (checkLoop stack outcomes rounds).round (outcomes rounds)

def recvCheckSum (cmd : CommandData) : UInt16 :=
  cmd.dat[0].toUInt16 + cmd.dat[1].toUInt16 <<< 8

/-- What `DoCheckSum` returns after its loop. -/
def doCheckSum (checkSum : UInt16) (s : CheckLoop) : ℤ :=
  if checkSum ≠ recvCheckSum (.ofBuffer s.recvData) then -1 else 0

/-! ## What is wanted of the loop -/

def againCount (outcomes : ℕ → CheckRecv) (rounds : ℕ) : ℕ :=
  (List.range rounds).countP fun k => outcomes k = .failed eagain

def CheckLoop.accesses (s : CheckLoop) : List (Access Unit) :=
  s.stores.map (Store.access ())

/-- The loop ends after at most four timeouts and stores only into `recv_data`,
and 0 is returned only for a whole command with this sum. -/
structure CheckSumBounded (stack : List UInt8) (checkSum : UInt16)
    (outcomes : ℕ → CheckRecv) : Prop where
  ends : ∃ rounds, ¬ (checkLoop stack outcomes rounds).Running ∧
    againCount outcomes rounds ≤ 4
  inside : ∀ rounds, InBounds (fun _ => maxPacketSize)
    (checkLoop stack outcomes rounds).accesses
  verified : ∀ rounds, ¬ (checkLoop stack outcomes rounds).Running →
    doCheckSum checkSum (checkLoop stack outcomes rounds) = 0 →
      let command := storedBytes (checkLoop stack outcomes rounds).stores
      commandDataSize ≤ command.length ∧ uint16At 22 command = checkSum

def receivedCount (outcomes : ℕ → CheckRecv) (rounds : ℕ) : ℕ :=
  ((List.range rounds).map fun k => (outcomes k).bytes.length).sum

/-- Every receive before the command is there succeeds. -/
def NoFailureBeforeWhole (outcomes : ℕ → CheckRecv) : Prop :=
  ∀ rounds errno, outcomes rounds = .failed errno →
    commandDataSize ≤ receivedCount outcomes rounds

/-! ## One round -/

theorem round_received {s : CheckLoop} (hrunning : s.Running)
    (bytes : List UInt8) :
    s.round (.received bytes) =
      (s.store ⟨commandDataSize - s.remainSize,
        bytes.take s.remainSize.toNat⟩).subtract
          (bytes.take s.remainSize.toNat).length.toUInt64 := by
  rw [CheckLoop.round, if_pos hrunning]
  simp only [UInt64.not_lt_zero, if_false, CheckRecv.bytes,
    CheckRecv.recvSize]

theorem intMinusSize_received {remainSize : ℤ} {count : ℕ}
    (hcount : count ≤ remainSize) (hbound : remainSize < 2 ^ 31) :
    intMinusSize remainSize count.toUInt64 = remainSize - count := by
  have htoNat : count.toUInt64.toNat = count := by
    simp only [Nat.toUInt64, UInt64.toNat_ofNat']
    omega
  rw [intMinusSize, htoNat]
  exact wrapInt_of_range (by omega) (by omega)

/-! ## Receives that succeed -/

/-- What is received so far is stored in order, and the rest is left. -/
structure CheckLoop.Received (stack : List UInt8) (s : CheckLoop) : Prop where
  unbroken : s.broken = false
  inOrder : InOrder 0 s.stores
  whole : ((storedBytes s.stores).length : ℤ) + s.remainSize =
    commandDataSize
  nonneg : 0 ≤ s.remainSize
  recvData : s.recvData = storedBytes s.stores ++
    stack.drop (storedBytes s.stores).length

theorem CheckLoop.initial_received (stack : List UInt8) :
    (CheckLoop.initial stack).Received stack := by
  constructor <;> simp [CheckLoop.initial, InOrder]

theorem CheckLoop.Received.round {stack : List UInt8} {s : CheckLoop}
    (hs : s.Received stack) (hstack : stack.length = maxPacketSize)
    (bytes : List UInt8) :
    (s.round (.received bytes)).Received stack := by
  by_cases hrunning : s.Running
  · have hwhole := hs.whole
    have hopen := hrunning.2
    have hsize : (commandDataSize : ℤ) = 72 := rfl
    rw [round_received hrunning]
    generalize htake : bytes.take s.remainSize.toNat = got
    have hgot : got.length ≤ s.remainSize := by
      have hle := congrArg List.length htake
      rw [List.length_take] at hle
      omega
    have hoffset : commandDataSize - s.remainSize =
        ((storedBytes s.stores).length : ℤ) := by
      omega
    have hleft : intMinusSize s.remainSize got.length.toUInt64 =
        s.remainSize - got.length :=
      intMinusSize_received hgot (by omega)
    have hroom : got.length ≤
        (stack.drop (storedBytes s.stores).length).length := by
      rw [List.length_drop, hstack]
      simp only [maxPacketSize]
      omega
    constructor
    · exact hs.unbroken
    · simp only [subtract, store, inOrder_append_single]
      exact ⟨hs.inOrder, by rw [hoffset, Nat.zero_add]⟩
    · simp only [subtract, store, hleft, storedBytes_append,
        storedBytes_cons, storedBytes_nil, List.append_nil,
        List.length_append]
      push_cast
      omega
    · simp only [subtract, store, hleft]
      omega
    · simp only [subtract, store, hs.recvData, hoffset]
      rw [apply_inOrder hroom, List.drop_drop]
      simp
  · rw [CheckLoop.round, if_neg hrunning]
    exact hs

/-- The bytes left are those the receives have not brought. -/
theorem CheckLoop.Received.remainSize_round {stack : List UInt8}
    {s : CheckLoop} (hs : s.Received stack) (bytes : List UInt8) :
    (s.round (.received bytes)).remainSize =
      max 0 (s.remainSize - bytes.length) := by
  have hwhole := hs.whole
  have hnonneg := hs.nonneg
  have hsize : (commandDataSize : ℤ) = 72 := rfl
  by_cases hrunning : s.Running
  · rw [round_received hrunning]
    simp only [subtract, store, List.length_take]
    rw [intMinusSize_received (by omega) (by omega)]
    omega
  · have hended : s.remainSize = 0 := by
      by_contra hopen
      exact hrunning ⟨hs.unbroken, by omega⟩
    rw [CheckLoop.round, if_neg hrunning, hended]
    omega

theorem CheckLoop.round_of_not_running {s : CheckLoop}
    (hended : ¬ s.Running) (recv : CheckRecv) : s.round recv = s := by
  rw [CheckLoop.round, if_neg hended]

theorem receivedCount_succ (outcomes : ℕ → CheckRecv) (rounds : ℕ) :
    receivedCount outcomes (rounds + 1) =
      receivedCount outcomes rounds + (outcomes rounds).bytes.length := by
  simp [receivedCount, List.range_succ]

theorem checkLoop_received {stack : List UInt8}
    {outcomes : ℕ → CheckRecv} (hstack : stack.length = maxPacketSize)
    (hfail : NoFailureBeforeWhole outcomes) (rounds : ℕ) :
    (checkLoop stack outcomes rounds).Received stack ∧
      (checkLoop stack outcomes rounds).remainSize =
        max 0 (commandDataSize - (receivedCount outcomes rounds : ℤ)) := by
  induction rounds with
  | zero =>
      exact ⟨CheckLoop.initial_received stack, by
        simp [checkLoop, CheckLoop.initial, receivedCount]⟩
  | succ rounds ih =>
      obtain ⟨hreceived, hremain⟩ := ih
      rw [checkLoop, receivedCount_succ]
      cases hrecv : outcomes rounds with
      | received bytes =>
          refine ⟨hreceived.round hstack bytes, ?_⟩
          rw [hreceived.remainSize_round, hremain, CheckRecv.bytes]
          push_cast
          omega
      | failed errno =>
          -- the loop has ended before its first failed receive
          have hwhole := hfail rounds errno hrecv
          have hended : ¬ (checkLoop stack outcomes rounds).Running := by
            rintro ⟨-, hopen⟩
            omega
          rw [CheckLoop.round_of_not_running hended, CheckRecv.bytes]
          exact ⟨hreceived, by simpa using hremain⟩

theorem CheckLoop.Received.ended_iff {stack : List UInt8} {s : CheckLoop}
    (hs : s.Received stack) : ¬ s.Running ↔ s.remainSize = 0 := by
  have hnonneg := hs.nonneg
  rw [Running, hs.unbroken]
  constructor
  · intro hended
    by_contra hopen
    exact hended ⟨rfl, by omega⟩
  · rintro hzero ⟨-, hopen⟩
    omega

theorem CheckLoop.Received.inBounds {stack : List UInt8} {s : CheckLoop}
    (hs : s.Received stack) :
    InBounds (fun _ => maxPacketSize) s.accesses := by
  have hwhole := hs.whole
  have hnonneg := hs.nonneg
  have hsize : (commandDataSize : ℤ) = 72 := rfl
  have hpacket : maxPacketSize = 8192 := rfl
  exact inBounds_of_inOrder hs.inOrder (by omega)

/-! ## The sum of the command -/

theorem uint16At_eq {offset : ℕ} {bytes : List UInt8}
    (hbound : offset + 2 ≤ bytes.length) :
    uint16At offset bytes = (bytes.getD offset 0).toUInt16 +
      (bytes.getD (offset + 1) 0).toUInt16 <<< 8 := by
  have hpair : slice offset 2 bytes =
      [bytes.getD offset 0, bytes.getD (offset + 1) 0] := by
    have hfirst : offset < bytes.length := by omega
    have hsecond : offset + 1 < bytes.length := by omega
    rw [slice, List.drop_eq_getElem_cons hfirst,
      List.drop_eq_getElem_cons hsecond]
    simp only [List.getD_eq_getElem?_getD, hfirst, hsecond,
      List.getElem?_eq_getElem, Option.getD_some, List.take_succ_cons,
      List.take_zero]
  generalize bytes.getD offset 0 = low at hpair ⊢
  generalize bytes.getD (offset + 1) 0 = high at hpair ⊢
  have hlow := low.toNat_lt
  have hhigh := high.toNat_lt
  apply UInt16.toNat_inj.mp
  rw [uint16At, hpair]
  simp [leNat, Nat.shiftLeft_eq]
  omega

theorem recvCheckSum_ofBuffer {buffer : List UInt8}
    (hbuffer : commandDataSize ≤ buffer.length) :
    recvCheckSum (.ofBuffer buffer) = uint16At 22 buffer := by
  have hsize : commandDataSize = 72 := rfl
  rw [uint16At_eq (by omega)]
  simp [recvCheckSum, CommandData.ofBuffer, arrayAt]

theorem CheckLoop.Received.verified {stack : List UInt8} {s : CheckLoop}
    (hs : s.Received stack) (hended : ¬ s.Running) {checkSum : UInt16}
    (hret : doCheckSum checkSum s = 0) :
    commandDataSize ≤ (storedBytes s.stores).length ∧
      uint16At 22 (storedBytes s.stores) = checkSum := by
  have hwhole := hs.whole
  rw [hs.ended_iff.mp hended] at hwhole
  have hlength : commandDataSize ≤ (storedBytes s.stores).length := by
    omega
  have hsize : commandDataSize = 72 := rfl
  refine ⟨hlength, ?_⟩
  have hsum : checkSum = recvCheckSum (.ofBuffer s.recvData) := by
    by_contra hne
    rw [doCheckSum, if_pos hne] at hret
    omega
  rw [hsum, hs.recvData, recvCheckSum_ofBuffer (by
    rw [List.length_append]
    omega)]
  unfold uint16At
  rw [slice_append_left (by omega)]

theorem againCount_eq_zero {outcomes : ℕ → CheckRecv} {rounds : ℕ}
    (hreceived : ∀ k < rounds, outcomes k ≠ .failed eagain) :
    againCount outcomes rounds = 0 := by
  simpa [againCount, List.countP_eq_zero] using hreceived

/-- With no failed receive before the command is there, everything wanted holds
as soon as the command does come. -/
theorem checkSumBounded_iff {stack : List UInt8} {checkSum : UInt16}
    {outcomes : ℕ → CheckRecv} (hstack : stack.length = maxPacketSize)
    (hfail : NoFailureBeforeWhole outcomes) :
    CheckSumBounded stack checkSum outcomes ↔
      ∃ rounds, commandDataSize ≤ receivedCount outcomes rounds := by
  have hloop := checkLoop_received hstack hfail
  constructor
  · intro hbounded
    obtain ⟨rounds, hended, -⟩ := hbounded.ends
    obtain ⟨hreceived, hremain⟩ := hloop rounds
    rw [hreceived.ended_iff.mp hended] at hremain
    exact ⟨rounds, by omega⟩
  · intro hwhole
    classical
    have hfirst := Nat.find_spec hwhole
    have hearlier : ∀ k < Nat.find hwhole,
        outcomes k ≠ .failed eagain := by
      intro k hk hrecv
      exact Nat.find_min hwhole hk (hfail k eagain hrecv)
    constructor
    · refine ⟨Nat.find hwhole, ?_, ?_⟩
      · obtain ⟨hreceived, hremain⟩ := hloop (Nat.find hwhole)
        rw [hreceived.ended_iff, hremain]
        omega
      · rw [againCount_eq_zero hearlier]
        omega
    · exact fun rounds => (hloop rounds).1.inBounds
    · exact fun rounds hended hret => (hloop rounds).1.verified hended hret

/-- The command comes in one piece. -/
theorem checkSumBounded_whole_command :
    CheckSumBounded (List.replicate maxPacketSize 0) 0
      fun _ => .received (List.replicate commandDataSize 0) := by
  have hfail : NoFailureBeforeWhole fun _ =>
      .received (List.replicate commandDataSize 0) := by
    intro rounds errno hrecv
    simp at hrecv
  exact (checkSumBounded_iff List.length_replicate hfail).mpr
    ⟨1, by decide⟩

/-- The peer is silent for three seconds and then sends the command: its first
byte is stored before `recv_data`. -/
theorem checkSum_stored_before_buffer :
    ¬ CheckSumBounded (List.replicate maxPacketSize 0) 0 fun k =>
      if k = 0 then .failed eagain
      else .received (List.replicate commandDataSize 0) := by
  intro hbounded
  exact absurd (hbounded.inside 2) (by decide)

end RkaiqToolServer
