import RkaiqToolServer.MemoryAccess
import RkaiqToolServer.RawCapture

/-!
# The send loops

Three functions send a captured frame in packets of `MAXPACKETSIZE` bytes, and
`OnLineGet` sends a parameter block in one piece.  None of the loops counts
what the socket took: the frame loops move the pointer by the result of `send`
and the size by what was asked for, and `OnLineGet` computes what is left from
the last result alone.
-/

namespace RkaiqToolServer

open ByteCodec MemoryAccess

/-- One call of `send`: where it reads in the buffer, how many bytes it is asked
to send and how many of them it takes. -/
structure SendCall where
  offset : ℤ
  requested : ℕ
  accepted : ℕ
  deriving DecidableEq

def SendCall.bytes (buffer : List UInt8) (call : SendCall) : List UInt8 :=
  slice call.offset.toNat call.accepted buffer

def SendCall.read (call : SendCall) : Access Unit :=
  ⟨(), call.offset, call.requested⟩

def delivered (buffer : List UInt8) (calls : List SendCall) : List UInt8 :=
  calls.flatMap fun call => call.bytes buffer

@[simp] theorem delivered_nil (buffer : List UInt8) :
    delivered buffer [] = [] := rfl

@[simp] theorem delivered_cons (buffer : List UInt8) (call : SendCall)
    (calls : List SendCall) :
    delivered buffer (call :: calls) =
      call.bytes buffer ++ delivered buffer calls := rfl

def acceptedBytes (calls : List SendCall) : ℕ :=
  (calls.map SendCall.accepted).sum

@[simp] theorem acceptedBytes_cons (call : SendCall)
    (calls : List SendCall) :
    acceptedBytes (call :: calls) = call.accepted + acceptedBytes calls := by
  simp [acceptedBytes]

/-! ## Frames -/

def sendSize (total : ℕ) : ℕ :=
  if total < maxPacketSize then total else maxPacketSize

theorem sendSize_pos {total : ℕ} (htotal : total ≠ 0) :
    0 < sendSize total := by
  have hpacket : 0 < maxPacketSize := by decide
  unfold sendSize
  split <;> omega

/-- The loop over `total`; `answer k` is the result of the send number `k`
from here. -/
def sendLoop (answer : ℕ → ℕ) (buf total : ℕ) : List SendCall :=
  if total = 0 then []
  else
    { offset := buf, requested := sendSize total, accepted := answer 0 } ::
      sendLoop (fun k => answer (k + 1)) (buf + answer 0)
        (total - sendSize total)
termination_by total
decreasing_by
  rename_i htotal
  exact Nat.sub_lt (by omega) (sendSize_pos htotal)

/-- What a function does with its buffer: its sends, all its reads, and the
sum it leaves in `capture_check_sum`. -/
structure FrameSend where
  calls : List SendCall
  reads : List (Access Unit)
  captureCheckSum : Option UInt16

def sendFrame (buffer : List UInt8) (answer : ℕ → ℕ) : FrameSend :=
  let calls := sendLoop answer 0 buffer.length
  { calls := calls
    reads := calls.map SendCall.read
    captureCheckSum := none }

/-- The loop over the buffer that follows the sends. -/
def FrameSend.addCheckSum (charSigned : Bool) (buffer : List UInt8)
    (sent : FrameSend) : FrameSend :=
  { sent with
    reads := sent.reads ++
      (List.range buffer.length).map fun (i : ℕ) => ⟨(), i, 1⟩
    captureCheckSum := some (charSum charSigned buffer) }

/-- `SendRawData` of the raw protocol. -/
def rawSendRawData (charSigned : Bool) (buffer : List UInt8)
    (answer : ℕ → ℕ) : FrameSend :=
  (sendFrame buffer answer).addCheckSum charSigned buffer

/-- `SendRawData` of the online protocol. -/
def onLineSendRawData (charSigned : Bool) (buffer : List UInt8)
    (answer : ℕ → ℕ) : FrameSend :=
  (sendFrame buffer answer).addCheckSum charSigned buffer

/-- `SendYuvData`; its sum is commented out. -/
def onLineSendYuvData (buffer : List UInt8) (answer : ℕ → ℕ) : FrameSend :=
  sendFrame buffer answer

/-- The socket has taken the buffer, in order and every byte once, and no read
left it. -/
def FrameSend.Exact (buffer : List UInt8) (sent : FrameSend) : Prop :=
  delivered buffer sent.calls = buffer ∧
    InBounds (fun _ => buffer.length) sent.reads

/-- What the send number `k` of a frame of `size` bytes is asked for. -/
def requestedBytes (size k : ℕ) : ℕ :=
  min maxPacketSize (size - maxPacketSize * k)

def AnswersAllowed (size : ℕ) (answer : ℕ → ℕ) : Prop :=
  ∀ k, maxPacketSize * k < size →
    0 < answer k ∧ answer k ≤ requestedBytes size k

def AnswersFull (size : ℕ) (answer : ℕ → ℕ) : Prop :=
  ∀ k, maxPacketSize * k < size → answer k = requestedBytes size k

theorem AnswersFull.allowed {size : ℕ} {answer : ℕ → ℕ}
    (hfull : AnswersFull size answer) : AnswersAllowed size answer := by
  intro k hk
  rw [hfull k hk]
  have hpacket : 0 < maxPacketSize := by decide
  simp only [requestedBytes]
  omega

theorem requestedBytes_succ (size k : ℕ) :
    requestedBytes size (k + 1) =
      requestedBytes (size - maxPacketSize) k := by
  rw [requestedBytes, requestedBytes, Nat.mul_succ, Nat.sub_sub,
    Nat.add_comm maxPacketSize]

theorem sendSize_eq (total : ℕ) :
    sendSize total = requestedBytes total 0 := by
  rw [sendSize, requestedBytes, Nat.mul_zero, Nat.sub_zero]
  split <;> omega

theorem total_sub_sendSize (total : ℕ) :
    total - sendSize total = total - maxPacketSize := by
  unfold sendSize
  split <;> omega

theorem sendLoop_cons (answer : ℕ → ℕ) (buf : ℕ) {total : ℕ}
    (htotal : total ≠ 0) :
    sendLoop answer buf total =
      { offset := buf, requested := requestedBytes total 0,
        accepted := answer 0 } ::
      sendLoop (fun k => answer (k + 1)) (buf + answer 0)
        (total - maxPacketSize) := by
  rw [sendLoop, if_neg htotal]
  rw [total_sub_sendSize, sendSize_eq]

theorem sendLoop_zero (answer : ℕ → ℕ) (buf : ℕ) :
    sendLoop answer buf 0 = [] := by
  rw [sendLoop, if_pos rfl]

theorem acceptedBytes_round (answer : ℕ → ℕ) (buf : ℕ) {total : ℕ}
    (htotal : total ≠ 0) :
    acceptedBytes (sendLoop answer buf total) =
      answer 0 + acceptedBytes (sendLoop (fun k => answer (k + 1))
        (buf + answer 0) (total - maxPacketSize)) := by
  rw [sendLoop_cons answer buf htotal, acceptedBytes_cons]

theorem packet_induction {motive : ℕ → Prop} (zero : motive 0)
    (packet : ∀ total, total ≠ 0 → motive (total - maxPacketSize) →
      motive total) (total : ℕ) : motive total := by
  induction total using Nat.strong_induction_on with
  | _ total ih =>
      by_cases htotal : total = 0
      · rw [htotal]
        exact zero
      · have hpacket : 0 < maxPacketSize := by decide
        exact packet total htotal (ih _ (by omega))

theorem answersAllowed_tail {total : ℕ} {answer : ℕ → ℕ}
    (hallowed : AnswersAllowed total answer) :
    AnswersAllowed (total - maxPacketSize) fun k => answer (k + 1) := by
  intro k hk
  rw [← requestedBytes_succ]
  exact hallowed (k + 1) (by rw [Nat.mul_succ]; omega)

theorem answersFull_iff {total : ℕ} (htotal : total ≠ 0)
    (answer : ℕ → ℕ) :
    AnswersFull total answer ↔ answer 0 = requestedBytes total 0 ∧
      AnswersFull (total - maxPacketSize) fun k => answer (k + 1) := by
  constructor
  · intro hfull
    refine ⟨hfull 0 (by omega), fun k hk => ?_⟩
    rw [← requestedBytes_succ]
    exact hfull (k + 1) (by rw [Nat.mul_succ]; omega)
  · rintro ⟨hfirst, hrest⟩ k hk
    cases k with
    | zero => exact hfirst
    | succ k =>
        rw [requestedBytes_succ]
        exact hrest k (by rw [Nat.mul_succ] at hk; omega)

theorem answer_zero_le {total : ℕ} {answer : ℕ → ℕ} (htotal : total ≠ 0)
    (hallowed : AnswersAllowed total answer) :
    answer 0 ≤ requestedBytes total 0 :=
  (hallowed 0 (by omega)).2

theorem requestedBytes_zero_add (total : ℕ) :
    requestedBytes total 0 + (total - maxPacketSize) = total := by
  rw [requestedBytes, Nat.mul_zero, Nat.sub_zero]
  omega

/-- The pointer moves by what was taken, so the sends follow each other in the
buffer without a gap. -/
theorem delivered_sendLoop (buffer : List UInt8) (total : ℕ) :
    ∀ (answer : ℕ → ℕ) (buf : ℕ),
      delivered buffer (sendLoop answer buf total) =
        slice buf (acceptedBytes (sendLoop answer buf total)) buffer := by
  induction total using packet_induction with
  | zero =>
      intro answer buf
      simp [sendLoop_zero, acceptedBytes, slice]
  | packet total htotal ih =>
      intro answer buf
      rw [sendLoop_cons answer buf htotal, delivered_cons, ih,
        acceptedBytes_cons]
      exact slice_append_slice buf (answer 0) _ buffer

theorem acceptedBytes_sendLoop_le (total : ℕ) :
    ∀ (answer : ℕ → ℕ) (buf : ℕ), AnswersAllowed total answer →
      acceptedBytes (sendLoop answer buf total) ≤ total := by
  induction total using packet_induction with
  | zero =>
      intro answer buf _
      simp [sendLoop_zero, acceptedBytes]
  | packet total htotal ih =>
      intro answer buf hallowed
      have hfirst := answer_zero_le htotal hallowed
      have hrest := ih (fun k => answer (k + 1)) (buf + answer 0)
        (answersAllowed_tail hallowed)
      have hsum := requestedBytes_zero_add total
      rw [acceptedBytes_round answer buf htotal]
      omega

/-- A short send is never made up for. -/
theorem acceptedBytes_sendLoop_eq_iff (total : ℕ) :
    ∀ (answer : ℕ → ℕ) (buf : ℕ), AnswersAllowed total answer →
      (acceptedBytes (sendLoop answer buf total) = total ↔
        AnswersFull total answer) := by
  induction total using packet_induction with
  | zero =>
      intro answer buf _
      simp [sendLoop_zero, acceptedBytes, AnswersFull]
  | packet total htotal ih =>
      intro answer buf hallowed
      have hfirst := answer_zero_le htotal hallowed
      have htail := answersAllowed_tail hallowed
      have hrest := acceptedBytes_sendLoop_le _ _ (buf + answer 0) htail
      have hsum := requestedBytes_zero_add total
      rw [acceptedBytes_round answer buf htotal, answersFull_iff htotal, ← ih _ (buf + answer 0) htail]
      constructor
      · intro hall
        constructor <;> omega
      · rintro ⟨hall, hlater⟩
        omega

/-- The pointer never overtakes the bytes already counted as sent. -/
theorem sendLoop_inBounds (size total : ℕ) :
    ∀ (answer : ℕ → ℕ) (buf : ℕ), AnswersAllowed total answer →
      buf + total ≤ size →
        InBounds (fun _ => size)
          ((sendLoop answer buf total).map SendCall.read) := by
  induction total using packet_induction with
  | zero =>
      intro answer buf _ _
      simp [sendLoop_zero]
  | packet total htotal ih =>
      intro answer buf hallowed hroom
      have hfirst := answer_zero_le htotal hallowed
      have hsum := requestedBytes_zero_add total
      rw [sendLoop_cons answer buf htotal, List.map_cons, inBounds_cons]
      constructor
      · have hround : buf + requestedBytes total 0 ≤ size := by omega
        exact Access.inside_natCast hround
      · exact ih _ _ (answersAllowed_tail hallowed) (by omega)

theorem sendFrame_exact_iff {buffer : List UInt8} {answer : ℕ → ℕ}
    (hallowed : AnswersAllowed buffer.length answer) :
    (sendFrame buffer answer).Exact buffer ↔
      AnswersFull buffer.length answer := by
  have hle := acceptedBytes_sendLoop_le _ _ 0 hallowed
  have hreads := sendLoop_inBounds buffer.length _ _ 0 hallowed
    (Nat.zero_add _).le
  rw [← acceptedBytes_sendLoop_eq_iff _ _ 0 hallowed]
  constructor
  · rintro ⟨hsent, -⟩
    have hlength := congrArg List.length hsent
    simp only [sendFrame, delivered_sendLoop] at hlength
    rwa [length_slice (by omega)] at hlength
  · intro hall
    refine ⟨?_, hreads⟩
    simp only [sendFrame, delivered_sendLoop, hall, slice, List.drop_zero,
      List.take_length]

theorem addCheckSum_exact_iff (charSigned : Bool) {buffer : List UInt8}
    {sent : FrameSend} :
    (sent.addCheckSum charSigned buffer).Exact buffer ↔
      sent.Exact buffer := by
  have hsum : InBounds (fun _ => buffer.length)
      ((List.range buffer.length).map
        fun (i : ℕ) => (⟨(), i, 1⟩ : Access Unit)) := by
    intro access haccess
    obtain ⟨i, hi, rfl⟩ := List.mem_map.mp haccess
    exact Access.inside_natCast (List.mem_range.mp hi)
  simp [FrameSend.Exact, FrameSend.addCheckSum, hsum]

/-- A frame arrives whole when, and only when, every send takes all that it is
asked for. -/
theorem frameSends_exact_iff (charSigned : Bool) {buffer : List UInt8}
    {answer : ℕ → ℕ} (hallowed : AnswersAllowed buffer.length answer) :
    ((rawSendRawData charSigned buffer answer).Exact buffer ↔
        AnswersFull buffer.length answer) ∧
      ((onLineSendRawData charSigned buffer answer).Exact buffer ↔
        AnswersFull buffer.length answer) ∧
      ((onLineSendYuvData buffer answer).Exact buffer ↔
        AnswersFull buffer.length answer) := by
  have hexact := sendFrame_exact_iff hallowed
  exact ⟨(addCheckSum_exact_iff charSigned).trans hexact,
    (addCheckSum_exact_iff charSigned).trans hexact, hexact⟩

theorem frameSends_exact_three_bytes :
    (rawSendRawData true [1, 2, 3] (requestedBytes 3)).Exact [1, 2, 3] := by
  have hfull : AnswersFull ([1, 2, 3] : List UInt8).length
      (requestedBytes 3) := fun _ _ => rfl
  exact (frameSends_exact_iff true hfull.allowed).1.mpr hfull

/-- The socket takes one of two bytes, and the other is never sent. -/
theorem frameSends_short_send :
    AnswersAllowed 2 (fun _ => 1) ∧
      ¬ (rawSendRawData true [1, 2] fun _ => 1).Exact [1, 2] ∧
      ¬ (onLineSendRawData true [1, 2] fun _ => 1).Exact [1, 2] ∧
      ¬ (onLineSendYuvData [1, 2] fun _ => 1).Exact [1, 2] := by
  have hallowed : AnswersAllowed ([1, 2] : List UInt8).length
      (fun _ => 1) := by
    intro k hk
    have hzero : k = 0 := by
      simp only [maxPacketSize, List.length_cons, List.length_nil] at hk
      omega
    subst k
    decide
  have hshort : ¬ (sendFrame [1, 2] fun _ => 1).Exact [1, 2] := by
    rw [sendFrame_exact_iff hallowed]
    intro hfull
    exact absurd (hfull 0 (by decide)) (by decide)
  exact ⟨hallowed,
    fun hraw => hshort ((addCheckSum_exact_iff true).mp hraw),
    fun hraw => hshort ((addCheckSum_exact_iff true).mp hraw), hshort⟩

/-! ## The parameter block -/

/-- The loop of `OnLineGet`: what it believes to be left, and its sends. -/
structure ParamSend where
  remainSize : ℤ
  calls : List SendCall

/-- One round; after the last one nothing changes any more. -/
def ParamSend.round (paramSize : ℤ) (s : ParamSend) (sendSize : ℕ) :
    ParamSend :=
  if s.remainSize > 0 then
    -- the total, and not what was left, is reduced by the result
    { remainSize := paramSize - sendSize
      calls := s.calls ++
        [{ offset := paramSize - s.remainSize,
           requested := s.remainSize.toNat, accepted := sendSize }] }
  else s

def onLineGetSends (paramSize : ℤ) (answer : ℕ → ℕ) : ℕ → ParamSend
  | 0 => { remainSize := paramSize, calls := [] }
  | rounds + 1 =>
      (onLineGetSends paramSize answer rounds).round paramSize
        (answer rounds)

def ParamAnswersAllowed (paramSize : ℤ) (answer : ℕ → ℕ) : Prop :=
  ∀ rounds, 0 < (onLineGetSends paramSize answer rounds).remainSize →
    0 < answer rounds ∧
      answer rounds ≤ (onLineGetSends paramSize answer rounds).remainSize

/-- The loop ends, and by then has sent the block in order and every byte
once. -/
def ParamDelivered (param : List UInt8) (answer : ℕ → ℕ)
    (paramSize : ℤ) : Prop :=
  ∃ rounds, (onLineGetSends paramSize answer rounds).remainSize ≤ 0 ∧
    delivered param (onLineGetSends paramSize answer rounds).calls = param

theorem onLineGetSends_short {paramSize : ℤ} {answer : ℕ → ℕ}
    (hallowed : ParamAnswersAllowed paramSize answer)
    (hsize : 0 < paramSize) (hshort : (answer 0 : ℤ) ≠ paramSize)
    (rounds : ℕ) :
    0 < (onLineGetSends paramSize answer (rounds + 1)).remainSize ∧
      (onLineGetSends paramSize answer (rounds + 1)).remainSize <
        paramSize := by
  induction rounds with
  | zero =>
      obtain ⟨hpos, hle⟩ := hallowed 0 hsize
      simp only [onLineGetSends] at hle
      simp only [onLineGetSends, ParamSend.round, gt_iff_lt, hsize, if_true]
      omega
  | succ rounds ih =>
      obtain ⟨hpos, hle⟩ := hallowed (rounds + 1) ih.1
      rw [onLineGetSends, ParamSend.round, if_pos ih.1]
      simp only
      omega

/-- The loop ends with the whole block sent exactly when its first send takes
the whole block; after any shorter one it never ends. -/
theorem onLineGet_delivered_iff {param : List UInt8} {paramSize : ℤ}
    {answer : ℕ → ℕ} (hparam : param.length = paramSize.toNat)
    (hallowed : ParamAnswersAllowed paramSize answer) :
    ParamDelivered param answer paramSize ↔
      (0 < paramSize → (answer 0 : ℤ) = paramSize) := by
  constructor
  · rintro ⟨rounds, hended, -⟩ hsize
    by_contra hshort
    cases rounds with
    | zero =>
        simp only [onLineGetSends] at hended
        omega
    | succ rounds =>
        have hopen :=
          (onLineGetSends_short hallowed hsize hshort rounds).1
        omega
  · intro hfull
    by_cases hsize : 0 < paramSize
    · have hall := hfull hsize
      have hfirst : onLineGetSends paramSize answer 1 =
          { remainSize := 0
            calls := [{ offset := 0, requested := paramSize.toNat,
                        accepted := answer 0 }] } := by
        simp [onLineGetSends, ParamSend.round, hsize, hall]
      refine ⟨1, by rw [hfirst], ?_⟩
      have hlength : param.length ≤ answer 0 := by omega
      rw [hfirst, delivered_cons, delivered_nil, List.append_nil]
      simp only [SendCall.bytes, slice, Int.toNat_zero, List.drop_zero]
      exact List.take_of_length_le hlength
    · refine ⟨0, by simp only [onLineGetSends]; omega, ?_⟩
      have hempty : param = [] :=
        List.eq_nil_of_length_eq_zero (by omega)
      simp [onLineGetSends, hempty]

theorem onLineGet_delivered_four_bytes :
    ParamDelivered [1, 2, 3, 4] (fun _ => 4) 4 := by
  have hallowed : ParamAnswersAllowed 4 fun _ => 4 := by
    intro rounds hopen
    have hfirst : rounds = 0 := by
      cases rounds with
      | zero => rfl
      | succ rounds =>
          rw [onLineGetSends, ParamSend.round] at hopen
          split at hopen
          · simp at hopen
          · omega
    subst rounds
    decide
  exact (onLineGet_delivered_iff rfl hallowed).mpr fun _ => rfl

/-- Every send takes two of four bytes: the second half is sent for ever. -/
theorem onLineGet_halves :
    ParamAnswersAllowed 4 (fun _ => 2) ∧
      ¬ ParamDelivered [1, 2, 3, 4] (fun _ => 2) 4 := by
  have hallowed : ParamAnswersAllowed 4 fun _ => 2 := by
    intro rounds hopen
    cases rounds with
    | zero => decide
    | succ rounds =>
        rw [onLineGetSends, ParamSend.round] at hopen ⊢
        by_cases hbefore : (onLineGetSends 4 (fun _ => 2) rounds).remainSize > 0
        · simp [hbefore]
        · simp only [if_neg hbefore] at hopen
          omega
  refine ⟨hallowed, ?_⟩
  rintro ⟨rounds, hended, -⟩
  cases rounds with
  | zero => simp [onLineGetSends] at hended
  | succ rounds =>
      have hopen := (onLineGetSends_short hallowed (by decide)
        (by decide) rounds).1
      omega

end RkaiqToolServer
