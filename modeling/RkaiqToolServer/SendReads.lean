import RkaiqToolServer.SendDelivery

/-!
# The reads of the send loops

The loop in `SendRawData` and `SendYuvData` moves its pointer by the result of
every send, -1 and short counts included, and its size by what was asked for.
Which bytes of the buffer a packet is read from therefore depends on all
results before it.
-/

namespace RkaiqToolServer

open ByteCodec MemoryAccess

variable {β : Type*}

/-- The packets of the loop over `total`, read at the pointer `buf`; `answer k`
is the result of the send number `k` from here. -/
def sendReads (answer : ℕ → ℤ) (buffer : β) (buf : ℤ) (total : ℕ) :
    List (Access β) :=
  if total = 0 then []
  else
    ⟨buffer, buf, sendSize total⟩ ::
      sendReads (fun k => answer (k + 1)) buffer (buf + answer 0)
        (total - sendSize total)
termination_by total
decreasing_by
  rename_i htotal
  exact Nat.sub_lt (by omega) (sendSize_pos htotal)

/-- `SendRawData`: the packets, and then every byte for the check sum. -/
def sendRawDataReads (answer : ℕ → ℤ) (buffer : β) (size : ℕ) :
    List (Access β) :=
  sendReads answer buffer 0 size ++ [⟨buffer, 0, size⟩]

/-- At every packet the pointer, moved by the results of the sends before,
stays inside the buffer together with the packet. -/
def PacketsInside (answer : ℕ → ℤ) (size total : ℕ) (buf : ℤ) : Prop :=
  ∀ k, maxPacketSize * k < total →
    0 ≤ buf + ∑ j ∈ Finset.range k, answer j ∧
      buf + ∑ j ∈ Finset.range k, answer j + requestedBytes total k ≤ size

theorem sendReads_cons (answer : ℕ → ℤ) (buffer : β) (buf : ℤ) {total : ℕ}
    (htotal : total ≠ 0) :
    sendReads answer buffer buf total =
      ⟨buffer, buf, requestedBytes total 0⟩ ::
        sendReads (fun k => answer (k + 1)) buffer (buf + answer 0)
          (total - maxPacketSize) := by
  rw [sendReads, if_neg htotal, total_sub_sendSize, sendSize_eq]

theorem sendReads_zero (answer : ℕ → ℤ) (buffer : β) (buf : ℤ) :
    sendReads answer buffer buf 0 = [] := by
  rw [sendReads, if_pos rfl]

theorem packetsInside_cons (answer : ℕ → ℤ) (size : ℕ) (buf : ℤ) {total : ℕ}
    (htotal : total ≠ 0) :
    PacketsInside answer size total buf ↔
      (0 ≤ buf ∧ buf + requestedBytes total 0 ≤ size) ∧
        PacketsInside (fun k => answer (k + 1)) size (total - maxPacketSize)
          (buf + answer 0) := by
  have hsum : ∀ k, buf + ∑ j ∈ Finset.range (k + 1), answer j =
      buf + answer 0 + ∑ j ∈ Finset.range k, answer (j + 1) := by
    intro k
    rw [Finset.sum_range_succ']
    ring
  constructor
  · intro hinside
    refine ⟨by simpa using hinside 0 (by omega), fun k hk => ?_⟩
    have hnext := hinside (k + 1) (by rw [Nat.mul_succ]; omega)
    rwa [hsum, requestedBytes_succ] at hnext
  · rintro ⟨hfirst, hrest⟩ k hk
    cases k with
    | zero => simpa using hfirst
    | succ k =>
        rw [hsum, requestedBytes_succ]
        exact hrest k (by rw [Nat.mul_succ] at hk; omega)

theorem sendReads_inBounds_iff {size : β → ℕ} {buffer : β} (total : ℕ) :
    ∀ (answer : ℕ → ℤ) (buf : ℤ),
      InBounds size (sendReads answer buffer buf total) ↔
        PacketsInside answer (size buffer) total buf := by
  induction total using packet_induction with
  | zero =>
      intro answer buf
      rw [sendReads_zero]
      exact iff_of_true inBounds_nil fun k hk => absurd hk (by omega)
  | packet total htotal ih =>
      intro answer buf
      have hrequested : requestedBytes total 0 ≠ 0 := by
        have hpacket : 0 < maxPacketSize := by decide
        rw [requestedBytes, Nat.mul_zero]
        omega
      rw [sendReads_cons answer buffer buf htotal,
        packetsInside_cons answer _ buf htotal, inBounds_cons, ih,
        Access.inside_iff, or_iff_right hrequested]

/-- With sends that take all they are asked for, the buffer has to hold the
frame. -/
theorem packetsInside_full_iff {answer : ℕ → ℤ} {size total : ℕ}
    (hfull : ∀ k, maxPacketSize * k < total →
      answer k = requestedBytes total k) :
    PacketsInside answer size total 0 ↔ total ≤ size := by
  have hsum : ∀ k, maxPacketSize * k < total + maxPacketSize →
      ∑ j ∈ Finset.range k, answer j = (min total (maxPacketSize * k) : ℕ) := by
    intro k
    induction k with
    | zero => simp
    | succ k ih =>
        intro hk
        rw [Nat.mul_succ] at hk
        rw [Finset.sum_range_succ, ih (by omega), hfull k (by omega),
          requestedBytes, Nat.mul_succ]
        omega
  have hpacket : 0 < maxPacketSize := by decide
  constructor
  · intro hinside
    by_cases htotal : total = 0
    · omega
    have hlast : maxPacketSize * ((total - 1) / maxPacketSize) < total := by
      have hmul := Nat.mul_div_le (total - 1) maxPacketSize
      omega
    have hpast : total ≤
        maxPacketSize * ((total - 1) / maxPacketSize) + maxPacketSize := by
      have hlt := Nat.lt_mul_div_succ (total - 1) hpacket
      rw [Nat.mul_succ] at hlt
      omega
    have hend := (hinside _ hlast).2
    rw [hsum _ (by omega), requestedBytes] at hend
    omega
  · intro hfits k hk
    rw [hsum k (by omega), requestedBytes]
    omega

theorem sendReads_eq_sendLoop (buffer : β) (total : ℕ) :
    ∀ (answer : ℕ → ℕ) (buf : ℕ),
      sendReads (fun k => answer k) buffer buf total =
        (sendLoop answer buf total).map fun call =>
          ⟨buffer, call.offset, call.requested⟩ := by
  induction total using packet_induction with
  | zero =>
      intro answer buf
      rw [sendReads_zero, sendLoop_zero]
      rfl
  | packet total htotal ih =>
      intro answer buf
      have hrest := ih (fun k => answer (k + 1)) (buf + answer 0)
      rw [Nat.cast_add] at hrest
      rw [sendReads_cons _ buffer buf htotal,
        sendLoop_cons answer buf htotal, List.map_cons, hrest]

theorem sendRawDataReads_inBounds_iff {size : β → ℕ} {buffer : β}
    (answer : ℕ → ℤ) (total : ℕ) :
    InBounds size (sendRawDataReads answer buffer total) ↔
      PacketsInside answer (size buffer) total 0 ∧ total ≤ size buffer := by
  rw [sendRawDataReads, inBounds_append, sendReads_inBounds_iff, inBounds_cons,
    and_iff_left inBounds_nil, Access.inside_start_iff]

end RkaiqToolServer
