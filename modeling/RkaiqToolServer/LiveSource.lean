import RkaiqToolServer.StepRun

/-!
# The cache of an RTSP source

A `Source` keeps the buffers pushed for a client in a list, and in a pipe one
token for each of them; a reader takes a token before it takes a buffer.
Before a push the cache is reduced: the common reduction drops the oldest
buffers and reads a token for each, the one for H.264 packets erases what lies
between the leading parameter sets and the last intra frame and reads none.
-/

namespace RkaiqToolServer

open StepRun

def kExtraIntra : UInt32 := 1
def kIntra : UInt32 := 2
def kPredicted : UInt32 := 4

structure MediaBuffer where
  userFlag : UInt32
  deriving DecidableEq

def MediaBuffer.isIntra (buffer : MediaBuffer) : Bool :=
  buffer.userFlag &&& kIntra != 0

def MediaBuffer.isExtraIntra (buffer : MediaBuffer) : Bool :=
  buffer.userFlag &&& kExtraIntra != 0

def maxCacheNumber : ℕ := 60

/-- How a reduction ends: with the buffers and tokens it leaves, in a read that
waits for a token, or in an erase of a range whose end comes before its
beginning. -/
inductive Reduced
  | done (buffers : List MediaBuffer) (tokens : ℕ)
  | waits
  | undefined
  deriving DecidableEq

/-! ## The reductions -/

/-- `rounds` rounds of the loop of `common_reduction`, the next one numbered
`i`; `reads i` is whether its read returns a token. -/
def dropRounds (reads : ℕ → Bool) :
    ℕ → ℕ → List MediaBuffer → ℕ → Reduced
  | 0, _, buffers, tokens => .done buffers tokens
  | rounds + 1, i, buffers, tokens =>
      if reads i = false then
        dropRounds reads rounds (i + 1) buffers.tail tokens
      else if tokens = 0 then .waits
      else dropRounds reads rounds (i + 1) buffers.tail (tokens - 1)

def commonReduction (cachedBufSize : ℕ) (reads : ℕ → Bool)
    (buffers : List MediaBuffer) (tokens : ℕ) : Reduced :=
  if cachedBufSize < buffers.length then
    dropRounds reads (cachedBufSize / 2) 0 buffers tokens
  else .done buffers tokens

/-- The place of the last intra frame. -/
def lastIntra (buffers : List MediaBuffer) : Option ℕ :=
  (buffers.reverse.findIdx? MediaBuffer.isIntra).map fun i =>
    buffers.length - 1 - i

def leadingExtra (buffers : List MediaBuffer) : ℕ :=
  (buffers.takeWhile MediaBuffer.isExtraIntra).length

def h264PacketReduction (buffers : List MediaBuffer) (tokens : ℕ) :
    Reduced :=
  if buffers.length < maxCacheNumber then .done buffers tokens
  else
    match lastIntra buffers with
    | none => .done buffers tokens
    | some i =>
        let iter := leadingExtra buffers
        if iter ≤ i then
          .done (buffers.take iter ++ buffers.drop i) tokens
        else .undefined

inductive Reduction
  | common
  | h264Packet
  deriving DecidableEq

def Reduction.apply (reduction : Reduction) (cachedBufSize : ℕ)
    (reads : ℕ → Bool) (buffers : List MediaBuffer) (tokens : ℕ) : Reduced :=
  match reduction with
  | .common => commonReduction cachedBufSize reads buffers tokens
  | .h264Packet => h264PacketReduction buffers tokens

/-! ## The source -/

inductive SourceStatus
  | running
  | waiting
  | undefined
  deriving DecidableEq

structure Source where
  cachedBuffers : List MediaBuffer
  tokens : ℕ
  mCachedBuffersSize : ℕ
  status : SourceStatus

def Source.initial : Source where
  cachedBuffers := []
  tokens := 0
  mCachedBuffersSize := maxCacheNumber
  status := .running

def Source.push (s : Source) (reduction : Reduction) (buffer : MediaBuffer)
    (reads : ℕ → Bool) (written : Bool) : Source :=
  match reduction.apply s.mCachedBuffersSize reads s.cachedBuffers s.tokens with
  | .done buffers tokens =>
      { s with
        cachedBuffers := buffers ++ [buffer]
        tokens := if written then tokens + 1 else tokens }
  | .waits => { s with status := .waiting }
  | .undefined => { s with status := .undefined }

def Source.pop (s : Source) : Source :=
  { s with cachedBuffers := s.cachedBuffers.tail }

/-- `readFromList` up to the buffer it takes; a read of an empty pipe returns
when there is a token. -/
def Source.readFromList (s : Source) (tokenRead : Bool) : Source :=
  if tokenRead = false then s
  else if s.tokens = 0 then s
  else Source.pop { s with tokens := s.tokens - 1 }

def Source.setCachedBufSize (s : Source) (oneBufSize : ℕ) : Source :=
  if 0 < oneBufSize then
    { s with mCachedBuffersSize := 1024 * 1024 * 5 / oneBufSize }
  else s

/-- The operations with the outcomes of their reads and writes of the pipe. -/
inductive SourceOp
  | push (buffer : MediaBuffer) (reads : ℕ → Bool) (written : Bool)
  | readFromList (tokenRead : Bool)
  | setCachedBufSize (oneBufSize : ℕ)

/-- Nothing follows a push that does not return. -/
def Source.step (reduction : Reduction) (s : Source) (op : SourceOp) :
    Source :=
  if s.status = .running then
    match op with
    | .push buffer reads written => s.push reduction buffer reads written
    | .readFromList tokenRead => s.readFromList tokenRead
    | .setCachedBufSize oneBufSize => s.setCachedBufSize oneBufSize
  else s

section Step

variable {s : Source} {reduction : Reduction}

theorem step_push (hrunning : s.status = .running) (buffer : MediaBuffer)
    (reads : ℕ → Bool) (written : Bool) :
    s.step reduction (.push buffer reads written) =
      s.push reduction buffer reads written :=
  if_pos hrunning

theorem step_readFromList (hrunning : s.status = .running)
    (tokenRead : Bool) :
    s.step reduction (.readFromList tokenRead) = s.readFromList tokenRead :=
  if_pos hrunning

theorem step_setCachedBufSize (hrunning : s.status = .running)
    (oneBufSize : ℕ) :
    s.step reduction (.setCachedBufSize oneBufSize) =
      s.setCachedBufSize oneBufSize :=
  if_pos hrunning

end Step

/-! ## What the reductions remove -/

/-- The tokens that the first `rounds` rounds read. -/
def tokensRead (reads : ℕ → Bool) (rounds : ℕ) : ℕ :=
  (List.range rounds).countP reads

theorem tokensRead_le (reads : ℕ → Bool) (rounds : ℕ) :
    tokensRead reads rounds ≤ rounds := by
  have hle := List.countP_le_length (p := reads) (l := List.range rounds)
  rwa [List.length_range] at hle

theorem tokensRead_succ (reads : ℕ → Bool) (rounds : ℕ) :
    tokensRead reads (rounds + 1) =
      (if reads 0 then 1 else 0) +
        tokensRead (fun i => reads (i + 1)) rounds := by
  rw [tokensRead, List.range_succ_eq_map, List.countP_cons,
    List.countP_map, Nat.add_comm]
  rfl

theorem dropRounds_shift (reads : ℕ → Bool) (rounds : ℕ) :
    ∀ (i : ℕ) (buffers : List MediaBuffer) (tokens : ℕ),
      dropRounds reads rounds (i + 1) buffers tokens =
        dropRounds (fun i => reads (i + 1)) rounds i buffers tokens := by
  induction rounds with
  | zero =>
      intro i buffers tokens
      rfl
  | succ rounds ih =>
      intro i buffers tokens
      rw [dropRounds, dropRounds, ih, ih]

/-- The loop drops a buffer in every round, as long as the pipe has the tokens
that its reads take. -/
theorem dropRounds_eq {rounds : ℕ} :
    ∀ (reads : ℕ → Bool) (buffers : List MediaBuffer) (tokens : ℕ),
      dropRounds reads rounds 0 buffers tokens =
        if tokensRead reads rounds ≤ tokens then
          .done (buffers.drop rounds) (tokens - tokensRead reads rounds)
        else .waits := by
  induction rounds with
  | zero =>
      intro reads buffers tokens
      simp [dropRounds, tokensRead]
  | succ rounds ih =>
      intro reads buffers tokens
      rw [dropRounds, dropRounds_shift, dropRounds_shift, ih, ih,
        tokensRead_succ, List.drop_tail]
      by_cases hread : reads 0 = true
      · by_cases hempty : tokens = 0
        · simp [hread, hempty]
        · have hfits : tokensRead (fun i => reads (i + 1)) rounds ≤
              tokens - 1 ↔ 1 + tokensRead (fun i => reads (i + 1)) rounds ≤
                tokens := by
            omega
          simp only [hread, Bool.true_eq_false, if_false, hempty, if_true,
            hfits, Nat.sub_sub]
      · rw [Bool.not_eq_true] at hread
        simp [hread]

theorem lastIntra_eq_none {buffers : List MediaBuffer} :
    lastIntra buffers = none ↔
      ∀ buffer ∈ buffers, buffer.isIntra = false := by
  simp [lastIntra, List.findIdx?_eq_none_iff]

theorem leadingExtra_le (buffers : List MediaBuffer) :
    leadingExtra buffers ≤ buffers.length := by
  have hbegins : buffers.takeWhile MediaBuffer.isExtraIntra <+: buffers :=
    List.takeWhile_prefix _
  exact hbegins.length_le

theorem lastIntra_eq_some {buffers : List MediaBuffer} {last : ℕ}
    (hlast : lastIntra buffers = some last) :
    (∃ buffer, buffers[last]? = some buffer ∧ buffer.isIntra = true) ∧
      ∀ later buffer, buffers[later]? = some buffer →
        buffer.isIntra = true → later ≤ last := by
  obtain ⟨i, hi, hplace⟩ := Option.map_eq_some_iff.mp hlast
  obtain ⟨hbound, hintra, hbefore⟩ :=
    List.findIdx?_eq_some_iff_getElem.mp hi
  rw [List.length_reverse] at hbound
  have hlastBound : last < buffers.length := by omega
  constructor
  · refine ⟨buffers[last], List.getElem?_eq_getElem hlastBound, ?_⟩
    rw [List.getElem_reverse] at hintra
    simpa only [hplace] using hintra
  · intro later buffer hlater hbuffer
    by_contra hbehind
    obtain ⟨hlaterBound, hget⟩ := List.getElem?_eq_some_iff.mp hlater
    have hnot := hbefore (buffers.length - 1 - later) (by omega)
    rw [List.getElem_reverse] at hnot
    have hindex : buffers.length - 1 - (buffers.length - 1 - later) =
        later := by
      omega
    simp only [hindex, hget] at hnot
    exact hnot hbuffer

theorem lastIntra_lt {buffers : List MediaBuffer} {last : ℕ}
    (hlast : lastIntra buffers = some last) : last < buffers.length := by
  obtain ⟨buffer, hbuffer, -⟩ := (lastIntra_eq_some hlast).1
  exact (List.getElem?_eq_some_iff.mp hbuffer).1

section Reduced

variable {buffers : List MediaBuffer} {tokens : ℕ}

theorem commonReduction_full {cachedBufSize : ℕ} {reads : ℕ → Bool}
    (hfull : cachedBufSize < buffers.length) :
    commonReduction cachedBufSize reads buffers tokens =
      if tokensRead reads (cachedBufSize / 2) ≤ tokens then
        .done (buffers.drop (cachedBufSize / 2))
          (tokens - tokensRead reads (cachedBufSize / 2))
      else .waits := by
  rw [commonReduction, if_pos hfull, dropRounds_eq]

theorem h264_short (hshort : buffers.length < maxCacheNumber) :
    h264PacketReduction buffers tokens = .done buffers tokens := by
  rw [h264PacketReduction, if_pos hshort]

theorem h264_no_intra (hnone : lastIntra buffers = none) :
    h264PacketReduction buffers tokens = .done buffers tokens := by
  rw [h264PacketReduction, hnone]
  exact ite_self _

theorem h264_erases {last : ℕ} (hlong : ¬ buffers.length < maxCacheNumber)
    (hlast : lastIntra buffers = some last)
    (horder : leadingExtra buffers ≤ last) :
    h264PacketReduction buffers tokens =
      .done (buffers.take (leadingExtra buffers) ++ buffers.drop last)
        tokens := by
  rw [h264PacketReduction, if_neg hlong, hlast]
  exact if_pos horder

theorem h264_undefined {last : ℕ}
    (hlong : ¬ buffers.length < maxCacheNumber)
    (hlast : lastIntra buffers = some last)
    (horder : ¬ leadingExtra buffers ≤ last) :
    h264PacketReduction buffers tokens = .undefined := by
  rw [h264PacketReduction, if_neg hlong, hlast]
  exact if_neg horder

end Reduced

end RkaiqToolServer
