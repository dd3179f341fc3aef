import RkaiqToolServer.AveragedFrames
import RkaiqToolServer.SendReads

/-!
# The buffers of a multi-frame capture

`DoMultiFrameCallBack` works on the mapped buffer of the frame, the
accumulator and the output.  It compares the size of the frame with the number
of pixels once; the loops run over all pixels whatever that size is, and two
samples below the middle of the image are dumped wherever the image ends.  Two
of the frames are sent, by a loop that moves its pointer by what `send`
returns.  The reads and writes are listed here in their order and compared with
the sizes of the buffers.
-/

namespace RkaiqToolServer

open ByteCodec MemoryAccess

inductive MultiFrameBuffer
  | buffer (size : ℕ)
  | avergeFrame0 (size : ℕ)
  | avergeFrame1 (size : ℕ)
  deriving DecidableEq

def MultiFrameBuffer.size : MultiFrameBuffer → ℕ
  | .buffer size | .avergeFrame0 size | .avergeFrame1 size => size

/-- `(((height / 2) + 10) * width) + (width / 2)`, an `int`. -/
def dumpOffset (s : RawState) : ℤ :=
  wrapInt (((s.capInfo.height.toNat / 2 + 10) * s.capInfo.width.toNat +
    s.capInfo.width.toNat / 2 : ℕ) : ℤ)

/-- `DumpRawData` and `DumpRawData32` behind the offset: at most two elements
are read, and no more than the frame has bytes. -/
def dumpRawData (s : RawState) (buffer : MultiFrameBuffer)
    (elementSize size : ℕ) : Access MultiFrameBuffer :=
  ⟨buffer, elementSize * dumpOffset s, elementSize * min size 2⟩

/-- The bytes of the accumulator, as `InitMultiFrame` allocates it. -/
def oneFrameSize (s : RawState) : ℕ := 4 * averageWords s

def framePixels (s : RawState) : ℕ :=
  pixelCount s.capInfo.width.toNat s.capInfo.height.toNat

/-- The last frame: the mean is computed, dumped and sent. -/
def averageAccesses (s : RawState) (answer : ℕ → ℤ) (size : ℕ) :
    List (Access MultiFrameBuffer) :=
  let avergeFrame0 := MultiFrameBuffer.avergeFrame0 (oneFrameSize s)
  let avergeFrame1 := MultiFrameBuffer.avergeFrame1 (oneFrameSize s / 2)
  (match frameShift (s.captureFrames % 256) with
    | none => []
    | some _ =>
        [⟨avergeFrame0, 0, 4 * framePixels s⟩,
          ⟨avergeFrame1, 0, 2 * framePixels s⟩]) ++
    [dumpRawData s avergeFrame0 4 size, dumpRawData s avergeFrame1 2 size] ++
    sendRawDataReads answer avergeFrame1 size

/-- The reads and writes of `DoMultiFrameCallBack` for a frame of `size` bytes
in a buffer of `mapped` bytes; `answer` are the results of its sends. -/
def multiFrameAccesses (s : RawState) (answer : ℕ → ℤ)
    (mapped index size : ℕ) : List (Access MultiFrameBuffer) :=
  let buffer := MultiFrameBuffer.buffer mapped
  let avergeFrame0 := MultiFrameBuffer.avergeFrame0 (oneFrameSize s)
  if frameLimit s < size then []
  else
    [dumpRawData s buffer 2 size, ⟨buffer, 0, 2 * framePixels s⟩,
      ⟨avergeFrame0, 0, 4 * framePixels s⟩,
      dumpRawData s avergeFrame0 4 size] ++
    if index + 1 = s.captureFrames then averageAccesses s answer size
    else if index + 1 = s.captureFrames / 2 then
      sendRawDataReads answer buffer size
    else []

theorem dumpRawData_inside_iff {s : RawState} {buffer : MultiFrameBuffer}
    {elementSize size words : ℕ} (hpos : 0 < elementSize)
    (hwords : buffer.size = elementSize * words) :
    (dumpRawData s buffer elementSize size).Inside MultiFrameBuffer.size ↔
      size = 0 ∨ 0 ≤ dumpOffset s ∧ dumpOffset s + min size 2 ≤ words := by
  have helement : (0 : ℤ) < elementSize := by exact_mod_cast hpos
  have hempty : elementSize * min size 2 = 0 ↔ size = 0 := by
    rw [Nat.mul_eq_zero]
    omega
  have hstart : 0 ≤ (elementSize : ℤ) * dumpOffset s ↔
      0 ≤ dumpOffset s := by
    constructor
    · intro h
      exact nonneg_of_mul_nonneg_right h helement
    · intro h
      exact mul_nonneg helement.le h
  have hend : (elementSize : ℤ) * dumpOffset s +
        ((elementSize * min size 2 : ℕ) : ℤ) ≤ (buffer.size : ℤ) ↔
      dumpOffset s + min size 2 ≤ words := by
    rw [hwords]
    push_cast
    rw [← mul_add]
    exact mul_le_mul_iff_of_pos_left helement
  rw [Access.inside_iff, dumpRawData, hempty, hstart, hend]

/-- The dumped samples lie inside `words` elements. -/
def DumpFits (s : RawState) (size words : ℕ) : Prop :=
  size = 0 ∨ 0 ≤ dumpOffset s ∧ dumpOffset s + min size 2 ≤ words

instance (s : RawState) (size words : ℕ) : Decidable (DumpFits s size words) :=
  inferInstanceAs (Decidable (_ ∨ _ ∧ _))

theorem oneFrameSize_half (s : RawState) :
    oneFrameSize s / 2 = 2 * averageWords s := by
  rw [oneFrameSize]
  omega

theorem averageAccesses_inBounds_iff {s : RawState} {size : ℕ}
    (answer : ℕ → ℤ) (hpixels : framePixels s ≤ averageWords s) :
    InBounds MultiFrameBuffer.size (averageAccesses s answer size) ↔
      DumpFits s size (averageWords s) ∧
        PacketsInside answer (2 * averageWords s) size 0 ∧
        size ≤ 2 * averageWords s := by
  have hwords : (dumpRawData s (.avergeFrame0 (oneFrameSize s)) 4
      size).Inside MultiFrameBuffer.size ↔ DumpFits s size (averageWords s) :=
    dumpRawData_inside_iff (by decide) rfl
  have houtput : (dumpRawData s (.avergeFrame1 (oneFrameSize s / 2)) 2
      size).Inside MultiFrameBuffer.size ↔ DumpFits s size (averageWords s) :=
    dumpRawData_inside_iff (by decide) (oneFrameSize_half s)
  have hsum : 4 * framePixels s ≤ oneFrameSize s := by
    rw [oneFrameSize]
    omega
  have hmean : 2 * framePixels s ≤ oneFrameSize s / 2 := by
    rw [oneFrameSize_half]
    omega
  have houtputSize : (MultiFrameBuffer.avergeFrame1 (oneFrameSize s / 2)).size =
      2 * averageWords s := oneFrameSize_half s
  rw [averageAccesses, inBounds_append, inBounds_append,
    sendRawDataReads_inBounds_iff, houtputSize]
  have hpasses : InBounds MultiFrameBuffer.size
      (match frameShift (s.captureFrames % 256) with
        | none => []
        | some _ =>
            [⟨.avergeFrame0 (oneFrameSize s), 0, 4 * framePixels s⟩,
              ⟨.avergeFrame1 (oneFrameSize s / 2), 0,
                2 * framePixels s⟩]) := by
    split
    · exact inBounds_nil
    · simp only [inBounds_cons, Access.inside_start_iff,
        MultiFrameBuffer.size, hsum, hmean, inBounds_nil, and_self]
  simp only [hpasses, inBounds_cons, hwords, houtput, inBounds_nil, and_true,
    true_and, and_self]

/-- The packets of the two frames that are sent lie inside: those of the last
one in `output` bytes, those of the one in the middle in the mapping. -/
def SendsInside (s : RawState) (answer : ℕ → ℤ)
    (mapped output index size : ℕ) : Prop :=
  (index + 1 = s.captureFrames → PacketsInside answer output size 0) ∧
    (index + 1 ≠ s.captureFrames → index + 1 = s.captureFrames / 2 →
      PacketsInside answer mapped size 0)

theorem sendAccesses_inBounds_iff {s : RawState} {mapped size : ℕ}
    (answer : ℕ → ℤ) (index : ℕ) (hmapped : size ≤ mapped)
    (hpixels : framePixels s ≤ averageWords s) :
    InBounds MultiFrameBuffer.size
        (if index + 1 = s.captureFrames then averageAccesses s answer size
        else if index + 1 = s.captureFrames / 2 then
          sendRawDataReads answer (.buffer mapped) size
        else []) ↔
      (index + 1 = s.captureFrames →
        DumpFits s size (averageWords s) ∧ size ≤ 2 * averageWords s) ∧
      SendsInside s answer mapped (2 * averageWords s) index size := by
  unfold SendsInside
  by_cases hlast : index + 1 = s.captureFrames
  · rw [if_pos hlast, averageAccesses_inBounds_iff answer hpixels]
    simp only [hlast, true_implies, ne_eq, not_true, false_implies, and_true]
    constructor
    · rintro ⟨hdump, hpackets, hsize⟩
      exact ⟨⟨hdump, hsize⟩, hpackets⟩
    · rintro ⟨⟨hdump, hsize⟩, hpackets⟩
      exact ⟨hdump, hpackets, hsize⟩
  · rw [if_neg hlast]
    simp only [hlast, false_implies, ne_eq, not_false_iff, true_implies,
      true_and]
    by_cases hmiddle : index + 1 = s.captureFrames / 2
    · rw [if_pos hmiddle, sendRawDataReads_inBounds_iff]
      simp only [hmiddle, MultiFrameBuffer.size, hmapped, and_true,
        true_implies]
    · simp [hmiddle]

theorem multiFrameAccesses_accepted {s : RawState} {mapped size : ℕ}
    (answer : ℕ → ℤ) (index : ℕ) (hmapped : size ≤ mapped)
    (haccepted : (size : ℤ) ≤ frameLimit s)
    (hpixels : framePixels s ≤ averageWords s) :
    InBounds MultiFrameBuffer.size
        (multiFrameAccesses s answer mapped index size) ↔
      2 * framePixels s ≤ mapped ∧ DumpFits s size (mapped / 2) ∧
        DumpFits s size (averageWords s) ∧
        (index + 1 = s.captureFrames → size ≤ 2 * averageWords s) ∧
        SendsInside s answer mapped (2 * averageWords s) index size := by
  have hframe : (dumpRawData s (.buffer mapped) 2 size).Inside
      MultiFrameBuffer.size ↔ DumpFits s size (mapped / 2) := by
    rw [DumpFits, dumpRawData, Access.inside_iff, MultiFrameBuffer.size]
    push_cast
    omega
  have hwords : (dumpRawData s (.avergeFrame0 (oneFrameSize s)) 4
      size).Inside MultiFrameBuffer.size ↔ DumpFits s size (averageWords s) :=
    dumpRawData_inside_iff (by decide) rfl
  have hsum : 4 * framePixels s ≤ oneFrameSize s := by
    rw [oneFrameSize]
    omega
  rw [multiFrameAccesses, if_neg (not_lt.mpr haccepted), inBounds_append,
    sendAccesses_inBounds_iff answer index hmapped hpixels]
  simp only [inBounds_cons, inBounds_nil, hframe, hwords,
    Access.inside_start_iff, MultiFrameBuffer.size, hsum, and_true, true_and]
  constructor
  · rintro ⟨⟨hdumped, hsummed, hshown⟩, hlast, hsends⟩
    exact ⟨hsummed, hdumped, hshown, fun h => (hlast h).2, hsends⟩
  · rintro ⟨hsummed, hdumped, hshown, hlast, hsends⟩
    exact ⟨⟨hdumped, hsummed, hshown⟩, fun h => ⟨hshown, hlast h⟩, hsends⟩

/-! ## In terms of the size of the image -/

/-- The two dumped samples of an accepted frame, the buffer of the frame and
the output are large enough, and the results of the sends keep the pointer
inside.  From 2^31 pixels on, the loops run over none of them and the two
blocks are allocated modulo 2^30 words. -/
def BuffersSuffice (s : RawState) (answer : ℕ → ℤ)
    (mapped index size : ℕ) : Prop :=
  let area := s.capInfo.width.toNat * s.capInfo.height.toNat
  (area < 2 ^ 30 → 2 * area ≤ mapped) ∧
    DumpFits s size (min (mapped / 2) (area % 2 ^ 30)) ∧
    (2 ^ 31 ≤ area → index + 1 = s.captureFrames →
      size ≤ 2 * (area % 2 ^ 30)) ∧
    SendsInside s answer mapped (2 * (area % 2 ^ 30)) index size

theorem dumpFits_min {s : RawState} {size first second : ℕ} :
    DumpFits s size (min first second) ↔
      DumpFits s size first ∧ DumpFits s size second := by
  unfold DumpFits
  push_cast
  omega

/-- What the products of width and height become in the three ranges. -/
theorem area_cases (s : RawState) :
    averageWords s =
        s.capInfo.width.toNat * s.capInfo.height.toNat % 2 ^ 30 ∧
      (s.capInfo.width.toNat * s.capInfo.height.toNat < 2 ^ 30 ∧
          framePixels s =
            s.capInfo.width.toNat * s.capInfo.height.toNat ∧
          frameLimit s =
            2 * (s.capInfo.width.toNat * s.capInfo.height.toNat : ℕ) ∨
        frameLimit s < 0 ∨
        2 ^ 31 ≤ s.capInfo.width.toNat * s.capInfo.height.toNat ∧
          framePixels s = 0) := by
  have hwidth := s.capInfo.width.toNat_lt
  have hheight := s.capInfo.height.toNat_lt
  have hproduct : s.capInfo.width.toNat * s.capInfo.height.toNat <
      2 ^ 16 * 2 ^ 16 := Nat.mul_lt_mul'' hwidth hheight
  have hcast : ((s.capInfo.width.toNat * s.capInfo.height.toNat : ℕ) : ℤ) =
      (s.capInfo.width.toNat : ℤ) * s.capInfo.height.toNat := by
    push_cast
    rfl
  rw [averageWords, framePixels, pixelCount, frameLimit,
    mul_comm (s.capInfo.height.toNat : ℤ), ← hcast]
  generalize s.capInfo.width.toNat * s.capInfo.height.toNat = area at *
  refine ⟨by omega, ?_⟩
  by_cases hsmall : area < 2 ^ 30
  · left
    rw [wrapInt_of_range (by omega) (by omega),
      wrapInt_of_range (by omega) (by omega)]
    omega
  · right
    by_cases hmiddle : area < 2 ^ 31
    · left
      rw [wrapInt_of_overflow (by omega) (by omega)]
      omega
    · right
      rw [wrapInt_of_overflow (by omega) (by omega)]
      omega

end RkaiqToolServer
