import RkaiqToolServer.ByteCodec

/-!
# Adding and averaging captured frames

The two passes of `multiframe_process.cpp` over the pixels of a frame: adding
the 16-bit samples of a frame to 32-bit accumulators, and rounding the
accumulated sums to their mean.  The accumulator and the output are the
allocated words; a frame is read through the sample function of its memory.
-/

namespace RkaiqToolServer

open ByteCodec

/-- The rounds of a loop up to `int len = height * width`; none when the
product wraps to a negative number. -/
def pixelCount (width height : ℕ) : ℕ :=
  (wrapInt ((height : ℤ) * width)).toNat

theorem pixelCount_eq {width height : ℕ} (hsize : height * width < 2 ^ 31) :
    pixelCount width height = height * width := by
  have hproduct : (height : ℤ) * width = ((height * width : ℕ) : ℤ) := by
    push_cast
    rfl
  rw [pixelCount, hproduct, wrapInt_of_range (by omega) (by omega)]
  exact Int.toNat_natCast _

def swapBytes (sample : UInt16) : UInt16 :=
  (((sample &&& (0xff : UInt16)) <<< (8 : UInt16)) &&& (0xff00 : UInt16)) |||
    (((sample &&& (0xff00 : UInt16)) >>> (8 : UInt16)) &&& (0xff : UInt16))

def multiFrameAddition
    (accumulator : List UInt32) (samples : ℕ → UInt16)
    (width height : ℕ) (biToLi : Bool) : List UInt32 :=
  accumulator.mapIdx fun n sum =>
    if n < pixelCount width height then
      sum + (if biToLi then swapBytes (samples n) else samples n).toUInt32
    else sum

/-- The `switch` over the frame number: the shift that divides by it. -/
def frameShift (frameNumber : ℕ) : Option ℕ :=
  match frameNumber with
  | 128 => some 7
  | 64 => some 6
  | 32 => some 5
  | 16 => some 4
  | 8 => some 3
  | 4 => some 2
  | 2 => some 1
  | _ => none

def averagePixel (shift : ℕ) (sum : UInt32) : UInt32 :=
  (sum + UInt32.ofNat (2 ^ (shift - 1))) >>> UInt32.ofNat shift

/-- Both buffers after the pass; a frame number outside the switch leaves them
as they were. -/
def multiFrameAverage
    (accumulator : List UInt32) (output : List UInt16)
    (width height frameNumber : ℕ) : List UInt32 × List UInt16 :=
  match frameShift frameNumber with
  | none => (accumulator, output)
  | some shift =>
      let rounded := accumulator.mapIdx fun i sum =>
        if i < pixelCount width height then averagePixel shift sum else sum
      (rounded, output.mapIdx fun i pixel =>
        if i < pixelCount width height then (rounded.getD i 0).toUInt16
        else pixel)

@[simp] theorem length_multiFrameAddition
    (accumulator : List UInt32) (samples : ℕ → UInt16)
    (width height : ℕ) (biToLi : Bool) :
    (multiFrameAddition accumulator samples width height biToLi).length =
      accumulator.length := by
  simp [multiFrameAddition]

theorem getElem?_multiFrameAddition
    (accumulator : List UInt32) (samples : ℕ → UInt16)
    (width height : ℕ) (biToLi : Bool) {n : ℕ}
    (hpixel : n < pixelCount width height) :
    (multiFrameAddition accumulator samples width height biToLi)[n]? =
      accumulator[n]?.map fun sum =>
        sum +
          (if biToLi then swapBytes (samples n) else samples n).toUInt32 := by
  simp [multiFrameAddition, hpixel]

theorem toNat_swapBytes (sample : UInt16) :
    (swapBytes sample).toNat =
      sample.toNat % 256 * 256 + sample.toNat / 256 := by
  have hsample : sample.toNat < 65536 := sample.toNat_lt
  have hmask : (65280 : ℕ) = 255 <<< 8 := rfl
  have hlow : (sample.toNat &&& 255) = sample.toNat % 256 :=
    Nat.and_two_pow_sub_one_eq_mod sample.toNat 8
  have hupper :
      (((sample.toNat % 256) <<< 8) % 2 ^ 16 &&& 65280) =
        (sample.toNat % 256) <<< 8 := by
    rw [Nat.mod_eq_of_lt (by rw [Nat.shiftLeft_eq]; omega), hmask,
      ← Nat.shiftLeft_and_distrib, Nat.and_two_pow_sub_one_eq_mod _ 8]
    simp
  have hlower :
      ((sample.toNat &&& 65280) >>> 8 &&& 255) = sample.toNat / 256 := by
    have hshift : (65280 >>> 8 : ℕ) = 2 ^ 8 - 1 := rfl
    rw [Nat.shiftRight_and_distrib, hshift,
      Nat.and_two_pow_sub_one_eq_mod _ 8,
      Nat.and_two_pow_sub_one_eq_mod _ 8, Nat.shiftRight_eq_div_pow]
    omega
  simp only [swapBytes, UInt16.toNat_or, UInt16.toNat_and,
    UInt16.toNat_shiftLeft, UInt16.toNat_shiftRight, UInt16.reduceToNat,
    Nat.reduceMod, hlow, hupper, hlower]
  rw [← Nat.shiftLeft_add_eq_or_of_lt (by omega), Nat.shiftLeft_eq]

/-- Without overflow the two steps on a pixel are division by the number of
frames, rounded to the nearest. -/
theorem toNat_averagePixel {shift : ℕ} {sum : UInt32}
    (hpos : 1 ≤ shift) (hshift : shift ≤ 7)
    (hsum : sum.toNat + 2 ^ (shift - 1) < 2 ^ 32) :
    (averagePixel shift sum).toNat =
      (sum.toNat + 2 ^ (shift - 1)) / 2 ^ shift := by
  have hround : 2 ^ (shift - 1) < 2 ^ 32 := by omega
  have hshiftMod : shift % 2 ^ 32 % 32 = shift := by omega
  simp only [averagePixel, UInt32.toNat_shiftRight, UInt32.toNat_add,
    UInt32.toNat_ofNat', Nat.mod_eq_of_lt hround, Nat.mod_eq_of_lt hsum,
    hshiftMod, Nat.shiftRight_eq_div_pow]

end RkaiqToolServer
