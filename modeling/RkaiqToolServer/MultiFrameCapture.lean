import RkaiqToolServer.RawCaptureLifecycle

/-!
# The averaged frame of a multi-frame capture

A multi-frame capture of `n` frames runs over two START commands.  The frame
in the middle is sent as it was read; after the last one the accumulated sums
are rounded to their means and sent.  The state between two frames is
determined by how many frames have been added, which is the invariant of the
capture loop.
-/

namespace RkaiqToolServer

open ByteCodec
open StepRun

/-! ## What is to be sent -/

/-- The sample of a pixel as the number it stands for: sensors behind the ISP
deliver the high byte first. -/
def pixelValue (link : SensorLink) (frame : Frame) (pixel : ℕ) : ℕ :=
  let first := (frame.byte (2 * pixel)).toNat
  let second := (frame.byte (2 * pixel + 1)).toNat
  if link = .vicap then first + 256 * second else 256 * first + second

def pixelSum
    (link : SensorLink) (frames : ℕ → Frame) (count pixel : ℕ) : ℕ :=
  ∑ index ∈ Finset.range count, pixelValue link (frames index) pixel

/-- The mean of the pixel over `count` frames, rounded to the nearest. -/
def pixelMean
    (link : SensorLink) (frames : ℕ → Frame) (count pixel : ℕ) : ℕ :=
  (pixelSum link frames count pixel + count / 2) / count

def meanFrame
    (link : SensorLink) (frames : ℕ → Frame) (count pixels : ℕ) :
    List UInt8 :=
  pixelBytes ((List.range pixels).map fun pixel =>
    UInt16.ofNat (pixelMean link frames count pixel))

def payloads (trace : List CaptureEvent) : List (List UInt8) :=
  trace.filterMap fun event =>
    match event with
    | .payload bytes => some bytes
    | _ => none

@[simp] theorem payloads_append (before later : List CaptureEvent) :
    payloads (before ++ later) = payloads before ++ payloads later := by
  simp [payloads]

@[simp] theorem length_pixelBytes (pixels : List UInt16) :
    (pixelBytes pixels).length = 2 * pixels.length := by
  induction pixels with
  | nil => rfl
  | cons pixel rest ih =>
      have hcons : pixelBytes (pixel :: rest) =
          leBytes 2 pixel.toNat ++ pixelBytes rest := rfl
      rw [hcons, List.length_append, length_leBytes, ih, List.length_cons]
      omega

/-! ## Samples, sums and means -/

theorem pixelValue_lt (link : SensorLink) (frame : Frame) (pixel : ℕ) :
    pixelValue link frame pixel < 65536 := by
  have hfirst := (frame.byte (2 * pixel)).toNat_lt
  have hsecond := (frame.byte (2 * pixel + 1)).toNat_lt
  simp only [pixelValue]
  split <;> omega

theorem toNat_sample (link : SensorLink) (frame : Frame) (pixel : ℕ) :
    (if decide (link ≠ .vicap) then swapBytes (frame.sample pixel)
      else frame.sample pixel).toNat = pixelValue link frame pixel := by
  have hfirst := (frame.byte (2 * pixel)).toNat_lt
  have hsecond := (frame.byte (2 * pixel + 1)).toNat_lt
  have hsample : (frame.sample pixel).toNat =
      (frame.byte (2 * pixel)).toNat +
        256 * (frame.byte (2 * pixel + 1)).toNat := by
    simp only [Frame.sample, leNat, UInt16.toNat_ofNat']
    omega
  by_cases hlink : link = .vicap
  · simp [hlink, pixelValue, hsample]
  · simp only [hlink, pixelValue, ne_eq, not_false_eq_true, decide_true,
      if_true, if_false, toNat_swapBytes, hsample]
    omega

theorem pixelSum_succ
    (link : SensorLink) (frames : ℕ → Frame) (count pixel : ℕ) :
    pixelSum link frames (count + 1) pixel =
      pixelSum link frames count pixel +
        pixelValue link (frames count) pixel :=
  Finset.sum_range_succ _ _

theorem pixelSum_le
    (link : SensorLink) (frames : ℕ → Frame) (count pixel : ℕ) :
    pixelSum link frames count pixel ≤ count * 65535 := by
  induction count with
  | zero => simp [pixelSum]
  | succ count ih =>
      have hvalue := pixelValue_lt link (frames count) pixel
      rw [pixelSum_succ]
      omega

/-- Neither the sums with their rounding offset nor the means overflow. -/
theorem pixelSum_bounds
    (link : SensorLink) (frames : ℕ → Frame) {shift : ℕ} (pixel : ℕ)
    (hshift : shift ≤ 7) :
    pixelSum link frames (2 ^ shift) pixel + 2 ^ shift / 2 < 2 ^ 32 ∧
      pixelMean link frames (2 ^ shift) pixel < 2 ^ 16 := by
  have hsum := pixelSum_le link frames (2 ^ shift) pixel
  have hcount : 2 ^ shift ≤ 2 ^ 7 := Nat.pow_le_pow_right (by omega) hshift
  have hpos : 0 < 2 ^ shift := Nat.two_pow_pos shift
  constructor
  · omega
  · rw [pixelMean, Nat.div_lt_iff_lt_mul hpos]
    omega

def sumWords
    (link : SensorLink) (frames : ℕ → Frame) (count pixels : ℕ) :
    List UInt32 :=
  (List.range pixels).map fun pixel =>
    UInt32.ofNat (pixelSum link frames count pixel)

theorem sumWords_zero
    (link : SensorLink) (frames : ℕ → Frame) (pixels : ℕ) :
    sumWords link frames 0 pixels = List.replicate pixels 0 := by
  apply List.ext_getElem
  · simp [sumWords]
  · intro pixel hleft hright
    simp [sumWords, pixelSum]

theorem multiFrameAddition_sumWords
    (link : SensorLink) (frames : ℕ → Frame) (count : ℕ)
    {width height : ℕ} (hsize : height * width < 2 ^ 31) :
    multiFrameAddition (sumWords link frames count (width * height))
        (frames count).sample width height (decide (link ≠ .vicap)) =
      sumWords link frames (count + 1) (width * height) := by
  apply List.ext_getElem?
  intro pixel
  by_cases hpixel : pixel < height * width
  · have hrange : pixel < width * height := by rwa [Nat.mul_comm]
    have hcovered : pixel < pixelCount width height := by
      rwa [pixelCount_eq hsize]
    rw [getElem?_multiFrameAddition _ _ _ _ _ hcovered]
    simp only [sumWords, List.getElem?_map, List.getElem?_range hrange,
      Option.map_some, Option.some.injEq]
    rw [pixelSum_succ, UInt32.ofNat_add, ← toNat_sample]
    congr 1
    apply UInt32.toNat_inj.mp
    simp
  · have hlength : ∀ words : List UInt32, words.length = width * height →
        words[pixel]? = none := by
      intro words hwords
      rw [List.getElem?_eq_none]
      rw [hwords, Nat.mul_comm]
      omega
    rw [hlength _ (by simp [sumWords]), hlength _ (by simp [sumWords])]

theorem multiFrameAverage_sumWords
    (link : SensorLink) (frames : ℕ → Frame) {shift : ℕ}
    {width height : ℕ} (output : List UInt16)
    (hpos : 1 ≤ shift) (hshift : shift ≤ 7)
    (hsize : height * width < 2 ^ 31)
    (houtput : output.length = width * height) :
    (multiFrameAverage (sumWords link frames (2 ^ shift) (width * height))
        output width height (2 ^ shift)).2 =
      (List.range (width * height)).map fun pixel =>
        UInt16.ofNat (pixelMean link frames (2 ^ shift) pixel) := by
  have hframes : frameShift (2 ^ shift) = some shift := by
    interval_cases shift <;> rfl
  simp only [multiFrameAverage, hframes]
  apply List.ext_getElem
  · simp [houtput]
  · intro pixel hleft hright
    have hpixel : pixel < width * height := by simpa using hright
    have hcovered : pixel < pixelCount width height := by
      rwa [pixelCount_eq hsize, Nat.mul_comm]
    obtain ⟨hsum, hmean⟩ := pixelSum_bounds link frames pixel hshift
    have hhalf : 2 ^ shift / 2 = 2 ^ (shift - 1) := by
      interval_cases shift <;> rfl
    have hword : (UInt32.ofNat
        (pixelSum link frames (2 ^ shift) pixel)).toNat =
          pixelSum link frames (2 ^ shift) pixel := by
      rw [UInt32.toNat_ofNat']
      exact Nat.mod_eq_of_lt (lt_of_le_of_lt (Nat.le_add_right _ _) hsum)
    have haverage :
        (averagePixel shift (UInt32.ofNat
          (pixelSum link frames (2 ^ shift) pixel))).toNat =
          pixelMean link frames (2 ^ shift) pixel := by
      rw [toNat_averagePixel hpos hshift (by rwa [hword, ← hhalf]), hword,
        ← hhalf, pixelMean]
    apply UInt16.toNat_inj.mp
    simp [sumWords, hpixel, hcovered, haverage]

/-! ## The capture loop -/

section Capture

variable {link : SensorLink} {frames : ℕ → Frame} {shift : ℕ}
variable {width height : UInt16}

structure MultiFrameConfig
    (link : SensorLink) (shift : ℕ) (width height : UInt16)
    (s : RawState) : Prop where
  mode : s.captureMode ≠ captureNormal
  frames : s.captureFrames = 2 ^ shift
  width : s.capInfo.width = width
  height : s.capInfo.height = height
  link : s.capInfo.link = link

/-- The capture stands between two frames, `count` of them added. -/
structure Accumulated
    (link : SensorLink) (frames : ℕ → Frame) (shift : ℕ)
    (width height : UInt16) (count : ℕ) (s : RawState) : Prop where
  config : MultiFrameConfig link shift width height s
  index : s.captureFramesIndex = count
  sums : s.avergeFrame0 =
    some (sumWords link frames count (width.toNat * height.toNat))
  average : ∃ output, s.avergeFrame1 = some output ∧
    output.length = width.toNat * height.toNat

def countFrame (r : RawState × List CaptureEvent) :
    RawState × List CaptureEvent :=
  ({ r.1 with captureFramesIndex := r.1.captureFramesIndex + 1 }, r.2)

theorem pixels_lt (hsize : 4 * width.toNat * height.toNat < 2 ^ 31) :
    height.toNat * width.toNat < 2 ^ 31 := by
  rw [Nat.mul_assoc] at hsize
  rw [Nat.mul_comm]
  omega

theorem MultiFrameConfig.accepted {s : RawState} {frame : Frame}
    (hconfig : MultiFrameConfig link shift width height s)
    (hsize : 4 * width.toNat * height.toNat < 2 ^ 31)
    (hlength : frame.bytes.length = 2 * (width.toNat * height.toNat)) :
    ¬ frameLimit s < frame.bytes.length := by
  rw [Nat.mul_assoc] at hsize
  rw [frameLimit_eq (by rw [hconfig.width, hconfig.height]; omega),
    hconfig.width, hconfig.height, hlength]
  exact lt_irrefl _

theorem doMultiFrameCallBack_accumulates
    (dev : Device) {s : RawState} {count : ℕ}
    (hsize : 4 * width.toNat * height.toNat < 2 ^ 31)
    (h : Accumulated link frames shift width height count s)
    (hlength : (frames count).bytes.length =
      2 * (width.toNat * height.toNat))
    (hlast : count + 1 ≠ 2 ^ shift) :
    Accumulated link frames shift width height (count + 1)
        (countFrame (doMultiFrameCallBack dev s count (frames count))).1 ∧
      payloads (doMultiFrameCallBack dev s count (frames count)).2 =
        if count + 1 = 2 ^ shift / 2 then [(frames count).bytes] else [] := by
  obtain ⟨output, houtput, hwords⟩ := h.average
  have hlimit := h.config.accepted hsize hlength
  have hpixels := pixels_lt hsize
  have hadded := multiFrameAddition_sumWords link frames count hpixels
  unfold doMultiFrameCallBack
  rw [if_neg hlimit]
  simp only [h.sums, h.config.width, h.config.height, h.config.link, hadded,
    h.config.frames, hlast, if_false]
  by_cases hhalf : count + 1 = 2 ^ shift / 2
  · simp only [hhalf, if_true]
    constructor
    · exact ⟨⟨h.config.mode, rfl, h.config.width, h.config.height,
        h.config.link⟩, by simp [countFrame, sendRawData, h.index, hhalf],
        by simp [countFrame, sendRawData], ⟨output, houtput, hwords⟩⟩
    · rfl
  · simp only [hhalf, if_false]
    constructor
    · exact ⟨⟨h.config.mode, rfl, h.config.width, h.config.height,
        h.config.link⟩, by simp [countFrame, h.index], rfl,
        ⟨output, houtput, hwords⟩⟩
    · rfl

theorem doMultiFrameCallBack_averages
    (dev : Device) {s : RawState} {count : ℕ}
    (hpos : 1 ≤ shift) (hshift : shift ≤ 7)
    (hsize : 4 * width.toNat * height.toNat < 2 ^ 31)
    (h : Accumulated link frames shift width height count s)
    (hlength : (frames count).bytes.length =
      2 * (width.toNat * height.toNat))
    (hlast : count + 1 = 2 ^ shift) :
    payloads (doMultiFrameCallBack dev s count (frames count)).2 =
      [meanFrame link frames (2 ^ shift)
        (width.toNat * height.toNat)] := by
  obtain ⟨output, houtput, hwords⟩ := h.average
  have hlimit := h.config.accepted hsize hlength
  have hpixels := pixels_lt hsize
  have hadded := multiFrameAddition_sumWords link frames count hpixels
  rw [hlast] at hadded
  have hnumber : 2 ^ shift % 256 = 2 ^ shift := by
    interval_cases shift <;> rfl
  have hmeans := multiFrameAverage_sumWords link frames output hpos hshift
    hpixels hwords
  have hsent :
      (pixelBytes (multiFrameAverage
        (sumWords link frames (2 ^ shift) (width.toNat * height.toNat))
        output width.toNat height.toNat (2 ^ shift)).2).take
          (frames count).bytes.length =
        meanFrame link frames (2 ^ shift)
          (width.toNat * height.toNat) := by
    rw [hmeans, meanFrame]
    apply List.take_of_length_le
    rw [length_pixelBytes, hlength]
    simp
  unfold doMultiFrameCallBack
  rw [if_neg hlimit]
  simp only [h.sums, h.config.width, h.config.height, h.config.link, hadded,
    h.config.frames, hlast, if_true, hnumber, houtput, Option.getD_some,
    andThen_snd, sendRawData, hsent, payloads_append]
  rfl

theorem multiFrameLoop_succ
    (dev : Device) (read index count : ℕ) (s : RawState) :
    multiFrameLoop dev read index (count + 1) s =
      andThen
        (countFrame (readFrame (dev.reads read) s index fun s frame =>
          doMultiFrameCallBack dev s index frame))
        (multiFrameLoop dev (read + 1) (index + 1) count) := rfl

/-- What the rest of the reads sends, one read further: the middle frame is
due at the read before the half, the mean at the last one. -/
theorem due_succ {α : Type*} (middle mean : List α) {half n index : ℕ}
    (count : ℕ) (hlast : index + 1 ≠ n) :
    (if index < half ∧ half ≤ index + (count + 1) then middle else []) ++
        (if 0 < count + 1 ∧ index + (count + 1) = n then mean else []) =
      (if index + 1 = half then middle else []) ++
        ((if index + 1 < half ∧ half ≤ index + 1 + count then middle
          else []) ++
        (if 0 < count ∧ index + 1 + count = n then mean else [])) := by
  have hmean : (0 < count + 1 ∧ index + (count + 1) = n) ↔
      (0 < count ∧ index + 1 + count = n) := by
    omega
  rw [if_congr hmean rfl rfl]
  by_cases hmiddle : index + 1 = half
  · have hnow : index < half ∧ half ≤ index + (count + 1) := by omega
    have hpassed : ¬ (index + 1 < half ∧ half ≤ index + 1 + count) := by
      omega
    rw [if_pos hnow, if_pos hmiddle, if_neg hpassed, List.nil_append]
  · have hlater : (index < half ∧ half ≤ index + (count + 1)) ↔
        (index + 1 < half ∧ half ≤ index + 1 + count) := by
      omega
    rw [if_congr hlater rfl rfl, if_neg hmiddle, List.nil_append]

theorem multiFrameLoop_payloads
    (dev : Device) (hpos : 1 ≤ shift) (hshift : shift ≤ 7)
    (hsize : 4 * width.toNat * height.toNat < 2 ^ 31)
    (hlength : ∀ k < 2 ^ shift, (frames k).bytes.length =
      2 * (width.toNat * height.toNat))
    (read index count : ℕ) (s : RawState)
    (h : Accumulated link frames shift width height index s)
    (hreads : ∀ k < count, dev.reads (read + k) = some (frames (index + k)))
    (hbound : index + count ≤ 2 ^ shift) :
    payloads (multiFrameLoop dev read index count s).2 =
        (if index < 2 ^ shift / 2 ∧ 2 ^ shift / 2 ≤ index + count then
          [(frames (2 ^ shift / 2 - 1)).bytes] else []) ++
        (if 0 < count ∧ index + count = 2 ^ shift then
          [meanFrame link frames (2 ^ shift)
            (width.toNat * height.toNat)] else []) ∧
      (index + count < 2 ^ shift →
        Accumulated link frames shift width height (index + count)
          (multiFrameLoop dev read index count s).1) := by
  induction count generalizing read index s with
  | zero =>
      constructor
      · have hpassed : ¬ (index < 2 ^ shift / 2 ∧
            2 ^ shift / 2 ≤ index + 0) := by omega
        rw [if_neg hpassed, if_neg (by simp)]
        rfl
      · intro _
        exact h
  | succ count ih =>
      have hread : dev.reads read = some (frames index) :=
        hreads 0 (by omega)
      have hrest : ∀ k < count,
          dev.reads (read + 1 + k) = some (frames (index + 1 + k)) := by
        intro k hk
        have hnext := hreads (k + 1) (by omega)
        rwa [Nat.add_right_comm read 1 k, Nat.add_right_comm index 1 k]
      rw [multiFrameLoop_succ, hread, andThen_snd, andThen_fst,
        payloads_append]
      by_cases hlast : index + 1 = 2 ^ shift
      · have hcount : count = 0 := by omega
        subst count
        have hsent := doMultiFrameCallBack_averages dev hpos hshift
          hsize h
          (hlength index (by omega)) hlast
        constructor
        · rw [if_neg (by omega), if_pos ⟨by omega, hlast⟩]
          have hfirst : payloads (countFrame (readFrame (some (frames index))
              s index fun s frame =>
                doMultiFrameCallBack dev s index frame)).2 = _ := hsent
          rw [hfirst]
          rfl
        · intro hmore
          omega
      · obtain ⟨hafter, hsent⟩ := doMultiFrameCallBack_accumulates dev hsize h
          (hlength index (by omega)) hlast
        obtain ⟨hpayloads, hend⟩ := ih (read + 1) (index + 1) _ hafter hrest
          (by omega)
        constructor
        · have hfirst : payloads (countFrame (readFrame (some (frames index))
              s index fun s frame =>
                doMultiFrameCallBack dev s index frame)).2 =
              if index + 1 = 2 ^ shift / 2 then [(frames index).bytes]
              else [] := hsent
          have hlater : payloads (multiFrameLoop dev (read + 1) (index + 1)
              count (countFrame (readFrame (some (frames index)) s index
                fun s frame => doMultiFrameCallBack dev s index frame)).1).2 =
              _ := hpayloads
          have hmiddle : (if index + 1 = 2 ^ shift / 2 then
                [(frames index).bytes] else []) =
              if index + 1 = 2 ^ shift / 2 then
                [(frames (2 ^ shift / 2 - 1)).bytes] else [] := by
            split
            next hindex => rw [← hindex, Nat.add_sub_cancel]
            next => rfl
          rw [hfirst, hlater, hmiddle]
          exact (due_succ _ _ count hlast).symm
        · intro hmore
          have hsame : index + (count + 1) = index + 1 + count := by omega
          rw [hsame] at hmore ⊢
          exact hend hmore

/-! ## The four commands -/

theorem KeepsDevice.count_eq_zero
    {trace : List CaptureEvent} (hkeeps : KeepsDevice trace)
    {event : CaptureEvent} (hevent : event.keepsDevice = false) :
    trace.count event = 0 := by
  rw [List.count_eq_zero]
  intro hmem
  rw [hkeeps event hmem] at hevent
  contradiction

theorem Answers.payloads_eq_nil
    {trace : List CaptureEvent} (hanswers : Answers trace) :
    payloads trace = [] := by
  rw [payloads, List.filterMap_eq_nil_iff]
  intro event hmem
  have hanswer := hanswers event hmem
  cases event <;> simp_all [CaptureEvent.isAnswer]

theorem payloads_skipFrames (s : RawState) :
    payloads (skipFrames s) = [] := by
  unfold skipFrames setLHcg
  split
  · split <;> rfl
  · rfl

theorem rawStep_getParam {command : RawCommand}
    (hget : command.commonCmd.datAt 0 = dataIdCaptureRawGetParam)
    (s : RawState) :
    rawStep s command =
      getSensorPara command.dev
        (rawCaptureinit command.dev s command.commonCmd) resSuccess := by
  rw [rawStep, rawCaptureCase, hget]
  rfl

theorem rawStep_checksum {command : RawCommand}
    (hchecksum : command.commonCmd.datAt 0 = dataIdCaptureRawChecksum)
    (s : RawState) :
    rawStep s command =
      sendRawDataResult s command.sendCmd command.commonCmd := by
  rw [rawStep, rawCaptureCase, hchecksum]
  rfl

theorem rawStep_setParam {command : RawCommand}
    (hset : command.commonCmd.datAt 0 = dataIdCaptureRawSetParam)
    (s : RawState) :
    rawStep s command =
      setCapConf command.dev s command.commonCmd ready := by
  rw [rawStep, rawCaptureCase, hset]
  rfl

theorem multiFrameConfig_of_params
    (s : RawState) (getParam setParam : RawCommand)
    (hget : getParam.commonCmd.datAt 0 = dataIdCaptureRawGetParam)
    (hset : setParam.commonCmd.datAt 0 = dataIdCaptureRawSetParam)
    (hmode : setParam.commonCmd.captureParams.multiframe ≠ captureNormal)
    (hframes : setParam.commonCmd.captureParams.framenumber.toNat =
      2 ^ shift) :
    let configured := next rawStep (next rawStep s getParam) setParam
    MultiFrameConfig getParam.dev.link shift
        (uint16At 1 getParam.commonCmd.dat.toList)
        (uint16At 3 getParam.commonCmd.dat.toList) configured ∧
      configured.captureFramesIndex = 0 ∧
      Answers (rawStep s getParam).2 ∧
      Answers (rawStep (next rawStep s getParam) setParam).2 := by
  have hgetStep := rawStep_getParam hget s
  have hsetStep := rawStep_setParam hset
  have hinfo :
      (next rawStep s getParam).capInfo.width =
          uint16At 1 getParam.commonCmd.dat.toList ∧
        (next rawStep s getParam).capInfo.height =
          uint16At 3 getParam.commonCmd.dat.toList ∧
        (next rawStep s getParam).capInfo.link = getParam.dev.link := by
    rw [next, hgetStep, getSensorPara]
    cases getParam.dev.readings <;> exact ⟨rfl, rfl, rfl⟩
  obtain ⟨hwidth, hheight, hlink⟩ := hinfo
  refine ⟨?_, ?_, ?_, ?_⟩
  · rw [next, hsetStep]
    exact ⟨hmode, hframes, hwidth, hheight, hlink⟩
  · rw [next, hsetStep]
    rfl
  · rw [hgetStep]
    exact (getSensorPara_answered _ _ _ _).answers
  · rw [hsetStep]
    exact (setCapConf_answered _ _ _ _).answers

theorem startCapture_accumulated
    (dev : Device) {s : RawState}
    (hsize : 4 * width.toNat * height.toNat < 2 ^ 31)
    (hconfig : MultiFrameConfig link shift width height s)
    (hindex : s.captureFramesIndex = 0) :
    Accumulated link frames shift width height 0 (startCapture dev s).1 := by
  have hwords : ∀ t : RawState, t.capInfo.width = width →
      t.capInfo.height = height →
      averageWords t = width.toNat * height.toNat := by
    intro t hwidth hheight
    rw [averageWords, hwidth, hheight]
    rw [Nat.mul_assoc] at hsize
    omega
  simp only [startCapture, ne_eq, hconfig.mode, not_false_eq_true, if_true]
  refine ⟨⟨hconfig.mode, hconfig.frames, hconfig.width, hconfig.height,
    hconfig.link⟩, hindex, ?_, ⟨_, rfl, ?_⟩⟩
  · rw [sumWords_zero]
    exact congrArg (fun count => some (List.replicate count 0))
      (hwords _ hconfig.width hconfig.height)
  · rw [List.length_replicate]
    exact hwords _ hconfig.width hconfig.height

theorem rawStep_start
    (command : RawCommand) (s : RawState)
    (hstart : command.commonCmd.datAt 0 = dataIdCaptureRawStart) :
    rawStep s command =
      StepRun.andThen
        (rawCaputure command.dev { s with captureStatus := rawCap })
        fun s => ({ s with captureStatus := avaliable }, []) := by
  rw [rawStep, rawCaptureCase, hstart]
  rfl

theorem rawStep_start_phases
    (command : RawCommand) (s : RawState)
    (hstart : command.commonCmd.datAt 0 = dataIdCaptureRawStart) :
    rawStep s command =
      StepRun.andThen
        (StepRun.andThen
          (StepRun.andThen
            (openDevice command.dev { s with captureStatus := rawCap })
            (captureFrames command.dev))
          closeDevice)
        fun s => ({ s with captureStatus := avaliable }, []) := by
  rw [rawStep_start command s hstart, rawCaputure_phases]

theorem MultiFrameConfig.withStatus {s : RawState}
    (h : MultiFrameConfig link shift width height s) (status : UInt8) :
    MultiFrameConfig link shift width height
      { s with captureStatus := status } :=
  ⟨h.mode, h.frames, h.width, h.height, h.link⟩

theorem Accumulated.withStatus {count : ℕ} {s : RawState}
    (h : Accumulated link frames shift width height count s)
    (status : UInt8) :
    Accumulated link frames shift width height count
      { s with captureStatus := status } :=
  ⟨h.config.withStatus status, h.index, h.sums, h.average⟩

theorem startCapture_published (dev : Device) (s : RawState) :
    payloads (startCapture dev s).2 = [] ∧
      (startCapture dev s).2.count .startCapture = 1 ∧
      (startCapture dev s).2.count .stopCapture = 0 := by
  rw [startCapture_events]
  split <;> exact ⟨rfl, rfl, rfl⟩

theorem stopCapture_published (s : RawState) :
    payloads (stopCapture s).2 = [] ∧
      (stopCapture s).2.count .startCapture = 0 ∧
      (stopCapture s).2.count .stopCapture = 1 := by
  rw [stopCapture_events]
  split <;> exact ⟨rfl, rfl, rfl⟩

theorem firstStart_payloads
    (command : RawCommand) {s : RawState}
    (hpos : 1 ≤ shift) (hshift : shift ≤ 7)
    (hstart : command.commonCmd.datAt 0 = dataIdCaptureRawStart)
    (hsize : 4 * width.toNat * height.toNat < 2 ^ 31)
    (hlength : ∀ k < 2 ^ shift, (frames k).bytes.length =
      2 * (width.toNat * height.toNat))
    (hconfig : MultiFrameConfig link shift width height s)
    (hindex : s.captureFramesIndex = 0)
    (hreads : ∀ k < 2 ^ shift / 2,
      command.dev.reads (skipFrame + k) = some (frames k)) :
    payloads (rawStep s command).2 =
        [(frames (2 ^ shift / 2 - 1)).bytes] ∧
      (rawStep s command).2.count .startCapture = 1 ∧
      (rawStep s command).2.count .stopCapture = 0 ∧
      Accumulated link frames shift width height (2 ^ shift / 2)
        (next rawStep s command) := by
  have hhalf : 0 < 2 ^ shift / 2 ∧ 2 ^ shift / 2 < 2 ^ shift := by
    interval_cases shift <;> decide
  have hbusy := hconfig.withStatus rawCap
  generalize hs : { s with captureStatus := rawCap } = busy at hbusy
  have hzero : busy.captureFramesIndex = 0 := by
    rw [← hs]
    exact hindex
  have hopen : openDevice command.dev busy =
      startCapture command.dev busy := if_pos hzero
  have hopened : Accumulated link frames shift width height 0
      (startCapture command.dev busy).1 :=
    startCapture_accumulated command.dev hsize hbusy hzero
  have hcapture : captureFrames command.dev
      (startCapture command.dev busy).1 =
        andThen ((startCapture command.dev busy).1,
          skipFrames (startCapture command.dev busy).1)
          (multiFrameLoop command.dev skipFrame 0 (2 ^ shift / 2)) := by
    rw [captureFrames_first command.dev hopened.config.mode hopened.index,
      hopened.config.frames]
  obtain ⟨hsent, hafter⟩ := multiFrameLoop_payloads command.dev hpos hshift
    hsize hlength skipFrame 0 (2 ^ shift / 2) _ hopened
    (by simpa using hreads) (by omega)
  have hfinal := hafter (by omega)
  rw [Nat.zero_add] at hfinal hsent
  have hkeeps : KeepsDevice (captureFrames command.dev
      (startCapture command.dev busy).1).2 :=
    (captureFrames_capturing command.dev _).keeps
  have hclose : closeDevice (captureFrames command.dev
      (startCapture command.dev busy).1).1 =
        ((captureFrames command.dev (startCapture command.dev busy).1).1,
          []) := by
    rw [hcapture]
    apply if_neg
    rw [andThen_fst, hfinal.index, hfinal.config.frames]
    omega
  have hevents : (rawStep s command).2 =
      (startCapture command.dev busy).2 ++
        (captureFrames command.dev (startCapture command.dev busy).1).2 := by
    rw [rawStep_start_phases command s hstart, hs]
    simp [hopen, hclose]
  have hstate : next rawStep s command =
      { (captureFrames command.dev (startCapture command.dev busy).1).1 with
        captureStatus := avaliable } := by
    rw [next, rawStep_start_phases command s hstart, hs]
    simp [hopen, hclose]
  obtain ⟨hnothing, hstarted, hunstopped⟩ :=
    startCapture_published command.dev busy
  refine ⟨?_, ?_, ?_, ?_⟩
  · have hcaptured : payloads (captureFrames command.dev
        (startCapture command.dev busy).1).2 =
          [(frames (2 ^ shift / 2 - 1)).bytes] := by
      simp only [hcapture, andThen_snd, payloads_append, payloads_skipFrames,
        hsent]
      rw [if_pos (by omega), if_neg (by omega)]
      rfl
    rw [hevents, payloads_append, hcaptured, hnothing, List.nil_append]
  · rw [hevents, List.count_append, hkeeps.count_eq_zero rfl, hstarted]
  · rw [hevents, List.count_append, hkeeps.count_eq_zero rfl, hunstopped]
  · rw [hstate, hcapture]
    exact hfinal.withStatus avaliable

theorem secondStart_payloads
    (command : RawCommand) {s : RawState}
    (hpos : 1 ≤ shift) (hshift : shift ≤ 7)
    (hstart : command.commonCmd.datAt 0 = dataIdCaptureRawStart)
    (hsize : 4 * width.toNat * height.toNat < 2 ^ 31)
    (hlength : ∀ k < 2 ^ shift, (frames k).bytes.length =
      2 * (width.toNat * height.toNat))
    (h : Accumulated link frames shift width height (2 ^ shift / 2) s)
    (hreads : ∀ k < 2 ^ shift / 2,
      command.dev.reads k = some (frames (2 ^ shift / 2 + k))) :
    payloads (rawStep s command).2 =
        [meanFrame link frames (2 ^ shift)
          (width.toNat * height.toNat)] ∧
      (rawStep s command).2.count .startCapture = 0 ∧
      (rawStep s command).2.count .stopCapture = 1 := by
  have hhalf : 0 < 2 ^ shift / 2 ∧ 2 ^ shift / 2 * 2 = 2 ^ shift := by
    interval_cases shift <;> decide
  have hbusy := h.withStatus rawCap
  generalize hs : { s with captureStatus := rawCap } = busy at hbusy
  have hcounted : busy.captureFramesIndex ≠ 0 := by
    rw [hbusy.index]
    omega
  have hopen : openDevice command.dev busy = (busy, []) := if_neg hcounted
  have hcapture : captureFrames command.dev busy =
      andThen (busy, [])
        (multiFrameLoop command.dev 0 (2 ^ shift / 2)
          (2 ^ shift - 2 ^ shift / 2)) := by
    have hframes := hbusy.config.frames
    rw [captureFrames_second command.dev hbusy.config.mode
      (by rw [hframes]; exact hbusy.index) (by rw [hframes]; omega), hframes]
  obtain ⟨hsent, -⟩ := multiFrameLoop_payloads command.dev hpos hshift
    hsize hlength 0 (2 ^ shift / 2) (2 ^ shift - 2 ^ shift / 2) busy hbusy
    (by
      intro k hk
      rw [Nat.zero_add]
      exact hreads k (by omega))
    (by omega)
  have hcaptured := captureFrames_capturing command.dev busy
  have hcount : frameCount busy = 2 ^ shift - 2 ^ shift / 2 := by
    rw [frameCount, if_neg hbusy.config.mode, multiFrameCount,
      if_neg hcounted, hbusy.index, hbusy.config.frames, if_pos rfl]
  have hclose : closeDevice (captureFrames command.dev busy).1 =
      stopCapture (captureFrames command.dev busy).1 := by
    apply if_pos
    rw [hcaptured.index, hcaptured.frames, hcount, hbusy.index,
      hbusy.config.frames]
    omega
  have hevents : (rawStep s command).2 =
      (captureFrames command.dev busy).2 ++
        (stopCapture (captureFrames command.dev busy).1).2 := by
    rw [rawStep_start_phases command s hstart, hs]
    simp [hopen, hclose]
  obtain ⟨hnothing, hunstarted, hstopped⟩ :=
    stopCapture_published (captureFrames command.dev busy).1
  refine ⟨?_, ?_, ?_⟩
  · have hcaptured : payloads (captureFrames command.dev busy).2 =
        [meanFrame link frames (2 ^ shift)
          (width.toNat * height.toNat)] := by
      simp only [hcapture, andThen_snd, List.nil_append, hsent]
      rw [if_neg (by omega), if_pos (by omega)]
      rfl
    rw [hevents, payloads_append, hcaptured, hnothing, List.append_nil]
  · rw [hevents, List.count_append, hcaptured.keeps.count_eq_zero rfl,
      hunstarted]
  · rw [hevents, List.count_append, hcaptured.keeps.count_eq_zero rfl,
      hstopped]

/-- A multi-frame capture sends the middle frame and the rounded means of all
frames; no sum and no mean overflows, and the device is started and stopped
once. -/
theorem multiFrameCapture_sends_means
    (s : RawState) (getParam setParam firstStart secondStart : RawCommand)
    (hpos : 1 ≤ shift) (hshift : shift ≤ 7)
    (hget : getParam.commonCmd.datAt 0 = dataIdCaptureRawGetParam)
    (hwidth : uint16At 1 getParam.commonCmd.dat.toList = width)
    (hheight : uint16At 3 getParam.commonCmd.dat.toList = height)
    (hlink : getParam.dev.link = link)
    (hset : setParam.commonCmd.datAt 0 = dataIdCaptureRawSetParam)
    (hmode : setParam.commonCmd.captureParams.multiframe ≠ captureNormal)
    (hframes : setParam.commonCmd.captureParams.framenumber.toNat =
      2 ^ shift)
    (hfirst : firstStart.commonCmd.datAt 0 = dataIdCaptureRawStart)
    (hsecond : secondStart.commonCmd.datAt 0 = dataIdCaptureRawStart)
    (hsize : 4 * width.toNat * height.toNat < 2 ^ 31)
    (hlength : ∀ k < 2 ^ shift, (frames k).bytes.length =
      2 * (width.toNat * height.toNat))
    (hfirstReads : ∀ k < 2 ^ shift / 2,
      firstStart.dev.reads (skipFrame + k) = some (frames k))
    (hsecondReads : ∀ k < 2 ^ shift / 2,
      secondStart.dev.reads k = some (frames (2 ^ shift / 2 + k))) :
    let published := trace rawStep s
      [getParam, setParam, firstStart, secondStart]
    payloads published =
        [(frames (2 ^ shift / 2 - 1)).bytes,
          meanFrame link frames (2 ^ shift)
            (width.toNat * height.toNat)] ∧
      (∀ pixel, pixelSum link frames (2 ^ shift) pixel + 2 ^ shift / 2 <
          2 ^ 32 ∧
        pixelMean link frames (2 ^ shift) pixel < 2 ^ 16) ∧
      published.count .startCapture = 1 ∧
      published.count .stopCapture = 1 := by
  obtain ⟨hconfig, hindex, hgetAnswers, hsetAnswers⟩ :=
    multiFrameConfig_of_params s getParam setParam hget hset hmode hframes
  rw [hwidth, hheight, hlink] at hconfig
  obtain ⟨hfirstSent, hfirstStarted, hfirstStopped, hhalfway⟩ :=
    firstStart_payloads firstStart hpos hshift hfirst hsize hlength hconfig
      hindex hfirstReads
  obtain ⟨hsecondSent, hsecondStarted, hsecondStopped⟩ :=
    secondStart_payloads secondStart hpos hshift hsecond hsize hlength hhalfway
      hsecondReads
  have hstarts : CaptureEvent.startCapture.keepsDevice = false := rfl
  have hstops : CaptureEvent.stopCapture.keepsDevice = false := rfl
  refine ⟨?_, ?_, ?_, ?_⟩
  · simp only [trace_cons, trace_nil, List.append_nil, payloads_append,
      hgetAnswers.payloads_eq_nil, hsetAnswers.payloads_eq_nil, hfirstSent,
      hsecondSent, List.nil_append]
    rfl
  · intro pixel
    exact pixelSum_bounds link frames pixel hshift
  · simp only [trace_cons, trace_nil, List.append_nil, List.count_append,
      hgetAnswers.keepsDevice.count_eq_zero hstarts,
      hsetAnswers.keepsDevice.count_eq_zero hstarts, hfirstStarted,
      hsecondStarted]
  · simp only [trace_cons, trace_nil, List.append_nil, List.count_append,
      hgetAnswers.keepsDevice.count_eq_zero hstops,
      hsetAnswers.keepsDevice.count_eq_zero hstops, hfirstStopped,
      hsecondStopped]

end Capture

theorem twoPixels_mean :
    let onePixel : ℕ → List UInt8 := fun k => if k = 0 then [4, 1] else [7, 1]
    let command : (ℕ → List UInt8) → CommandData → RawCommand :=
      fun reads cmd =>
        { dev := workingDevice .vicap reads, sendCmd := zeroCommand,
          commonCmd := cmd }
    payloads (trace rawStep (RawState.initial noHdr)
      [command (fun _ => []) (getParamRequest 1 1),
        command (fun _ => []) (setParamRequest 2 1),
        command (fun k => onePixel (k - 5)) startRequest,
        command (fun k => onePixel (k + 1)) startRequest]) =
      [[4, 1], [6, 1]] := by
  intro onePixel command
  let frames : ℕ → Frame := fun k => .ofBytes (onePixel k)
  have hlength : ∀ k < 2 ^ 1, (frames k).bytes.length = 2 * (1 * 1) := by
    decide
  have hfirstReads : ∀ k < 2 ^ 1 / 2,
      (command (fun k => onePixel (k - 5)) startRequest).dev.reads
        (skipFrame + k) = some (frames k) := by
    intro k _
    simp [command, workingDevice, frames, skipFrame]
  have hsecondReads : ∀ k < 2 ^ 1 / 2,
      (command (fun k => onePixel (k + 1)) startRequest).dev.reads k =
        some (frames (2 ^ 1 / 2 + k)) := by
    intro k _
    simp [command, workingDevice, frames, Nat.add_comm]
  have hsent := (multiFrameCapture_sends_means (RawState.initial noHdr)
    (command (fun _ => []) (getParamRequest 1 1))
    (command (fun _ => []) (setParamRequest 2 1))
    (command (fun k => onePixel (k - 5)) startRequest)
    (command (fun k => onePixel (k + 1)) startRequest)
    (show 1 ≤ 1 by decide) (by decide) (by decide)
    (show uint16At 1 (getParamRequest 1 1).dat.toList = 1 by decide)
    (show uint16At 3 (getParamRequest 1 1).dat.toList = 1 by decide)
    rfl (by decide) (by decide) (by decide) (by decide) (by decide)
    (by decide) hlength hfirstReads hsecondReads).1
  rw [hsent]
  decide

end RkaiqToolServer
