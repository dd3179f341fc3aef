import RkaiqToolServer.NormalCapture

/-!
# Averages of incomplete captures

A multi-frame capture advances its counter at every read, whether a frame was
delivered and accepted or not.  The accumulator holds the sum of the accepted
frames only, which is the invariant kept from the first START to the last
read; what is sent then is the mean of all the frames that were asked for if
and only if none of them is missing and the divisor is one of the seven that
the averaging knows.
-/

namespace RkaiqToolServer

open ByteCodec
open StepRun

/-! ## The accepted frames -/

/-- The size test of `DoMultiFrameCallBack` lets the frame pass. -/
def FitsLimit (s : RawState) (frame : Frame) : Prop :=
  (frame.bytes.length : ℤ) ≤ frameLimit s

instance (s : RawState) (frame : Frame) : Decidable (FitsLimit s frame) :=
  inferInstanceAs (Decidable (_ ≤ _))

def acceptedRead (s : RawState) (read : Option Frame) : Option Frame :=
  read.filter fun frame => FitsLimit s frame

/-- The frames that pass among the reads from number `read` on. -/
def acceptedReads (s : RawState) (dev : Device) : ℕ → ℕ → List Frame
  | _, 0 => []
  | read, count + 1 =>
      (acceptedRead s (dev.reads read)).toList ++
        acceptedReads s dev (read + 1) count

/-- The frames that pass in a capture of `n` frames with two START commands. -/
def captureAccepted (s : RawState) (n : ℕ) (first second : Device) :
    List Frame :=
  acceptedReads s first skipFrame (n / 2) ++
    acceptedReads s second 0 (n - n / 2)

def frameAt (accepted : List Frame) (index : ℕ) : Frame :=
  accepted.getD index { bytes := [], beyond := fun _ => 0 }

def acceptedMean (s : RawState) (accepted : List Frame) : List UInt8 :=
  meanFrame s.capInfo.link (frameAt accepted) accepted.length
    (s.capInfo.width.toNat * s.capInfo.height.toNat)

def lastSize (accepted : List Frame) : ℕ :=
  (accepted.getLast?.map fun frame => frame.bytes.length).getD 0

theorem acceptedReads_succ_last (s : RawState) (dev : Device)
    (read count : ℕ) :
    acceptedReads s dev read (count + 1) =
      acceptedReads s dev read count ++
        (acceptedRead s (dev.reads (read + count))).toList := by
  induction count generalizing read with
  | zero => simp [acceptedReads]
  | succ count ih =>
      have hread : read + 1 + count = read + (count + 1) := by omega
      rw [acceptedReads, ih, hread, ← List.append_assoc]
      rfl

/-! ## The accumulator -/

def addFrame (s : RawState) (accumulator : List UInt32) (frame : Frame) :
    List UInt32 :=
  multiFrameAddition accumulator frame.sample s.capInfo.width.toNat
    s.capInfo.height.toNat (decide (s.capInfo.link ≠ .vicap))

def addFrames (s : RawState) (accepted : List Frame) : List UInt32 :=
  accepted.foldl (addFrame s) (List.replicate (averageWords s) 0)

@[simp] theorem length_addFrames (s : RawState) (accepted : List Frame) :
    (addFrames s accepted).length = averageWords s := by
  induction accepted using List.reverseRecOn with
  | nil => simp [addFrames]
  | append_singleton accepted frame ih =>
      rw [addFrames, List.foldl_append]
      simpa [addFrame, addFrames] using ih

theorem pixelSum_congr {link : SensorLink} {frames others : ℕ → Frame}
    {count : ℕ} (hsame : ∀ index < count, frames index = others index)
    (pixel : ℕ) :
    pixelSum link frames count pixel = pixelSum link others count pixel := by
  apply Finset.sum_congr rfl
  intro index hindex
  rw [hsame index (Finset.mem_range.mp hindex)]

theorem sumWords_congr {link : SensorLink} {frames others : ℕ → Frame}
    {count : ℕ} (hsame : ∀ index < count, frames index = others index)
    (pixels : ℕ) :
    sumWords link frames count pixels = sumWords link others count pixels := by
  apply List.map_congr_left
  intro pixel _
  rw [pixelSum_congr hsame]

theorem frameAt_append {accepted : List Frame} (frame : Frame) {index : ℕ}
    (hindex : index < accepted.length) :
    frameAt (accepted ++ [frame]) index = frameAt accepted index := by
  simp [frameAt, List.getElem?_append_left hindex]

theorem frameAt_length (accepted : List Frame) (frame : Frame) :
    frameAt (accepted ++ [frame]) accepted.length = frame := by
  simp [frameAt, List.getD_eq_getElem?_getD]

/-- The accumulator holds the sums over the accepted frames. -/
theorem addFrames_eq_sumWords (s : RawState) (accepted : List Frame)
    (hsize : s.capInfo.width.toNat * s.capInfo.height.toNat < 2 ^ 30) :
    addFrames s accepted =
      sumWords s.capInfo.link (frameAt accepted) accepted.length
        (s.capInfo.width.toNat * s.capInfo.height.toNat) := by
  have hwords : averageWords s =
      s.capInfo.width.toNat * s.capInfo.height.toNat := by
    rw [averageWords]
    omega
  have hpixels : s.capInfo.height.toNat * s.capInfo.width.toNat < 2 ^ 31 := by
    rw [Nat.mul_comm]
    omega
  induction accepted using List.reverseRecOn with
  | nil => rw [List.length_nil, sumWords_zero, ← hwords, addFrames,
      List.foldl_nil]
  | append_singleton accepted frame ih =>
      have hadd := multiFrameAddition_sumWords s.capInfo.link
        (frameAt (accepted ++ [frame])) accepted.length hpixels
      have hbefore : sumWords s.capInfo.link (frameAt accepted)
          accepted.length (s.capInfo.width.toNat * s.capInfo.height.toNat) =
          sumWords s.capInfo.link (frameAt (accepted ++ [frame]))
            accepted.length
            (s.capInfo.width.toNat * s.capInfo.height.toNat) :=
        sumWords_congr (fun index hindex =>
          (frameAt_append frame hindex).symm) _
      rw [frameAt_length] at hadd
      rw [List.length_append, List.length_singleton, ← hadd, ← hbefore, ← ih,
        addFrames, List.foldl_append]
      rfl

/-! ## The two START commands -/

section Capture

variable {n : ℕ} {config : RawState}

/-- A capture of `n` frames, configured in the state `config`, stands at the
read number `index` and has added the frames `accepted`. -/
structure Adding (n : ℕ) (config : RawState) (accepted : List Frame)
    (index : ℕ) (s : RawState) : Prop where
  mode : s.captureMode ≠ captureNormal
  requested : s.captureFrames = n
  width : s.capInfo.width = config.capInfo.width
  height : s.capInfo.height = config.capInfo.height
  link : s.capInfo.link = config.capInfo.link
  position : s.captureFramesIndex = index
  sums : s.avergeFrame0 = some (addFrames config accepted)
  output : s.avergeFrame1 = some (List.replicate (averageWords config) 0)

theorem Adding.fitsLimit_iff {accepted : List Frame} {index : ℕ}
    {s : RawState} (h : Adding n config accepted index s) (frame : Frame) :
    FitsLimit s frame ↔ FitsLimit config frame := by
  rw [FitsLimit, FitsLimit, frameLimit, frameLimit, h.width, h.height]

theorem Adding.acceptedRead_eq {accepted : List Frame} {index : ℕ}
    {s : RawState} (h : Adding n config accepted index s)
    (read : Option Frame) :
    acceptedRead s read = acceptedRead config read := by
  simp only [acceptedRead, h.fitsLimit_iff]

/-- A read before the last one adds its frame if there is one to add.  In the
second half it sends nothing. -/
theorem Adding.read {accepted : List Frame} {index : ℕ} {s : RawState}
    (h : Adding n config accepted index s) (dev : Device)
    (read : Option Frame) (hlast : index + 1 ≠ n) :
    Adding n config
        (accepted ++ (acceptedRead config read).toList) (index + 1)
        (countFrame (readFrame read s index fun s frame =>
          doMultiFrameCallBack dev s index frame)).1 ∧
      (n / 2 ≤ index →
        payloads (countFrame (readFrame read s index fun s frame =>
          doMultiFrameCallBack dev s index frame)).2 = []) := by
  have hindex : s.captureFramesIndex + 1 = index + 1 := by rw [h.position]
  rw [← h.acceptedRead_eq]
  cases read with
  | none =>
      exact ⟨⟨h.mode, h.requested, h.width, h.height, h.link, hindex,
        by rw [← List.append_nil accepted] at h; exact h.sums, h.output⟩,
        fun _ => rfl⟩
  | some frame =>
      have hlast' : index + 1 ≠ s.captureFrames := by
        rwa [h.requested]
      by_cases hfits : FitsLimit s frame
      · have haccepted : acceptedRead s (some frame) = some frame := by
          simp [acceptedRead, hfits]
        have hadded : multiFrameAddition (addFrames config accepted)
            frame.sample s.capInfo.width.toNat s.capInfo.height.toNat
            (decide (s.capInfo.link ≠ .vicap)) =
              addFrames config (accepted ++ [frame]) := by
          rw [addFrames, addFrames, List.foldl_append, h.width, h.height,
            h.link]
          rfl
        simp only [haccepted, Option.toList_some, countFrame, readFrame,
          doMultiFrameCallBack, if_neg (not_lt.mpr hfits), h.sums, hadded,
          if_neg hlast', andThen_fst, andThen_snd]
        constructor
        · split <;> exact ⟨h.mode, h.requested, h.width, h.height,
            h.link, hindex, rfl, h.output⟩
        · intro hhalf
          have hmiddle : index + 1 ≠ s.captureFrames / 2 := by
            rw [h.requested]
            omega
          rw [if_neg hmiddle]
          rfl
      · have haccepted : acceptedRead s (some frame) = none := by
          simp [acceptedRead, hfits]
        simp only [haccepted, Option.toList_none, List.append_nil, countFrame,
          readFrame, doMultiFrameCallBack, if_pos (not_le.mp hfits),
          andThen_fst, andThen_snd]
        exact ⟨⟨h.mode, h.requested, h.width, h.height, h.link, hindex,
          h.sums, h.output⟩, fun _ => rfl⟩

/-- The reads before the last one. -/
theorem Adding.loop {accepted : List Frame} {index : ℕ} {s : RawState}
    (h : Adding n config accepted index s) (dev : Device) (read count : ℕ)
    (hbound : index + count < n) :
    Adding n config (accepted ++ acceptedReads config dev read count)
        (index + count) (multiFrameLoop dev read index count s).1 ∧
      (n / 2 ≤ index →
        payloads (multiFrameLoop dev read index count s).2 = []) := by
  induction count generalizing accepted read index s with
  | zero =>
      rw [acceptedReads, List.append_nil]
      exact ⟨h, fun _ => rfl⟩
  | succ count ih =>
      have hlast : index + 1 ≠ n := by omega
      have hposition : index + 1 + count = index + (count + 1) := by omega
      obtain ⟨hadding, hquiet⟩ := h.read dev (dev.reads read) hlast
      obtain ⟨hend, hlater⟩ := ih hadding (read + 1) (by omega)
      rw [multiFrameLoop_succ, andThen_fst, andThen_snd, payloads_append]
      rw [List.append_assoc, hposition] at hend
      refine ⟨hend, ?_⟩
      intro hhalf
      rw [hquiet hhalf, hlater (by omega), List.append_nil]

/-! ## What the last read sends -/

/-- The bytes of the output buffer after the averaging. -/
def outputBytes (config : RawState) (n : ℕ) (accepted : List Frame) :
    List UInt8 :=
  pixelBytes (multiFrameAverage (addFrames config accepted)
    (List.replicate (averageWords config) 0) config.capInfo.width.toNat
    config.capInfo.height.toNat n).2

theorem Adding.lastRead {accepted : List Frame} {index : ℕ} {s : RawState}
    (h : Adding n config accepted index s) (dev : Device)
    (read : Option Frame) (hlast : index + 1 = n) (hbyte : n < 256) :
    payloads (countFrame (readFrame read s index fun s frame =>
        doMultiFrameCallBack dev s index frame)).2 =
      (acceptedRead config read).toList.map fun frame =>
        (outputBytes config n (accepted ++ [frame])).take
          frame.bytes.length := by
  rw [← h.acceptedRead_eq]
  cases read with
  | none => rfl
  | some frame =>
      by_cases hfits : FitsLimit s frame
      · have haccepted : acceptedRead s (some frame) = some frame := by
          simp [acceptedRead, hfits]
        have hadded : multiFrameAddition (addFrames config accepted)
            frame.sample config.capInfo.width.toNat
            config.capInfo.height.toNat
            (decide (config.capInfo.link ≠ .vicap)) =
              addFrames config (accepted ++ [frame]) := by
          rw [addFrames, addFrames, List.foldl_append]
          rfl
        simp only [haccepted, countFrame, readFrame, doMultiFrameCallBack,
          if_neg (not_lt.mpr hfits), h.sums, if_pos hlast, andThen_snd,
          andThen_fst, h.output, Option.getD_some, h.width, h.height, h.link,
          hadded, h.requested, Nat.mod_eq_of_lt hbyte]
        rfl
      · have haccepted : acceptedRead s (some frame) = none := by
          simp [acceptedRead, hfits]
        simp only [haccepted, countFrame, readFrame, doMultiFrameCallBack,
          if_pos (not_le.mp hfits), andThen_snd]
        rfl

theorem multiFrameLoop_succ_last (dev : Device) (read index count : ℕ)
    (s : RawState) :
    multiFrameLoop dev read index (count + 1) s =
      andThen (multiFrameLoop dev read index count s) fun s =>
        countFrame (readFrame (dev.reads (read + count)) s (index + count)
          fun s frame => doMultiFrameCallBack dev s (index + count)
            frame) := by
  induction count generalizing read index s with
  | zero =>
      rw [multiFrameLoop_succ]
      simp only [StepRun.andThen, multiFrameLoop, List.append_nil,
        List.nil_append, Nat.add_zero]
  | succ count ih =>
      have hread : read + 1 + count = read + (count + 1) := by omega
      have hindex : index + 1 + count = index + (count + 1) := by omega
      rw [multiFrameLoop_succ, multiFrameLoop_succ]
      simp only [StepRun.andThen, ih, hread, hindex, List.append_assoc]

theorem payloads_closeDevice (s : RawState) :
    payloads (closeDevice s).2 = [] := by
  unfold closeDevice
  split
  · exact (stopCapture_published s).1
  · rfl

theorem Adding.withStatus {accepted : List Frame} {count : ℕ} {s : RawState}
    (h : Adding n config accepted count s) (status : UInt8) :
    Adding n config accepted count { s with captureStatus := status } :=
  ⟨h.mode, h.requested, h.width, h.height, h.link, h.position, h.sums,
    h.output⟩

theorem firstStart_adding (command : RawCommand) {s : RawState}
    (hstart : command.commonCmd.datAt 0 = dataIdCaptureRawStart)
    (hmode : s.captureMode ≠ captureNormal) (hframes : s.captureFrames = n)
    (hindex : s.captureFramesIndex = 0) (hn : 2 ≤ n) :
    Adding n s (acceptedReads s command.dev skipFrame (n / 2)) (n / 2)
      (next rawStep s command) := by
  have hopened : Adding n s [] 0
      (openDevice command.dev { s with captureStatus := rawCap }).1 := by
    rw [openDevice, if_pos hindex]
    simp only [startCapture, ne_eq, hmode, not_false_eq_true, if_true]
    exact ⟨hmode, hframes, rfl, rfl, rfl, hindex, rfl, rfl⟩
  rw [next, rawStep_start_phases command s hstart]
  generalize openDevice command.dev { s with captureStatus := rawCap } =
    opened at hopened ⊢
  obtain ⟨hadded, -⟩ := hopened.loop command.dev skipFrame (n / 2) (by omega)
  rw [List.nil_append, Nat.zero_add] at hadded
  have hcapture : captureFrames command.dev opened.1 =
      andThen (opened.1, skipFrames opened.1)
        (multiFrameLoop command.dev skipFrame 0 (n / 2)) := by
    rw [captureFrames_first command.dev hopened.mode hopened.position,
      hopened.requested]
  have hunfinished : n / 2 ≠ n := by omega
  simp only [andThen_fst, hcapture, closeDevice, hadded.position,
    hadded.requested, if_neg hunfinished]
  exact ⟨hadded.mode, rfl, hadded.width, hadded.height, hadded.link, rfl,
    hadded.sums, hadded.output⟩

/-- The second START sends one payload if its last read is accepted, and none
otherwise. -/
theorem Adding.secondStart {accepted : List Frame} {s : RawState}
    (h : Adding n config accepted (n / 2) s) (command : RawCommand)
    (hstart : command.commonCmd.datAt 0 = dataIdCaptureRawStart)
    (hn : 2 ≤ n) (hbyte : n < 256) :
    payloads (rawStep s command).2 =
      (acceptedRead config
        (command.dev.reads (n - n / 2 - 1))).toList.map fun frame =>
          (outputBytes config n (accepted ++ acceptedReads config command.dev
            0 (n - n / 2))).take frame.bytes.length := by
  have hbusy := h.withStatus rawCap
  generalize hs : { s with captureStatus := rawCap } = busy at hbusy
  have hhalf : n / 2 ≠ 0 := by omega
  have hopen : openDevice command.dev busy = (busy, []) :=
    if_neg (by rwa [hbusy.position])
  obtain ⟨last, hlast⟩ : ∃ last, n - n / 2 = last + 1 :=
    Nat.exists_eq_succ_of_ne_zero (by omega)
  have hcapture : captureFrames command.dev busy =
      andThen (busy, [])
        (multiFrameLoop command.dev 0 (n / 2) (last + 1)) := by
    have hframes := hbusy.requested
    rw [captureFrames_second command.dev hbusy.mode
      (by rw [hframes]; exact hbusy.position) (by rwa [hframes]), hframes,
      hlast]
  obtain ⟨hadded, hquiet⟩ := hbusy.loop command.dev 0 last (by omega)
  have hsent := hadded.lastRead command.dev (command.dev.reads (0 + last))
    (by omega) hbyte
  rw [rawStep_start_phases command s hstart, hs]
  simp only [andThen_snd, andThen_fst, hopen, hcapture, List.append_nil,
    List.nil_append, payloads_append, payloads_closeDevice]
  rw [hlast, Nat.add_sub_cancel, multiFrameLoop_succ_last, andThen_snd,
    payloads_append, hquiet le_rfl, List.nil_append, hsent,
    acceptedReads_succ_last, Nat.zero_add]
  cases acceptedRead config (command.dev.reads last) with
  | none => rfl
  | some frame => simp [List.append_assoc]

end Capture

/-! ## When the average is one of all the frames -/

/-- The averaging knows a shift for `n` frames, and the products that size
and walk its buffers do not wrap. -/
def AverageDefined (config : RawState) (n : ℕ) : Prop :=
  (frameShift n).isSome = true ∧
    config.capInfo.width.toNat * config.capInfo.height.toNat < 2 ^ 30

/-- The output buffer as `InitMultiFrame` leaves it. -/
def freshOutput (config : RawState) : List UInt8 :=
  List.replicate (2 * averageWords config) 0

/-- Whatever is sent is the rounded mean of `n` accepted frames, as far as the
last of them reaches. -/
def AveragesAll (config : RawState) (n : ℕ) (accepted : List Frame)
    (sent : List (List UInt8)) : Prop :=
  ∀ payload ∈ sent, accepted.length = n ∧
    payload = (acceptedMean config accepted).take (lastSize accepted)

theorem frameShift_eq_some {n shift : ℕ} (h : frameShift n = some shift) :
    n = 2 ^ shift ∧ 1 ≤ shift ∧ shift ≤ 7 := by
  unfold frameShift at h
  split at h <;> simp_all <;> subst h <;> decide

theorem outputBytes_defined {config : RawState} {accepted : List Frame}
    (hdefined : AverageDefined config accepted.length) :
    outputBytes config accepted.length accepted =
      acceptedMean config accepted := by
  obtain ⟨hshift, hsize⟩ := hdefined
  obtain ⟨shift, hframes⟩ := Option.isSome_iff_exists.mp hshift
  obtain ⟨hcount, hpos, hbound⟩ := frameShift_eq_some hframes
  have hwords : averageWords config =
      config.capInfo.width.toNat * config.capInfo.height.toNat := by
    rw [averageWords]
    omega
  have hpixels :
      config.capInfo.height.toNat * config.capInfo.width.toNat < 2 ^ 31 := by
    rw [Nat.mul_comm]
    omega
  rw [outputBytes, acceptedMean, addFrames_eq_sumWords config accepted hsize,
    hcount, multiFrameAverage_sumWords config.capInfo.link _ _ hpos hbound
      hpixels (by rw [List.length_replicate, hwords]), meanFrame]

theorem pixelBytes_replicate (count : ℕ) :
    pixelBytes (List.replicate count 0) = List.replicate (2 * count) 0 := by
  induction count with
  | zero => rfl
  | succ count ih =>
      have hcons : pixelBytes (List.replicate (count + 1) 0) =
          leBytes 2 0 ++ pixelBytes (List.replicate count 0) := rfl
      have hbytes : leBytes 2 0 = List.replicate 2 0 := rfl
      rw [hcons, hbytes, ih, List.replicate_append_replicate]
      congr 1
      omega

/-- No frame is accepted while the limit is negative, and no pixel is touched
once the number of pixels wraps. -/
theorem pixelCount_of_limit {config : RawState}
    (hlimit : 0 ≤ frameLimit config)
    (hlarge : 2 ^ 30 ≤
      config.capInfo.width.toNat * config.capInfo.height.toNat) :
    pixelCount config.capInfo.width.toNat config.capInfo.height.toNat =
      0 := by
  have hwidth := config.capInfo.width.toNat_lt
  have hheight := config.capInfo.height.toNat_lt
  have hproduct : config.capInfo.width.toNat * config.capInfo.height.toNat <
      2 ^ 16 * 2 ^ 16 := Nat.mul_lt_mul'' hwidth hheight
  rw [frameLimit] at hlimit
  rw [pixelCount, mul_comm]
  have hcast : ((config.capInfo.width.toNat *
      config.capInfo.height.toNat : ℕ) : ℤ) =
        (config.capInfo.width.toNat : ℤ) * config.capInfo.height.toNat := by
    push_cast
    rfl
  rw [← hcast] at hlimit ⊢
  generalize config.capInfo.width.toNat * config.capInfo.height.toNat =
    pixels at *
  by_cases hsmall : pixels < 2 ^ 31
  · rw [wrapInt_of_overflow (by omega) (by omega)] at hlimit
    omega
  · rw [wrapInt_of_overflow (by omega) (by omega)]
    omega

theorem outputBytes_undefined {config : RawState} {n : ℕ}
    {accepted : List Frame} (hlimit : 0 ≤ frameLimit config)
    (hundefined : ¬ AverageDefined config n) :
    outputBytes config n accepted = freshOutput config := by
  rw [outputBytes, freshOutput, ← pixelBytes_replicate, multiFrameAverage]
  cases hshift : frameShift n with
  | none => rfl
  | some shift =>
      have hlarge : 2 ^ 30 ≤
          config.capInfo.width.toNat * config.capInfo.height.toNat := by
        by_contra hsmall
        exact hundefined ⟨by rw [hshift]; rfl, not_le.mp hsmall⟩
      have hkept : (List.replicate (averageWords config) (0 : UInt16)).mapIdx
          (fun _ pixel => pixel) =
            List.replicate (averageWords config) 0 := by
        rw [List.mapIdx_eq_iff]
        intro pixel
        exact Option.map_id'.symm
      simp [pixelCount_of_limit hlimit hlarge, hkept]

/-- Whether one payload averages all the frames. -/
theorem output_averages_iff {config : RawState} {n : ℕ}
    {accepted : List Frame} (hlimit : 0 ≤ frameLimit config) :
    (accepted.length = n ∧
        (outputBytes config n accepted).take (lastSize accepted) =
          (acceptedMean config accepted).take (lastSize accepted)) ↔
      accepted.length = n ∧
        (AverageDefined config n ∨
          (acceptedMean config accepted).take (lastSize accepted) =
            (freshOutput config).take (lastSize accepted)) := by
  constructor
  · rintro ⟨hlength, hsent⟩
    refine ⟨hlength, or_iff_not_imp_left.mpr fun hundefined => ?_⟩
    rw [← hsent, outputBytes_undefined hlimit hundefined]
  · rintro ⟨hlength, hmean⟩
    refine ⟨hlength, ?_⟩
    by_cases hdefined : AverageDefined config n
    · subst hlength
      rw [outputBytes_defined hdefined]
    · rw [outputBytes_undefined hlimit hdefined,
        hmean.resolve_left hdefined]

/-- Commands that a client may send between the two START commands without
touching the capture: STATUS, and a CHECKSUM that agrees. -/
def LeavesCapture (s : RawState) (command : RawCommand) : Prop :=
  command.commonCmd.datAt 0 = dataIdCaptureRawStatus ∨
    command.commonCmd.datAt 0 = dataIdCaptureRawChecksum ∧
      s.captureCheckSum = command.commonCmd.checksumValue

theorem LeavesCapture.next_eq {s : RawState} {command : RawCommand}
    (hleaves : LeavesCapture s command) : next rawStep s command = s := by
  rcases hleaves with hstatus | ⟨hchecksum, hsum⟩
  · rw [next, rawStep, rawCaptureCase, hstatus]
    rfl
  · rw [next, rawStep_checksum hchecksum]
    simp only [sendRawDataResult, hsum, if_true]

theorem foldl_leavesCapture {s : RawState} {between : List RawCommand}
    (hleaves : ∀ command ∈ between, LeavesCapture s command) :
    between.foldl (next rawStep) s = s := by
  induction between with
  | nil => rfl
  | cons command rest ih =>
      rw [List.foldl_cons, (hleaves command (by simp)).next_eq]
      exact ih fun other hother => hleaves other (by simp [hother])

/-- What the last START of a multi-frame capture sends is the mean of all the
frames exactly when its last frame is not accepted, so that nothing is sent,
or all frames were accepted and the averaging knows their number or their mean
is zero. -/
theorem multiFrameCapture_averages_iff {n : ℕ} (s : RawState)
    (setParam first second : RawCommand) (between : List RawCommand)
    (hset : setParam.commonCmd.datAt 0 = dataIdCaptureRawSetParam)
    (hmode : setParam.commonCmd.captureParams.multiframe ≠ captureNormal)
    (hframes : setParam.commonCmd.captureParams.framenumber.toNat = n)
    (hn : 2 ≤ n)
    (hfirst : first.commonCmd.datAt 0 = dataIdCaptureRawStart)
    (hsecond : second.commonCmd.datAt 0 = dataIdCaptureRawStart)
    (hbetween : ∀ command ∈ between,
      LeavesCapture ([setParam, first].foldl (next rawStep) s) command) :
    let config := next rawStep s setParam
    let accepted := captureAccepted config n first.dev second.dev
    AveragesAll config n accepted
        (payloads (rawStep
          (([setParam, first] ++ between).foldl (next rawStep) s)
          second).2) ↔
      ((acceptedRead config (second.dev.reads (n - n / 2 - 1))).isSome =
          true →
        accepted.length = n ∧
          (AverageDefined config n ∨
            (acceptedMean config accepted).take (lastSize accepted) =
              (freshOutput config).take (lastSize accepted))) := by
  intro config accepted
  have hbyte : n < 256 := by
    rw [← hframes]
    exact UInt8.toNat_lt _
  have hconfig : config.captureMode ≠ captureNormal ∧
      config.captureFrames = n ∧ config.captureFramesIndex = 0 := by
    simp only [config, next, rawStep_setParam hset]
    exact ⟨hmode, hframes, rfl⟩
  have hadding := firstStart_adding first hfirst hconfig.1 hconfig.2.1
    hconfig.2.2 hn
  have hstate : ([setParam, first] ++ between).foldl (next rawStep) s =
      next rawStep config first := by
    rw [List.foldl_append, foldl_leavesCapture hbetween]
    rfl
  rw [hstate, hadding.secondStart second hsecond hn hbyte]
  obtain ⟨last, hlast⟩ : ∃ last, n - n / 2 = last + 1 :=
    Nat.exists_eq_succ_of_ne_zero (by omega)
  rw [hlast, Nat.add_sub_cancel, ← hlast]
  have haccepted : accepted = acceptedReads config first.dev skipFrame
      (n / 2) ++ acceptedReads config second.dev 0 (n - n / 2) := rfl
  rw [← haccepted]
  cases hread : acceptedRead config (second.dev.reads last) with
  | none => simp [AveragesAll]
  | some frame =>
      have hsize : lastSize accepted = frame.bytes.length := by
        rw [haccepted, hlast, acceptedReads_succ_last, Nat.zero_add, hread]
        simp [lastSize]
      have hlimit : 0 ≤ frameLimit config := by
        have hfits : FitsLimit config frame := by
          simpa using (Option.filter_eq_some_iff.mp hread).2
        exact le_trans (Int.natCast_nonneg _) hfits
      rw [← output_averages_iff hlimit, hsize]
      simp [AveragesAll, hsize]

/-- A command to a device whose driver delivers nothing. -/
def failedCommand (cmd : CommandData) : RawCommand where
  dev := { workingDevice .vicap (fun _ => []) with reads := fun _ => none }
  sendCmd := zeroCommand
  commonCmd := cmd

/-- Two one-pixel frames, with a CHECKSUM after the first payload. -/
theorem multiFrameCapture_averages_two :
    let first := frameCommand [4, 1] startRequest
    let second := frameCommand [7, 1] startRequest
    let config := next rawStep (sizedState 1 1)
      (frameCommand [] (setParamRequest 2 1))
    AveragesAll config 2 (captureAccepted config 2 first.dev second.dev)
      (payloads (rawStep
        ([frameCommand [] (setParamRequest 2 1), first,
          frameCommand [] (checksumRequest 5)].foldl (next rawStep)
            (sizedState 1 1)) second).2) :=
  (multiFrameCapture_averages_iff (sizedState 1 1)
    (frameCommand [] (setParamRequest 2 1)) (frameCommand [4, 1] startRequest)
    (frameCommand [7, 1] startRequest)
    [frameCommand [] (checksumRequest 5)] (by decide) (by decide) (by decide)
    (by decide) (by decide) (by decide)
    (by simp only [List.mem_singleton, forall_eq]
        exact .inr ⟨by decide, by decide⟩)).mpr
    fun _ => ⟨by decide, .inl ⟨by decide, by decide⟩⟩

/-- The first of two frames is not delivered; half of the second is sent as
the average. -/
theorem multiFrameCapture_averages_one :
    let first := failedCommand startRequest
    let second := frameCommand [4, 1] startRequest
    let config := next rawStep (sizedState 1 1)
      (frameCommand [] (setParamRequest 2 1))
    payloads (rawStep (next rawStep config first) second).2 = [[130, 0]] ∧
      ¬ AveragesAll config 2
        (captureAccepted config 2 first.dev second.dev)
        (payloads (rawStep (next rawStep config first) second).2) := by
  intro first second config
  have hsent : payloads (rawStep (next rawStep config first) second).2 =
      [[130, 0]] := by decide
  refine ⟨hsent, fun haverages => ?_⟩
  have hlength := (haverages [130, 0] (by rw [hsent]; simp)).1
  revert hlength
  decide

end RkaiqToolServer
