import RkaiqToolServer.RawCapture

/-!
# The settings of a capture

SET_PARAM writes the vertical blank, the exposure, the gain and, when a lens
answers, the focus of the request, and reports one status for all of them.
The requested focus position is unsigned and the limits of the driver are
signed; the comparisons between them are made in unsigned arithmetic.
-/

namespace RkaiqToolServer

open ByteCodec

/-- A control value as the driver reads it. -/
def controlValue (value : UInt32) : ℤ := signed 32 value.toNat

def focusWrites (trace : List CaptureEvent) : List UInt32 :=
  trace.filterMap fun event =>
    match event with
    | .setCtrl .focusAbsolute value => some value
    | _ => none

def repliesOf (trace : List CaptureEvent) : List CommandData :=
  trace.filterMap fun event =>
    match event with
    | .reply cmd => some cmd
    | _ => none

def Device.written (dev : Device) : Control → Bool
  | .vblank => dev.vblankWritten
  | .exposure => dev.exposureWritten
  | .analogueGain => dev.gainWritten
  | .focusAbsolute => dev.focusWritten

def FocusClamped (position minimum maximum value : UInt32) : Prop :=
  controlValue value =
    max (controlValue minimum) (min position.toNat (controlValue maximum))

/-- The focus is written once, as the requested position brought into the
range, and the answer tells whether a write failed. -/
structure SettingsFaithful (dev : Device) (position minimum maximum : UInt32)
    (trace : List CaptureEvent) : Prop where
  focus : ∃ value, focusWrites trace = [value] ∧
    FocusClamped position minimum maximum value
  status : ∃ cmd, repliesOf trace = [cmd] ∧
    (cmd.datAt 1 = ready ↔
      ∀ control value, .setCtrl control value ∈ trace →
        dev.written control = true)

/-- Read as unsigned numbers the limits still bring the position where it
belongs. -/
def FocusOrdered (position minimum maximum : UInt32) : Prop :=
  0 ≤ controlValue minimum ∨
    (0 ≤ controlValue maximum ∧
      2 ^ 32 + controlValue minimum ≤ position.toNat) ∨
    (controlValue maximum < 0 ∧
      (minimum = maximum ∨
        2 ^ 32 + controlValue maximum ≤ position.toNat))

theorem controlValue_cases (value : UInt32) :
    (value.toNat < 2 ^ 31 ∧ controlValue value = value.toNat) ∨
      (2 ^ 31 ≤ value.toNat ∧ controlValue value = value.toNat - 2 ^ 32) := by
  unfold controlValue signed
  split
  case isTrue hsmall => exact .inl ⟨hsmall, rfl⟩
  case isFalse hlarge => exact .inr ⟨not_lt.mp hlarge, rfl⟩

theorem clampFocus_clamped_iff {position minimum maximum : UInt32}
    (hrange : controlValue minimum ≤ controlValue maximum) :
    FocusClamped position minimum maximum
        (clampFocus position minimum maximum) ↔
      FocusOrdered position minimum maximum := by
  have hposition := controlValue_cases position
  have hminimum := controlValue_cases minimum
  have hmaximum := controlValue_cases maximum
  have hsize := position.toNat_lt
  have hminSize := minimum.toNat_lt
  have hmaxSize := maximum.toNat_lt
  have hequal : minimum = maximum ↔ minimum.toNat = maximum.toNat :=
    UInt32.toNat_inj.symm
  unfold FocusClamped FocusOrdered clampFocus
  rw [hequal]
  split
  case isTrue hbelow =>
    rw [UInt32.lt_iff_toNat_lt] at hbelow
    omega
  case isFalse habove =>
    rw [UInt32.lt_iff_toNat_lt] at habove
    split
    case isTrue hover =>
      rw [UInt32.lt_iff_toNat_lt] at hover
      omega
    case isFalse hinside =>
      rw [UInt32.lt_iff_toNat_lt] at hinside
      omega

/-! ## One SET_PARAM -/

theorem controlWrites_written {dev : Device} {lensPresent : Bool}
    {params : CaptureParams} {write : Control × UInt32 × Bool}
    (hwrite : write ∈ controlWrites dev lensPresent params) :
    write.2.2 = dev.written write.1 := by
  unfold controlWrites at hwrite
  rw [List.mem_append] at hwrite
  rcases hwrite with hsensor | hlens
  · simp only [List.mem_cons, List.not_mem_nil, or_false] at hsensor
    rcases hsensor with rfl | rfl | rfl <;> rfl
  · split at hlens
    · rw [List.mem_singleton.mp hlens]
      rfl
    · cases hlens

theorem setCtrl_mem_iff {writes : List (Control × UInt32 × Bool)}
    {cmd : CommandData} {control : Control} {value : UInt32} :
    CaptureEvent.setCtrl control value ∈
        writes.map (fun write => CaptureEvent.setCtrl write.1 write.2.1) ++
          [.reply cmd] ↔
      ∃ success, (control, value, success) ∈ writes := by
  simp

theorem repliesOf_setCapConf (writes : List (Control × UInt32 × Bool))
    (cmd : CommandData) :
    repliesOf (writes.map
        (fun write => CaptureEvent.setCtrl write.1 write.2.1) ++
          [.reply cmd]) = [cmd] := by
  induction writes with
  | nil => rfl
  | cons write writes ih => exact ih

/-- The writes that a SET_PARAM attempts. -/
def attemptedWrites (dev : Device) (s : RawState) (recvCmd : CommandData) :
    List (Control × UInt32 × Bool) :=
  if dev.ispOnline then []
  else controlWrites dev s.capInfo.lensPresent recvCmd.captureParams

theorem attemptedWrites_written {dev : Device} {s : RawState}
    {recvCmd : CommandData} {write : Control × UInt32 × Bool}
    (hwrite : write ∈ attemptedWrites dev s recvCmd) :
    write.2.2 = dev.written write.1 := by
  unfold attemptedWrites at hwrite
  split at hwrite
  · cases hwrite
  · exact controlWrites_written hwrite

theorem setCapConf_trace (dev : Device) (s : RawState)
    (recvCmd : CommandData) :
    ∃ cmd, (setCapConf dev s recvCmd ready).2 =
        (attemptedWrites dev s recvCmd).map
          (fun write => CaptureEvent.setCtrl write.1 write.2.1) ++
            [.reply cmd] ∧
      cmd.dat = datOf [0x02,
        if (attemptedWrites dev s recvCmd).all fun write => write.2.2
        then ready else resFailed] :=
  ⟨_, rfl, CommandData.dat_withCheckSum _⟩

/-- The status speaks for all the writes that were attempted. -/
theorem setCapConf_status (dev : Device) (s : RawState)
    (recvCmd : CommandData) :
    ∃ cmd, repliesOf (setCapConf dev s recvCmd ready).2 = [cmd] ∧
      (cmd.datAt 1 = ready ↔
        ∀ control value,
          .setCtrl control value ∈ (setCapConf dev s recvCmd ready).2 →
            dev.written control = true) := by
  obtain ⟨cmd, htrace, hdat⟩ := setCapConf_trace dev s recvCmd
  have hwritten : ∀ write ∈ attemptedWrites dev s recvCmd,
      write.2.2 = dev.written write.1 := fun _ => attemptedWrites_written
  have hfailed : resFailed ≠ ready := by decide
  have hstatus := datAt_of_dat hdat (show 1 < 48 by decide)
  simp only [htrace, repliesOf_setCapConf, setCtrl_mem_iff]
  refine ⟨cmd, rfl, ?_⟩
  rw [hstatus]
  generalize attemptedWrites dev s recvCmd = writes at hwritten ⊢
  have hall : (writes.all fun write => write.2.2) = true ↔
      ∀ control value, (∃ success, (control, value, success) ∈ writes) →
        dev.written control = true := by
    rw [List.all_eq_true]
    constructor
    · rintro hall control value ⟨success, hmem⟩
      rw [← hwritten _ hmem]
      exact hall _ hmem
    · intro hall write hmem
      rw [hwritten write hmem]
      exact hall write.1 write.2.1 ⟨write.2.2, hmem⟩
  rw [← hall]
  by_cases hsuccess : (writes.all fun write => write.2.2) = true
  · simp [hsuccess]
  · simp [hsuccess, hfailed]

theorem focusWrites_setCapConf {dev : Device} {s : RawState}
    {minimum maximum : UInt32} (recvCmd : CommandData)
    (hset : dev.ispOnline = false) (hlens : s.capInfo.lensPresent = true)
    (hquery : dev.focusRange = some (minimum, maximum)) :
    focusWrites (setCapConf dev s recvCmd ready).2 =
      [clampFocus recvCmd.captureParams.focusPosition minimum maximum] := by
  simp [setCapConf, controlWrites, hset, hlens, hquery, focusWrites]

/-- With a lens that answers, SET_PARAM does what it is asked for exactly when
the signed limits are in order as unsigned numbers too. -/
theorem setCapConf_faithful_iff {dev : Device} {s : RawState}
    {minimum maximum : UInt32} (recvCmd : CommandData)
    (hset : dev.ispOnline = false) (hlens : s.capInfo.lensPresent = true)
    (hquery : dev.focusRange = some (minimum, maximum))
    (hrange : controlValue minimum ≤ controlValue maximum) :
    SettingsFaithful dev recvCmd.captureParams.focusPosition minimum maximum
        (setCapConf dev s recvCmd ready).2 ↔
      FocusOrdered recvCmd.captureParams.focusPosition minimum maximum := by
  have hwrites := focusWrites_setCapConf recvCmd hset hlens hquery
  rw [← clampFocus_clamped_iff hrange]
  constructor
  · rintro ⟨⟨value, hvalue, hclamped⟩, -⟩
    rw [hwrites, List.cons.injEq] at hvalue
    rw [hvalue.1]
    exact hclamped
  · intro hclamped
    exact ⟨⟨_, hwrites, hclamped⟩, setCapConf_status dev s recvCmd⟩

/-- A working device whose lens moves between the two limits. -/
def lensDevice (minimum maximum : UInt32) : Device :=
  { workingDevice .vicap (fun _ => []) with
    focusRange := some (minimum, maximum) }

/-- A SET_PARAM for one frame at the given focus position. -/
def focusRequest (position : UInt32) : CommandData :=
  captureRequest ([dataIdCaptureRawSetParam, 0, 0, 0, 0, 0, 0, 0, 0, 2, 0, 1,
    captureNormal, 0, 0, 0, 0] ++ leBytes 4 position.toNat)

def lensState : RawState :=
  rawCaptureinit (lensDevice 0 64) (RawState.initial noHdr)
    (getParamRequest 1 1)

theorem setCapConf_faithful_seventy :
    SettingsFaithful (lensDevice 0 64) 70 0 64
      (setCapConf (lensDevice 0 64) lensState (focusRequest 70) ready).2 :=
  (setCapConf_faithful_iff (focusRequest 70) rfl rfl rfl (by decide)).mpr
    (.inl (by decide))

/-- Position 5 lies between the limits -10 and 10, and -10 is written. -/
theorem setCapConf_negative_minimum :
    ¬ SettingsFaithful (lensDevice 0xfffffff6 10) 5 0xfffffff6 10
      (setCapConf (lensDevice 0xfffffff6 10) lensState (focusRequest 5)
        ready).2 := by
  rintro ⟨⟨value, hvalue, hclamped⟩, -⟩
  have hposition : (focusRequest 5).captureParams.focusPosition = 5 := by
    decide
  rw [focusWrites_setCapConf (focusRequest 5) rfl rfl rfl, hposition,
    List.cons.injEq] at hvalue
  rw [← hvalue.1] at hclamped
  revert hclamped
  unfold FocusClamped
  decide

end RkaiqToolServer
