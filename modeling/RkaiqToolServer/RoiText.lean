import RkaiqToolServer.MppRequests

/-!
# The regions of interest as a text

The regions of an encoder can be given as a text of bracketed groups of nine
numbers, `(x,x,x,x,x,x,x,x,x)(x,x,x,x,x,x,x,x,x)...`.  The reader looks for the
next opening bracket and for the closing bracket behind it, counts the commas
between the two and leaves the numbers to `sscanf`.  What stands between two
groups is skipped; a group that is not closed ends the text.
-/

namespace RkaiqToolServer

open ParamText

/-! ## The reader -/

/-- The letters of the format before each of its numbers. -/
def roiFormat : List Char := '(' :: List.replicate 8 ','

/-- The numbers that `sscanf` stores; it stops at the first letter that the
format does not expect. -/
def scanFormat : List Char → List Char → List ℤ
  | expected :: format, letter :: text =>
      if letter = expected then
        match scanDecimal text with
        | some (value, rest) => value :: scanFormat format rest
        | none => []
      else []
  | _, _ => []

/-- `strtol` stops at the ends of `long`. -/
def clampLong (value : ℤ) : ℤ := max (-2 ^ 63) (min value (2 ^ 63 - 1))

/-- Each number is cut to the width of its field. -/
def roiRegionOf : List ℤ → Option EncRoiRegion
  | [x, y, w, h, intra, quality, qpAreaIdx, areaMapEn, absQpEn] =>
      some
        { x := UInt16.ofInt (clampLong x)
          y := UInt16.ofInt (clampLong y)
          w := UInt16.ofInt (clampLong w)
          h := UInt16.ofInt (clampLong h)
          intra := UInt16.ofInt (clampLong intra)
          quality := Int16.ofInt (clampLong quality)
          qpAreaIdx := UInt16.ofInt (clampLong qpAreaIdx)
          areaMapEn := UInt8.ofInt (clampLong areaMapEn)
          absQpEn := UInt8.ofInt (clampLong absQpEn) }
  | _ => none

/-- The groups of a text behind the regions that have been read.  A group that
is not closed or has not eight commas ends the reading, one whose numbers
cannot be read throws all regions away. -/
def roiLoop (start : ParamString) (ret : List EncRoiRegion) :
    List EncRoiRegion :=
  match _hopen : start.dropWhile (· ≠ '(') with
  | [] => ret
  | opening :: text =>
      match _hclose : text.dropWhile (· ≠ ')') with
      | [] => ret
      | closing :: rest =>
          if (text.takeWhile (· ≠ ')')).count ',' ≠ 8 then ret
          else
            match roiRegionOf (scanFormat roiFormat (opening :: text)) with
            | none => []
            | some region => roiLoop (closing :: rest) (ret ++ [region])
termination_by start.length
decreasing_by
  have hstart := List.length_dropWhile_le (· ≠ '(') start
  have htext := List.length_dropWhile_le (· ≠ ')') text
  rw [_hopen, List.length_cons] at hstart
  rw [_hclose] at htext
  omega

def stringToRoiRegions (strRegions : ParamString) : List EncRoiRegion :=
  roiLoop strRegions []

/-- `video_encoder_set_roi_regions` with a text. -/
def videoEncoderSetRoiText (roiParam : ParamString) : Option EncoderControl :=
  let regions := stringToRoiRegions roiParam
  if regions = [] then none else some (videoEncoderSetRoiRegions regions)

/-! ## Writing -/

def EncRoiRegion.numbers (region : EncRoiRegion) : List ℤ :=
  [region.x.toNat, region.y.toNat, region.w.toNat, region.h.toNat,
    region.intra.toNat, region.quality.toInt, region.qpAreaIdx.toNat,
    region.areaMapEn.toNat, region.absQpEn.toNat]

/-- Each number behind its letter of a format. -/
def writeFormat (format : List Char) (values : List ℤ) : List Char :=
  (format.zip values).flatMap fun entry => entry.1 :: decimal entry.2

/-- A group without its closing bracket. -/
def EncRoiRegion.group (region : EncRoiRegion) : ParamString :=
  writeFormat roiFormat region.numbers

/-- Groups, each behind a gap.  No gap opens a bracket, and like every text
here none holds a zero byte, where the search for brackets would end. -/
def writeRoiRegions (entries : List (ParamString × EncRoiRegion)) :
    ParamString :=
  entries.flatMap fun entry => entry.1 ++ entry.2.group ++ [')']

theorem clampLong_eq {value : ℤ} (hlow : -2 ^ 63 ≤ value)
    (hhigh : value < 2 ^ 63) : clampLong value = value := by
  unfold clampLong
  omega

theorem uint16_clampLong (value : UInt16) :
    UInt16.ofInt (clampLong value.toNat) = value := by
  have hbound : value.toNat < 2 ^ 16 := value.toNat_lt
  rw [clampLong_eq (by omega) (by omega), UInt16.ofInt,
    Int.emod_eq_of_lt (by omega) (by omega), Int.toNat_natCast]
  exact UInt16.ofNat_toNat

theorem uint8_clampLong (value : UInt8) :
    UInt8.ofInt (clampLong value.toNat) = value := by
  have hbound : value.toNat < 2 ^ 8 := value.toNat_lt
  rw [clampLong_eq (by omega) (by omega), UInt8.ofInt,
    Int.emod_eq_of_lt (by omega) (by omega), Int.toNat_natCast]
  exact UInt8.ofNat_toNat

theorem int16_clampLong (value : Int16) :
    Int16.ofInt (clampLong value.toInt) = value := by
  have hlow := value.le_toInt
  have hhigh := value.toInt_lt
  rw [clampLong_eq (by omega) (by omega), Int16.ofInt_toInt]

theorem roiRegionOf_numbers (region : EncRoiRegion) :
    roiRegionOf region.numbers = some region := by
  simp only [roiRegionOf, EncRoiRegion.numbers, uint16_clampLong,
    uint8_clampLong, int16_clampLong]

theorem roiFormat_digit : ∀ letter ∈ roiFormat, letter.isDigit = false := by
  simp [roiFormat]

/-- `sscanf` reads back what was written in its format. -/
theorem scanFormat_writeFormat {format : List Char} {values : List ℤ}
    (hlength : format.length = values.length)
    (hformat : ∀ letter ∈ format, letter.isDigit = false) {rest : List Char}
    (hrest : ∀ letter ∈ rest.head?, letter.isDigit = false) :
    scanFormat format (writeFormat format values ++ rest) = values := by
  induction format generalizing values with
  | nil =>
      cases values with
      | nil =>
          cases rest <;> rfl
      | cons value values => simp at hlength
  | cons letter format ih =>
      cases values with
      | nil => simp at hlength
      | cons value values =>
          rw [List.length_cons, List.length_cons, Nat.add_right_cancel_iff]
            at hlength
          rw [List.forall_mem_cons] at hformat
          have htail := ih hlength hformat.2
          have hstop : ∀ letter ∈ (writeFormat format values ++ rest).head?,
              letter.isDigit = false := by
            cases format with
            | nil => exact hrest
            | cons next format =>
                cases values with
                | nil => simp at hlength
                | cons value values =>
                    intro letter hletter
                    cases hletter
                    exact hformat.2 next List.mem_cons_self
          have htext : writeFormat (letter :: format) (value :: values) ++ rest =
              letter :: (decimal value ++ (writeFormat format values ++ rest)) := by
            simp [writeFormat]
          rw [htext, scanFormat, if_pos rfl, scanDecimal_decimal value hstop]
          exact congrArg (value :: ·) htail

/-! ## Reading it -/

section

variable {ret : List EncRoiRegion}

theorem roiLoop_eq (start : ParamString) (ret : List EncRoiRegion) :
    roiLoop start ret =
      match start.dropWhile (· ≠ '(') with
      | [] => ret
      | opening :: text =>
          match text.dropWhile (· ≠ ')') with
          | [] => ret
          | closing :: rest =>
              if (text.takeWhile (· ≠ ')')).count ',' ≠ 8 then ret
              else
                match roiRegionOf (scanFormat roiFormat (opening :: text)) with
                | none => []
                | some region => roiLoop (closing :: rest) (ret ++ [region]) := by
  rw [roiLoop]
  split
  · rename_i hopen
    rw [hopen]
  · rename_i opening text hopen
    rw [hopen]
    dsimp only
    split
    · rename_i hclose
      rw [hclose]
    · rename_i closing rest hclose
      rw [hclose]

theorem dropWhile_append_not_mem {letter : Char} {before : ParamString}
    (hbefore : letter ∉ before) (text : ParamString) :
    (before ++ text).dropWhile (· ≠ letter) = text.dropWhile (· ≠ letter) := by
  apply List.dropWhile_append_of_pos
  intro other hother
  rw [decide_eq_true_eq]
  rintro rfl
  exact hbefore hother

/-- What stands before an opening bracket does not count. -/
theorem roiLoop_skip {before : ParamString} (hbefore : '(' ∉ before)
    (text : ParamString) (ret : List EncRoiRegion) :
    roiLoop (before ++ text) ret = roiLoop text ret := by
  rw [roiLoop_eq (before ++ text), roiLoop_eq text,
    dropWhile_append_not_mem hbefore]

/-- Where no bracket is closed nothing is read. -/
theorem roiLoop_unclosed {text : ParamString} (htext : ')' ∉ text)
    (ret : List EncRoiRegion) : roiLoop text ret = ret := by
  rw [roiLoop_eq]
  split
  · rfl
  rename_i opening rest hopen
  have hrest : ')' ∉ rest := by
    intro hmem
    apply htext
    apply (List.dropWhile_sublist (· ≠ '(')).subset
    rw [hopen]
    exact List.mem_cons_of_mem _ hmem
  have hclose : rest.dropWhile (· ≠ ')') = [] := by
    rw [List.dropWhile_eq_nil_iff]
    intro letter hletter
    rw [decide_eq_true_eq]
    rintro rfl
    exact hrest hletter
  rw [hclose]

/-- The letters of a group behind its opening bracket. -/
theorem EncRoiRegion.group_eq (region : EncRoiRegion) :
    ∃ text, region.group = '(' :: text ∧ ')' ∉ text ∧ text.count ',' = 8 := by
  have hcomma : ∀ value : ℤ, (decimal value).count ',' = 0 := fun value =>
    List.count_eq_zero.mpr (not_mem_decimal (by decide) (by decide) value)
  have hclosing : ∀ value : ℤ, ')' ∉ decimal value := fun value =>
    not_mem_decimal (by decide) (by decide) value
  refine ⟨_, rfl, ?_, ?_⟩
  · simp [hclosing]
  · simp [hcomma]

theorem roiLoop_group (region : EncRoiRegion) (rest : ParamString)
    (ret : List EncRoiRegion) :
    roiLoop (region.group ++ ')' :: rest) ret =
      roiLoop rest (ret ++ [region]) := by
  obtain ⟨text, hgroup, hclosing, hcommas⟩ := region.group_eq
  have hscan : scanFormat roiFormat (region.group ++ ')' :: rest) =
      region.numbers := by
    apply scanFormat_writeFormat rfl roiFormat_digit
    intro letter hletter
    cases hletter
    decide
  have hall : ∀ letter ∈ text, decide (letter ≠ ')') = true := by
    intro letter hletter
    rw [decide_eq_true_eq]
    rintro rfl
    exact hclosing hletter
  have htext : (text ++ ')' :: rest).takeWhile (· ≠ ')') = text := by
    rw [List.takeWhile_append_of_pos hall]
    simp
  rw [hgroup, List.cons_append] at hscan ⊢
  rw [roiLoop_eq]
  simp only [List.dropWhile_cons, ne_eq, not_true_eq_false, decide_false,
    Bool.false_eq_true, if_false, List.dropWhile_append_of_pos hall, htext,
    hcommas, hscan, roiRegionOf_numbers]
  exact @roiLoop_skip [')'] (by decide) rest _

/-- The reader finds every group that is complete: whatever opens no bracket may
stand between them, and whatever closes none may follow. -/
theorem roiLoop_writeRoiRegions {entries : List (ParamString × EncRoiRegion)}
    (hgaps : ∀ entry ∈ entries, '(' ∉ entry.1) {tail : ParamString}
    (htail : ')' ∉ tail) (ret : List EncRoiRegion) :
    roiLoop (writeRoiRegions entries ++ tail) ret =
      ret ++ entries.map Prod.snd := by
  induction entries generalizing ret with
  | nil =>
      rw [List.map_nil, List.append_nil]
      exact roiLoop_unclosed htail ret
  | cons entry entries ih =>
      rw [List.forall_mem_cons] at hgaps
      have htext : writeRoiRegions (entry :: entries) ++ tail =
          entry.1 ++ (entry.2.group ++
            ')' :: (writeRoiRegions entries ++ tail)) := by
        simp [writeRoiRegions]
      rw [htext, roiLoop_skip hgaps.1, roiLoop_group, ih hgaps.2]
      simp

end

/-- A text of regions asks the encoder for these regions: from the text to the
regions, from them to the bytes of a buffer, and from these to the regions that
the encoder reads.  A text that breaks off asks for the regions before. -/
theorem setRoiText_asked {entries : List (ParamString × EncRoiRegion)}
    (hsome : entries ≠ []) (hgaps : ∀ entry ∈ entries, '(' ∉ entry.1)
    {tail : ParamString} (htail : ')' ∉ tail) :
    ∃ control,
      videoEncoderSetRoiText (writeRoiRegions entries ++ tail) =
          some control ∧
        readChange control.1 control.2 =
          .change (.roi (entries.map Prod.snd)) := by
  have hregions : stringToRoiRegions (writeRoiRegions entries ++ tail) =
      entries.map Prod.snd := by
    rw [stringToRoiRegions, roiLoop_writeRoiRegions hgaps htail,
      List.nil_append]
  have hnonempty : entries.map Prod.snd ≠ [] := by
    simpa using hsome
  refine ⟨videoEncoderSetRoiRegions (entries.map Prod.snd), ?_, ?_⟩
  · simp only [videoEncoderSetRoiText, hregions, if_neg hnonempty]
  · exact @readChange_control (.setRoiRegions (entries.map Prod.snd)) _ rfl

theorem setRoiText_asked_two :
    ∃ control,
      videoEncoderSetRoiText
          (writeRoiRegions
            [([], ⟨0, 0, 64, 64, 1, -10, 0, 0, 0⟩),
              ([' '], ⟨64, 0, 32, 32, 0, 30, 1, 0, 1⟩)] ++ "(1,2".toList) =
          some control ∧
        readChange control.1 control.2 =
          .change (.roi [⟨0, 0, 64, 64, 1, -10, 0, 0, 0⟩,
            ⟨64, 0, 32, 32, 0, 30, 1, 0, 1⟩]) :=
  setRoiText_asked (by decide) (by decide) (by decide)

end RkaiqToolServer
