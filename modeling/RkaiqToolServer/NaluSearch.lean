import RkaiqToolServer.ByteCodec

/-!
# Finding start codes

`find_startcode_internal` looks for the bytes 00 00 01.  It goes byte by byte
to an aligned address, then by words, skipping the words without a zero byte,
and byte by byte again at the end.  Whatever the alignment, it finds what one
pass over the bytes would find, and reads only bytes of the buffer.
-/

namespace RkaiqToolServer

open ByteCodec

/-- The bytes handed to a search, the memory behind them, and the address of
the first one. -/
structure NalBuffer where
  bytes : List UInt8
  behind : ℕ → UInt8
  address : ℕ

namespace NalBuffer

variable (buffer : NalBuffer)

def stop : ℕ := buffer.bytes.length

def byte (p : ℕ) : UInt8 :=
  if p < buffer.stop then buffer.bytes.getD p 0
  else buffer.behind (p - buffer.stop)

/-- `p[0] == 0 && p[1] == 0 && p[2] == 1`. -/
def startcodeAt (p : ℕ) : Bool :=
  buffer.byte p == 0 && buffer.byte (p + 1) == 0 && buffer.byte (p + 2) == 1

def word (p : ℕ) : UInt32 :=
  UInt32.ofNat (leNat [buffer.byte p, buffer.byte (p + 1),
    buffer.byte (p + 2), buffer.byte (p + 3)])

/-- The bytes of a word of which one is zero, looked at in the order of the
source. -/
def startcodeInWord (p : ℕ) : Option ℕ :=
  let first :=
    if buffer.byte (p + 1) = 0 then
      if buffer.byte p = 0 ∧ buffer.byte (p + 2) = 1 then some p
      else if buffer.byte (p + 2) = 0 ∧ buffer.byte (p + 3) = 1 then
        some (p + 1)
      else none
    else none
  let second :=
    if buffer.byte (p + 3) = 0 then
      if buffer.byte (p + 2) = 0 ∧ buffer.byte (p + 4) = 1 then some (p + 2)
      else if buffer.byte (p + 4) = 0 ∧ buffer.byte (p + 5) = 1 then
        some (p + 3)
      else none
    else none
  first.or second

end NalBuffer

def hasZeroByte (x : UInt32) : Bool :=
  (x - 0x01010101) &&& ~~~x &&& 0x80808080 != 0

namespace NalBuffer

variable (buffer : NalBuffer)

def wordRound (p : ℕ) : Option ℕ :=
  if hasZeroByte (buffer.word p) then buffer.startcodeInWord p else none

/-! ## The three loops -/

/-- The places of the first loop, up to the next aligned address. -/
def headRounds (p : ℕ) : List ℕ :=
  List.range' p
    (min (p + 4 - (buffer.address + p) % 4) (buffer.stop - 3) - p)

def wordStart (p : ℕ) : ℕ := p + (buffer.headRounds p).length

/-- The places of the second loop, one in four up to six bytes before the
end. -/
def wordRounds (p : ℕ) : List ℕ :=
  List.range' (buffer.wordStart p)
    ((buffer.stop - 6 - buffer.wordStart p + 3) / 4) 4

def tailStart (p : ℕ) : ℕ :=
  buffer.wordStart p + 4 * (buffer.wordRounds p).length

def tailRounds (p : ℕ) : List ℕ :=
  List.range' (buffer.tailStart p)
    (buffer.stop - 3 - buffer.tailStart p)

def findStartcodeInternal (p : ℕ) : ℕ :=
  (((buffer.headRounds p).find? buffer.startcodeAt).or
    (((buffer.wordRounds p).findSome? buffer.wordRound).or
      ((buffer.tailRounds p).find? buffer.startcodeAt))).getD buffer.stop

/-- What the rounds of the three loops read at most. -/
def startcodeReads (p : ℕ) : List ℕ :=
  (buffer.headRounds p).flatMap (fun q => List.range' q 3) ++
    ((buffer.wordRounds p).flatMap (fun q => List.range' q 6) ++
      (buffer.tailRounds p).flatMap (fun q => List.range' q 3))

def findNaluStartcode (p : ℕ) : ℕ :=
  let out := buffer.findStartcodeInternal p
  if p < out ∧ out < buffer.stop ∧ buffer.byte (out - 1) = 0 then out - 1
  else out

def naluReads (p : ℕ) : List ℕ :=
  let out := buffer.findStartcodeInternal p
  buffer.startcodeReads p ++
    if p < out ∧ out < buffer.stop then [out - 1] else []

end NalBuffer

/-! ## Words without a zero byte -/

theorem testBit_iff {value bit : ℕ} :
    value.testBit bit = true ↔ value / 2 ^ bit % 2 = 1 := by
  rw [Nat.testBit_eq_decide_div_mod_eq, decide_eq_true_eq]

theorem hasZeroByte_of_mark {x : UInt32} (bit : ℕ)
    (hborrow : (x - 0x01010101).toNat / 2 ^ bit % 2 = 1)
    (hclear : (~~~x).toNat / 2 ^ bit % 2 = 1)
    (hmask : (0x80808080 : UInt32).toNat.testBit bit = true) :
    hasZeroByte x = true := by
  have hmark : ((x - 0x01010101) &&& ~~~x &&& 0x80808080).toNat.testBit
      bit = true := by
    rw [UInt32.toNat_and, UInt32.toNat_and, Nat.testBit_and, Nat.testBit_and,
      testBit_iff.mpr hborrow, testBit_iff.mpr hclear, hmask]
    rfl
  rw [hasZeroByte, bne_iff_ne]
  intro hzero
  rw [hzero] at hmark
  simp at hmark

/-- A zero byte borrows into its own top bit. -/
theorem hasZeroByte_of_byte {x : UInt32} {k : ℕ} (hk : k < 4)
    (hzero : x.toNat / 256 ^ k % 256 = 0) : hasZeroByte x = true := by
  have hlt := x.toNat_lt
  have hsub : (x - 0x01010101).toNat =
      (2 ^ 32 - 0x01010101 + x.toNat) % 2 ^ 32 := UInt32.toNat_sub _ _
  have hnot : (~~~x).toNat = 2 ^ 32 - 1 - x.toNat := by
    simp
  interval_cases k
  · refine hasZeroByte_of_mark 7 ?_ ?_ (by decide) <;>
      simp only [hsub, hnot] <;> norm_num at hzero ⊢ <;> omega
  · refine hasZeroByte_of_mark 15 ?_ ?_ (by decide) <;>
      simp only [hsub, hnot] <;> norm_num at hzero ⊢ <;> omega
  · refine hasZeroByte_of_mark 23 ?_ ?_ (by decide) <;>
      simp only [hsub, hnot] <;> norm_num at hzero ⊢ <;> omega
  · refine hasZeroByte_of_mark 31 ?_ ?_ (by decide) <;>
      simp only [hsub, hnot] <;> norm_num at hzero ⊢ <;> omega

namespace NalBuffer

variable {buffer : NalBuffer}

theorem word_byte {p k : ℕ} (hk : k < 4) :
    (buffer.word p).toNat / 256 ^ k % 256 = (buffer.byte (p + k)).toNat := by
  have h0 := (buffer.byte p).toNat_lt
  have h1 := (buffer.byte (p + 1)).toNat_lt
  have h2 := (buffer.byte (p + 2)).toNat_lt
  have h3 := (buffer.byte (p + 3)).toNat_lt
  have hword : (buffer.word p).toNat = leNat [buffer.byte p,
      buffer.byte (p + 1), buffer.byte (p + 2), buffer.byte (p + 3)] := by
    rw [word, UInt32.toNat_ofNat']
    simp only [leNat]
    omega
  rw [hword]
  simp only [leNat]
  interval_cases k <;> norm_num <;> omega

theorem startcodeAt_iff {p : ℕ} :
    buffer.startcodeAt p = true ↔ buffer.byte p = 0 ∧
      buffer.byte (p + 1) = 0 ∧ buffer.byte (p + 2) = 1 := by
  simp [startcodeAt, and_assoc]

theorem find?_four (f : ℕ → Bool) (p : ℕ) :
    (List.range' p 4).find? f =
      if f p then some p
      else if f (p + 1) then some (p + 1)
      else if f (p + 2) then some (p + 2)
      else if f (p + 3) then some (p + 3)
      else none := by
  have hrange : List.range' p 4 = [p, p + 1, p + 2, p + 3] := rfl
  rw [hrange]
  grind

/-- The source looks at the second and the fourth byte first, which changes
neither what is found nor the order. -/
theorem startcodeInWord_eq (p : ℕ) :
    buffer.startcodeInWord p =
      (List.range' p 4).find? buffer.startcodeAt := by
  rw [find?_four, startcodeInWord]
  simp only [startcodeAt_iff, Nat.add_assoc, Nat.reduceAdd]
  by_cases hsecond : buffer.byte (p + 1) = 0
  · by_cases hfourth : buffer.byte (p + 3) = 0
    · simp only [hsecond, hfourth, if_true, true_and]
      grind
    · simp only [hsecond, hfourth, if_true, if_false, true_and, and_false,
        false_and]
      grind
  · by_cases hfourth : buffer.byte (p + 3) = 0
    · simp only [hsecond, hfourth, if_true, if_false, true_and, and_false,
        false_and]
      grind
    · simp [hsecond, hfourth]

theorem wordRound_eq (p : ℕ) :
    buffer.wordRound p = (List.range' p 4).find? buffer.startcodeAt := by
  rw [wordRound]
  by_cases hzero : hasZeroByte (buffer.word p) = true
  · rw [if_pos hzero, startcodeInWord_eq]
  · have hbytes : ∀ k < 4, buffer.byte (p + k) ≠ 0 := by
      intro k hk hbyte
      apply hzero
      apply hasZeroByte_of_byte hk
      rw [word_byte hk, hbyte]
      rfl
    rw [if_neg hzero, eq_comm, List.find?_range'_eq_none]
    intro q hfrom hto
    obtain ⟨k, rfl⟩ := Nat.exists_eq_add_of_le hfrom
    have hbyte := hbytes k (by omega)
    simp [startcodeAt, hbyte]

/-! ## One pass over the bytes -/

theorem find?_range'_append {f : ℕ → Bool} (start first second : ℕ) :
    (List.range' start (first + second)).find? f =
      ((List.range' start first).find? f).or
        ((List.range' (start + first) second).find? f) := by
  rw [← List.range'_append_1, List.find?_append]

theorem findSome?_wordRound (start count : ℕ) :
    (List.range' start count 4).findSome? buffer.wordRound =
      (List.range' start (4 * count)).find? buffer.startcodeAt := by
  induction count generalizing start with
  | zero => rfl
  | succ count ih =>
      have hcount : 4 * (count + 1) = 4 + 4 * count := by
        omega
      rw [List.range'_succ, List.findSome?_cons, wordRound_eq, ih, hcount,
        find?_range'_append]
      cases (List.range' start 4).find? buffer.startcodeAt <;> rfl

/-- Whatever the address, the three loops find what one pass over the bytes
finds. -/
theorem findStartcodeInternal_eq (p : ℕ) :
    buffer.findStartcodeInternal p =
      ((List.range' p (buffer.stop - 3 - p)).find?
        buffer.startcodeAt).getD buffer.stop := by
  have hhead : (buffer.headRounds p).length ≤ buffer.stop - 3 - p := by
    rw [headRounds, List.length_range']
    omega
  have hstart : buffer.wordStart p = p + (buffer.headRounds p).length := rfl
  have hwords : 4 * (buffer.wordRounds p).length ≤
      buffer.stop - 3 - buffer.wordStart p := by
    rw [wordRounds, List.length_range']
    omega
  have htail : buffer.tailStart p =
      buffer.wordStart p + 4 * (buffer.wordRounds p).length := rfl
  have hsplit : buffer.stop - 3 - p = (buffer.headRounds p).length +
      (4 * (buffer.wordRounds p).length +
        (buffer.stop - 3 - buffer.tailStart p)) := by
    omega
  have hheadRange : buffer.headRounds p =
      List.range' p (buffer.headRounds p).length := by
    rw [headRounds, List.length_range']
  have hwordRange : buffer.wordRounds p = List.range' (buffer.wordStart p)
      (buffer.wordRounds p).length 4 := by
    rw [wordRounds, List.length_range']
  rw [findStartcodeInternal, hsplit, find?_range'_append,
    find?_range'_append, ← hstart, ← htail, ← findSome?_wordRound,
    ← hheadRange, ← hwordRange]
  rfl

theorem startcodeReads_inside (p : ℕ) :
    ∀ q ∈ buffer.startcodeReads p, q < buffer.stop := by
  intro q hq
  simp only [startcodeReads, headRounds, wordRounds, tailRounds,
    List.mem_append, List.mem_flatMap, List.mem_range'] at hq
  rcases hq with ⟨place, hplace, hread⟩ | ⟨place, hplace, hread⟩ |
    ⟨place, hplace, hread⟩
  · omega
  · obtain ⟨round, hround, hat⟩ := hplace
    omega
  · omega

/-! ## What a search returns -/

/-- No start code in front of `out`. -/
def Quiet (buffer : NalBuffer) (p out : ℕ) : Prop :=
  ∀ q, p ≤ q → q < out → buffer.startcodeAt q = false

/-- A start code at the very end, with no byte behind it, is not found. -/
theorem findStartcodeInternal_cases (buffer : NalBuffer) (p : ℕ) :
    (buffer.findStartcodeInternal p = buffer.stop ∧
      buffer.Quiet p (buffer.stop - 3)) ∨
    (p ≤ buffer.findStartcodeInternal p ∧
      buffer.findStartcodeInternal p + 3 < buffer.stop ∧
      buffer.startcodeAt (buffer.findStartcodeInternal p) = true ∧
      buffer.Quiet p (buffer.findStartcodeInternal p)) := by
  rw [findStartcodeInternal_eq]
  cases hfound : (List.range' p (buffer.stop - 3 - p)).find?
      buffer.startcodeAt with
  | none =>
      left
      refine ⟨rfl, ?_⟩
      intro q hfrom hto
      simpa using List.find?_range'_eq_none.mp hfound q hfrom (by omega)
  | some out =>
      right
      obtain ⟨hat, hmem, hbefore⟩ := List.find?_range'_eq_some.mp hfound
      rw [List.mem_range'_1] at hmem
      refine ⟨hmem.1, by simp only [Option.getD_some]; omega, hat, ?_⟩
      intro q hfrom hto
      simpa using hbefore q hfrom hto

theorem findStartcodeInternal_eq_of_at {p out : ℕ} (hfrom : p ≤ out)
    (hend : out + 3 < buffer.stop) (hat : buffer.startcodeAt out = true)
    (hquiet : buffer.Quiet p out) :
    buffer.findStartcodeInternal p = out := by
  rcases findStartcodeInternal_cases buffer p with
    ⟨-, hnone⟩ | ⟨hge, -, hat', hquiet'⟩
  · have hnot := hnone out hfrom (by omega)
    rw [hat] at hnot
    cases hnot
  · rcases Nat.lt_trichotomy (buffer.findStartcodeInternal p) out with
      hbefore | hsame | hbehind
    · have hnot := hquiet _ hge hbefore
      rw [hat'] at hnot
      cases hnot
    · exact hsame
    · have hnot := hquiet' out hfrom hbehind
      rw [hat] at hnot
      cases hnot

theorem findStartcodeInternal_eq_stop {p : ℕ}
    (hquiet : buffer.Quiet p (buffer.stop - 3)) :
    buffer.findStartcodeInternal p = buffer.stop := by
  rcases findStartcodeInternal_cases buffer p with
    ⟨hstop, -⟩ | ⟨hge, hend, hat, -⟩
  · exact hstop
  · have hnot := hquiet _ hge (by omega)
    rw [hat] at hnot
    cases hnot

theorem findNaluStartcode_eq_stop {p : ℕ}
    (hquiet : buffer.Quiet p (buffer.stop - 3)) :
    buffer.findNaluStartcode p = buffer.stop := by
  simp [findNaluStartcode, findStartcodeInternal_eq_stop hquiet]

/-- The three bytes of a start code that no zero stands in front of. -/
theorem findNaluStartcode_three {p out : ℕ} (hfrom : p ≤ out)
    (hend : out + 3 < buffer.stop) (hat : buffer.startcodeAt out = true)
    (hquiet : buffer.Quiet p out)
    (hbefore : p < out → buffer.byte (out - 1) ≠ 0) :
    buffer.findNaluStartcode p = out := by
  rw [findNaluStartcode,
    findStartcodeInternal_eq_of_at hfrom hend hat hquiet]
  refine if_neg ?_
  rintro ⟨hlt, -, hzero⟩
  exact hbefore hlt hzero

/-- With a zero in front of it the start code begins at that zero. -/
theorem findNaluStartcode_four {p out : ℕ} (hfrom : p ≤ out)
    (hend : out + 4 < buffer.stop) (hzero : buffer.byte out = 0)
    (hat : buffer.startcodeAt (out + 1) = true)
    (hquiet : buffer.Quiet p (out + 1)) :
    buffer.findNaluStartcode p = out := by
  rw [findNaluStartcode,
    findStartcodeInternal_eq_of_at (by omega) (by omega) hat hquiet]
  exact if_pos ⟨by omega, by omega, hzero⟩

theorem naluReads_inside (p : ℕ) :
    ∀ q ∈ buffer.naluReads p, q < buffer.stop := by
  intro q hq
  simp only [naluReads, List.mem_append] at hq
  rcases hq with hscan | hback
  · exact startcodeReads_inside p q hscan
  · split_ifs at hback with hfound
    · rw [List.mem_singleton] at hback
      omega
    · cases hback

end NalBuffer

end RkaiqToolServer
