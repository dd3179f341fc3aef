import RkaiqToolServer.NaluSplit

/-!
# Looking for a unit by its type

`FindNaluByType` goes from start code to start code and looks at the byte that
the length of the first start code puts behind each of them.  The loop is left
one round after the last unit: the type is then read behind the buffer, as is
the third byte of a start code that is not there.  What is asked for is found
inside the buffer only when some unit met on the way shows its type.
-/

namespace RkaiqToolServer

open ByteCodec

/-! ## The search -/

structure NaluFound where
  /-- The place of the unit, `none` for NULL. -/
  targetNalu : Option ℕ
  /-- What `size` is set to. -/
  size : Option ℤ
  /-- The bytes looked at. -/
  reads : List ℕ

/-- The rounds of the loop, `none` when `fuel` runs out. -/
def findNaluRounds (codec : NalCodec) (buffer : NalBuffer) (wanted : ℤ)
    (startLen : ℕ) : ℕ → ℕ → ℕ → List ℕ → Option NaluFound
  | 0, _, _, _ => none
  | fuel + 1, nalStart, nalEnd, reads =>
      if nalStart = buffer.stop then some ⟨none, none, reads⟩
      else
        let header := nalEnd + startLen
        let next := buffer.findNaluStartcode header
        let looked := reads ++ (buffer.naluReads header ++ [header])
        if (nalType codec (buffer.byte header) : ℤ) = wanted then
          some ⟨some nalEnd, some (wrapInt (next - nalEnd)), looked⟩
        else
          findNaluRounds codec buffer wanted startLen fuel nalEnd next looked

/-- `codec` is `none` for every codec but the two. -/
def findNaluByType (codec : Option NalCodec) (buffer : NalBuffer)
    (wanted : ℤ) : Option NaluFound :=
  match codec with
  | none => some ⟨none, none, []⟩
  | some codec =>
      let nalStart := buffer.findNaluStartcode 0
      findNaluRounds codec buffer wanted (buffer.startLen nalStart)
        (buffer.stop + 2) nalStart nalStart
        (buffer.naluReads 0 ++ [nalStart + 2])

def intraType : NalCodec → ℤ
  | .h264 => 5
  | .h265 => 19

structure IntraFound where
  idrPtr : Option ℕ
  size : Option ℤ
  /-- The pointer that `size` is computed from. -/
  computedWith : Option (Option ℕ)

def ptrOffset (buffer : NalBuffer) : Option ℕ → ℤ
  | none => -buffer.address
  | some place => place

def getIntraFromBuffer (codec : Option NalCodec) (buffer : NalBuffer) :
    Option IntraFound :=
  match codec with
  | none => some ⟨none, none, none⟩
  | some codec =>
      (findNaluByType (some codec) buffer (intraType codec)).map fun found =>
        { idrPtr := found.targetNalu
          size := some (wrapInt (buffer.stop -
            wrapInt (ptrOffset buffer found.targetNalu)))
          computedWith := some found.targetNalu }

/-! ## What is asked of them -/

/-- A start code stands in the buffer with a header of the type behind it. -/
def UnitBegins (codec : Option NalCodec) (buffer : NalBuffer) (wanted : ℤ) :
    Prop :=
  ∃ known, codec = some known ∧ ∃ code, code + 3 < buffer.stop ∧
    buffer.startcodeAt code = true ∧
    (nalType known (buffer.byte (code + 3)) : ℤ) = wanted

/-- The search ends, stays inside the buffer and returns NULL exactly when no
such unit begins in it. -/
def FindsWithin (codec : Option NalCodec) (buffer : NalBuffer) (wanted : ℤ) :
    Prop :=
  ∃ found, findNaluByType codec buffer wanted = some found ∧
    (∀ q ∈ found.reads, q < buffer.stop) ∧
    (found.targetNalu = none ↔ ¬ UnitBegins codec buffer wanted)

/-- No size is computed from NULL. -/
def IntraComputed (codec : Option NalCodec) (buffer : NalBuffer) : Prop :=
  ∃ found, getIntraFromBuffer codec buffer = some found ∧
    found.computedWith ≠ some none

structure NaluSearchSafe (codec : Option NalCodec) (buffer : NalBuffer)
    (wanted : ℤ) : Prop where
  within : FindsWithin codec buffer wanted
  intra : IntraComputed codec buffer

/-! ## Units on the way -/

/-- `n` is where the first start code at or behind `p` begins, a zero in front
of its three bytes included. -/
def FirstUnit (buffer : NalBuffer) (p n : ℕ) : Prop :=
  ∃ code, p ≤ code ∧ code + 3 < buffer.stop ∧
    buffer.startcodeAt code = true ∧ buffer.Quiet p code ∧
    n = if p < code ∧ buffer.byte (code - 1) = 0 then code - 1 else code

/-- From the unit at the first place one comes to the second by looking for
start codes `startLen` bytes behind each. -/
inductive Walk (buffer : NalBuffer) (startLen : ℕ) : ℕ → ℕ → Prop
  | here (n : ℕ) (hinside : n < buffer.stop) : Walk buffer startLen n n
  | next {m k n : ℕ} (hfirst : FirstUnit buffer (m + startLen) k)
      (hrest : Walk buffer startLen k n) : Walk buffer startLen m n

section Units

variable {buffer : NalBuffer} {startLen p n m : ℕ}

theorem firstUnit_iff :
    FirstUnit buffer p n ↔
      n < buffer.stop ∧ buffer.findNaluStartcode p = n := by
  constructor
  · intro hunit
    obtain ⟨code, hfrom, hend, hat, hquiet, hn⟩ := hunit
    have hfound := NalBuffer.findStartcodeInternal_eq_of_at hfrom hend hat
      hquiet
    have hcode : code < buffer.stop := by omega
    rw [NalBuffer.findNaluStartcode, hfound, hn]
    constructor
    · split_ifs <;> omega
    · simp only [hcode, true_and]
  · intro hfound
    obtain ⟨hn, hfind⟩ := hfound
    rcases NalBuffer.findStartcodeInternal_cases buffer p with
      ⟨hstop, -⟩ | ⟨hfrom, hend, hat, hquiet⟩
    · rw [NalBuffer.findNaluStartcode, hstop] at hfind
      simp only [lt_irrefl, false_and, and_false, if_false] at hfind
      omega
    · have hcode : buffer.findStartcodeInternal p < buffer.stop := by omega
      refine ⟨_, hfrom, hend, hat, hquiet, ?_⟩
      rw [← hfind, NalBuffer.findNaluStartcode]
      simp only [hcode, true_and]

theorem FirstUnit.le (hunit : FirstUnit buffer p n) : p ≤ n := by
  obtain ⟨code, hfrom, -, -, -, hn⟩ := hunit
  rw [hn]
  split_ifs <;> omega

theorem FirstUnit.header_le (hunit : FirstUnit buffer p n) :
    n + 3 < buffer.stop := by
  obtain ⟨code, hfrom, hend, -, -, hn⟩ := hunit
  rw [hn]
  split_ifs <;> omega

theorem firstUnit_or_stop (buffer : NalBuffer) (p : ℕ) :
    FirstUnit buffer p (buffer.findNaluStartcode p) ∨
      buffer.findNaluStartcode p = buffer.stop := by
  rcases NalBuffer.findStartcodeInternal_cases buffer p with
    ⟨hstop, -⟩ | ⟨-, hend, -, -⟩
  · right
    simp [NalBuffer.findNaluStartcode, hstop]
  · left
    rw [firstUnit_iff]
    refine ⟨?_, rfl⟩
    rw [NalBuffer.findNaluStartcode]
    split_ifs <;> omega

theorem findNaluStartcode_le (buffer : NalBuffer) (p : ℕ) :
    buffer.findNaluStartcode p ≤ buffer.stop := by
  rcases firstUnit_or_stop buffer p with hunit | hstop
  · have hend := hunit.header_le
    omega
  · exact hstop.le

theorem lt_findNaluStartcode (hlen : 0 < startLen) (hn : n < buffer.stop) :
    n < buffer.findNaluStartcode (n + startLen) := by
  rcases firstUnit_or_stop buffer (n + startLen) with hunit | hstop
  · have hle := hunit.le
    omega
  · rw [hstop]
    exact hn

theorem Walk.le (hwalk : Walk buffer startLen m n) : m ≤ n := by
  induction hwalk with
  | here => exact le_rfl
  | next hfirst _ ih =>
      have hle := hfirst.le
      omega

theorem Walk.inside (hwalk : Walk buffer startLen m n) :
    n < buffer.stop := by
  induction hwalk with
  | here _ hinside => exact hinside
  | next _ _ ih => exact ih

theorem not_walk_stop : ¬ Walk buffer startLen buffer.stop n := by
  intro hwalk
  have hle := hwalk.le
  have hinside := hwalk.inside
  omega

theorem walk_iff (hm : m < buffer.stop) :
    Walk buffer startLen m n ↔ n = m ∨
      Walk buffer startLen (buffer.findNaluStartcode (m + startLen)) n := by
  constructor
  · intro hwalk
    cases hwalk with
    | here => exact .inl rfl
    | next hfirst hrest =>
        rw [(firstUnit_iff.mp hfirst).2]
        exact .inr hrest
  · intro hwalk
    rcases hwalk with rfl | hrest
    · exact .here _ hm
    · rcases firstUnit_or_stop buffer (m + startLen) with hunit | hstop
      · exact .next hunit hrest
      · rw [hstop] at hrest
        exact absurd hrest not_walk_stop

end Units

/-! ## The rounds -/

section Rounds

variable {buffer : NalBuffer} {codec : NalCodec} {wanted : ℤ}
  {startLen n : ℕ}

/-- The byte looked at for the unit at `n` shows the type. -/
def ShowsType (codec : NalCodec) (buffer : NalBuffer) (wanted : ℤ)
    (startLen n : ℕ) : Prop :=
  (nalType codec (buffer.byte (n + startLen)) : ℤ) = wanted

/-- A unit on the way shows the type inside the buffer. -/
def ShownInside (codec : NalCodec) (buffer : NalBuffer) (wanted : ℤ)
    (startLen start : ℕ) : Prop :=
  ∃ n, Walk buffer startLen start n ∧ n + startLen < buffer.stop ∧
    ShowsType codec buffer wanted startLen n

/-- As `ShownInside`, the bytes behind the buffer included. -/
def ShownAnywhere (codec : NalCodec) (buffer : NalBuffer) (wanted : ℤ)
    (startLen start : ℕ) : Prop :=
  ∃ n, (Walk buffer startLen start n ∨ n = buffer.stop) ∧
    ShowsType codec buffer wanted startLen n

theorem not_shownInside_stop :
    ¬ ShownInside codec buffer wanted startLen buffer.stop := by
  rintro ⟨n, hwalk, -, -⟩
  exact not_walk_stop hwalk

theorem shownAnywhere_stop_iff :
    ShownAnywhere codec buffer wanted startLen buffer.stop ↔
      ShowsType codec buffer wanted startLen buffer.stop := by
  constructor
  · rintro ⟨n, hwalk | rfl, hshows⟩
    · exact absurd hwalk not_walk_stop
    · exact hshows
  · intro hshows
    exact ⟨buffer.stop, .inr rfl, hshows⟩

theorem shownInside_here_iff (hn : n < buffer.stop)
    (hshows : ShowsType codec buffer wanted startLen n) :
    ShownInside codec buffer wanted startLen n ↔
      n + startLen < buffer.stop := by
  constructor
  · rintro ⟨m, hwalk, hinside, -⟩
    have hle := hwalk.le
    omega
  · intro hinside
    exact ⟨n, .here n hn, hinside, hshows⟩

theorem shownInside_next_iff (hn : n < buffer.stop)
    (hshows : ¬ ShowsType codec buffer wanted startLen n) :
    ShownInside codec buffer wanted startLen n ↔
      ShownInside codec buffer wanted startLen
        (buffer.findNaluStartcode (n + startLen)) := by
  refine exists_congr fun m => ?_
  rw [walk_iff hn]
  constructor
  · rintro ⟨rfl | hrest, hm⟩
    · exact absurd hm.2 hshows
    · exact ⟨hrest, hm⟩
  · rintro ⟨hrest, hm⟩
    exact ⟨.inr hrest, hm⟩

theorem shownAnywhere_next_iff (hn : n < buffer.stop)
    (hshows : ¬ ShowsType codec buffer wanted startLen n) :
    ShownAnywhere codec buffer wanted startLen n ↔
      ShownAnywhere codec buffer wanted startLen
        (buffer.findNaluStartcode (n + startLen)) := by
  refine exists_congr fun m => ?_
  rw [walk_iff hn, or_assoc]
  constructor
  · rintro ⟨rfl | hrest, hm⟩
    · exact absurd hm hshows
    · exact ⟨hrest, hm⟩
  · rintro ⟨hrest, hm⟩
    exact ⟨.inr hrest, hm⟩

/-- What the rounds find and read. -/
structure RoundsSpec (codec : NalCodec) (buffer : NalBuffer) (wanted : ℤ)
    (startLen n : ℕ) (reads : List ℕ) (found : NaluFound) : Prop where
  target : found.targetNalu ≠ none ↔
    ShownAnywhere codec buffer wanted startLen n
  reads : (∀ q ∈ found.reads, q < buffer.stop) ↔
    (∀ q ∈ reads, q < buffer.stop) ∧
      ShownInside codec buffer wanted startLen n

theorem looked_inside_iff {reads : List ℕ} {header : ℕ} :
    (∀ q ∈ reads ++ (buffer.naluReads header ++ [header]),
        q < buffer.stop) ↔
      (∀ q ∈ reads, q < buffer.stop) ∧ header < buffer.stop := by
  rw [List.forall_mem_append, List.forall_mem_append,
    List.forall_mem_singleton]
  have hsearch : ∀ q ∈ buffer.naluReads header, q < buffer.stop :=
    NalBuffer.naluReads_inside header
  tauto

/-- By induction on the rounds left: each begins at a unit further on, and
one more is made at the end of the buffer. -/
theorem findNaluRounds_spec (hlen : 3 ≤ startLen) {fuel : ℕ} :
    ∀ (nalStart n : ℕ) (reads : List ℕ), nalStart ≠ buffer.stop →
      n ≤ buffer.stop → buffer.stop - n + 1 < fuel →
      ∃ found, findNaluRounds codec buffer wanted startLen fuel nalStart n
          reads = some found ∧
        RoundsSpec codec buffer wanted startLen n reads found := by
  induction fuel with
  | zero =>
      intro _ _ _ _ _ hfuel
      omega
  | succ fuel ih =>
      intro nalStart n reads hstart hn hfuel
      rw [findNaluRounds, if_neg hstart]
      by_cases hshows : ShowsType codec buffer wanted startLen n
      · have htype := hshows
        rw [ShowsType] at htype
        refine ⟨_, if_pos htype, ?_, ?_⟩
        · have hany : ShownAnywhere codec buffer wanted startLen n := by
            rcases hn.lt_or_eq with hlt | heq
            · exact ⟨n, .inl (.here n hlt), hshows⟩
            · exact ⟨n, .inr heq, hshows⟩
          simpa using hany
        · rw [looked_inside_iff]
          rcases hn.lt_or_eq with hlt | rfl
          · rw [shownInside_here_iff hlt hshows]
          · simp only [not_shownInside_stop, and_false, iff_false, not_and]
            omega
      · have htype := hshows
        rw [ShowsType] at htype
        dsimp only
        rw [if_neg htype]
        rcases hn.lt_or_eq with hlt | rfl
        · have hnext := findNaluStartcode_le buffer (n + startLen)
          have hfurther : n < buffer.findNaluStartcode (n + startLen) :=
            lt_findNaluStartcode (by omega) hlt
          obtain ⟨found, hrounds, hspec⟩ := ih n
            (buffer.findNaluStartcode (n + startLen))
            (reads ++ (buffer.naluReads (n + startLen) ++ [n + startLen]))
            hlt.ne hnext (by omega)
          refine ⟨found, hrounds, ?_, ?_⟩
          · rw [shownAnywhere_next_iff hlt hshows]
            exact hspec.target
          · rw [hspec.reads, looked_inside_iff,
              shownInside_next_iff hlt hshows, and_assoc]
            refine and_congr_right fun _ => and_iff_right_of_imp ?_
            rintro ⟨m, hwalk, hinside, -⟩
            have hle := hwalk.le
            omega
        · obtain ⟨fuel, rfl⟩ : ∃ k, fuel = k + 1 :=
            ⟨fuel - 1, by omega⟩
          rw [findNaluRounds, if_pos rfl]
          refine ⟨_, rfl, ?_, ?_⟩
          · rw [shownAnywhere_stop_iff]
            simp [hshows]
          · rw [looked_inside_iff]
            simp only [not_shownInside_stop, and_false, iff_false, not_and]
            omega

end Rounds

/-! ## Where the search meets its purpose -/

theorem three_le_startLen (buffer : NalBuffer) (n : ℕ) :
    3 ≤ buffer.startLen n := by
  rw [NalBuffer.startLen]
  split_ifs <;> omega

theorem firstUnit_startLen_le {buffer : NalBuffer} {first : ℕ}
    (hfirst : FirstUnit buffer 0 first) : first + 2 < buffer.stop := by
  have hheader := hfirst.header_le
  omega

section Search

variable {codec : NalCodec} {buffer : NalBuffer} {wanted : ℤ}

/-- With no start code the third byte of one is looked at all the same. -/
theorem findNaluByType_no_unit
    (hstop : buffer.findNaluStartcode 0 = buffer.stop) :
    findNaluByType (some codec) buffer wanted =
      some ⟨none, none, buffer.naluReads 0 ++ [buffer.stop + 2]⟩ := by
  rw [findNaluByType]
  simp only [hstop]
  rw [findNaluRounds, if_pos rfl]

theorem findNaluByType_spec (codec : NalCodec) (wanted : ℤ) {first : ℕ}
    (hfirst : FirstUnit buffer 0 first) :
    ∃ found, findNaluByType (some codec) buffer wanted = some found ∧
      RoundsSpec codec buffer wanted (buffer.startLen first) first
        (buffer.naluReads 0 ++ [first + 2]) found := by
  obtain ⟨hinside, hfind⟩ := firstUnit_iff.mp hfirst
  rw [findNaluByType]
  simp only [hfind]
  exact findNaluRounds_spec (three_le_startLen buffer first) first first _
    hinside.ne hinside.le (by omega)

theorem first_reads_inside {first : ℕ} (hfirst : FirstUnit buffer 0 first) :
    ∀ q ∈ buffer.naluReads 0 ++ [first + 2], q < buffer.stop := by
  rw [List.forall_mem_append, List.forall_mem_singleton]
  exact ⟨NalBuffer.naluReads_inside 0, firstUnit_startLen_le hfirst⟩

theorem firstUnit_unique {p n m : ℕ} (hn : FirstUnit buffer p n)
    (hm : FirstUnit buffer p m) : n = m := by
  rw [firstUnit_iff] at hn hm
  exact hn.2.symm.trans hm.2

/-- What is shown inside the buffer is not overlooked, so that NULL means a
type that is shown nowhere. -/
theorem findsWithin_iff :
    FindsWithin (some codec) buffer wanted ↔
      (∃ first, FirstUnit buffer 0 first ∧ ShownInside codec buffer wanted
        (buffer.startLen first) first) ∧
      UnitBegins (some codec) buffer wanted := by
  rcases firstUnit_or_stop buffer 0 with hfirst | hstop
  · obtain ⟨result, hresult, hspec⟩ :=
      findNaluByType_spec codec wanted hfirst
    have hshown : (∃ first, FirstUnit buffer 0 first ∧
        ShownInside codec buffer wanted (buffer.startLen first) first) ↔
        ShownInside codec buffer wanted
          (buffer.startLen (buffer.findNaluStartcode 0))
          (buffer.findNaluStartcode 0) := by
      constructor
      · rintro ⟨first, hunit, hinside⟩
        rw [firstUnit_unique hfirst hunit]
        exact hinside
      · exact fun hinside => ⟨_, hfirst, hinside⟩
    have hreads := hspec.reads
    rw [and_iff_right (first_reads_inside hfirst)] at hreads
    rw [FindsWithin, hshown, hresult, ← hreads]
    constructor
    · rintro ⟨found, heq, hinside, hnull⟩
      cases heq
      refine ⟨hinside, ?_⟩
      obtain ⟨n, hwalk, -, hshows⟩ := hreads.mp hinside
      by_contra hnone
      exact hspec.target.mpr ⟨n, .inl hwalk, hshows⟩ (hnull.mpr hnone)
    · rintro ⟨hinside, hbegins⟩
      refine ⟨result, rfl, hinside, ?_⟩
      obtain ⟨n, hwalk, -, hshows⟩ := hreads.mp hinside
      have htarget := hspec.target.mpr ⟨n, .inl hwalk, hshows⟩
      exact iff_of_false htarget (not_not_intro hbegins)
  · constructor
    · rintro ⟨found, heq, hinside, -⟩
      rw [findNaluByType_no_unit hstop] at heq
      cases heq
      have hbehind := hinside (buffer.stop + 2) (by simp)
      omega
    · rintro ⟨⟨first, hfirst, -⟩, -⟩
      have hnone := (firstUnit_iff.mp hfirst)
      omega

theorem intraComputed_iff :
    IntraComputed (some codec) buffer ↔
      ∃ first, FirstUnit buffer 0 first ∧ ShownAnywhere codec buffer
        (intraType codec) (buffer.startLen first) first := by
  rw [IntraComputed, getIntraFromBuffer]
  rcases firstUnit_or_stop buffer 0 with hfirst | hstop
  · obtain ⟨result, hresult, hspec⟩ :=
      findNaluByType_spec codec (intraType codec) hfirst
    simp only [hresult, Option.map_some, Option.some.injEq,
      exists_eq_left', ne_eq]
    constructor
    · exact fun htarget => ⟨_, hfirst, hspec.target.mp htarget⟩
    · rintro ⟨first, hunit, hshown⟩
      rw [firstUnit_unique hunit hfirst] at hshown
      exact hspec.target.mpr hshown
  · rw [findNaluByType_no_unit hstop]
    simp only [Option.map_some, Option.some.injEq, exists_eq_left', ne_eq,
      not_true_eq_false, false_iff, not_exists, not_and]
    intro first hfirst
    have hnone := firstUnit_iff.mp hfirst
    omega

end Search

/-- Units of the type begin in the buffer, one of those met on the way shows
it inside the buffer, and one of those met, or the byte looked at behind the
buffer, shows the type of an intra picture.  Any other codec is turned away. -/
def SearchMeets (codec : Option NalCodec) (buffer : NalBuffer)
    (wanted : ℤ) : Prop :=
  ∀ known, codec = some known →
    UnitBegins codec buffer wanted ∧
    ∃ first, FirstUnit buffer 0 first ∧
      ShownInside known buffer wanted (buffer.startLen first) first ∧
      ShownAnywhere known buffer (intraType known) (buffer.startLen first)
        first

theorem naluSearchSafe_other (buffer : NalBuffer) (wanted : ℤ) :
    NaluSearchSafe none buffer wanted := by
  refine ⟨⟨_, rfl, ?_, ?_⟩, ⟨_, rfl, ?_⟩⟩
  · intro q hq
    cases hq
  · refine iff_of_true rfl ?_
    rintro ⟨known, hnone, -⟩
    cases hnone
  · intro hcomputed
    cases hcomputed

theorem naluSearchSafe_iff (codec : Option NalCodec) (buffer : NalBuffer)
    (wanted : ℤ) :
    NaluSearchSafe codec buffer wanted ↔
      SearchMeets codec buffer wanted := by
  cases codec with
  | none =>
      refine iff_of_true (naluSearchSafe_other buffer wanted) ?_
      intro known hknown
      cases hknown
  | some codec =>
      constructor
      · rintro ⟨hwithin, hintra⟩ known hknown
        cases hknown
        obtain ⟨⟨first, hfirst, hinside⟩, hbegins⟩ :=
          findsWithin_iff.mp hwithin
        obtain ⟨first', hfirst', hshown⟩ := intraComputed_iff.mp hintra
        rw [firstUnit_unique hfirst' hfirst] at hshown
        exact ⟨hbegins, first, hfirst, hinside, hshown⟩
      · intro hmeets
        obtain ⟨hbegins, first, hfirst, hinside, hshown⟩ :=
          hmeets codec rfl
        exact ⟨findsWithin_iff.mpr ⟨⟨first, hfirst, hinside⟩, hbegins⟩,
          intraComputed_iff.mpr ⟨first, hfirst, hshown⟩⟩

/-- A predicted picture alone, and the memory behind it. -/
def predictedOnly : NalBuffer where
  bytes := [0x00, 0x00, 0x00, 0x01, 0x41, 0x9A]
  behind := fun _ => 0
  address := 0

theorem intra_search_reads_behind :
    ¬ ∀ (codec : Option NalCodec) (buffer : NalBuffer) (wanted : ℤ),
      NaluSearchSafe codec buffer wanted := by
  intro hsafe
  obtain ⟨found, hfound, hinside, -⟩ :=
    (hsafe (some .h264) predictedOnly 5).within
  have hread : ∀ result,
      findNaluByType (some .h264) predictedOnly 5 = some result →
        10 ∈ result.reads := by
    decide
  have hlt := hinside 10 (hread found hfound)
  exact absurd hlt (by decide)

end RkaiqToolServer
