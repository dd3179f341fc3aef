import RkaiqToolServer.CommandData
import RkaiqToolServer.ListSplits
import RkaiqToolServer.MemoryAccess

/-!
# Receiving a parameter

Both copies of `OnLineSet` receive until a count of missing bytes is no longer
positive, and subtract every result of `recv` from it.  The end of the stream
leaves the count as it is, and a failure makes it larger and moves the next
receive one byte towards the start of the block.
-/

namespace RkaiqToolServer

open ByteCodec ListSplits MemoryAccess

def intMax : ℤ := 2 ^ 31 - 1

/-- A call of `recv`: -1, or the bytes that the socket has; it has none at the
end of the stream. -/
inductive RecvResult
  | failed
  | received (count : ℕ)
  deriving DecidableEq

/-- What `recv` returns when it is asked for `remainSize` bytes. -/
def RecvResult.recvSize (remainSize : ℤ) : RecvResult → ℤ
  | .failed => -1
  | .received count => min count remainSize

/-- `remain_size - recv_size`.  A result past the largest `int` is not
defined, or wraps where the compiler makes it. -/
def subtractSize (wraps : Bool) (remainSize recvSize : ℤ) : Option ℤ :=
  let next := remainSize - recvSize
  if next ≤ intMax then some next
  else if wraps then some (next - 2 ^ 32)
  else none

/-- The rounds of the loop on the results of `recv`: their writes to the block,
and the count they leave, `none` after an undefined step. -/
def paramRounds (wraps : Bool) (paramSize : ℤ) :
    List RecvResult → ℤ → List (Access Unit) × Option ℤ
  | [], remainSize => ([], some remainSize)
  | result :: rest, remainSize =>
      if remainSize ≤ 0 then ([], some remainSize)
      else
        let recvSize := result.recvSize remainSize
        let write : Access Unit := ⟨(), paramSize - remainSize, recvSize.toNat⟩
        match subtractSize wraps remainSize recvSize with
        | none => ([write], none)
        | some next =>
            let later := paramRounds wraps paramSize rest next
            (write :: later.1, later.2)

def onLineSetReceive (wraps : Bool) (cmd : CommandData)
    (results : List RecvResult) : List (Access Unit) × Option ℤ :=
  paramRounds wraps cmd.paramSize results cmd.paramSize

def rawSetReceive (wraps : Bool) (cmd : CommandData)
    (results : List RecvResult) : List (Access Unit) × Option ℤ :=
  paramRounds wraps cmd.paramSize results cmd.paramSize

/-- What the socket gives for ever after the last result. -/
inductive StreamEnd
  | closed
  | failed
  deriving DecidableEq

def StreamEnd.result : StreamEnd → RecvResult
  | .closed => .received 0
  | .failed => .failed

/-- After some number of further receives the count is no longer positive, and
no receive writes outside the block. -/
structure ReceiveEnds
    (receive : List RecvResult → List (Access Unit) × Option ℤ)
    (paramSize : ℤ) (results : List RecvResult) (streamEnd : StreamEnd) :
    Prop where
  terminates : ∃ more remainSize,
    (receive (results ++ List.replicate more streamEnd.result)).2 =
      some remainSize ∧ remainSize ≤ 0
  inBounds : ∀ more, InBounds (fun _ => paramSize.toNat)
    (receive (results ++ List.replicate more streamEnd.result)).1

/-! ## Failures and bytes -/

def RecvResult.change : RecvResult → ℤ
  | .failed => 1
  | .received count => -count

def RecvResult.HasBytes (result : RecvResult) : Prop :=
  ∃ count, result = .received (count + 1)

/-- The bytes announced and one for each failure, less the bytes that came. -/
def shortfall (paramSize : ℤ) (results : List RecvResult) : ℤ :=
  paramSize + (results.map RecvResult.change).sum

/-- The bytes of some of the results make up for the announced ones and the
failures before the count overflows; where the `int` wraps, the overflow ends
the loop too. -/
def CountEnds (wraps : Bool) (paramSize : ℤ) (results : List RecvResult) :
    Prop :=
  ∃ before after, results = before ++ after ∧
    ((shortfall paramSize before ≤ 0 ∨
        wraps = true ∧ intMax < shortfall paramSize before) ∧
      ∀ earlier, earlier <+: before →
        wraps = true ∨ shortfall paramSize earlier ≤ intMax)

/-- Bytes come into the loop when more receives have failed than bytes have
come; `remainSize` is the count before the results. -/
def WritesBeforeStart (paramSize remainSize : ℤ)
    (results : List RecvResult) : Prop :=
  ∃ before result after, results = before ++ result :: after ∧
    (paramSize < shortfall remainSize before ∧ result.HasBytes ∧
      ∀ earlier, earlier <+: before →
        0 < shortfall remainSize earlier ∧
          shortfall remainSize earlier ≤ intMax)

/-- The parameter arrives before the stream ends, and never after more
failures than bytes. -/
structure ParamArrives (wraps : Bool) (paramSize : ℤ)
    (results : List RecvResult) (streamEnd : StreamEnd) : Prop where
  ends : CountEnds wraps paramSize results ∨
    wraps = true ∧ streamEnd = .failed
  behindStart : ¬ WritesBeforeStart paramSize paramSize results

@[simp] theorem shortfall_nil (remainSize : ℤ) :
    shortfall remainSize [] = remainSize := by
  simp [shortfall]

@[simp] theorem shortfall_cons (remainSize : ℤ) (result : RecvResult)
    (rest : List RecvResult) :
    shortfall remainSize (result :: rest) =
      shortfall (remainSize + result.change) rest := by
  simp [shortfall, add_assoc]

theorem countEnds_of_nonpos {remainSize : ℤ} (wraps : Bool)
    (hended : remainSize ≤ 0) (results : List RecvResult) :
    CountEnds wraps remainSize results := by
  refine ⟨[], results, rfl, .inl (by simpa using hended), ?_⟩
  intro earlier hearlier
  rw [List.prefix_nil.mp hearlier, shortfall_nil, intMax]
  exact .inr (by omega)

theorem countEnds_of_overflow {remainSize : ℤ}
    (hlarge : intMax < remainSize) (results : List RecvResult) :
    CountEnds true remainSize results :=
  ⟨[], results, rfl, .inr ⟨rfl, by simpa using hlarge⟩, fun _ _ => .inl rfl⟩

theorem not_countEnds_of_overflow {remainSize : ℤ}
    (hlarge : intMax < remainSize) (results : List RecvResult) :
    ¬ CountEnds false remainSize results := by
  rintro ⟨before, after, -, -, hbound⟩
  have hnil := hbound [] List.nil_prefix
  rw [shortfall_nil] at hnil
  rcases hnil with hfalse | hsmall
  · cases hfalse
  · omega

/-- A count that is not positive, or has overflowed, is the last one. -/
theorem countEnds_of_ended_iff {wraps : Bool} {remainSize : ℤ}
    (hended : remainSize ≤ 0 ∨ intMax < remainSize)
    (results : List RecvResult) :
    CountEnds wraps remainSize results ↔ remainSize ≤ 0 ∨ wraps = true := by
  by_cases hnonpos : remainSize ≤ 0
  · exact iff_of_true (countEnds_of_nonpos wraps hnonpos results)
      (.inl hnonpos)
  have hlarge := hended.resolve_left hnonpos
  cases wraps with
  | false =>
      exact iff_of_false (not_countEnds_of_overflow hlarge results)
        (by simp [hnonpos])
  | true => exact iff_of_true (countEnds_of_overflow hlarge results) (.inr rfl)

theorem countEnds_nil {wraps : Bool} {remainSize : ℤ}
    (hsmall : remainSize ≤ intMax) :
    CountEnds wraps remainSize [] ↔ remainSize ≤ 0 := by
  constructor
  · rintro ⟨before, after, hsplit, hend, -⟩
    obtain ⟨rfl, -⟩ := List.append_eq_nil_iff.mp hsplit.symm
    rw [shortfall_nil] at hend
    rcases hend with hended | ⟨-, hlarge⟩
    · exact hended
    · omega
  · exact fun hended => countEnds_of_nonpos wraps hended []

/-- A round with bytes missing leaves it to the later ones. -/
theorem countEnds_cons {wraps : Bool} {remainSize : ℤ}
    (hopen : 0 < remainSize) (hsmall : remainSize ≤ intMax)
    (result : RecvResult) (rest : List RecvResult) :
    CountEnds wraps remainSize (result :: rest) ↔
      CountEnds wraps (remainSize + result.change) rest := by
  unfold CountEnds
  rw [exists_append_cons, or_iff_right]
  · simp only [forall_prefix_cons, shortfall_nil, shortfall_cons, hsmall,
      or_true, true_and]
  · rintro ⟨hended | ⟨-, hlarge⟩, -⟩
    · rw [shortfall_nil] at hended
      omega
    · rw [shortfall_nil] at hlarge
      omega

/-! ## The rounds -/

theorem subtractSize_of_le {wraps : Bool} {remainSize recvSize : ℤ}
    (hnext : remainSize - recvSize ≤ intMax) :
    subtractSize wraps remainSize recvSize = some (remainSize - recvSize) :=
  if_pos hnext

/-- What a round makes of the count: it is left as `shortfall` has it, or the
last bytes are there, or the count has overflowed. -/
theorem subtractSize_cases (wraps : Bool) {remainSize : ℤ}
    (hsmall : remainSize ≤ intMax) (result : RecvResult) :
    (remainSize + result.change ≤ intMax ∧
        subtractSize wraps remainSize (result.recvSize remainSize) =
          some (remainSize + result.change)) ∨
    (remainSize + result.change ≤ 0 ∧
        subtractSize wraps remainSize (result.recvSize remainSize) = some 0) ∨
    (intMax < remainSize + result.change ∧ result = .failed ∧
        subtractSize wraps remainSize (result.recvSize remainSize) =
          if wraps then some (intMax + 1 - 2 ^ 32) else none) := by
  cases result with
  | failed =>
      simp only [RecvResult.recvSize, RecvResult.change, subtractSize,
        sub_neg_eq_add]
      by_cases hnext : remainSize + 1 ≤ intMax
      · exact .inl ⟨hnext, if_pos hnext⟩
      · refine .inr (.inr ⟨by omega, trivial, ?_⟩)
        rw [if_neg hnext, show remainSize + 1 = intMax + 1 by omega]
  | received count =>
      simp only [RecvResult.recvSize, RecvResult.change]
      by_cases hlast : remainSize ≤ count
      · refine .inr (.inl ⟨by omega, ?_⟩)
        have hzero : remainSize - remainSize ≤ intMax := by
          rw [intMax]
          omega
        rw [min_eq_right hlast, subtractSize_of_le hzero, sub_self]
      · refine .inl ⟨by omega, ?_⟩
        rw [min_eq_left (by omega), subtractSize_of_le (by omega),
          Int.sub_eq_add_neg]

/-- A count that wraps ends the loop. -/
theorem overflowed_nonpos : intMax + 1 - 2 ^ 32 ≤ 0 := by
  rw [intMax]
  omega

theorem paramRounds_of_nonpos {remainSize : ℤ} (wraps : Bool)
    (paramSize : ℤ) (hended : remainSize ≤ 0) (results : List RecvResult) :
    paramRounds wraps paramSize results remainSize =
      ([], some remainSize) := by
  cases results with
  | nil => rfl
  | cons result rest => rw [paramRounds, if_pos hended]

theorem paramRounds_ends_iff {wraps : Bool} (paramSize : ℤ) {remainSize : ℤ}
    (hsmall : remainSize ≤ intMax) (results : List RecvResult) :
    (∃ left, (paramRounds wraps paramSize results remainSize).2 =
        some left ∧ left ≤ 0) ↔
      CountEnds wraps remainSize results := by
  induction results generalizing remainSize with
  | nil =>
      rw [countEnds_nil hsmall]
      simp [paramRounds]
  | cons result rest ih =>
      by_cases hended : remainSize ≤ 0
      · rw [paramRounds_of_nonpos wraps paramSize hended]
        exact iff_of_true ⟨remainSize, rfl, hended⟩
          (countEnds_of_nonpos wraps hended _)
      rw [countEnds_cons (not_le.mp hended) hsmall, paramRounds,
        if_neg hended]
      rcases subtractSize_cases wraps hsmall result with
        ⟨hnext, hsubtract⟩ | ⟨hlast, hsubtract⟩ | ⟨hlarge, -, hsubtract⟩
      · simp only [hsubtract]
        exact ih hnext
      · simp only [hsubtract]
        rw [paramRounds_of_nonpos wraps paramSize le_rfl]
        exact iff_of_true ⟨0, rfl, le_rfl⟩
          (countEnds_of_nonpos wraps hlast rest)
      · cases wraps with
        | false =>
            simp only [hsubtract]
            exact iff_of_false (by simp)
              (not_countEnds_of_overflow hlarge rest)
        | true =>
            simp only [hsubtract, if_true]
            rw [paramRounds_of_nonpos true paramSize overflowed_nonpos]
            exact iff_of_true ⟨_, rfl, overflowed_nonpos⟩
              (countEnds_of_overflow hlarge rest)

/-! ## Writes -/

theorem not_writesBeforeStart_of_ended (paramSize : ℤ) {remainSize : ℤ}
    (hended : remainSize ≤ 0 ∨ intMax < remainSize)
    (results : List RecvResult) :
    ¬ WritesBeforeStart paramSize remainSize results := by
  rintro ⟨before, result, after, -, -, -, hopen⟩
  have hnil := hopen [] List.nil_prefix
  rw [shortfall_nil] at hnil
  omega

theorem not_writesBeforeStart_nil (paramSize remainSize : ℤ) :
    ¬ WritesBeforeStart paramSize remainSize [] := not_exists_append_nil

theorem writesBeforeStart_cons {paramSize remainSize : ℤ}
    (hopen : 0 < remainSize) (hsmall : remainSize ≤ intMax)
    (result : RecvResult) (rest : List RecvResult) :
    WritesBeforeStart paramSize remainSize (result :: rest) ↔
      paramSize < remainSize ∧ result.HasBytes ∨
        WritesBeforeStart paramSize (remainSize + result.change) rest := by
  unfold WritesBeforeStart
  rw [exists_append_cons_cons]
  simp only [shortfall_nil, List.prefix_nil, forall_eq, hopen, hsmall,
    and_self, and_true, forall_prefix_cons, shortfall_cons, true_and]

theorem write_inside_iff {paramSize remainSize : ℤ}
    (hopen : 0 < remainSize) (result : RecvResult) :
    Access.Inside (fun _ => paramSize.toNat)
        (⟨(), paramSize - remainSize,
          (result.recvSize remainSize).toNat⟩ : Access Unit) ↔
      ¬ (paramSize < remainSize ∧ result.HasBytes) := by
  rw [Access.inside_iff]
  cases result with
  | failed => simp [RecvResult.recvSize, RecvResult.HasBytes]
  | received count =>
      cases count with
      | zero =>
          simp only [RecvResult.recvSize, RecvResult.HasBytes]
          refine iff_of_true (.inl ?_) ?_
          · rw [Int.toNat_eq_zero]
            exact (min_le_left _ _)
          · rintro ⟨-, more, hmore⟩
            simp at hmore
      | succ count =>
          have hbytes : (RecvResult.received (count + 1)).HasBytes :=
            ⟨count, rfl⟩
          simp only [RecvResult.recvSize, and_iff_left hbytes]
          omega

theorem paramRounds_inBounds_iff {wraps : Bool} {paramSize remainSize : ℤ}
    (hsmall : remainSize ≤ intMax) (results : List RecvResult) :
    InBounds (fun _ => paramSize.toNat)
        (paramRounds wraps paramSize results remainSize).1 ↔
      ¬ WritesBeforeStart paramSize remainSize results := by
  induction results generalizing remainSize with
  | nil =>
      exact iff_of_true inBounds_nil (not_writesBeforeStart_nil _ _)
  | cons result rest ih =>
      by_cases hended : remainSize ≤ 0
      · rw [paramRounds_of_nonpos wraps paramSize hended]
        exact iff_of_true inBounds_nil
          (not_writesBeforeStart_of_ended _ (.inl hended) _)
      have hopen := not_le.mp hended
      rw [writesBeforeStart_cons hopen hsmall, not_or,
        ← write_inside_iff hopen, paramRounds, if_neg hended]
      rcases subtractSize_cases wraps hsmall result with
        ⟨hnext, hsubtract⟩ | ⟨hlast, hsubtract⟩ | ⟨hlarge, -, hsubtract⟩
      · simp only [hsubtract]
        rw [inBounds_cons, ih hnext]
      · have hlater := not_writesBeforeStart_of_ended
          paramSize (.inl hlast) rest
        simp only [hsubtract]
        rw [paramRounds_of_nonpos wraps paramSize le_rfl, inBounds_cons,
          and_iff_left inBounds_nil, and_iff_left hlater]
      · have hlater := not_writesBeforeStart_of_ended
          paramSize (.inr hlarge) rest
        rw [and_iff_left hlater]
        cases wraps with
        | false =>
            simp only [hsubtract]
            simp
        | true =>
            simp only [hsubtract, if_true]
            rw [paramRounds_of_nonpos true paramSize overflowed_nonpos,
              inBounds_cons, and_iff_left inBounds_nil]

/-! ## The end of the stream -/

theorem StreamEnd.not_hasBytes (streamEnd : StreamEnd) :
    ¬ streamEnd.result.HasBytes := by
  rintro ⟨count, hcount⟩
  cases streamEnd <;> simp [StreamEnd.result] at hcount

theorem writesBeforeStart_replicate {paramSize : ℤ}
    (streamEnd : StreamEnd) (more : ℕ) (remainSize : ℤ) :
    ¬ WritesBeforeStart paramSize remainSize
      (List.replicate more streamEnd.result) := by
  rintro ⟨before, result, after, hsplit, -, hbytes, -⟩
  have hmem : result ∈ List.replicate more streamEnd.result := by
    rw [hsplit]
    simp
  rw [List.eq_of_mem_replicate hmem] at hbytes
  exact streamEnd.not_hasBytes hbytes

/-- The end of the stream brings no bytes. -/
theorem writesBeforeStart_append {paramSize remainSize : ℤ}
    (results : List RecvResult) (streamEnd : StreamEnd) (more : ℕ) :
    WritesBeforeStart paramSize remainSize
        (results ++ List.replicate more streamEnd.result) ↔
      WritesBeforeStart paramSize remainSize results := by
  induction results generalizing remainSize with
  | nil =>
      exact iff_of_false (writesBeforeStart_replicate streamEnd more _)
        (not_writesBeforeStart_nil _ _)
  | cons result rest ih =>
      by_cases hended : remainSize ≤ 0 ∨ intMax < remainSize
      · exact iff_of_false (not_writesBeforeStart_of_ended _ hended _)
          (not_writesBeforeStart_of_ended _ hended _)
      · rw [List.cons_append, writesBeforeStart_cons (by omega) (by omega),
          writesBeforeStart_cons (by omega) (by omega), ih]

theorem countEnds_replicate_closed {wraps : Bool} {remainSize : ℤ}
    (hopen : 0 < remainSize) (hsmall : remainSize ≤ intMax) (more : ℕ) :
    ¬ CountEnds wraps remainSize
      (List.replicate more StreamEnd.closed.result) := by
  induction more with
  | zero =>
      rw [List.replicate_zero, countEnds_nil hsmall]
      exact not_le.mpr hopen
  | succ more ih =>
      rw [List.replicate_succ, countEnds_cons hopen hsmall]
      simpa [StreamEnd.result, RecvResult.change] using ih

theorem not_countEnds_replicate_failed {remainSize : ℤ}
    (hopen : 0 < remainSize) (more : ℕ) :
    ¬ CountEnds false remainSize
      (List.replicate more StreamEnd.failed.result) := by
  induction more generalizing remainSize with
  | zero =>
      rintro ⟨before, after, hsplit, hend, -⟩
      obtain ⟨rfl, -⟩ := List.append_eq_nil_iff.mp hsplit.symm
      rw [shortfall_nil] at hend
      rcases hend with hended | ⟨hfalse, -⟩
      · omega
      · cases hfalse
  | succ more ih =>
      by_cases hlarge : intMax < remainSize
      · exact not_countEnds_of_overflow hlarge _
      · rw [List.replicate_succ, countEnds_cons hopen (not_lt.mp hlarge)]
        exact ih (by rw [StreamEnd.result, RecvResult.change]; omega)

/-- Failures for ever make the count overflow. -/
theorem exists_countEnds_replicate_failed {remainSize : ℤ} :
    ∃ more, CountEnds true remainSize
      (List.replicate more StreamEnd.failed.result) := by
  by_cases hended : remainSize ≤ 0
  · exact ⟨0, countEnds_of_nonpos true hended _⟩
  · refine ⟨(intMax + 1).toNat, _, [], (List.append_nil _).symm,
      .inr ⟨rfl, ?_⟩, fun _ _ => .inl rfl⟩
    rw [shortfall, List.map_replicate, List.sum_replicate]
    simp only [StreamEnd.result, RecvResult.change, nsmul_eq_mul, mul_one]
    rw [intMax]
    omega

theorem exists_countEnds_replicate {wraps : Bool} {remainSize : ℤ}
    (hopen : 0 < remainSize) (hsmall : remainSize ≤ intMax)
    (streamEnd : StreamEnd) :
    (∃ more, CountEnds wraps remainSize
        (List.replicate more streamEnd.result)) ↔
      wraps = true ∧ streamEnd = .failed := by
  cases streamEnd with
  | closed =>
      refine iff_of_false ?_ (by simp)
      rintro ⟨more, hends⟩
      exact countEnds_replicate_closed hopen hsmall more hends
  | failed =>
      cases wraps with
      | false =>
          refine iff_of_false ?_ (by simp)
          rintro ⟨more, hends⟩
          exact not_countEnds_replicate_failed hopen more hends
      | true => exact iff_of_true exists_countEnds_replicate_failed (by simp)

theorem exists_countEnds_append_of_ended {wraps : Bool} {remainSize : ℤ}
    (hended : remainSize ≤ 0 ∨ intMax < remainSize)
    (results : List RecvResult) (streamEnd : StreamEnd) :
    (∃ more, CountEnds wraps remainSize
        (results ++ List.replicate more streamEnd.result)) ↔
      CountEnds wraps remainSize results ∨
        wraps = true ∧ streamEnd = .failed := by
  simp only [countEnds_of_ended_iff hended, exists_const]
  constructor
  · exact fun h => .inl h
  · rintro (h | ⟨hwraps, -⟩)
    · exact h
    · exact .inr hwraps

theorem exists_countEnds_append {wraps : Bool} {remainSize : ℤ}
    (results : List RecvResult) (streamEnd : StreamEnd) :
    (∃ more, CountEnds wraps remainSize
        (results ++ List.replicate more streamEnd.result)) ↔
      CountEnds wraps remainSize results ∨
        wraps = true ∧ streamEnd = .failed := by
  induction results generalizing remainSize with
  | nil =>
      by_cases hended : remainSize ≤ 0 ∨ intMax < remainSize
      · exact exists_countEnds_append_of_ended hended [] streamEnd
      have hopen : 0 < remainSize := by omega
      have hsmall : remainSize ≤ intMax := by omega
      rw [countEnds_nil hsmall, or_iff_right (not_le.mpr hopen)]
      exact exists_countEnds_replicate hopen hsmall streamEnd
  | cons result rest ih =>
      by_cases hended : remainSize ≤ 0 ∨ intMax < remainSize
      · exact exists_countEnds_append_of_ended hended _ streamEnd
      have hopen : 0 < remainSize := by omega
      have hsmall : remainSize ≤ intMax := by omega
      simp only [List.cons_append, countEnds_cons hopen hsmall]
      exact ih

/-! ## Both copies -/

theorem paramSize_le_intMax (cmd : CommandData) : cmd.paramSize ≤ intMax := by
  have hbound := leNat_lt (cmd.dat.toList.take 4)
  have hlength : (cmd.dat.toList.take 4).length ≤ 4 := by
    simp
  have hpow : 256 ^ (cmd.dat.toList.take 4).length ≤ 256 ^ 4 :=
    Nat.pow_le_pow_right (by omega) hlength
  rw [CommandData.paramSize, signed, intMax]
  split <;> omega

theorem receiveEnds_iff (wraps : Bool) (cmd : CommandData)
    (results : List RecvResult) (streamEnd : StreamEnd) :
    ReceiveEnds
        (fun results => paramRounds wraps cmd.paramSize results cmd.paramSize)
        cmd.paramSize results streamEnd ↔
      ParamArrives wraps cmd.paramSize results streamEnd := by
  have hsmall := paramSize_le_intMax cmd
  constructor
  · intro h
    constructor
    · rw [← exists_countEnds_append]
      obtain ⟨more, left, hleft⟩ := h.terminates
      exact ⟨more, (paramRounds_ends_iff _ hsmall _).mp ⟨left, hleft⟩⟩
    · rw [← writesBeforeStart_append results streamEnd 0]
      exact (paramRounds_inBounds_iff hsmall _).mp (h.inBounds 0)
  · intro h
    constructor
    · obtain ⟨more, hends⟩ :=
        (exists_countEnds_append results streamEnd).mpr h.ends
      obtain ⟨left, hleft⟩ := (paramRounds_ends_iff cmd.paramSize
        hsmall _).mpr hends
      exact ⟨more, left, hleft⟩
    · intro more
      refine (paramRounds_inBounds_iff hsmall _).mpr ?_
      rw [writesBeforeStart_append]
      exact h.behindStart

/-- The loops of both copies end inside the block exactly when the parameter
arrives. -/
theorem paramReceive_ends_iff (wraps : Bool) (cmd : CommandData)
    (results : List RecvResult) (streamEnd : StreamEnd) :
    (ReceiveEnds (onLineSetReceive wraps cmd) cmd.paramSize results
        streamEnd ∧
      ReceiveEnds (rawSetReceive wraps cmd) cmd.paramSize results
        streamEnd) ↔
      ParamArrives wraps cmd.paramSize results streamEnd := by
  rw [← receiveEnds_iff]
  exact and_self_iff

/-- A request for one byte. -/
def oneByteParam : CommandData :=
  CommandData.ofBuffer (List.replicate 22 0 ++ (1 :: List.replicate 49 0))

/-- The client closes before it sends the byte. -/
theorem paramReceive_not_ends :
    ¬ ∀ (wraps : Bool) (cmd : CommandData) (results : List RecvResult)
      (streamEnd : StreamEnd),
      ReceiveEnds (onLineSetReceive wraps cmd) cmd.paramSize results
          streamEnd ∧
        ReceiveEnds (rawSetReceive wraps cmd) cmd.paramSize results
          streamEnd := by
  intro h
  have hends := (h false oneByteParam [] .closed).1.terminates
  have hsize : oneByteParam.paramSize = 1 := by decide
  obtain ⟨more, left, hleft⟩ := hends
  rw [onLineSetReceive, hsize] at hleft
  have hcount := (paramRounds_ends_iff _ (by decide) _).mp ⟨left, hleft⟩
  exact countEnds_replicate_closed (by decide) (by decide) more hcount

end RkaiqToolServer
