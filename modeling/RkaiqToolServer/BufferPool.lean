import RkaiqToolServer.StepRun

/-!
# The pool of media buffers

`BufferPool` keeps the buffers it creates in two lists, the ready ones and the
busy ones.  `GetBuffer` and `PutBuffer` move a buffer from one to the other and
lose none, whatever is put back.  The constructor does lose some: when an
allocation fails it takes the buffers created so far off its list and deletes
none of them.
-/

namespace RkaiqToolServer

/-! ## The pool -/

/-- A buffer is named by the round of the constructor that creates it; other
names are those of buffers the pool does not know. -/
structure BufferPool where
  readyBuffers : List ℕ
  busyBuffers : List ℕ
  deriving DecidableEq

/-- The rounds of the constructor: whether all of them succeeded, and the
buffers created.  `alloc i` is whether the `i`-th can be allocated. -/
def createRounds (alloc : ℕ → Bool) : ℕ → ℕ → List ℕ → Bool × List ℕ
  | 0, _, ready => (true, ready)
  | left + 1, i, ready =>
      if alloc i = false then (false, ready)
      else createRounds alloc left (i + 1) (ready ++ [i])

def popFronts : List ℕ → List ℕ
  | [] => []
  | _ :: rest => popFronts rest

def BufferPool.new (cnt : ℤ) (alloc : ℕ → Bool) : BufferPool :=
  if cnt ≤ 0 then ⟨[], []⟩
  else
    match createRounds alloc cnt.toNat 0 [] with
    | (true, ready) => ⟨ready, []⟩
    -- Taken off the list, but not deleted.
    | (false, ready) => ⟨popFronts ready, []⟩

def createdBuffers (cnt : ℤ) (alloc : ℕ → Bool) : List ℕ :=
  if cnt ≤ 0 then [] else (createRounds alloc cnt.toNat 0 []).2

structure MediaGroupBuffer where
  /-- `SetBufferPool` was called on it. -/
  hasPool : Bool
  ptr : ℕ
  size : ℕ
  fd : ℤ

structure PooledBuffer where
  ptr : ℕ
  size : ℕ
  fd : ℤ
  /-- The buffer that the callback gives back. -/
  userData : ℕ

inductive GetResult
  | handed (buffer : PooledBuffer)
  | nullptr
  /-- Asleep until a buffer is put back; woken, the call looks again. -/
  | waits

namespace BufferPool

variable (pool : BufferPool)

def getBuffer (memory : ℕ → MediaGroupBuffer) (block : Bool) :
    GetResult × BufferPool :=
  match pool.readyBuffers with
  | [] => (if block then .waits else .nullptr, pool)
  | mgb :: rest =>
      (.handed ⟨(memory mgb).ptr, (memory mgb).size, (memory mgb).fd, mgb⟩,
        ⟨rest, pool.busyBuffers ++ [mgb]⟩)

def putBuffer (mgb : ℕ) : ℤ × BufferPool :=
  if mgb ∈ pool.busyBuffers then
    (0, ⟨pool.readyBuffers ++ [mgb], pool.busyBuffers.erase mgb⟩)
  else (-1, pool)

end BufferPool

/-- The callback, `none` being a null pointer; the pool of a buffer that has
one is `pool`. -/
def groupeBufferFree (memory : ℕ → MediaGroupBuffer) (pool : BufferPool)
    (data : Option ℕ) : ℤ × BufferPool :=
  match data with
  | none => (0, pool)
  | some mgb =>
      if (memory mgb).hasPool then pool.putBuffer mgb else (0, pool)

inductive PoolCall
  | getBuffer (block : Bool)
  | putBuffer (mgb : ℕ)
  | drop (buffer : PooledBuffer)

def poolStep (memory : ℕ → MediaGroupBuffer) (pool : BufferPool) :
    PoolCall → BufferPool
  | .getBuffer block => (pool.getBuffer memory block).2
  | .putBuffer mgb => (pool.putBuffer mgb).2
  | .drop buffer => (groupeBufferFree memory pool (some buffer.userData)).2

/-! ## Conservation -/

structure Conserved (created : List ℕ) (pool : BufferPool) : Prop where
  disjoint : pool.readyBuffers.Disjoint pool.busyBuffers
  ready_nodup : pool.readyBuffers.Nodup
  busy_nodup : pool.busyBuffers.Nodup
  together : ∀ mgb, mgb ∈ pool.readyBuffers ∨ mgb ∈ pool.busyBuffers ↔
    mgb ∈ created

/-- A release of a buffer in use succeeds, any other returns -1 and leaves
both lists as they are. -/
def ReleasesRight (pool : BufferPool) : Prop :=
  ∀ mgb, mgb ∈ pool.busyBuffers ∧ (pool.putBuffer mgb).1 = 0 ∨
    mgb ∉ pool.busyBuffers ∧ pool.putBuffer mgb = (-1, pool)

structure PoolCorrect (created : List ℕ) (pool : BufferPool) : Prop where
  conserved : Conserved created pool
  releases : ReleasesRight pool

theorem releasesRight (pool : BufferPool) : ReleasesRight pool := by
  intro mgb
  by_cases hbusy : mgb ∈ pool.busyBuffers
  · left
    rw [BufferPool.putBuffer, if_pos hbusy]
    exact ⟨hbusy, rfl⟩
  · right
    exact ⟨hbusy, if_neg hbusy⟩

/-- The two lists one behind the other are the created buffers in some
order. -/
def Shared (created : List ℕ) (pool : BufferPool) : Prop :=
  (pool.readyBuffers ++ pool.busyBuffers).Perm created

theorem Shared.conserved {created : List ℕ} {pool : BufferPool}
    (hcreated : created.Nodup) (hshared : Shared created pool) :
    Conserved created pool := by
  have hnodup : (pool.readyBuffers ++ pool.busyBuffers).Nodup :=
    hshared.nodup_iff.mpr hcreated
  rw [List.nodup_append'] at hnodup
  obtain ⟨hready, hbusy, hdisjoint⟩ := hnodup
  refine ⟨hdisjoint, hready, hbusy, fun mgb => ?_⟩
  rw [← List.mem_append]
  exact hshared.mem_iff

section Steps

variable {created : List ℕ} {pool : BufferPool}

theorem Shared.getBuffer (hshared : Shared created pool)
    (memory : ℕ → MediaGroupBuffer) (block : Bool) :
    Shared created (pool.getBuffer memory block).2 := by
  rw [BufferPool.getBuffer]
  split
  case h_1 => exact hshared
  case h_2 mgb rest hready =>
    rw [Shared, hready] at hshared
    refine List.Perm.trans ?_ hshared
    rw [← List.append_assoc]
    exact List.perm_append_singleton mgb (rest ++ pool.busyBuffers)

theorem Shared.putBuffer (hshared : Shared created pool) (mgb : ℕ) :
    Shared created (pool.putBuffer mgb).2 := by
  rw [BufferPool.putBuffer]
  split_ifs with hbusy
  · refine List.Perm.trans ?_ hshared
    rw [List.append_assoc]
    exact (List.perm_cons_erase hbusy).symm.append_left pool.readyBuffers
  · exact hshared

theorem Shared.step (hshared : Shared created pool)
    (memory : ℕ → MediaGroupBuffer) (call : PoolCall) :
    Shared created (poolStep memory pool call) := by
  cases call with
  | getBuffer block => exact hshared.getBuffer memory block
  | putBuffer mgb => exact hshared.putBuffer mgb
  | drop buffer =>
      rw [poolStep, groupeBufferFree]
      split_ifs with hpool
      · exact hshared.putBuffer buffer.userData
      · exact hshared

end Steps

/-! ## Construction -/

theorem popFronts_eq_nil (ready : List ℕ) : popFronts ready = [] := by
  induction ready with
  | nil => rfl
  | cons _ _ ih => exact ih

theorem createRounds_buffers (alloc : ℕ → Bool) :
    ∀ (left i : ℕ) (ready : List ℕ),
      (createRounds alloc left i ready).2 =
        ready ++ (List.range' i left).takeWhile alloc := by
  intro left
  induction left with
  | zero => simp [createRounds]
  | succ left ih =>
      intro i ready
      rw [createRounds, List.range'_succ, List.takeWhile_cons]
      cases halloc : alloc i with
      | false => simp
      | true =>
          simp only [Bool.true_eq_false, if_false, if_true, ih,
            List.append_assoc, List.singleton_append]

theorem createRounds_success (alloc : ℕ → Bool) :
    ∀ (left i : ℕ) (ready : List ℕ),
      (createRounds alloc left i ready).1 = true ↔
        ∀ j, i ≤ j → j < i + left → alloc j = true := by
  intro left
  induction left with
  | zero =>
      intro i ready
      refine iff_of_true rfl fun j hfrom hto => ?_
      omega
  | succ left ih =>
      intro i ready
      rw [createRounds]
      cases halloc : alloc i with
      | false =>
          simp only [if_true, Bool.false_eq_true, false_iff]
          intro hall
          have hfirst := hall i le_rfl (by omega)
          rw [halloc] at hfirst
          cases hfirst
      | true =>
          simp only [Bool.true_eq_false, if_false, ih]
          constructor
          · intro hrest j hfrom hto
            rcases hfrom.eq_or_lt with rfl | hlater
            · exact halloc
            · exact hrest j hlater (by omega)
          · intro hall j hfrom hto
            exact hall j (by omega) (by omega)

theorem createdBuffers_eq (cnt : ℤ) (alloc : ℕ → Bool) :
    createdBuffers cnt alloc =
      (List.range' 0 cnt.toNat).takeWhile alloc := by
  rw [createdBuffers]
  split_ifs with hcnt
  · rw [Int.toNat_of_nonpos hcnt]
    rfl
  · rw [createRounds_buffers, List.nil_append]

theorem createdBuffers_nodup (cnt : ℤ) (alloc : ℕ → Bool) :
    (createdBuffers cnt alloc).Nodup := by
  rw [createdBuffers_eq]
  have hrange : (List.range' 0 cnt.toNat).Nodup := List.nodup_range'
  exact hrange.sublist (List.takeWhile_sublist alloc)

def AllocatesAll (cnt : ℤ) (alloc : ℕ → Bool) : Prop :=
  ∀ i : ℕ, i < cnt → alloc i = true

/-- Every buffer asked for is allocated, or not even the first. -/
def AllocatesAllOrNone (cnt : ℤ) (alloc : ℕ → Bool) : Prop :=
  AllocatesAll cnt alloc ∨ alloc 0 = false

section Construction

variable {cnt : ℤ} {alloc : ℕ → Bool}

theorem createRounds_success_iff :
    (createRounds alloc cnt.toNat 0 []).1 = true ↔
      AllocatesAll cnt alloc := by
  rw [createRounds_success]
  constructor
  · exact fun hall i hi => hall i (Nat.zero_le i) (by omega)
  · exact fun hall i _ hi => hall i (by omega)

theorem new_of_all (hall : AllocatesAll cnt alloc) :
    BufferPool.new cnt alloc = ⟨createdBuffers cnt alloc, []⟩ := by
  rw [BufferPool.new, createdBuffers]
  split_ifs with hcnt
  · rfl
  · have hsuccess := createRounds_success_iff.mpr hall
    generalize createRounds alloc cnt.toNat 0 [] = rounds at hsuccess ⊢
    obtain ⟨success, ready⟩ := rounds
    cases hsuccess
    rfl

theorem new_of_failure (hfail : ¬ AllocatesAll cnt alloc) :
    BufferPool.new cnt alloc = ⟨[], []⟩ := by
  rw [BufferPool.new]
  split_ifs with hcnt
  · rfl
  · rw [← createRounds_success_iff, Bool.not_eq_true] at hfail
    generalize createRounds alloc cnt.toNat 0 [] = rounds at hfail ⊢
    obtain ⟨success, ready⟩ := rounds
    cases hfail
    dsimp only
    rw [popFronts_eq_nil]

theorem shared_new (hallocates : AllocatesAllOrNone cnt alloc) :
    Shared (createdBuffers cnt alloc) (BufferPool.new cnt alloc) := by
  by_cases hall : AllocatesAll cnt alloc
  · rw [new_of_all hall, Shared, List.append_nil]
  · have hfirst : alloc 0 = false := hallocates.resolve_left hall
    have hnone : createdBuffers cnt alloc = [] := by
      rw [createdBuffers_eq]
      cases cnt.toNat with
      | zero => rfl
      | succ left => simp [List.range'_succ, hfirst]
    rw [new_of_failure hall, hnone, Shared, List.append_nil]

/-- The first buffer is in neither list when a later allocation fails. -/
theorem allocatesAllOrNone_of_conserved
    (hconserved : Conserved (createdBuffers cnt alloc)
      (BufferPool.new cnt alloc)) : AllocatesAllOrNone cnt alloc := by
  by_contra hneither
  rw [AllocatesAllOrNone, not_or, Bool.not_eq_false] at hneither
  obtain ⟨hfail, hfirst⟩ := hneither
  have hcnt : 0 < cnt := by
    by_contra hcnt
    exact hfail fun i hi => by omega
  have hcreated : 0 ∈ createdBuffers cnt alloc := by
    rw [createdBuffers_eq]
    obtain ⟨left, hleft⟩ : ∃ left, cnt.toNat = left + 1 :=
      ⟨cnt.toNat - 1, by omega⟩
    rw [hleft, List.range'_succ, List.takeWhile_cons, if_pos hfirst]
    exact List.mem_cons_self
  have hlisted := (hconserved.together 0).mpr hcreated
  rw [new_of_failure hfail] at hlisted
  simp at hlisted

end Construction

/-! ## All runs -/

theorem pool_correct_iff (cnt : ℤ) (alloc : ℕ → Bool)
    (memory : ℕ → MediaGroupBuffer) (calls : List PoolCall) :
    StepRun.States (poolStep memory)
        (PoolCorrect (createdBuffers cnt alloc))
        (BufferPool.new cnt alloc) calls ↔
      AllocatesAllOrNone cnt alloc := by
  constructor
  · intro hcorrect
    exact allocatesAllOrNone_of_conserved hcorrect.head.conserved
  · intro hallocates
    have hshared : StepRun.States (poolStep memory)
        (Shared (createdBuffers cnt alloc)) (BufferPool.new cnt alloc)
        calls :=
      StepRun.states_of_step (fun _ call hpool => hpool.step memory call)
        (shared_new hallocates)
    exact hshared.mono fun pool h =>
      ⟨h.conserved (createdBuffers_nodup cnt alloc), releasesRight pool⟩

/-- Two buffers are asked for and only the first can be allocated. -/
theorem failed_construction_loses_buffer :
    ¬ ∀ (cnt : ℤ) (alloc : ℕ → Bool) (memory : ℕ → MediaGroupBuffer)
      (calls : List PoolCall),
      StepRun.States (poolStep memory)
        (PoolCorrect (createdBuffers cnt alloc))
        (BufferPool.new cnt alloc) calls := by
  intro hcorrect
  have hpool := hcorrect 2 (fun i => i == 0) (fun _ => ⟨true, 0, 0, -1⟩) []
  have hlisted := (hpool.head.conserved.together 0).mpr (by decide)
  exact absurd hlisted (by decide)

end RkaiqToolServer
