import Mathlib.Data.Finset.Sort
import Mathlib.Tactic

/-!
# Queues that drop their oldest entry

A queue takes entries at its end and gives them out at its front.  When it has
grown beyond a limit, the next entry pushes the front one out.  A ledger keeps
every entry that was ever put in, how many have left and which of these were
pushed out.  It shows what the queue itself does not: that the entries are given
out in the order in which they came, each at most once, and that one is lost
only to as many later ones as the queue can hold.
-/

namespace DropQueue

variable {α : Type*}

/-- Putting an entry in: a queue of more than `limit` entries loses its first. -/
def put (limit : ℕ) (queue : List α) (entry : α) : List α :=
  (if limit < queue.length then queue.tail else queue) ++ [entry]

structure Ledger (α : Type*) where
  /-- Every entry that was put in, in this order. -/
  made : List α
  /-- How many have left. -/
  gone : ℕ
  /-- The numbers of those that were pushed out. -/
  lost : Finset ℕ

def Ledger.empty : Ledger α := { made := [], gone := 0, lost := ∅ }

def Ledger.put (limit : ℕ) (ledger : Ledger α) (entry : α) : Ledger α :=
  if limit < ledger.made.length - ledger.gone then
    { made := ledger.made ++ [entry]
      gone := ledger.gone + 1
      lost := insert ledger.gone ledger.lost }
  else { ledger with made := ledger.made ++ [entry] }

def Ledger.take (ledger : Ledger α) : Ledger α :=
  { ledger with gone := ledger.gone + 1 }

/-- The entries with a number below `bound` that were not pushed out. -/
def Ledger.kept (ledger : Ledger α) (bound : ℕ) : List α :=
  ((List.range bound).filter fun index => index ∉ ledger.lost).filterMap
    fun index => ledger.made[index]?

/-- The entries that have been given out. -/
def Ledger.taken (ledger : Ledger α) : List α := ledger.kept ledger.gone

structure Ledger.Accounts (limit : ℕ) (ledger : Ledger α) (queue : List α) :
    Prop where
  waiting : queue = ledger.made.drop ledger.gone
  within : ledger.gone ≤ ledger.made.length
  bound : queue.length ≤ limit + 1
  left : ∀ index ∈ ledger.lost, index < ledger.gone
  later : ∀ index ∈ ledger.lost, index + limit + 1 < ledger.made.length

theorem Ledger.accounts_empty (limit : ℕ) :
    (Ledger.empty : Ledger α).Accounts limit [] := by
  constructor <;> simp [Ledger.empty]

section

variable {limit : ℕ} {ledger : Ledger α} {queue : List α}

theorem Ledger.Accounts.length (h : ledger.Accounts limit queue) :
    queue.length = ledger.made.length - ledger.gone := by
  rw [h.waiting, List.length_drop]

theorem Ledger.Accounts.put (h : ledger.Accounts limit queue) (entry : α) :
    (ledger.put limit entry).Accounts limit
      (DropQueue.put limit queue entry) := by
  have hlength := h.length
  have hwithin := h.within
  have hbound := h.bound
  unfold Ledger.put DropQueue.put
  rw [← hlength]
  split
  · rename_i hfull
    have hroom : ledger.gone + 1 ≤ ledger.made.length := by omega
    constructor
    · rw [List.drop_append_of_le_length hroom, h.waiting, List.tail_drop]
    · simp only [List.length_append, List.length_singleton]
      omega
    · simp only [List.length_append, List.length_singleton, List.length_tail]
      omega
    · intro index hindex
      rcases Finset.mem_insert.mp hindex with rfl | hlost
      · exact Nat.lt_succ_self _
      · exact Nat.lt_succ_of_lt (h.left index hlost)
    · intro index hindex
      rw [List.length_append, List.length_singleton]
      rcases Finset.mem_insert.mp hindex with rfl | hlost
      · omega
      · exact Nat.lt_succ_of_lt (h.later index hlost)
  · constructor
    · rw [List.drop_append_of_le_length hwithin, h.waiting]
    · exact hwithin.trans (by simp)
    · simp only [List.length_append, List.length_singleton]
      omega
    · exact h.left
    · intro index hindex
      rw [List.length_append, List.length_singleton]
      exact Nat.lt_succ_of_lt (h.later index hindex)

theorem Ledger.Accounts.take {entry : α}
    (h : ledger.Accounts limit (entry :: queue)) :
    ledger.take.Accounts limit queue := by
  have hlength := h.length
  have hbound := h.bound
  rw [List.length_cons] at hlength hbound
  constructor
  · rw [Ledger.take, ← List.tail_drop, ← h.waiting, List.tail_cons]
  · change ledger.gone + 1 ≤ ledger.made.length
    omega
  · omega
  · exact fun index hindex => Nat.lt_succ_of_lt (h.left index hindex)
  · exact h.later

/-! ## What was given out -/

/-- Entries that were made before do not change. -/
theorem Ledger.kept_congr {other : Ledger α} {bound : ℕ}
    (hbound : bound ≤ ledger.made.length)
    (hmade : ledger.made <+: other.made)
    (hlost : ∀ index < bound, index ∈ other.lost ↔ index ∈ ledger.lost) :
    other.kept bound = ledger.kept bound := by
  unfold Ledger.kept
  have hfilter : ((List.range bound).filter fun index =>
      index ∉ other.lost) =
      (List.range bound).filter fun index => index ∉ ledger.lost := by
    apply List.filter_congr
    intro index hindex
    rw [List.mem_range] at hindex
    simp only [hlost index hindex]
  rw [hfilter]
  apply List.filterMap_congr
  intro index hindex
  rw [List.mem_filter, List.mem_range] at hindex
  obtain ⟨rest, hrest⟩ := hmade
  rw [← hrest, List.getElem?_append_left (by omega)]

theorem Ledger.kept_succ (ledger : Ledger α) (bound : ℕ) :
    ledger.kept (bound + 1) =
      ledger.kept bound ++
        if bound ∈ ledger.lost then [] else ledger.made[bound]?.toList := by
  unfold Ledger.kept
  rw [List.range_succ, List.filter_append, List.filterMap_append]
  congr 1
  by_cases hlost : bound ∈ ledger.lost
  · simp [hlost]
  · simp only [hlost, not_false_eq_true, decide_true, List.filter_cons_of_pos,
      List.filter_nil, List.filterMap_cons, List.filterMap_nil, if_false]
    cases ledger.made[bound]? <;> rfl

/-- Putting an entry in pushes out none of those that had left. -/
theorem Ledger.Accounts.kept_put (h : ledger.Accounts limit queue) (entry : α)
    {bound : ℕ} (hbound : bound ≤ ledger.gone) :
    (ledger.put limit entry).kept bound = ledger.kept bound := by
  have hwithin := hbound.trans h.within
  unfold Ledger.put
  split
  · apply Ledger.kept_congr hwithin (List.prefix_append _ _)
    intro index hindex
    rw [Finset.mem_insert, or_iff_right (by omega)]
  · exact Ledger.kept_congr hwithin (List.prefix_append _ _) fun _ _ => Iff.rfl

/-- Putting an entry in gives none out. -/
theorem Ledger.Accounts.taken_put (h : ledger.Accounts limit queue)
    (entry : α) : (ledger.put limit entry).taken = ledger.taken := by
  have hkept := h.kept_put entry le_rfl
  unfold Ledger.taken
  rw [← hkept]
  unfold Ledger.put
  split
  · rw [Ledger.kept_succ, if_pos (Finset.mem_insert_self _ _),
      List.append_nil]
  · rfl

theorem Ledger.gone_le_put (limit : ℕ) (ledger : Ledger α) (entry : α) :
    ledger.gone ≤ (ledger.put limit entry).gone := by
  unfold Ledger.put
  split
  · exact Nat.le_succ _
  · exact le_rfl

/-- Taking gives out the entry in front. -/
theorem Ledger.Accounts.taken_take {entry : α}
    (h : ledger.Accounts limit (entry :: queue)) :
    ledger.take.taken = ledger.taken ++ [entry] := by
  have hfront : ledger.made[ledger.gone]? = some entry := by
    rw [← List.head?_drop, ← h.waiting]
    rfl
  have hkept : ledger.gone ∉ ledger.lost := fun hlost =>
    Nat.lt_irrefl _ (h.left _ hlost)
  change ledger.take.kept (ledger.gone + 1) = _
  rw [Ledger.kept_succ]
  change ledger.kept ledger.gone ++
    (if ledger.gone ∈ ledger.lost then []
      else ledger.made[ledger.gone]?.toList) = _
  rw [if_neg hkept, hfront]
  rfl

end

end DropQueue
