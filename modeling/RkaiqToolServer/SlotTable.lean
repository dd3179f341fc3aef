import Mathlib.Data.List.Nodup
import Mathlib.Tactic

/-!
# Tables of slots

`Flow` keeps its input slots and its output slots in two vectors and counts
them in two counters; both are filled in the same way, which this file
describes for slots of any kind.  A vector that has to grow moves its elements,
and the move constructors of both kinds of slot initialise no member.
-/

namespace RkaiqToolServer

variable {α : Type}

/-- An element of the vector.  `moved` was made by the move constructor. -/
inductive SlotCell (α : Type)
  | fresh
  | moved
  | inited (config : α)

/-- The member `valid`; `junk` is what memory reads as that nothing was written
to. -/
def SlotCell.valid (junk : Bool) : SlotCell α → Bool
  | .fresh => false
  | .moved => junk
  | .inited _ => true

/-- `installed` records the slots that were installed and with what. -/
structure SlotTable (α : Type) where
  cells : List (SlotCell α)
  capacity : ℕ
  slotNum : ℤ
  installed : List (ℤ × α)

namespace SlotTable

/-! ## Installing slots -/

def new : SlotTable α := ⟨[], 0, 0, []⟩

variable (table : SlotTable α)

/-- `v[i].valid`, also for an index outside the vector. -/
def slotValid (junk : ℤ → Bool) (i : ℤ) : Bool :=
  if i < 0 then junk i
  else
    match table.cells[i.toNat]? with
    | some cell => cell.valid (junk i)
    | none => junk i

/-- Whether none of the slots has been set; `none` when the index is applied to
a null pointer. -/
def checkFree (junk : ℤ → Bool) (slots : List ℤ) : Option Bool :=
  if table.capacity = 0 ∧ ∃ i ∈ slots, i < 0 then none
  else
    some (slots.all fun i =>
      decide (table.cells.length ≤ i) || !table.slotValid junk i)

/-- Growth to `n` elements, `none` when the assertion of the move constructor
fails. -/
def resize (asserts : Bool) (junk : ℤ → Bool) (n : ℕ) :
    Option (SlotTable α) :=
  let added := List.replicate (n - table.cells.length) .fresh
  if n ≤ table.capacity then
    some { table with cells := table.cells ++ added }
  else if asserts ∧ ∃ i < table.cells.length, table.slotValid junk i then none
  else
    some { table with
      cells := table.cells.map (fun _ => .moved) ++ added
      capacity := table.cells.length +
        max table.cells.length (n - table.cells.length) }

/-- What is written in front of the vector is not followed. -/
def init (entry : ℤ × α) : SlotTable α where
  cells :=
    if entry.1 < 0 then table.cells
    else table.cells.set entry.1.toNat (.inited entry.2)
  capacity := table.capacity
  slotNum := table.slotNum + 1
  installed := table.installed ++ [entry]

def initSlots (asserts : Bool) (junk : ℤ → Bool) :
    List (ℤ × α) → SlotTable α → Option (SlotTable α)
  | [], table => some table
  | entry :: rest, table =>
      if asserts && table.slotValid junk entry.1 then none
      else initSlots asserts junk rest (table.init entry)

/-- `entries` are in the order of their slots. -/
def install (asserts : Bool) (junk : ℤ → Bool) (entries : List (ℤ × α)) :
    Option (SlotTable α) :=
  match entries.getLast? with
  | none => some table
  | some last =>
      let grown :=
        if table.cells.length ≤ last.1 then
          table.resize asserts junk (last.1 + 1).toNat
        else some table
      grown.bind (initSlots asserts junk entries)

/-- The test of `SendInput` and `SetOutput`. -/
def accepts (i : ℤ) : Bool := !(decide (i < 0) || decide (table.slotNum ≤ i))

/-! ## Usable tables -/

structure Usable (table : SlotTable α) : Prop where
  accepts_iff : ∀ i, table.accepts i = true ↔
    i ∈ table.installed.map Prod.fst
  inside : ∀ i, table.accepts i = true → 0 ≤ i ∧ i < table.cells.length
  kept : ∀ entry ∈ table.installed,
    table.cells[entry.1.toNat]? = some (.inited entry.2)

/-- The slots are those from 0 to one less than their number. -/
def FromZero (slots : List ℤ) : Prop :=
  ∀ i, i ∈ slots ↔ 0 ≤ i ∧ i < slots.length

/-- The slots stand in the vector one behind the other, and it has no room for
more. -/
structure Tight (table : SlotTable α) : Prop where
  slotNum_eq : table.slotNum = table.installed.length
  cells_length : table.cells.length = table.installed.length
  capacity_eq : table.capacity = table.installed.length
  fromZero : FromZero (table.installed.map Prod.fst)
  kept : ∀ entry ∈ table.installed,
    table.cells[entry.1.toNat]? = some (.inited entry.2)

section Tables

variable {table : SlotTable α}

theorem accepts_iff_range (i : ℤ) :
    table.accepts i = true ↔ 0 ≤ i ∧ i < table.slotNum := by
  simp [accepts]

theorem Tight.usable (htight : table.Tight) : table.Usable where
  accepts_iff i := by
    rw [accepts_iff_range, htight.slotNum_eq, htight.fromZero i,
      List.length_map]
  inside i haccepts := by
    rw [accepts_iff_range, htight.slotNum_eq] at haccepts
    rw [htight.cells_length]
    exact haccepts
  kept := htight.kept

theorem tight_new : (new : SlotTable α).Tight where
  slotNum_eq := rfl
  cells_length := rfl
  capacity_eq := rfl
  fromZero i := by
    simp only [new, List.map_nil, List.not_mem_nil, List.length_nil,
      Nat.cast_zero, false_iff]
    omega
  kept := by simp [new]

/-! ## Growth -/

section Growth

variable {asserts : Bool} {junk : ℤ → Bool} {n : ℕ} {grown : SlotTable α}

theorem resize_frame
    (hresize : table.resize asserts junk n = some grown) :
    grown.slotNum = table.slotNum ∧ grown.installed = table.installed := by
  rw [resize] at hresize
  split_ifs at hresize <;> cases hresize <;> exact ⟨rfl, rfl⟩

/-- An empty vector gets room for just the slots it grows to. -/
theorem resize_empty (hcells : table.cells = []) (hcapacity : table.capacity = 0)
    (hn : 0 < n) (hresize : table.resize asserts junk n = some grown) :
    grown.cells = List.replicate n .fresh ∧ grown.capacity = n := by
  rw [resize, hcells, hcapacity] at hresize
  simp only [Nat.le_zero, hn.ne', if_false, List.length_nil,
    Nat.not_lt_zero, false_and, exists_false, and_false] at hresize
  cases hresize
  simp

/-- Growth beyond the capacity leaves no slot as it was. -/
theorem resize_moves {place : ℕ} (hfull : table.capacity < n)
    (hresize : table.resize asserts junk n = some grown)
    (hplace : place < table.cells.length) :
    grown.cells[place]? = some .moved := by
  rw [resize, if_neg (by omega)] at hresize
  split_ifs at hresize
  cases hresize
  have hmapped : place <
      (table.cells.map fun _ => (.moved : SlotCell α)).length := by
    rw [List.length_map]
    exact hplace
  rw [List.getElem?_append_left hmapped, List.getElem?_map,
    List.getElem?_eq_getElem hplace]
  rfl

end Growth

/-! ## Writing the slots -/

theorem initSlots_eq {asserts : Bool} {junk : ℤ → Bool}
    {entries : List (ℤ × α)} {next : SlotTable α} :
    ∀ {table : SlotTable α},
      initSlots asserts junk entries table = some next →
        next = entries.foldl init table := by
  induction entries with
  | nil =>
      intro table hnext
      exact (Option.some.inj hnext).symm
  | cons entry rest ih =>
      intro table hnext
      rw [initSlots] at hnext
      split_ifs at hnext
      exact ih hnext

/-- What is the same after all slots have been written. -/
structure Written (table : SlotTable α) (entries : List (ℤ × α))
    (next : SlotTable α) : Prop where
  cells_length : next.cells.length = table.cells.length
  capacity_eq : next.capacity = table.capacity
  slotNum_eq : next.slotNum = table.slotNum + entries.length
  installed_eq : next.installed = table.installed ++ entries

theorem written_foldl (entries : List (ℤ × α)) :
    ∀ table : SlotTable α,
      Written table entries (entries.foldl init table) := by
  induction entries with
  | nil =>
      intro table
      exact ⟨rfl, rfl, by simp, by simp⟩
  | cons entry rest ih =>
      intro table
      have hrest := ih (table.init entry)
      refine ⟨?_, hrest.capacity_eq, ?_, ?_⟩
      · rw [List.foldl_cons, hrest.cells_length, init]
        dsimp only
        split_ifs
        · rfl
        · exact List.length_set
      · rw [List.foldl_cons, hrest.slotNum_eq, init, List.length_cons]
        push_cast
        ring
      · rw [List.foldl_cons, hrest.installed_eq, init, List.append_assoc]
        rfl

theorem cells_foldl_other {place : ℕ} {entries : List (ℤ × α)} :
    ∀ {table : SlotTable α}, (place : ℤ) ∉ entries.map Prod.fst →
      (entries.foldl init table).cells[place]? = table.cells[place]? := by
  induction entries with
  | nil => exact fun _ => rfl
  | cons entry rest ih =>
      intro table hother
      rw [List.map_cons, List.mem_cons, not_or] at hother
      rw [List.foldl_cons, ih hother.2, init]
      dsimp only
      split_ifs with hneg
      · rfl
      · refine List.getElem?_set_ne ?_
        have hne := hother.1
        omega

theorem cells_foldl_written {entries : List (ℤ × α)} {entry : ℤ × α} :
    ∀ {table : SlotTable α}, (entries.map Prod.fst).Nodup →
      entry ∈ entries → 0 ≤ entry.1 → entry.1 < table.cells.length →
      (entries.foldl init table).cells[entry.1.toNat]? =
        some (.inited entry.2) := by
  induction entries with
  | nil =>
      intro _ _ hmem
      cases hmem
  | cons first rest ih =>
      intro table hnodup hmem hlow hhigh
      rw [List.map_cons, List.nodup_cons] at hnodup
      rw [List.foldl_cons]
      rcases List.mem_cons.mp hmem with rfl | hrest
      · have hother : ((entry.1.toNat : ℕ) : ℤ) ∉ rest.map Prod.fst := by
          rw [Int.toNat_of_nonneg hlow]
          exact hnodup.1
        rw [cells_foldl_other hother, init]
        dsimp only
        rw [if_neg (by omega), List.getElem?_set_self (by omega)]
      · refine ih hnodup.2 hrest hlow ?_
        rw [init]
        dsimp only
        split_ifs
        · exact hhigh
        · rw [List.length_set]
          exact hhigh

/-! ## One installation -/

theorem install_nil (asserts : Bool) (junk : ℤ → Bool) :
    table.install asserts junk [] = some table := rfl

theorem install_eq_some {asserts : Bool} {junk : ℤ → Bool}
    {entries : List (ℤ × α)} {next : SlotTable α} (hne : entries ≠ [])
    (hinstall : table.install asserts junk entries = some next) :
    ∃ grown, next = entries.foldl init grown ∧
      ((entries.getLast hne).1 < table.cells.length ∧ grown = table ∨
        table.cells.length ≤ (entries.getLast hne).1 ∧
          table.resize asserts junk ((entries.getLast hne).1 + 1).toNat =
            some grown) := by
  rw [install, List.getLast?_eq_some_getLast hne] at hinstall
  dsimp only at hinstall
  obtain ⟨grown, hgrown, hwritten⟩ := Option.bind_eq_some_iff.mp hinstall
  refine ⟨grown, initSlots_eq hwritten, ?_⟩
  split_ifs at hgrown with hlast
  · exact .inr ⟨hlast, hgrown⟩
  · exact .inl ⟨by omega, (Option.some.inj hgrown).symm⟩

/-- A first installation that leaves no hole fills the vector. -/
theorem Tight.install_first {asserts : Bool} {junk : ℤ → Bool}
    {entries : List (ℤ × α)} {next : SlotTable α} (htight : table.Tight)
    (hempty : table.installed = [])
    (hsorted : (entries.map Prod.fst).Pairwise (· ≤ ·))
    (hnodup : (entries.map Prod.fst).Nodup)
    (hzero : FromZero (entries.map Prod.fst))
    (hinstall : table.install asserts junk entries = some next) :
    next.Tight := by
  by_cases hne : entries = []
  · subst hne
    rw [install_nil] at hinstall
    exact Option.some.inj hinstall ▸ htight
  · have hlength : table.cells.length = 0 := by
      rw [htight.cells_length, hempty]
      rfl
    have hcapacity : table.capacity = 0 := by
      rw [htight.capacity_eq, hempty]
      rfl
    have hnum : table.slotNum = 0 := by
      rw [htight.slotNum_eq, hempty]
      rfl
    have hpos : 0 < entries.length := List.length_pos_of_ne_nil hne
    have hlastMem : (entries.getLast hne).1 ∈ entries.map Prod.fst :=
      List.mem_map_of_mem (List.getLast_mem hne)
    have hlast := (hzero _).mp hlastMem
    rw [List.length_map] at hlast
    have hmax : (entries.getLast hne).1 = entries.length - 1 := by
      have htop : (entries.length - 1 : ℤ) ∈ entries.map Prod.fst := by
        rw [hzero, List.length_map]
        omega
      have hbound := hsorted.rel_getLast htop
      rw [List.getLast_map] at hbound
      omega
    obtain ⟨grown, rfl, hgrown⟩ := install_eq_some hne hinstall
    have hresize : table.resize asserts junk entries.length =
        some grown := by
      rcases hgrown with ⟨hinside, -⟩ | ⟨-, hresize⟩
      · omega
      · rw [hmax, show ((entries.length : ℤ) - 1 + 1).toNat =
          entries.length by omega] at hresize
        exact hresize
    obtain ⟨hcells, hroom⟩ := resize_empty
      (List.length_eq_zero_iff.mp hlength) hcapacity hpos hresize
    have hframe := resize_frame hresize
    have hwritten := written_foldl entries grown
    have hgrownLength : grown.cells.length = entries.length := by
      rw [hcells, List.length_replicate]
    have hinstalled : (entries.foldl init grown).installed = entries := by
      rw [hwritten.installed_eq, hframe.2, hempty, List.nil_append]
    refine ⟨?_, ?_, ?_, ?_, ?_⟩
    · rw [hwritten.slotNum_eq, hinstalled, hframe.1, hnum, zero_add]
    · rw [hwritten.cells_length, hinstalled, hgrownLength]
    · rw [hwritten.capacity_eq, hinstalled, hroom]
    · rw [hinstalled]
      exact hzero
    · intro entry hentry
      rw [hinstalled] at hentry
      have hrange := (hzero entry.1).mp (List.mem_map_of_mem hentry)
      rw [List.length_map] at hrange
      exact cells_foldl_written hnodup hentry hrange.1 (by omega)

theorem Tight.lt_of_checkFree {junk : ℤ → Bool} {slots : List ℤ} {i : ℤ}
    (htight : table.Tight) (hfree : table.checkFree junk slots = some true)
    (hi : i ∈ slots) (hlow : 0 ≤ i) : table.installed.length ≤ i := by
  by_contra hhigh
  have hmem : i ∈ table.installed.map Prod.fst := by
    rw [htight.fromZero, List.length_map]
    omega
  obtain ⟨entry, hentry, rfl⟩ := List.mem_map.mp hmem
  have hcell := htight.kept entry hentry
  rw [checkFree] at hfree
  split_ifs at hfree
  have hpass := List.all_eq_true.mp (Option.some.inj hfree) entry.1 hi
  rw [Bool.or_eq_true, decide_eq_true_eq, htight.cells_length,
    Bool.not_eq_true', slotValid, if_neg (by omega), hcell] at hpass
  rcases hpass with hbehind | hinvalid
  · omega
  · cases hinvalid

/-- Growing moves what was installed before, and a hole is counted as a slot:
only a first installation without holes leaves the table usable. -/
theorem Tight.first_of_usable {asserts : Bool} {junk : ℤ → Bool}
    {entries : List (ℤ × α)} {next : SlotTable α} (htight : table.Tight)
    (hne : entries ≠ [])
    (hfree : table.checkFree junk (entries.map Prod.fst) = some true)
    (hinstall : table.install asserts junk entries = some next)
    (husable : next.Usable) :
    table.installed = [] ∧ FromZero (entries.map Prod.fst) := by
  obtain ⟨grown, rfl, hgrown⟩ := install_eq_some hne hinstall
  have hwritten := written_foldl entries grown
  have hsame : grown.slotNum = table.slotNum ∧
      grown.installed = table.installed := by
    rcases hgrown with ⟨-, rfl⟩ | ⟨-, hresize⟩
    · exact ⟨rfl, rfl⟩
    · rw [resize] at hresize
      split_ifs at hresize <;> cases hresize <;> exact ⟨rfl, rfl⟩
  have hinstalled : (entries.foldl init grown).installed =
      table.installed ++ entries := by
    rw [hwritten.installed_eq, hsame.2]
  have hbehind : ∀ i ∈ entries.map Prod.fst,
      (table.installed.length : ℤ) ≤ i := by
    intro i hi
    have haccepts := (husable.accepts_iff i).mpr (by
      rw [hinstalled, List.map_append, List.mem_append]
      exact .inr hi)
    exact htight.lt_of_checkFree hfree hi (husable.inside i haccepts).1
  have hempty : table.installed = [] := by
    by_contra hsome
    have hpos : 0 < table.installed.length :=
      List.length_pos_of_ne_nil hsome
    have hlast := hbehind _ (List.mem_map_of_mem (List.getLast_mem hne))
    have hzero : (0 : ℤ) ∈ table.installed.map Prod.fst := by
      rw [htight.fromZero, List.length_map]
      omega
    obtain ⟨entry, hentry, hplace⟩ := List.mem_map.mp hzero
    have hkept := husable.kept entry (by
      rw [hinstalled]
      exact List.mem_append_left _ hentry)
    have hnone : ((0 : ℕ) : ℤ) ∉ entries.map Prod.fst := by
      intro hmem
      have hle := hbehind _ hmem
      omega
    rw [hplace, Int.toNat_zero, cells_foldl_other hnone] at hkept
    rcases hgrown with ⟨hinside, -⟩ | ⟨-, hresize⟩
    · rw [htight.cells_length] at hinside
      omega
    · have hfull : table.capacity <
          ((entries.getLast hne).1 + 1).toNat := by
        rw [htight.capacity_eq]
        omega
      have hcells : 0 < table.cells.length := by
        rw [htight.cells_length]
        exact hpos
      rw [resize_moves hfull hresize hcells] at hkept
      cases hkept
  refine ⟨hempty, fun i => ?_⟩
  have haccepts := husable.accepts_iff i
  rw [accepts_iff_range, hwritten.slotNum_eq, hsame.1, htight.slotNum_eq,
    hinstalled, hempty, List.nil_append, List.length_nil] at haccepts
  rw [← haccepts, List.length_map]
  simp

end Tables

end SlotTable

end RkaiqToolServer
