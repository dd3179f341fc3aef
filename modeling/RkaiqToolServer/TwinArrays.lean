import Mathlib.Data.List.Basic
import Mathlib.Logic.Function.Basic
import Mathlib.Tactic

/-!
# Arrays whose cells point at each other

Every cell of some growing arrays has a twin in another array, and the two
point at each other.  An array that is full is moved to a larger block, and
then the twins of its cells are told where the cells went.  A pointer into a
block that the array has left reads nothing.  Whoever adds a pair, moves an
array or changes both cells of a pair keeps all cells paired.
-/

namespace TwinArrays

variable {β : Type*}

/-- The array of a cell, the block the array was in, and the cell's number. -/
structure CellPlace where
  array : ℕ
  block : ℕ
  index : ℕ
  deriving DecidableEq

/-- The twin of a new cell is not known at first. -/
structure Cell (β : Type*) where
  value : β
  twin : Option CellPlace

structure Cells (β : Type*) where
  block : ℕ
  capacity : ℕ
  cells : List (Cell β)

def Cells.values (array : Cells β) : List β := array.cells.map Cell.value

abbrev Store (β : Type*) := ℕ → Cells β

/-- The cell at a place, if its array has not left the block. -/
def read (s : Store β) (p : CellPlace) : Option (Cell β) :=
  if (s p.array).block = p.block then (s p.array).cells[p.index]? else none

def write (s : Store β) (p : CellPlace) (cell : Cell β) : Store β :=
  Function.update s p.array
    { s p.array with cells := (s p.array).cells.set p.index cell }

def setTwin (s : Store β) (p twin : CellPlace) : Option (Store β) :=
  (read s p).map fun cell => write s p { cell with twin := some twin }

/-- Tells the twin of one cell where the cell is. -/
def repoint (a block : ℕ) (s : Store β) (i : ℕ) : Option (Store β) :=
  (read s ⟨a, block, i⟩).bind fun cell =>
    cell.twin.bind fun twin => setTwin s twin ⟨a, block, i⟩

def movedTo (s : Store β) (a : ℕ) : Store β :=
  Function.update s a
    { s a with block := (s a).block + 1, capacity := (s a).capacity * 2 }

/-- Moves an array to a block of twice the size. -/
def relocate (s : Store β) (a : ℕ) : Option (Store β) :=
  (List.range (s a).cells.length).foldlM (repoint a ((s a).block + 1))
    (movedTo s a)

/-- A new cell at the end of an array with room for it. -/
def append (s : Store β) (a : ℕ) (value : β) : Option (Store β × CellPlace) :=
  if (s a).cells.length < (s a).capacity then
    some (Function.update s a
        { s a with cells := (s a).cells ++ [{ value, twin := none }] },
      ⟨a, (s a).block, (s a).cells.length⟩)
  else none

def push (s : Store β) (a : ℕ) (value : β) : Option (Store β × CellPlace) :=
  if (s a).capacity ≤ (s a).cells.length then
    (relocate s a).bind fun moved => append moved a value
  else append s a value

/-- Two new cells that are twins. -/
def pushPair (s : Store β) (a b : ℕ) (value : β) : Option (Store β) :=
  (push s a value).bind fun (s, p) =>
    (push s b value).bind fun (s, q) =>
      (setTwin s p q).bind fun s => setTwin s q p

/-- Changes the value of a cell. -/
def setValue (s : Store β) (p : CellPlace) (f : β → β) : Option (Store β) :=
  (read s p).map fun cell => write s p { cell with value := f cell.value }

/-- Changes the values of a cell and of its twin. -/
def setPair (s : Store β) (p : CellPlace) (f : β → β) : Option (Store β) :=
  (setValue s p f).bind fun changed =>
    (read changed p).bind fun cell =>
      cell.twin.bind fun twin => setValue changed twin f

/-! ## Reading and writing -/

theorem read_eq_some_iff {s : Store β} {p : CellPlace} {cell : Cell β} :
    read s p = some cell ↔
      (s p.array).block = p.block ∧
        (s p.array).cells[p.index]? = some cell := by
  unfold read
  split
  case isTrue h => simp [h]
  case isFalse h => simp [h]

@[simp] theorem write_block (s : Store β) (p : CellPlace) (cell : Cell β)
    (a : ℕ) : (write s p cell a).block = (s a).block := by
  unfold write
  by_cases h : a = p.array
  · subst a
    simp
  · rw [Function.update_of_ne h]

@[simp] theorem write_capacity (s : Store β) (p : CellPlace) (cell : Cell β)
    (a : ℕ) : (write s p cell a).capacity = (s a).capacity := by
  unfold write
  by_cases h : a = p.array
  · subst a
    simp
  · rw [Function.update_of_ne h]

@[simp] theorem write_length (s : Store β) (p : CellPlace) (cell : Cell β)
    (a : ℕ) : (write s p cell a).cells.length = (s a).cells.length := by
  unfold write
  by_cases h : a = p.array
  · subst a
    simp
  · rw [Function.update_of_ne h]

theorem read_write_self {s : Store β} {p : CellPlace} {old : Cell β}
    (hp : read s p = some old) (cell : Cell β) :
    read (write s p cell) p = some cell := by
  obtain ⟨hblock, hcell⟩ := read_eq_some_iff.mp hp
  rw [read_eq_some_iff, write_block]
  refine ⟨hblock, ?_⟩
  obtain ⟨hlt, -⟩ := List.getElem?_eq_some_iff.mp hcell
  simp [write, hlt]

theorem read_write_of_ne {s : Store β} {p q : CellPlace} {old : Cell β}
    (hp : read s p = some old) (cell : Cell β) (hne : q ≠ p) :
    read (write s p cell) q = read s q := by
  unfold read
  rw [write_block]
  by_cases harray : q.array = p.array
  · by_cases hblock : (s q.array).block = q.block
    · rw [if_pos hblock, if_pos hblock]
      have hindex : p.index ≠ q.index := by
        intro hindex
        apply hne
        obtain ⟨hpblock, -⟩ := read_eq_some_iff.mp hp
        cases q with
        | mk array block index =>
            cases p with
            | mk array' block' index' =>
                dsimp only at harray hindex hblock hpblock
                subst harray hindex
                rw [← hblock, ← hpblock]
      rw [harray]
      simp [write, hindex]
    · rw [if_neg hblock, if_neg hblock]
  · simp [write, harray]

theorem write_values (s : Store β) (p : CellPlace) (cell : Cell β) (a : ℕ) :
    (write s p cell a).values =
      if a = p.array then ((s a).values).set p.index cell.value
      else (s a).values := by
  by_cases h : a = p.array
  · subst a
    simp [Cells.values, write, List.map_set]
  · simp [write, h]

/-- A new twin changes no value. -/
theorem write_twin_values {s : Store β} {p : CellPlace} {old : Cell β}
    (hp : read s p = some old) (twin : Option CellPlace) (a : ℕ) :
    (write s p { old with twin } a).values = (s a).values := by
  rw [write_values]
  split
  case isTrue h =>
    subst a
    obtain ⟨-, hcell⟩ := read_eq_some_iff.mp hp
    obtain ⟨hlt, hget⟩ := List.getElem?_eq_some_iff.mp hcell
    apply List.ext_getElem?
    intro i
    rw [List.getElem?_set]
    split
    case isTrue hi =>
      subst i
      simp [Cells.values, hlt, hget]
    case isFalse => rfl
  case isFalse => rfl

/-! ## Paired cells -/

/-- No array is overfull, the loose cells have no twin yet, and every other
cell has a twin in another array that points back and has the same value. -/
structure Paired (s : Store β) (loose : List CellPlace) : Prop where
  bounded : ∀ a, (s a).cells.length ≤ (s a).capacity
  unset : ∀ p ∈ loose, ∀ cell, read s p = some cell → cell.twin = none
  twin : ∀ p cell, read s p = some cell → p ∉ loose →
    ∃ q other, cell.twin = some q ∧ q.array ≠ p.array ∧ q ∉ loose ∧
      read s q = some other ∧ other.twin = some p ∧
      other.value = cell.value

/-- Only one cell points to a place. -/
theorem Paired.unique {s : Store β} {loose : List CellPlace}
    (hpaired : Paired s loose) {p q r : CellPlace} {cell other : Cell β}
    (hq : read s q = some cell) (hr : read s r = some other)
    (hqtwin : cell.twin = some p) (hrtwin : other.twin = some p) : q = r := by
  have hback : ∀ place place' : CellPlace, ∀ cell' : Cell β,
      read s place' = some cell' → cell'.twin = some place →
      ∃ target, read s place = some target ∧ target.twin = some place' := by
    intro place place' cell' hread htwin
    by_cases hmem : place' ∈ loose
    · rw [hpaired.unset place' hmem cell' hread] at htwin
      contradiction
    · obtain ⟨twin, target, htwin', -, -, htarget, hreturn, -⟩ :=
        hpaired.twin place' cell' hread hmem
      rw [htwin, Option.some.injEq] at htwin'
      subst htwin'
      exact ⟨target, htarget, hreturn⟩
  obtain ⟨target, htarget, hreturn⟩ := hback p q cell hq hqtwin
  obtain ⟨target', htarget', hreturn'⟩ := hback p r other hr hrtwin
  rw [htarget, Option.some.injEq] at htarget'
  subst htarget'
  exact Option.some.inj (hreturn.symm.trans hreturn')

/-! ## Moving an array -/

/-- A pointer to one of the first `i` cells of the moved array follows it. -/
def followed (a block i : ℕ) (twin : CellPlace) : CellPlace :=
  if twin.array = a ∧ twin.block = block ∧ twin.index < i then
    { twin with block := block + 1 }
  else twin

def Cell.followed (a block i : ℕ) (cell : Cell β) : Cell β :=
  { cell with twin := cell.twin.map (TwinArrays.followed a block i) }

/-- The store when the twins of the first `i` cells have been told. -/
def partlyMoved (s : Store β) (a i : ℕ) : Store β := fun b =>
  if b = a then movedTo s a a
  else { s b with cells := (s b).cells.map (Cell.followed a (s a).block i) }

theorem Cell.followed_zero (a block : ℕ) (cell : Cell β) :
    cell.followed a block 0 = cell := by
  cases cell with
  | mk value twin =>
      cases twin <;> simp [Cell.followed, TwinArrays.followed]

theorem partlyMoved_zero (s : Store β) (a : ℕ) :
    partlyMoved s a 0 = movedTo s a := by
  funext b
  unfold partlyMoved
  split
  case isTrue h => rw [h]
  case isFalse h =>
    have hsame : Cell.followed a (s a).block 0 = (id : Cell β → Cell β) :=
      funext (Cell.followed_zero a (s a).block)
    rw [hsame, List.map_id, movedTo, Function.update_of_ne h]

theorem Cell.followed_succ {a block i : ℕ} {cell : Cell β}
    (hne : cell.twin ≠ some ⟨a, block, i⟩) :
    cell.followed a block (i + 1) = cell.followed a block i := by
  cases cell with
  | mk value twin =>
      cases twin with
      | none => rfl
      | some twin =>
          have hiff : (twin.array = a ∧ twin.block = block ∧
                twin.index < i + 1) ↔
              (twin.array = a ∧ twin.block = block ∧ twin.index < i) := by
            constructor
            · rintro ⟨harray, hblock, hindex⟩
              refine ⟨harray, hblock, ?_⟩
              have hother : twin.index ≠ i := by
                intro hindex
                apply hne
                cases twin with
                | mk array block' index =>
                    dsimp only at harray hblock hindex
                    rw [harray, hblock, hindex]
              omega
            · rintro ⟨harray, hblock, hindex⟩
              exact ⟨harray, hblock, by omega⟩
          simp only [Cell.followed, TwinArrays.followed, Option.map_some, hiff]

theorem read_partlyMoved_self {s : Store β} {a i : ℕ} (index : ℕ) :
    read (partlyMoved s a i) ⟨a, (s a).block + 1, index⟩ =
      (s a).cells[index]? := by
  simp [read, partlyMoved, movedTo]

theorem read_partlyMoved_of_ne {s : Store β} {a i : ℕ} {p : CellPlace}
    (hne : p.array ≠ a) :
    read (partlyMoved s a i) p =
      (read s p).map (Cell.followed a (s a).block i) := by
  unfold read partlyMoved
  rw [if_neg hne]
  dsimp only
  split
  · exact List.getElem?_map
  · rfl

/-- One round of the loop, on the cell with the number `i`. -/
theorem Paired.repoint {s : Store β} {loose : List CellPlace}
    (hpaired : Paired s loose) {a i : ℕ}
    (hloose : ∀ p ∈ loose, p.array ≠ a) (hi : i < (s a).cells.length) :
    TwinArrays.repoint a ((s a).block + 1) (partlyMoved s a i) i =
      some (partlyMoved s a (i + 1)) := by
  obtain ⟨cell, hcell⟩ : ∃ cell, (s a).cells[i]? = some cell :=
    ⟨_, List.getElem?_eq_getElem hi⟩
  have hread : read s ⟨a, (s a).block, i⟩ = some cell :=
    read_eq_some_iff.mpr ⟨rfl, hcell⟩
  obtain ⟨q, other, hq, hqa, -, hother, hback, -⟩ :=
    hpaired.twin _ cell hread fun hmem => hloose _ hmem rfl
  dsimp only at hqa
  have hothers : ∀ p target, read s p = some target → p ≠ q →
      target.twin ≠ some ⟨a, (s a).block, i⟩ := by
    intro p target hp hne htwin
    exact hne (hpaired.unique hp hother htwin hback)
  have hreadq : read (partlyMoved s a i) q =
      some (other.followed a (s a).block i) := by
    rw [read_partlyMoved_of_ne hqa, hother]
    rfl
  unfold TwinArrays.repoint setTwin
  rw [read_partlyMoved_self, hcell]
  dsimp only [Option.bind_some]
  rw [hq]
  dsimp only [Option.bind_some]
  rw [hreadq]
  dsimp only [Option.map_some]
  congr 1
  obtain ⟨hqblock, hqcell⟩ := read_eq_some_iff.mp hother
  funext b
  by_cases hb : b = a
  · subst b
    rw [write, Function.update_of_ne (Ne.symm hqa)]
    simp [partlyMoved]
  · have hcells : ∀ index target, (s b).cells[index]? = some target →
        ¬ (b = q.array ∧ index = q.index) →
        target.followed a (s a).block (i + 1) =
          target.followed a (s a).block i := by
      intro index target htarget hne
      have hplace : read s ⟨b, (s b).block, index⟩ = some target :=
        read_eq_some_iff.mpr ⟨rfl, htarget⟩
      refine Cell.followed_succ (hothers _ _ hplace ?_)
      intro heq
      apply hne
      rw [← heq]
      exact ⟨rfl, rfl⟩
    by_cases hbq : b = q.array
    · subst hbq
      have hlt : q.index < (s q.array).cells.length :=
        (List.getElem?_eq_some_iff.mp hqcell).1
      have hlist : ((s q.array).cells.map
            (Cell.followed a (s a).block i)).set q.index
              { other.followed a (s a).block i with
                twin := some ⟨a, (s a).block + 1, i⟩ } =
          (s q.array).cells.map (Cell.followed a (s a).block (i + 1)) := by
        apply List.ext_getElem?
        intro index
        rw [List.getElem?_set, List.getElem?_map, List.getElem?_map]
        by_cases hindex : q.index = index
        · subst hindex
          rw [if_pos rfl, hqcell]
          simp [hlt, Cell.followed, followed, hback]
        · rw [if_neg hindex]
          cases hget : (s q.array).cells[index]? with
          | none => rfl
          | some target =>
              simp only [Option.map_some]
              rw [hcells index target hget fun h => hindex h.2.symm]
      simp only [write, Function.update_self, partlyMoved, if_neg hqa, hlist]
    · rw [write, Function.update_of_ne hbq]
      have hlist : (s b).cells.map (Cell.followed a (s a).block i) =
          (s b).cells.map (Cell.followed a (s a).block (i + 1)) := by
        apply List.map_congr_left
        intro target htarget
        obtain ⟨index, hindex⟩ := List.getElem?_of_mem htarget
        exact (hcells index target hindex fun h => hbq h.1).symm
      simp only [partlyMoved, if_neg hb, hlist]

theorem Paired.relocate_eq {s : Store β} {loose : List CellPlace}
    (hpaired : Paired s loose) {a : ℕ} (hloose : ∀ p ∈ loose, p.array ≠ a) :
    relocate s a = some (partlyMoved s a (s a).cells.length) := by
  have hrounds : ∀ n ≤ (s a).cells.length,
      (List.range n).foldlM (TwinArrays.repoint a ((s a).block + 1))
        (movedTo s a) = some (partlyMoved s a n) := by
    intro n
    induction n with
    | zero =>
        intro _
        rw [partlyMoved_zero]
        rfl
    | succ n ih =>
        intro hn
        rw [List.range_succ, List.foldlM_append, ih (by omega)]
        change (TwinArrays.repoint a ((s a).block + 1)
          (partlyMoved s a n) n).bind _ = _
        rw [hpaired.repoint hloose (by omega)]
        rfl
  exact hrounds _ le_rfl

theorem partlyMoved_cells (s : Store β) (a i b : ℕ) :
    (partlyMoved s a i b).cells.length = (s b).cells.length ∧
      (partlyMoved s a i b).values = (s b).values := by
  unfold partlyMoved
  split
  case isTrue h =>
    subst h
    simp [movedTo, Cells.values]
  case isFalse => simp [Cells.values, Cell.followed]

theorem partlyMoved_capacity (s : Store β) (a i b : ℕ) :
    (partlyMoved s a i b).capacity =
      if b = a then (s a).capacity * 2 else (s b).capacity := by
  unfold partlyMoved
  split
  case isTrue => simp [movedTo]
  case isFalse => rfl

theorem Paired.partlyMoved {s : Store β} {loose : List CellPlace}
    (hpaired : Paired s loose) {a : ℕ} (hloose : ∀ p ∈ loose, p.array ≠ a) :
    Paired (TwinArrays.partlyMoved s a (s a).cells.length) loose := by
  constructor
  case bounded =>
    intro b
    rw [(partlyMoved_cells s a _ b).1, partlyMoved_capacity]
    have hb := hpaired.bounded b
    split
    case isTrue h =>
      subst h
      omega
    case isFalse => exact hb
  case unset =>
    intro p hp cell hcell
    rw [read_partlyMoved_of_ne (hloose p hp), Option.map_eq_some_iff] at hcell
    obtain ⟨old, hold, rfl⟩ := hcell
    simp [Cell.followed, hpaired.unset p hp old hold]
  case twin =>
    intro p cell hcell hp
    by_cases hpa : p.array = a
    · obtain ⟨hblock, hget⟩ := read_eq_some_iff.mp hcell
      have hplace : p = ⟨a, (s a).block + 1, p.index⟩ := by
        cases p with
        | mk array block index =>
            dsimp only at hpa hblock
            subst hpa
            rw [← hblock]
            simp [TwinArrays.partlyMoved, movedTo]
      rw [hplace, read_partlyMoved_self] at hcell
      have hread : read s ⟨a, (s a).block, p.index⟩ = some cell :=
        read_eq_some_iff.mpr ⟨rfl, hcell⟩
      obtain ⟨q, other, hq, hqa, hqloose, hother, hback, hvalue⟩ :=
        hpaired.twin _ cell hread fun hmem => hloose _ hmem rfl
      refine ⟨q, other.followed a (s a).block (s a).cells.length, hq, ?_,
        hqloose, ?_, ?_, hvalue⟩
      · rw [hpa]
        exact hqa
      · rw [read_partlyMoved_of_ne hqa, hother]
        rfl
      · have hlt : p.index < (s a).cells.length :=
          (List.getElem?_eq_some_iff.mp hcell).1
        rw [hplace]
        simp [Cell.followed, followed, hback, hlt]
    · rw [read_partlyMoved_of_ne hpa, Option.map_eq_some_iff] at hcell
      obtain ⟨old, hold, rfl⟩ := hcell
      obtain ⟨q, other, hq, hqp, hqloose, hother, hback, hvalue⟩ :=
        hpaired.twin p old hold hp
      have hstays : followed a (s a).block (s a).cells.length p = p := by
        simp [followed, hpa]
      by_cases hqa : q.array = a
      · obtain ⟨hqblock, hqcell⟩ := read_eq_some_iff.mp hother
        have hlt : q.index < (s a).cells.length := by
          rw [← hqa]
          exact (List.getElem?_eq_some_iff.mp hqcell).1
        refine ⟨⟨a, (s a).block + 1, q.index⟩, other, ?_, Ne.symm hpa, ?_, ?_,
          hback, hvalue⟩
        · rw [hqa] at hqblock
          simp [Cell.followed, followed, hq, hqa, ← hqblock, hlt]
        · exact fun hmem => hloose _ hmem rfl
        · rw [read_partlyMoved_self, ← hqa]
          exact hqcell
      · refine ⟨q, other.followed a (s a).block (s a).cells.length, ?_, hqp,
          hqloose, ?_, ?_, hvalue⟩
        · simp [Cell.followed, followed, hq, hqa]
        · rw [read_partlyMoved_of_ne hqa, hother]
          rfl
        · simp only [Cell.followed, hback, Option.map_some, hstays]

/-! ## New cells -/

def appended (s : Store β) (a : ℕ) (value : β) : Store β :=
  Function.update s a
    { s a with cells := (s a).cells ++ [{ value, twin := none }] }

theorem read_appended_of_ne {s : Store β} {a : ℕ} {value : β} {p : CellPlace}
    (hne : p ≠ ⟨a, (s a).block, (s a).cells.length⟩) :
    read (appended s a value) p = read s p := by
  unfold read appended
  by_cases ha : p.array = a
  · rw [ha, Function.update_self]
    dsimp only
    by_cases hblock : (s a).block = p.block
    · rw [if_pos hblock, if_pos hblock]
      have hindex : p.index ≠ (s a).cells.length := by
        intro hindex
        apply hne
        cases p with
        | mk array block index =>
            dsimp only at ha hblock hindex
            rw [ha, hblock, hindex]
      rcases Nat.lt_or_gt_of_ne hindex with hlt | hgt
      · exact List.getElem?_append_left hlt
      · rw [List.getElem?_eq_none (by simp; omega),
          List.getElem?_eq_none (by omega)]
    · rw [if_neg hblock, if_neg hblock]
  · rw [Function.update_of_ne ha]

theorem read_appended_self (s : Store β) (a : ℕ) (value : β) :
    read (appended s a value) ⟨a, (s a).block, (s a).cells.length⟩ =
      some { value, twin := none } := by
  simp [read, appended]

theorem read_length (s : Store β) (a : ℕ) :
    read s ⟨a, (s a).block, (s a).cells.length⟩ = none := by
  simp [read]

theorem Paired.appended {s : Store β} {loose : List CellPlace}
    (hpaired : Paired s loose) {a : ℕ} (value : β)
    (hroom : (s a).cells.length < (s a).capacity) :
    Paired (TwinArrays.appended s a value)
      (⟨a, (s a).block, (s a).cells.length⟩ :: loose) := by
  constructor
  case bounded =>
    intro b
    unfold TwinArrays.appended
    by_cases hb : b = a
    · subst b
      simp
      omega
    · rw [Function.update_of_ne hb]
      exact hpaired.bounded b
  case unset =>
    intro p hp cell hcell
    rcases List.mem_cons.mp hp with rfl | hp
    · rw [read_appended_self, Option.some.injEq] at hcell
      rw [← hcell]
    · by_cases hnew : p = ⟨a, (s a).block, (s a).cells.length⟩
      · subst hnew
        rw [read_appended_self, Option.some.injEq] at hcell
        rw [← hcell]
      · rw [read_appended_of_ne hnew] at hcell
        exact hpaired.unset p hp cell hcell
  case twin =>
    intro p cell hcell hp
    rw [List.mem_cons, not_or] at hp
    rw [read_appended_of_ne hp.1] at hcell
    obtain ⟨q, other, hq, hqp, hqloose, hother, hrest⟩ :=
      hpaired.twin p cell hcell hp.2
    have hold : q ≠ ⟨a, (s a).block, (s a).cells.length⟩ := by
      rintro rfl
      rw [read_length] at hother
      contradiction
    refine ⟨q, other, hq, hqp, ?_, ?_, hrest⟩
    · rw [List.mem_cons, not_or]
      exact ⟨hold, hqloose⟩
    · rw [read_appended_of_ne hold]
      exact hother

/-- What a store has become by new values at the end of some arrays. -/
structure Extends (s t : Store β) (added : ℕ → List β) : Prop where
  values : ∀ b, (t b).values = (s b).values ++ added b
  capacity : ∀ b, (s b).capacity ≤ (t b).capacity

theorem Extends.refl (s : Store β) : Extends s s fun _ => [] where
  values := by simp
  capacity := by simp

theorem Extends.trans {s t u : Store β} {added more : ℕ → List β}
    (hst : Extends s t added) (htu : Extends t u more) :
    Extends s u fun b => added b ++ more b where
  values := by
    intro b
    rw [htu.values, hst.values, List.append_assoc]
  capacity := fun b => (hst.capacity b).trans (htu.capacity b)

theorem extends_appended (s : Store β) (a : ℕ) (value : β) :
    Extends s (appended s a value) fun b => if b = a then [value] else [] := by
  constructor
  · intro b
    unfold appended
    by_cases hb : b = a
    · subst b
      simp [Cells.values]
    · simp [hb]
  · intro b
    unfold appended
    by_cases hb : b = a
    · subst b
      simp
    · simp [hb]

theorem append_eq {s : Store β} {a : ℕ} (value : β)
    (hroom : (s a).cells.length < (s a).capacity) :
    append s a value = some (appended s a value,
      ⟨a, (s a).block, (s a).cells.length⟩) := by
  rw [append, if_pos hroom]
  rfl

/-- A new cell goes to the end of its array, which may have moved. -/
theorem Paired.push {s : Store β} {loose : List CellPlace}
    (hpaired : Paired s loose) {a : ℕ} (value : β)
    (hloose : ∀ p ∈ loose, p.array ≠ a) (hcapacity : 0 < (s a).capacity) :
    ∃ t p, TwinArrays.push s a value = some (t, p) ∧ p.array = a ∧
      read t p = some { value, twin := none } ∧ Paired t (p :: loose) ∧
      (Extends s t fun b => if b = a then [value] else []) ∧
      ∀ q ∈ loose, ∀ cell, read s q = some cell → cell.twin = none →
        read t q = some cell := by
  unfold TwinArrays.push
  by_cases hfull : (s a).capacity ≤ (s a).cells.length
  · have hlength := (partlyMoved_cells s a (s a).cells.length a).1
    have hsize := partlyMoved_capacity s a (s a).cells.length a
    rw [if_pos rfl] at hsize
    have hroom : (TwinArrays.partlyMoved s a (s a).cells.length a).cells.length
        < (TwinArrays.partlyMoved s a (s a).cells.length a).capacity := by
      have := hpaired.bounded a
      omega
    rw [if_pos hfull, hpaired.relocate_eq hloose]
    dsimp only [Option.bind_some]
    rw [append_eq value hroom]
    refine ⟨_, _, rfl, rfl, read_appended_self _ _ _,
      (hpaired.partlyMoved hloose).appended value hroom, ?_, ?_⟩
    · have hmoved : Extends s
          (TwinArrays.partlyMoved s a (s a).cells.length) fun _ => [] := by
        constructor
        · intro b
          rw [(partlyMoved_cells s a _ b).2, List.append_nil]
        · intro b
          rw [partlyMoved_capacity]
          split
          case isTrue h =>
            subst h
            omega
          case isFalse => exact le_rfl
      simpa using hmoved.trans (extends_appended _ a value)
    · intro q hq cell hcell htwin
      have hqa := hloose q hq
      rw [read_appended_of_ne (fun h => hqa (by rw [h])),
        read_partlyMoved_of_ne hqa, hcell]
      cases cell with
      | mk value' twin =>
          dsimp only at htwin
          subst htwin
          rfl
  · rw [if_neg hfull, append_eq value (by omega)]
    refine ⟨_, _, rfl, rfl, read_appended_self _ _ _,
      hpaired.appended value (by omega), extends_appended s a value, ?_⟩
    intro q hq cell hcell _
    rw [read_appended_of_ne fun h => hloose q hq (by rw [h])]
    exact hcell

theorem setTwin_eq {s : Store β} {p twin : CellPlace} {cell : Cell β}
    (hp : read s p = some cell) :
    setTwin s p twin = some (write s p { cell with twin := some twin }) := by
  rw [setTwin, hp]
  rfl

theorem extends_write_twin {s : Store β} {p : CellPlace} {cell : Cell β}
    (hp : read s p = some cell) (twin : Option CellPlace) :
    Extends s (write s p { cell with twin }) fun _ => [] := by
  constructor
  · intro b
    rw [write_twin_values hp, List.append_nil]
  · intro b
    rw [write_capacity]

/-- Two loose cells in two arrays become twins. -/
theorem Paired.link {s : Store β} {p q : CellPlace} {value : β}
    (hpaired : Paired s [q, p]) (hne : q.array ≠ p.array)
    (hp : read s p = some { value, twin := none })
    (hq : read s q = some { value, twin := none }) :
    ∃ t, (setTwin s p q).bind (fun s => setTwin s q p) = some t ∧
      Paired t [] ∧ Extends s t fun _ => [] := by
  have hqp : q ≠ p := fun h => hne (by rw [h])
  have hq' : read (write s p { value, twin := some q }) q =
      some { value, twin := none } := by
    rw [read_write_of_ne hp _ hqp]
    exact hq
  have hfirst : setTwin s p q = some (write s p { value, twin := some q }) :=
    setTwin_eq hp
  have hsecond : setTwin (write s p { value, twin := some q }) q p =
      some (write (write s p { value, twin := some q }) q
        { value, twin := some p }) := setTwin_eq hq'
  have hreadp : read (write (write s p { value, twin := some q }) q
      { value, twin := some p }) p = some { value, twin := some q } := by
    rw [read_write_of_ne hq' _ hqp.symm]
    exact read_write_self hp _
  have hreadq : read (write (write s p { value, twin := some q }) q
      { value, twin := some p }) q = some { value, twin := some p } :=
    read_write_self hq' _
  have hreadr : ∀ r, r ≠ p → r ≠ q →
      read (write (write s p { value, twin := some q }) q
        { value, twin := some p }) r = read s r := by
    intro r hrp hrq
    rw [read_write_of_ne hq' _ hrq, read_write_of_ne hp _ hrp]
  refine ⟨_, by rw [hfirst, Option.bind_some, hsecond], ?_, ?_⟩
  · constructor
    case bounded =>
      intro b
      simpa using hpaired.bounded b
    case unset =>
      intro r hr
      exact absurd hr List.not_mem_nil
    case twin =>
      intro r cell hr _
      by_cases hrp : r = p
      · subst hrp
        rw [hreadp, Option.some.injEq] at hr
        subst hr
        exact ⟨q, _, rfl, hne, List.not_mem_nil, hreadq, rfl, rfl⟩
      by_cases hrq : r = q
      · subst hrq
        rw [hreadq, Option.some.injEq] at hr
        subst hr
        exact ⟨p, _, rfl, hne.symm, List.not_mem_nil, hreadp, rfl, rfl⟩
      rw [hreadr r hrp hrq] at hr
      obtain ⟨target, other, htwin, harray, hloose, hother, hback, hvalue⟩ :=
        hpaired.twin r cell hr (by simp [hrp, hrq])
      simp only [List.mem_cons, List.not_mem_nil, or_false, not_or] at hloose
      refine ⟨target, other, htwin, harray, List.not_mem_nil, ?_, hback,
        hvalue⟩
      rw [hreadr target hloose.2 hloose.1]
      exact hother
  · exact (extends_write_twin hp (some q)).trans
      (extends_write_twin hq' (some p))

/-- A new pair of twins, at the ends of two arrays. -/
theorem Paired.pushPair {s : Store β} (hpaired : Paired s []) {a b : ℕ}
    (value : β) (hne : a ≠ b) (ha : 0 < (s a).capacity)
    (hb : 0 < (s b).capacity) :
    ∃ t, TwinArrays.pushPair s a b value = some t ∧ Paired t [] ∧
      Extends s t fun c => if c = a ∨ c = b then [value] else [] := by
  obtain ⟨t, p, hpush, hpa, hp, hpairedt, hextt, -⟩ :=
    hpaired.push value (fun p hp => absurd hp List.not_mem_nil) ha
  have hloose : ∀ r ∈ [p], r.array ≠ b := by
    intro r hr
    rw [List.mem_singleton.mp hr, hpa]
    exact hne
  have hbt : 0 < (t b).capacity := by
    have := hextt.capacity b
    omega
  obtain ⟨u, q, hpush', hqb, hq, hpairedu, hextu, hkeep⟩ :=
    hpairedt.push value hloose hbt
  have hpu : read u p = some { value, twin := none } :=
    hkeep p (List.mem_singleton_self p) _ hp rfl
  have hqp : q.array ≠ p.array := by
    rw [hqb, hpa]
    exact hne.symm
  obtain ⟨final, hlink, hpairedf, hextf⟩ := hpairedu.link hqp hpu hq
  refine ⟨final, ?_, hpairedf, ?_⟩
  · unfold TwinArrays.pushPair
    rw [hpush]
    dsimp only [Option.bind_some]
    rw [hpush']
    exact hlink
  · have hall := (hextt.trans hextu).trans hextf
    have hadded : (fun c => ((if c = a then [value] else []) ++
          if c = b then [value] else []) ++ ([] : List β)) =
        fun c => if c = a ∨ c = b then [value] else [] := by
      funext c
      by_cases hca : c = a
      · subst c
        simp [hne]
      · simp [hca]
    rw [hadded] at hall
    exact hall

/-! ## Changed pairs -/

/-- The store after both cells of a pair have been given a value. -/
structure Changed (s t : Store β) (p q : CellPlace) (value : β) : Prop where
  shape : ∀ a, (t a).block = (s a).block ∧ (t a).capacity = (s a).capacity
  values : ∀ a, (t a).values =
    if a = p.array then (s a).values.set p.index value
    else if a = q.array then (s a).values.set q.index value
    else (s a).values

theorem Paired.setPair {s : Store β} (hpaired : Paired s []) {p : CellPlace}
    {cell : Cell β} (hp : read s p = some cell) (f : β → β) :
    ∃ t q other, TwinArrays.setPair s p f = some t ∧ Paired t [] ∧
      cell.twin = some q ∧ q.array ≠ p.array ∧
      read s q = some other ∧ other.value = cell.value ∧
      Changed s t p q (f cell.value) := by
  obtain ⟨q, other, hq, hqp, -, hother, hback, hvalue⟩ :=
    hpaired.twin p cell hp List.not_mem_nil
  obtain ⟨value, twin⟩ := cell
  dsimp only at hq hvalue
  subst hq
  have hne : q ≠ p := fun h => hqp (by rw [h])
  have hfirst : setValue s p f =
      some (write s p { value := f value, twin := some q }) := by
    rw [setValue, hp]
    rfl
  have hreadp := read_write_self hp { value := f value, twin := some q }
  have hother' : read (write s p { value := f value, twin := some q }) q =
      some other := by
    rw [read_write_of_ne hp _ hne]
    exact hother
  have hsecond : setValue (write s p { value := f value, twin := some q }) q f =
      some (write (write s p { value := f value, twin := some q }) q
        { other with value := f value }) := by
    rw [setValue, hother', hvalue.symm]
    rfl
  have hfinalp : read (write (write s p { value := f value, twin := some q }) q
      { other with value := f value }) p =
        some { value := f value, twin := some q } := by
    rw [read_write_of_ne hother' _ hne.symm]
    exact hreadp
  have hfinalq := read_write_self hother'
    { other with value := f value }
  have hfinalr : ∀ r, r ≠ p → r ≠ q →
      read (write (write s p { value := f value, twin := some q }) q
        { other with value := f value }) r = read s r := by
    intro r hrp hrq
    rw [read_write_of_ne hother' _ hrq, read_write_of_ne hp _ hrp]
  refine ⟨write (write s p { value := f value, twin := some q }) q
    { other with value := f value }, q, other, ?_, ?_, rfl, hqp, hother,
    hvalue, ?_⟩
  · unfold TwinArrays.setPair
    rw [hfirst, Option.bind_some, hreadp]
    exact hsecond
  · constructor
    case bounded =>
      intro b
      simpa using hpaired.bounded b
    case unset =>
      intro r hr
      exact absurd hr List.not_mem_nil
    case twin =>
      intro r target hr _
      by_cases hrp : r = p
      · subst hrp
        rw [hfinalp, Option.some.injEq] at hr
        subst hr
        exact ⟨q, _, rfl, hqp, List.not_mem_nil, hfinalq, hback, rfl⟩
      by_cases hrq : r = q
      · subst hrq
        rw [hfinalq, Option.some.injEq] at hr
        subst hr
        exact ⟨p, _, hback, hqp.symm, List.not_mem_nil, hfinalp, rfl, rfl⟩
      rw [hfinalr r hrp hrq] at hr
      obtain ⟨twin, cell', htwin, harray, -, hcell', hreturn, hsame⟩ :=
        hpaired.twin r target hr List.not_mem_nil
      have htp : twin ≠ p := by
        rintro rfl
        rw [hp, Option.some.injEq] at hcell'
        subst hcell'
        exact hrq (Option.some.inj hreturn).symm
      have htq : twin ≠ q := by
        rintro rfl
        rw [hother, Option.some.injEq] at hcell'
        subst hcell'
        rw [hback, Option.some.injEq] at hreturn
        exact hrp hreturn.symm
      refine ⟨twin, cell', htwin, harray, List.not_mem_nil, ?_, hreturn, hsame⟩
      rw [hfinalr twin htp htq]
      exact hcell'
  · constructor
    · intro a
      simp
    · intro a
      rw [write_values, write_values]
      by_cases hap : a = p.array
      · subst a
        simp [Ne.symm hqp]
      · simp [hap]

end TwinArrays
