import RkaiqToolServer.FlowQueue
import RkaiqToolServer.SlotTable
import Mathlib.Data.List.Destutter
import Mathlib.Data.List.Sort

/-!
# The slots of a flow

`InstallSlotMap` sets up input and output slots under the indices of a slot
map.  `SendInput` and `SetOutput` let an index pass by comparing it with the
number of slots installed, which is right only when the slots are those from 0
on, and a second call with slots of a kind makes their vector grow, which
moves the slots of the first.  So the slots are usable as long as one call
alone installs those of a kind, from 0 on and without a hole.
-/

namespace RkaiqToolServer

open StepRun

/-! ## Slot maps -/

inductive FlowModel
  | none
  | asyncCommon
  | asyncAtomic
  | sync
  deriving DecidableEq

inductive HoldInputMode
  | none
  | holdInput
  | inheritFormInput
  deriving DecidableEq

/-- `modeWhenFull` is `none` for the mode of that name. -/
structure SlotMap where
  inputSlots : List ℤ
  threadModel : FlowModel
  modeWhenFull : Option InputMode
  fetchBlock : List Bool
  inputMaxcachenum : List ℤ
  outputSlots : List ℤ
  holdInput : List HoldInputMode

/-- What `Input::Init` sets, the behaviours by what they are chosen from. -/
structure InputConfig where
  threadModel : FlowModel
  /-- `none` stands for what is read behind the list of the map. -/
  maxCacheNum : Option ℤ
  modeWhenFull : Option InputMode
  fetchBlock : Bool
  coroutine : Option ℕ
  deriving DecidableEq

structure OutputConfig where
  /-- The outputs are queued. -/
  toQueue : Bool
  holdInput : HoldInputMode
  deriving DecidableEq

/-- `i` is the place of the slot among the sorted ones. -/
def inputConfig (map : SlotMap) (coroutine i : ℕ) : InputConfig where
  threadModel := map.threadModel
  maxCacheNum :=
    if map.threadModel = .asyncCommon then map.inputMaxcachenum[i]? else some 0
  modeWhenFull := map.modeWhenFull
  fetchBlock :=
    if map.threadModel = .asyncCommon then map.fetchBlock.getD i true else true
  coroutine := if map.threadModel = .sync then some coroutine else none

def outputConfig (map : SlotMap) (i : ℕ) : OutputConfig where
  toQueue := map.threadModel == .asyncCommon
  holdInput := map.holdInput.getD i .none

def sortSlots (slots : List ℤ) : List ℤ := slots.insertionSort (· ≤ ·)

/-- Whether `unique` leaves the sorted slots as they are. -/
def checkSlots (slots : List ℤ) : Bool :=
  slots.isEmpty ||
    ((sortSlots slots).destutter (· ≠ ·)).length == (sortSlots slots).length

def slotEntries {α : Type} (config : ℕ → α) (slots : List ℤ) :
    List (ℤ × α) :=
  slots.zipIdx.map fun slot => (slot.1, config slot.2)

/-! ## The flow -/

structure FlowSlots where
  inputs : SlotTable InputConfig
  outputs : SlotTable OutputConfig
  coroutines : ℕ

/-- A slot map, and what memory reads as that nothing was written to. -/
structure InstallCall where
  map : SlotMap
  inputJunk : ℤ → Bool
  outputJunk : ℤ → Bool

inductive InstallResult
  | installed (flow : FlowSlots)
  | refused
  /-- By an assertion or a null pointer. -/
  | aborted

inductive SlotAccess
  | refused
  /-- The flow is disabled. -/
  | unused
  | indexed (place : ℤ)
  deriving DecidableEq

structure OutputAccess where
  callsBack : Bool
  access : SlotAccess
  deriving DecidableEq

namespace FlowSlots

def new : FlowSlots := ⟨.new, .new, 0⟩

variable (flow : FlowSlots)

def installTables (asserts : Bool) (call : InstallCall)
    (inSlots outSlots : List ℤ) : InstallResult :=
  match flow.inputs.install asserts call.inputJunk
      (slotEntries (inputConfig call.map flow.coroutines) inSlots) with
  | none => .aborted
  | some inputs =>
      match flow.outputs.install asserts call.outputJunk
          (slotEntries (outputConfig call.map) outSlots) with
      | none => .aborted
      | some outputs => .installed ⟨inputs, outputs, flow.coroutines + 1⟩

def installSlotMap (asserts : Bool) (call : InstallCall) : InstallResult :=
  let inSlots := sortSlots call.map.inputSlots
  let outSlots := sortSlots call.map.outputSlots
  if 1 < call.map.inputSlots.length ∧ call.map.threadModel = .sync then
    .refused
  else if checkSlots call.map.inputSlots = false then .refused
  else
    match flow.inputs.checkFree call.inputJunk inSlots with
    | none => .aborted
    | some false => .refused
    | some true =>
        if checkSlots call.map.outputSlots = false then .refused
        else
          match flow.outputs.checkFree call.outputJunk outSlots with
          | none => .aborted
          | some false => .refused
          | some true => flow.installTables asserts call inSlots outSlots

def sendInput (enable : Bool) (inSlotIndex : ℤ) : SlotAccess :=
  if flow.inputs.accepts inSlotIndex = false then .refused
  else if enable then .indexed inSlotIndex
  else .unused

/-- `callback` is whether `out_callback_` is set and there is an output. -/
def setOutput (enable callback : Bool) (outSlotIndex : ℤ) : OutputAccess :=
  if flow.outputs.accepts outSlotIndex = false then ⟨false, .refused⟩
  else ⟨callback, if enable then .indexed outSlotIndex else .unused⟩

end FlowSlots

/-- A call that does not succeed leaves the slots as they are. -/
def installStep (asserts : Bool) (flow : FlowSlots) (call : InstallCall) :
    FlowSlots :=
  match flow.installSlotMap asserts call with
  | .installed next => next
  | _ => flow

def InstallSucceeds (asserts : Bool) (flow : FlowSlots) (call : InstallCall) :
    Prop :=
  flow.installSlotMap asserts call =
    .installed (installStep asserts flow call)

/-! ## Usable slots -/

structure SlotsUsable (flow : FlowSlots) : Prop where
  input_iff : ∀ enable i, flow.sendInput enable i ≠ .refused ↔
    i ∈ flow.inputs.installed.map Prod.fst
  output_iff : ∀ enable callback i,
    (flow.setOutput enable callback i).access ≠ .refused ↔
      i ∈ flow.outputs.installed.map Prod.fst
  input_inside : ∀ enable i place, flow.sendInput enable i = .indexed place →
    0 ≤ place ∧ place < flow.inputs.cells.length
  output_inside : ∀ enable callback i place,
    (flow.setOutput enable callback i).access = .indexed place →
      0 ≤ place ∧ place < flow.outputs.cells.length
  input_kept : ∀ entry ∈ flow.inputs.installed,
    flow.inputs.cells[entry.1.toNat]? = some (.inited entry.2)
  output_kept : ∀ entry ∈ flow.outputs.installed,
    flow.outputs.cells[entry.1.toNat]? = some (.inited entry.2)

theorem slotsUsable_iff {flow : FlowSlots} :
    SlotsUsable flow ↔ flow.inputs.Usable ∧ flow.outputs.Usable := by
  constructor
  · intro husable
    refine ⟨⟨fun i => ?_, fun i haccepts => ?_, husable.input_kept⟩,
      ⟨fun i => ?_, fun i haccepts => ?_, husable.output_kept⟩⟩
    · have haccess := husable.input_iff true i
      rw [← haccess, FlowSlots.sendInput]
      cases flow.inputs.accepts i <;> simp
    · apply husable.input_inside true i
      simp [FlowSlots.sendInput, haccepts]
    · have haccess := husable.output_iff true true i
      rw [← haccess, FlowSlots.setOutput]
      cases flow.outputs.accepts i <;> simp
    · apply husable.output_inside true true i
      simp [FlowSlots.setOutput, haccepts]
  · rintro ⟨hinputs, houtputs⟩
    refine ⟨fun enable i => ?_, fun enable callback i => ?_,
      fun enable i place hindexed => ?_,
      fun enable callback i place hindexed => ?_,
      hinputs.kept, houtputs.kept⟩
    · rw [← hinputs.accepts_iff, FlowSlots.sendInput]
      cases flow.inputs.accepts i <;> cases enable <;> simp
    · rw [← houtputs.accepts_iff, FlowSlots.setOutput]
      cases flow.outputs.accepts i <;> cases enable <;> simp
    · apply hinputs.inside
      rw [FlowSlots.sendInput] at hindexed
      split_ifs at hindexed with hrefused
      rw [Bool.not_eq_false] at hrefused
      cases hindexed
      exact hrefused
    · apply houtputs.inside
      rw [FlowSlots.setOutput] at hindexed
      split_ifs at hindexed with hrefused
      rw [Bool.not_eq_false] at hrefused
      cases hindexed
      exact hrefused

/-! ## Sorted slots -/

theorem slotEntries_slots {α : Type} (config : ℕ → α) (slots : List ℤ) :
    (slotEntries config slots).map Prod.fst = slots := by
  rw [slotEntries, List.map_map]
  exact List.zipIdx_map_fst 0 slots

theorem slotEntries_eq_nil_iff {α : Type} {config : ℕ → α}
    {slots : List ℤ} : slotEntries config slots = [] ↔ slots = [] := by
  rw [← List.map_eq_nil_iff (f := Prod.fst), slotEntries_slots]

theorem sortSlots_perm (slots : List ℤ) : (sortSlots slots).Perm slots :=
  List.perm_insertionSort (· ≤ ·) slots

theorem sortSlots_eq_nil_iff {slots : List ℤ} :
    sortSlots slots = [] ↔ slots = [] := by
  constructor
  · intro hnil
    exact List.perm_nil.mp (hnil ▸ (sortSlots_perm slots).symm)
  · rintro rfl
    rfl

theorem sortSlots_sorted (slots : List ℤ) :
    (sortSlots slots).Pairwise (· ≤ ·) :=
  List.pairwise_insertionSort (· ≤ ·) slots

theorem sortSlots_nodup {slots : List ℤ}
    (hcheck : checkSlots slots = true) : (sortSlots slots).Nodup := by
  rw [checkSlots, Bool.or_eq_true, List.isEmpty_iff, beq_iff_eq] at hcheck
  rcases hcheck with rfl | hlength
  · exact List.nodup_nil
  · have hsame := (List.destutter_sublist (R := (· ≠ ·))
      (sortSlots slots)).eq_of_length hlength
    have hchain := (List.destutter_eq_self_iff (· ≠ ·) _).mp hsame
    have hle := (sortSlots_sorted slots).isChain
    have hlt : (sortSlots slots).IsChain (· < ·) := by
      rw [List.isChain_iff_getElem] at hchain hle ⊢
      exact fun i hi => lt_of_le_of_ne (hle i hi) (hchain i hi)
    exact (List.isChain_iff_pairwise.mp hlt).imp fun h => h.ne

theorem fromZero_sortSlots_iff {slots : List ℤ} :
    SlotTable.FromZero (sortSlots slots) ↔ SlotTable.FromZero slots := by
  have hperm := sortSlots_perm slots
  simp only [SlotTable.FromZero, hperm.mem_iff, hperm.length_eq]

/-! ## One call -/

/-- All that a call that succeeds has gone through. -/
structure CallInstalls (asserts : Bool) (flow : FlowSlots)
    (call : InstallCall) (next : FlowSlots) : Prop where
  inputs_checked : checkSlots call.map.inputSlots = true
  outputs_checked : checkSlots call.map.outputSlots = true
  inputs_free : flow.inputs.checkFree call.inputJunk
    (sortSlots call.map.inputSlots) = some true
  outputs_free : flow.outputs.checkFree call.outputJunk
    (sortSlots call.map.outputSlots) = some true
  inputs_installed : flow.inputs.install asserts call.inputJunk
    (slotEntries (inputConfig call.map flow.coroutines)
      (sortSlots call.map.inputSlots)) = some next.inputs
  outputs_installed : flow.outputs.install asserts call.outputJunk
    (slotEntries (outputConfig call.map)
      (sortSlots call.map.outputSlots)) = some next.outputs

theorem callInstalls_of_installed {asserts : Bool} {flow next : FlowSlots}
    {call : InstallCall}
    (hinstalled : flow.installSlotMap asserts call = .installed next) :
    CallInstalls asserts flow call next := by
  rw [FlowSlots.installSlotMap] at hinstalled
  split at hinstalled
  case isTrue => cases hinstalled
  case isFalse =>
  split at hinstalled
  case isTrue => cases hinstalled
  case isFalse hinputs =>
  split at hinstalled
  case h_1 => cases hinstalled
  case h_2 => cases hinstalled
  case h_3 hinputsFree =>
  split at hinstalled
  case isTrue => cases hinstalled
  case isFalse houtputs =>
  split at hinstalled
  case h_1 => cases hinstalled
  case h_2 => cases hinstalled
  case h_3 houtputsFree =>
  rw [Bool.not_eq_false] at hinputs houtputs
  rw [FlowSlots.installTables] at hinstalled
  split at hinstalled
  case h_1 => cases hinstalled
  case h_2 hinputsTable =>
  split at hinstalled
  case h_1 => cases hinstalled
  case h_2 houtputsTable =>
  cases hinstalled
  exact ⟨hinputs, houtputs, hinputsFree, houtputsFree, hinputsTable,
    houtputsTable⟩

/-- No slots, or the first of their kind and those from 0 on. -/
def InstallsOnce {α : Type} (table : SlotTable α) (slots : List ℤ) : Prop :=
  slots = [] ∨ table.installed = [] ∧ SlotTable.FromZero slots

theorem tight_of_installsOnce {α : Type} {table next : SlotTable α}
    {asserts : Bool} {junk : ℤ → Bool} {slots : List ℤ} {config : ℕ → α}
    (htight : table.Tight) (honce : InstallsOnce table slots)
    (hcheck : checkSlots slots = true)
    (hinstall : table.install asserts junk
      (slotEntries config (sortSlots slots)) = some next) :
    next.Tight := by
  rcases honce with rfl | ⟨hempty, hzero⟩
  · exact Option.some.inj hinstall ▸ htight
  · apply htight.install_first hempty _ _ _ hinstall
    · rw [slotEntries_slots]
      exact sortSlots_sorted slots
    · rw [slotEntries_slots]
      exact sortSlots_nodup hcheck
    · rw [slotEntries_slots, fromZero_sortSlots_iff]
      exact hzero

theorem installsOnce_of_usable {α : Type} {table next : SlotTable α}
    {asserts : Bool} {junk : ℤ → Bool} {slots : List ℤ} {config : ℕ → α}
    (htight : table.Tight)
    (hfree : table.checkFree junk (sortSlots slots) = some true)
    (hinstall : table.install asserts junk
      (slotEntries config (sortSlots slots)) = some next)
    (husable : next.Usable) : InstallsOnce table slots := by
  by_cases hnil : slots = []
  · exact .inl hnil
  · have hne : slotEntries config (sortSlots slots) ≠ [] := by
      rw [ne_eq, slotEntries_eq_nil_iff, sortSlots_eq_nil_iff]
      exact hnil
    have hfirst := htight.first_of_usable hne
      (by rw [slotEntries_slots]; exact hfree) hinstall husable
    rw [slotEntries_slots, fromZero_sortSlots_iff] at hfirst
    exact .inr hfirst

/-! ## All runs -/

/-- A call that succeeds installs slots of a kind only where no call before it
did, and then those from 0 on. -/
def InstallsFirst (asserts : Bool) (flow : FlowSlots) (call : InstallCall) :
    Prop :=
  InstallSucceeds asserts flow call →
    InstallsOnce flow.inputs call.map.inputSlots ∧
      InstallsOnce flow.outputs call.map.outputSlots

structure FlowTight (flow : FlowSlots) : Prop where
  inputs : flow.inputs.Tight
  outputs : flow.outputs.Tight

theorem installStep_cases (asserts : Bool) (flow : FlowSlots)
    (call : InstallCall) :
    InstallSucceeds asserts flow call ∨ installStep asserts flow call = flow := by
  rw [InstallSucceeds, installStep]
  cases flow.installSlotMap asserts call with
  | installed next => exact .inl rfl
  | refused => exact .inr rfl
  | aborted => exact .inr rfl

theorem FlowTight.step {asserts : Bool} {flow : FlowSlots}
    {call : InstallCall} (htight : FlowTight flow)
    (hfirst : InstallsFirst asserts flow call) :
    FlowTight (installStep asserts flow call) := by
  rcases installStep_cases asserts flow call with hsucceeds | hsame
  · obtain ⟨hinputs, houtputs⟩ := hfirst hsucceeds
    have hcall := callInstalls_of_installed hsucceeds
    exact ⟨tight_of_installsOnce htight.inputs hinputs
        hcall.inputs_checked hcall.inputs_installed,
      tight_of_installsOnce htight.outputs houtputs
        hcall.outputs_checked hcall.outputs_installed⟩
  · rw [hsame]
    exact htight

theorem FlowTight.installsFirst {asserts : Bool} {flow : FlowSlots}
    {call : InstallCall} (htight : FlowTight flow)
    (husable : SlotsUsable (installStep asserts flow call)) :
    InstallsFirst asserts flow call := by
  intro hsucceeds
  have hcall := callInstalls_of_installed hsucceeds
  rw [slotsUsable_iff] at husable
  exact ⟨installsOnce_of_usable htight.inputs hcall.inputs_free
      hcall.inputs_installed husable.1,
    installsOnce_of_usable htight.outputs hcall.outputs_free
      hcall.outputs_installed husable.2⟩

theorem slots_usable_iff (asserts : Bool) (calls : List InstallCall) :
    States (installStep asserts) SlotsUsable .new calls ↔
      Steps (installStep asserts) (InstallsFirst asserts) .new calls :=
  states_iff_steps FlowTight
    (fun _ htight => slotsUsable_iff.mpr
      ⟨htight.inputs.usable, htight.outputs.usable⟩)
    (fun _ _ htight hfirst => htight.step hfirst)
    (fun _ _ htight husable => htight.installsFirst husable)
    ⟨SlotTable.tight_new, SlotTable.tight_new⟩

/-- One synchronous input under the index 1. -/
def secondSlotOnly : InstallCall where
  map :=
    { inputSlots := [1]
      threadModel := .sync
      modeWhenFull := some .dropFront
      fetchBlock := []
      inputMaxcachenum := []
      outputSlots := []
      holdInput := [] }
  inputJunk := fun _ => false
  outputJunk := fun _ => false

theorem lone_second_slot_unusable :
    ¬ ∀ (asserts : Bool) (calls : List InstallCall),
      Steps (installStep asserts) (InstallSucceeds asserts) .new calls →
        States (installStep asserts) SlotsUsable .new calls := by
  intro husable
  have hcall := husable true [secondSlotOnly] ⟨rfl, trivial⟩
  have hzero := (hcall.last.input_iff true 0).mp (by decide)
  exact absurd hzero (by decide)

end RkaiqToolServer
