import RkaiqToolServer.FlowSlots

/-!
# The down flows of a source

The thread that reads the stream of a source waits at its start until the
source has a consumer.  What it looks at is `down_flow_num`, which is counted
apart from the flows stored in the slots: the two agree as long as a flow is
added to a slot that does not hold it and removed from slots that all hold it.
-/

namespace RkaiqToolServer

open StepRun

/-! ## The flows of a slot -/

/-- A `FlowMap`, each of its flows with `index_of_in`. -/
structure DownSlot where
  valid : Bool
  flows : List (ℕ × ℤ)
  deriving DecidableEq

/-- The index of the first entry that names the flow. -/
def updateIndex (flow : ℕ) (index : ℤ) : List (ℕ × ℤ) → List (ℕ × ℤ)
  | [] => []
  | entry :: rest =>
      if entry.1 = flow then (entry.1, index) :: rest
      else entry :: updateIndex flow index rest

namespace DownSlot

variable (slot : DownSlot)

def holdsFlow (flow : ℕ) : Bool := (slot.flows.map Prod.fst).contains flow

def addFlow (flow : ℕ) (index : ℤ) : DownSlot :=
  if slot.holdsFlow flow then
    { slot with flows := updateIndex flow index slot.flows }
  else { slot with flows := slot.flows ++ [(flow, index)] }

def removeFlow (flow : ℕ) : DownSlot :=
  { slot with flows := slot.flows.filter fun entry => entry.1 != flow }

end DownSlot

/-! ## The source -/

inductive ReadThread
  | notStarted
  | waiting
  | running
  deriving DecidableEq

def ReadThread.notified : ReadThread → ReadThread
  | .waiting => .running
  | thread => thread

/-- Flows are told apart by their pointers.  `sourceStart` is whether there is
a `source_start_cond_mtx`; what is done under it is one step. -/
structure SourceFlow where
  self : ℕ
  outSlotNum : ℤ
  downflowmap : List DownSlot
  sourceStart : Bool
  downFlowNum : ℤ
  enable : Bool
  readThread : ReadThread
  deriving DecidableEq

/-- The slot map that `SetAsSource` installs. -/
def sourceSlotMap (outputSlots : List ℤ) : SlotMap where
  inputSlots := [0]
  threadModel := .sync
  modeWhenFull := some .dropFront
  fetchBlock := []
  inputMaxcachenum := []
  outputSlots := outputSlots
  holdInput := []

namespace SourceFlow

/-- A source over slots that were installed, before it has any down flow. -/
def ofSlots (self : ℕ) (slots : FlowSlots) (junk : ℤ → Bool) :
    SourceFlow where
  self := self
  outSlotNum := slots.outputs.slotNum
  downflowmap := (List.range slots.outputs.cells.length).map fun i =>
    ⟨slots.outputs.slotValid junk i, []⟩
  sourceStart := true
  downFlowNum := 0
  enable := true
  readThread := .notStarted

variable (flow : SourceFlow)

def edges : ℕ := (flow.downflowmap.map fun dm => dm.flows.length).sum

def complete : Bool :=
  decide (0 < flow.outSlotNum) &&
    decide ((flow.downflowmap.length : ℤ) = flow.outSlotNum)

def changeDownFlowNum (change : ℤ) : SourceFlow :=
  if flow.sourceStart then
    { flow with
      downFlowNum := flow.downFlowNum + change
      readThread := flow.readThread.notified }
  else flow

/-- What is written in front of the vector is not followed. -/
def storeFlow (down : ℕ) (out index : ℤ) : SourceFlow :=
  if out < 0 then flow
  else
    { flow with
      downflowmap :=
        flow.downflowmap.modify out.toNat fun dm => dm.addFlow down index }

def addDownFlow (down : ℕ) (out index : ℤ) : SourceFlow × Bool :=
  if flow.complete = false then (flow, false)
  else if (flow.downflowmap.length : ℤ) ≤ out then (flow, false)
  else if flow.self = down then (flow, false)
  else ((flow.storeFlow down out index).changeDownFlowNum 1, true)

def removeStored (down : ℕ) : SourceFlow :=
  { flow with
    downflowmap := flow.downflowmap.map fun dm =>
      if dm.valid then dm.removeFlow down else dm }

def removeDownFlow (down : ℕ) : SourceFlow :=
  if flow.complete = false then flow
  else
    (flow.downflowmap.filter DownSlot.valid).foldl
      (fun flow _ => flow.changeDownFlowNum (-1)) (flow.removeStored down)

/-- `ReadThreadRun` up to its loop. -/
def readThreadRun : SourceFlow :=
  match flow.readThread with
  | .notStarted =>
      { flow with
        readThread :=
          if flow.downFlowNum = 0 ∧ flow.enable = true then .waiting
          else .running }
  | _ => flow

end SourceFlow

inductive DownFlowInput
  | addDownFlow (down : ℕ) (out index : ℤ)
  | removeDownFlow (down : ℕ)
  | readThreadRun
  /-- The wait returns although nothing was notified. -/
  | wakeUp

def downFlowStep (flow : SourceFlow) : DownFlowInput → SourceFlow
  | .addDownFlow down out index => (flow.addDownFlow down out index).1
  | .removeDownFlow down => flow.removeDownFlow down
  | .readThreadRun => flow.readThreadRun
  | .wakeUp => { flow with readThread := flow.readThread.notified }

/-! ## What has to hold -/

structure EdgesCounted (flow : SourceFlow) : Prop where
  count : flow.downFlowNum = flow.edges
  waits : flow.readThread = .waiting → flow.edges = 0

/-- A thread that gets past its start does so with a consumer there. -/
def StartsWithConsumer (flow : SourceFlow) (input : DownFlowInput) : Prop :=
  flow.readThread ≠ .running →
    (downFlowStep flow input).readThread = .running →
      0 < (downFlowStep flow input).edges

/-- What `AddDownFlow` checks. -/
structure SourceFlow.AcceptsDown (flow : SourceFlow) (down : ℕ) (out : ℤ) :
    Prop where
  complete : flow.complete = true
  inside : out < flow.downflowmap.length
  other : flow.self ≠ down

/-- The slot is in the vector and does not hold the flow. -/
def SourceFlow.FreshFor (flow : SourceFlow) (down : ℕ) (out : ℤ) : Prop :=
  0 ≤ out ∧
    ∀ dm, flow.downflowmap[out.toNat]? = some dm → dm.holdsFlow down = false

def SourceFlow.StoredInAll (flow : SourceFlow) (down : ℕ) : Prop :=
  ∀ dm ∈ flow.downflowmap, dm.valid = true → dm.holdsFlow down = true

/-- A flow is added to a slot that does not hold it and removed from slots
that all hold it, and no wait returns by itself. -/
def ChangesEdges (flow : SourceFlow) : DownFlowInput → Prop
  | .addDownFlow down out _ =>
      flow.AcceptsDown down out → flow.FreshFor down out
  | .removeDownFlow down => flow.complete = true → flow.StoredInAll down
  | .readThreadRun => True
  | .wakeUp => flow.readThread ≠ .waiting

/-! ## Counting the edges of a slot -/

theorem updateIndex_names (flow : ℕ) (index : ℤ) (flows : List (ℕ × ℤ)) :
    (updateIndex flow index flows).map Prod.fst = flows.map Prod.fst := by
  induction flows with
  | nil => rfl
  | cons entry rest ih =>
      rw [updateIndex]
      split
      case isTrue hsame => rfl
      case isFalse hother =>
        rw [List.map_cons, List.map_cons, ih]

namespace DownSlot

variable {slot : DownSlot}

/-- No flow stands in the slot twice. -/
def Distinct (slot : DownSlot) : Prop := (slot.flows.map Prod.fst).Nodup

theorem holdsFlow_iff {flow : ℕ} :
    slot.holdsFlow flow = true ↔ flow ∈ slot.flows.map Prod.fst := by
  rw [holdsFlow, List.contains_iff_mem]

theorem addFlow_length (flow : ℕ) (index : ℤ) :
    (slot.addFlow flow index).flows.length =
      slot.flows.length + if slot.holdsFlow flow then 0 else 1 := by
  rw [addFlow]
  cases slot.holdsFlow flow with
  | true =>
      have hnames := congrArg List.length
        (updateIndex_names flow index slot.flows)
      simpa using hnames
  | false => simp

theorem Distinct.addFlow (hdistinct : slot.Distinct) (flow : ℕ) (index : ℤ) :
    (slot.addFlow flow index).Distinct := by
  rw [Distinct, DownSlot.addFlow]
  split
  case isTrue hholds =>
    rw [updateIndex_names]
    exact hdistinct
  case isFalse hfresh =>
    rw [holdsFlow_iff] at hfresh
    simpa using List.nodup_append.mpr
      ⟨hdistinct, List.nodup_singleton flow, by
        intro a ha b hb
        rw [List.mem_singleton] at hb
        subst hb
        exact fun heq => hfresh (heq ▸ ha)⟩

theorem removeFlow_names (flow : ℕ) :
    (slot.removeFlow flow).flows.map Prod.fst =
      (slot.flows.map Prod.fst).filter (· != flow) := by
  rw [removeFlow, List.filter_map]
  rfl

theorem Distinct.removeFlow (hdistinct : slot.Distinct) (flow : ℕ) :
    (slot.removeFlow flow).Distinct := by
  rw [Distinct, removeFlow_names]
  exact hdistinct.filter _

theorem Distinct.removeFlow_length (hdistinct : slot.Distinct) (flow : ℕ) :
    (slot.removeFlow flow).flows.length +
        (if slot.holdsFlow flow then 1 else 0) = slot.flows.length := by
  have hnames := congrArg List.length (slot.removeFlow_names flow)
  rw [← hdistinct.erase_eq_filter, List.length_map] at hnames
  rw [hnames]
  by_cases hholds : slot.holdsFlow flow = true
  · have hmem := holdsFlow_iff.mp hholds
    have hpos := List.length_pos_of_mem hmem
    rw [List.length_erase_of_mem hmem, if_pos hholds, List.length_map] at *
    omega
  · rw [if_neg hholds]
    rw [holdsFlow_iff] at hholds
    rw [List.erase_of_not_mem hholds, List.length_map, Nat.add_zero]

end DownSlot

/-! ## Counting the edges of the source -/

theorem sum_map_modify {α : Type} (weight : α → ℕ) (change : α → α) {a : α}
    (values : List α) (i : ℕ) (hget : values[i]? = some a) :
    ((values.modify i change).map weight).sum + weight a =
      (values.map weight).sum + weight (change a) := by
  induction values generalizing i with
  | nil => simp at hget
  | cons value rest ih =>
      cases i with
      | zero =>
          simp only [List.getElem?_cons_zero, Option.some.injEq] at hget
          subst hget
          simp only [List.modify_zero_cons, List.map_cons, List.sum_cons]
          omega
      | succ i =>
          rw [List.getElem?_cons_succ] at hget
          have hrest := ih i hget
          simp only [List.modify_succ_cons, List.map_cons, List.sum_cons]
          omega

namespace SourceFlow

variable {flow : SourceFlow}

theorem edges_storeFlow {down : ℕ} {out index : ℤ} {dm : DownSlot}
    (hout : 0 ≤ out) (hget : flow.downflowmap[out.toNat]? = some dm) :
    (flow.storeFlow down out index).edges =
      flow.edges + if dm.holdsFlow down then 0 else 1 := by
  have hsum := sum_map_modify (fun dm => dm.flows.length)
    (fun dm => dm.addFlow down index) flow.downflowmap out.toNat hget
  rw [DownSlot.addFlow_length] at hsum
  rw [storeFlow, if_neg (by omega), edges, edges]
  dsimp only
  omega

theorem edges_storeFlow_iff {down : ℕ} {out : ℤ} (index : ℤ)
    (haccepts : flow.AcceptsDown down out) :
    (flow.storeFlow down out index).edges = flow.edges + 1 ↔
      flow.FreshFor down out := by
  by_cases hout : 0 ≤ out
  · have hinside : out.toNat < flow.downflowmap.length := by
      have hlt := haccepts.inside
      omega
    have hget := List.getElem?_eq_getElem hinside
    rw [edges_storeFlow hout hget, FreshFor, hget]
    cases hholds : flow.downflowmap[out.toNat].holdsFlow down with
    | true => simp [hholds]
    | false => simp [hholds, hout]
  · rw [storeFlow, if_pos (by omega)]
    simp [FreshFor, hout]

/-- Each valid slot that holds the flow loses one edge. -/
theorem edges_removeStored (down : ℕ)
    (hdistinct : ∀ dm ∈ flow.downflowmap, dm.Distinct) :
    (flow.removeStored down).edges +
        (flow.downflowmap.filter DownSlot.valid).countP
          (fun dm => dm.holdsFlow down) = flow.edges := by
  rw [edges, edges, removeStored]
  dsimp only
  generalize flow.downflowmap = slots at hdistinct
  induction slots with
  | nil => rfl
  | cons dm rest ih =>
      have hrest := ih fun later hlater =>
        hdistinct later (List.mem_cons_of_mem dm hlater)
      have hlength :=
        (hdistinct dm List.mem_cons_self).removeFlow_length down
      simp only [List.map_cons, List.sum_cons]
      cases hvalid : dm.valid with
      | true =>
          rw [List.filter_cons_of_pos hvalid, List.countP_cons, if_pos rfl]
          omega
      | false =>
          rw [List.filter_cons_of_neg (by simp [hvalid])]
          simp only [Bool.false_eq_true, if_false]
          omega

theorem edges_removeStored_iff (down : ℕ)
    (hdistinct : ∀ dm ∈ flow.downflowmap, dm.Distinct) :
    (flow.removeStored down).edges +
        (flow.downflowmap.filter DownSlot.valid).length = flow.edges ↔
      flow.StoredInAll down := by
  have hedges := edges_removeStored down hdistinct
  have hall : (flow.downflowmap.filter DownSlot.valid).countP
        (fun dm => dm.holdsFlow down) =
        (flow.downflowmap.filter DownSlot.valid).length ↔
      flow.StoredInAll down := by
    rw [List.countP_eq_length, StoredInAll]
    simp only [List.mem_filter, and_imp]
  rw [← hall]
  omega

/-! ## One call -/

/-- What no call changes. -/
structure Ready (flow : SourceFlow) : Prop where
  sourceStart : flow.sourceStart = true
  enable : flow.enable = true
  distinct : ∀ dm ∈ flow.downflowmap, dm.Distinct

theorem notified_notified (thread : ReadThread) :
    thread.notified.notified = thread.notified := by
  cases thread <;> rfl

theorem notified_ne_waiting (thread : ReadThread) :
    thread.notified ≠ .waiting := by
  cases thread <;> decide

theorem addDownFlow_accepted {down : ℕ} {out : ℤ} (index : ℤ)
    (hready : flow.Ready) (haccepts : flow.AcceptsDown down out) :
    (flow.addDownFlow down out index).1 =
      { flow.storeFlow down out index with
        downFlowNum := flow.downFlowNum + 1
        readThread := flow.readThread.notified } := by
  have hsource := hready.sourceStart
  rw [addDownFlow, if_neg (by simp [haccepts.complete]),
    if_neg (not_le.mpr haccepts.inside), if_neg haccepts.other,
    changeDownFlowNum, storeFlow]
  split <;> simp [hsource]

theorem addDownFlow_refused {down : ℕ} {out : ℤ} (index : ℤ)
    (hrefuses : ¬ flow.AcceptsDown down out) :
    (flow.addDownFlow down out index).1 = flow := by
  rw [addDownFlow]
  split
  case isTrue => rfl
  case isFalse hcomplete =>
  split
  case isTrue => rfl
  case isFalse hinside =>
  split
  case isTrue => rfl
  case isFalse hother =>
  rw [Bool.not_eq_false] at hcomplete
  exact absurd ⟨hcomplete, not_le.mp hinside, hother⟩ hrefuses

theorem foldl_changeDownFlowNum {α : Type} (slots : List α)
    (hsource : flow.sourceStart = true) :
    slots.foldl (fun flow _ => flow.changeDownFlowNum (-1)) flow =
      { flow with
        downFlowNum := flow.downFlowNum - slots.length
        readThread :=
          if slots = [] then flow.readThread
          else flow.readThread.notified } := by
  induction slots generalizing flow with
  | nil => simp
  | cons slot rest ih =>
      have hchange : flow.changeDownFlowNum (-1) =
          { flow with
            downFlowNum := flow.downFlowNum + -1
            readThread := flow.readThread.notified } := by
        rw [changeDownFlowNum, if_pos hsource]
      rw [List.foldl_cons, ih (by rw [hchange]; exact hsource), hchange]
      simp only [notified_notified, ite_self, reduceCtorEq, if_false,
        List.length_cons, mk.injEq, true_and, and_true]
      omega

theorem removeDownFlow_complete (down : ℕ) (hready : flow.Ready)
    (hcomplete : flow.complete = true) :
    flow.removeDownFlow down =
      { flow.removeStored down with
        downFlowNum := flow.downFlowNum -
          (flow.downflowmap.filter DownSlot.valid).length
        readThread :=
          if flow.downflowmap.filter DownSlot.valid = [] then flow.readThread
          else flow.readThread.notified } := by
  have hsource : (flow.removeStored down).sourceStart = true :=
    hready.sourceStart
  rw [removeDownFlow, if_neg (by simp [hcomplete]),
    foldl_changeDownFlowNum _ hsource]
  rfl

theorem removeDownFlow_incomplete (down : ℕ)
    (hincomplete : flow.complete ≠ true) :
    flow.removeDownFlow down = flow := by
  rw [removeDownFlow, if_pos (by simpa using hincomplete)]

theorem Ready.storeFlow (hready : flow.Ready) (down : ℕ) (out index : ℤ) :
    ∀ dm ∈ (flow.storeFlow down out index).downflowmap, dm.Distinct := by
  rw [SourceFlow.storeFlow]
  split
  case isTrue => exact hready.distinct
  case isFalse =>
    intro dm hdm
    rw [List.mem_iff_getElem?] at hdm
    obtain ⟨i, hget⟩ := hdm
    rw [List.getElem?_modify] at hget
    obtain ⟨old, hold, rfl⟩ := Option.map_eq_some_iff.mp hget
    have hdistinct := hready.distinct old (List.mem_of_getElem? hold)
    split
    case isTrue => exact hdistinct.addFlow down index
    case isFalse => exact hdistinct

theorem Ready.removeStored (hready : flow.Ready) (down : ℕ) :
    ∀ dm ∈ (flow.removeStored down).downflowmap, dm.Distinct := by
  intro dm hdm
  rw [SourceFlow.removeStored, List.mem_map] at hdm
  obtain ⟨old, hold, rfl⟩ := hdm
  have hdistinct := hready.distinct old hold
  split
  case isTrue => exact hdistinct.removeFlow down
  case isFalse => exact hdistinct

theorem Ready.step (hready : flow.Ready) (input : DownFlowInput) :
    (downFlowStep flow input).Ready := by
  cases input with
  | addDownFlow down out index =>
      rw [downFlowStep]
      by_cases haccepts : flow.AcceptsDown down out
      · have hstored := hready.storeFlow down out index
        rw [addDownFlow_accepted index hready haccepts]
        refine ⟨?_, ?_, hstored⟩
        · rw [SourceFlow.storeFlow]
          split <;> exact hready.sourceStart
        · rw [SourceFlow.storeFlow]
          split <;> exact hready.enable
      · rw [addDownFlow_refused index haccepts]
        exact hready
  | removeDownFlow down =>
      rw [downFlowStep]
      by_cases hcomplete : flow.complete = true
      · rw [removeDownFlow_complete down hready hcomplete]
        exact ⟨hready.sourceStart, hready.enable, hready.removeStored down⟩
      · rw [removeDownFlow_incomplete down hcomplete]
        exact hready
  | readThreadRun =>
      rw [downFlowStep, readThreadRun]
      split
      case h_1 => exact ⟨hready.sourceStart, hready.enable, hready.distinct⟩
      case h_2 => exact hready
  | wakeUp => exact ⟨hready.sourceStart, hready.enable, hready.distinct⟩

end SourceFlow

/-! ## The count at one call -/

section Calls

variable {flow : SourceFlow}

theorem addDownFlow_counted {down : ℕ} {out index : ℤ}
    (hready : flow.Ready) (hcounted : EdgesCounted flow)
    (haccepts : flow.AcceptsDown down out) :
    EdgesCounted (downFlowStep flow (.addDownFlow down out index)) ↔
      flow.FreshFor down out := by
  have hstep := SourceFlow.addDownFlow_accepted index hready haccepts
  have hnum : (downFlowStep flow (.addDownFlow down out index)).downFlowNum =
      flow.edges + 1 := by
    rw [downFlowStep, hstep, ← hcounted.count]
  have hedges : (downFlowStep flow (.addDownFlow down out index)).edges =
      (flow.storeFlow down out index).edges := by
    rw [downFlowStep, hstep]
    rfl
  have hthread : (downFlowStep flow (.addDownFlow down out index)).readThread =
      flow.readThread.notified := by
    rw [downFlowStep, hstep]
  rw [← SourceFlow.edges_storeFlow_iff index haccepts, ← hedges]
  constructor
  · intro hnext
    have hcount := hnext.count
    rw [hnum] at hcount
    exact_mod_cast hcount.symm
  · intro hfresh
    refine ⟨?_, fun hwaits => ?_⟩
    · rw [hnum, hfresh]
      push_cast
      rfl
    · rw [hthread] at hwaits
      exact absurd hwaits (SourceFlow.notified_ne_waiting _)

theorem addDownFlow_starts {down : ℕ} {out index : ℤ}
    (haccepts : flow.AcceptsDown down out) (hready : flow.Ready)
    (hfresh : flow.FreshFor down out) :
    StartsWithConsumer flow (.addDownFlow down out index) := by
  intro _ _
  rw [downFlowStep,
    SourceFlow.addDownFlow_accepted index hready haccepts]
  have hedges := (SourceFlow.edges_storeFlow_iff index haccepts).mpr hfresh
  exact hedges ▸ Nat.succ_pos _

theorem removeDownFlow_counted {down : ℕ} (hready : flow.Ready)
    (hcounted : EdgesCounted flow) (hcomplete : flow.complete = true) :
    EdgesCounted (downFlowStep flow (.removeDownFlow down)) ↔
      flow.StoredInAll down := by
  have hstep := SourceFlow.removeDownFlow_complete down hready hcomplete
  have hnum : (downFlowStep flow (.removeDownFlow down)).downFlowNum =
      flow.edges - (flow.downflowmap.filter DownSlot.valid).length := by
    rw [downFlowStep, hstep, ← hcounted.count]
  have hedges : (downFlowStep flow (.removeDownFlow down)).edges =
      (flow.removeStored down).edges := by
    rw [downFlowStep, hstep]
    rfl
  have hthread : (downFlowStep flow (.removeDownFlow down)).readThread =
      if flow.downflowmap.filter DownSlot.valid = [] then flow.readThread
      else flow.readThread.notified := by
    rw [downFlowStep, hstep]
  have hlost := SourceFlow.edges_removeStored down hready.distinct
  rw [← SourceFlow.edges_removeStored_iff down hready.distinct, ← hedges]
  constructor
  · intro hnext
    have hcount := hnext.count
    rw [hnum] at hcount
    omega
  · intro hstored
    refine ⟨?_, fun hwaits => ?_⟩
    · rw [hnum]
      omega
    · rw [hthread] at hwaits
      split at hwaits
      case isTrue =>
        have hnone := hcounted.waits hwaits
        omega
      case isFalse =>
        exact absurd hwaits (SourceFlow.notified_ne_waiting _)

/-- With no edge stored there is no valid slot the flow can be removed from. -/
theorem removeDownFlow_starts {down : ℕ} (hready : flow.Ready)
    (hcounted : EdgesCounted flow) (hcomplete : flow.complete = true)
    (hstored : flow.StoredInAll down) :
    StartsWithConsumer flow (.removeDownFlow down) := by
  intro hbefore hafter
  rw [downFlowStep,
    SourceFlow.removeDownFlow_complete down hready hcomplete] at hafter
  dsimp only at hafter
  split at hafter
  case isTrue => exact absurd hafter hbefore
  case isFalse hvalid =>
    have hwaits : flow.readThread = .waiting := by
      cases hthread : flow.readThread with
      | notStarted => rw [hthread] at hafter; cases hafter
      | waiting => rfl
      | running => exact absurd hthread hbefore
    have hnone := hcounted.waits hwaits
    have hlost :=
      (SourceFlow.edges_removeStored_iff down hready.distinct).mpr hstored
    have hpos := List.length_pos_iff.mpr hvalid
    omega

theorem readThreadRun_counted (hready : flow.Ready)
    (hcounted : EdgesCounted flow) :
    EdgesCounted (downFlowStep flow .readThreadRun) ∧
      StartsWithConsumer flow .readThreadRun := by
  rw [StartsWithConsumer, downFlowStep, SourceFlow.readThreadRun]
  have hcount := hcounted.count
  cases hthread : flow.readThread with
  | notStarted =>
      refine ⟨⟨hcount, fun hwaits => ?_⟩, fun _ hruns => ?_⟩
      · dsimp only at hwaits
        split at hwaits
        case isTrue hzero =>
          rw [hcount] at hzero
          exact_mod_cast hzero.1
        case isFalse => cases hwaits
      · dsimp only at hruns
        split at hruns
        case isTrue => cases hruns
        case isFalse hsome =>
          have hne : flow.downFlowNum ≠ 0 :=
            fun hzero => hsome ⟨hzero, hready.enable⟩
          rw [hcount] at hne
          exact Nat.pos_of_ne_zero (by exact_mod_cast hne)
  | waiting =>
      refine ⟨hcounted, fun _ hruns => ?_⟩
      rw [hthread] at hruns
      cases hruns
  | running => exact ⟨hcounted, fun hbefore => absurd rfl hbefore⟩

theorem wakeUp_iff (hcounted : EdgesCounted flow) :
    EdgesCounted (downFlowStep flow .wakeUp) ∧
        StartsWithConsumer flow .wakeUp ↔ flow.readThread ≠ .waiting := by
  have hsame : (downFlowStep flow .wakeUp).edges = flow.edges := rfl
  rw [StartsWithConsumer, hsame]
  constructor
  · rintro ⟨-, hstarts⟩ hwaits
    have hnone := hcounted.waits hwaits
    have hsome := hstarts (by simp [hwaits])
      (by simp [downFlowStep, hwaits, ReadThread.notified])
    omega
  · intro hawake
    have hthread : flow.readThread.notified = flow.readThread := by
      cases hcase : flow.readThread with
      | notStarted => rfl
      | waiting => exact absurd hcase hawake
      | running => rfl
    have hstep : downFlowStep flow .wakeUp = flow := by
      rw [downFlowStep, hthread]
    rw [hstep]
    exact ⟨hcounted, fun hbefore hafter => absurd hafter hbefore⟩

/-- What one input needs to leave the count right. -/
theorem changesEdges_iff (hready : flow.Ready) (hcounted : EdgesCounted flow)
    (input : DownFlowInput) :
    EdgesCounted (downFlowStep flow input) ∧ StartsWithConsumer flow input ↔
      ChangesEdges flow input := by
  cases input with
  | addDownFlow down out index =>
      rw [ChangesEdges]
      by_cases haccepts : flow.AcceptsDown down out
      · rw [addDownFlow_counted hready hcounted haccepts]
        exact ⟨fun h _ => h.1, fun h => ⟨h haccepts,
          addDownFlow_starts haccepts hready (h haccepts)⟩⟩
      · have hsame : downFlowStep flow (.addDownFlow down out index) = flow :=
          SourceFlow.addDownFlow_refused index haccepts
        rw [StartsWithConsumer, hsame]
        exact ⟨fun _ h => absurd h haccepts, fun _ => ⟨hcounted,
          fun hbefore hafter => absurd hafter hbefore⟩⟩
  | removeDownFlow down =>
      rw [ChangesEdges]
      by_cases hcomplete : flow.complete = true
      · rw [removeDownFlow_counted hready hcounted hcomplete]
        exact ⟨fun h _ => h.1, fun h => ⟨h hcomplete,
          removeDownFlow_starts hready hcounted hcomplete (h hcomplete)⟩⟩
      · have hsame : downFlowStep flow (.removeDownFlow down) = flow :=
          SourceFlow.removeDownFlow_incomplete down hcomplete
        rw [StartsWithConsumer, hsame]
        exact ⟨fun _ h => absurd h hcomplete, fun _ => ⟨hcounted,
          fun hbefore hafter => absurd hafter hbefore⟩⟩
  | readThreadRun =>
      exact iff_of_true (readThreadRun_counted hready hcounted) trivial
  | wakeUp => exact wakeUp_iff hcounted

end Calls

/-! ## All runs -/

theorem SourceFlow.ofSlots_ready (self : ℕ) (slots : FlowSlots)
    (junk : ℤ → Bool) : (ofSlots self slots junk).Ready := by
  refine ⟨rfl, rfl, ?_⟩
  intro dm hdm
  obtain ⟨i, -, rfl⟩ := List.mem_map.mp hdm
  exact List.nodup_nil

theorem SourceFlow.ofSlots_counted (self : ℕ) (slots : FlowSlots)
    (junk : ℤ → Bool) : EdgesCounted (ofSlots self slots junk) where
  count := by simp [ofSlots, edges, Function.comp_def]
  waits hwaits := by cases hwaits

theorem down_flow_num_iff (self : ℕ) (slots : FlowSlots) (junk : ℤ → Bool)
    (inputs : List DownFlowInput) :
    States downFlowStep EdgesCounted (.ofSlots self slots junk) inputs ∧
        Steps downFlowStep StartsWithConsumer (.ofSlots self slots junk)
          inputs ↔
      Steps downFlowStep ChangesEdges (.ofSlots self slots junk) inputs :=
  states_and_steps_iff (fun flow => flow.Ready ∧ EdgesCounted flow)
    (fun _ hinv => hinv.2)
    (fun _ input hinv hguard =>
      have hnext := (changesEdges_iff hinv.1 hinv.2 input).mpr hguard
      ⟨⟨hinv.1.step input, hnext.1⟩, hnext.2⟩)
    (fun _ input hinv hnext hseen =>
      (changesEdges_iff hinv.1 hinv.2 input).mp ⟨hnext, hseen⟩)
    ⟨SourceFlow.ofSlots_ready self slots junk,
      SourceFlow.ofSlots_counted self slots junk⟩

def sourceSlots : InstallResult :=
  FlowSlots.new.installSlotMap true
    ⟨sourceSlotMap [0], fun _ => false, fun _ => false⟩

def addedTwice : List DownFlowInput :=
  [.addDownFlow 1 0 0, .addDownFlow 1 0 0, .removeDownFlow 1, .readThreadRun]

/-- The flow that was added twice and removed once is still counted, and the
thread starts to read for nobody. -/
theorem added_twice_miscounts :
    ∃ slots, sourceSlots = .installed slots ∧
      (¬ States downFlowStep EdgesCounted
        (.ofSlots 0 slots fun _ => false) addedTwice) ∧
      (addedTwice.foldl downFlowStep
        (.ofSlots 0 slots fun _ => false)).edges = 0 ∧
      (addedTwice.foldl downFlowStep
        (.ofSlots 0 slots fun _ => false)).readThread = .running := by
  refine ⟨_, rfl, ?_, by decide, by decide⟩
  intro hstates
  have hcount := hstates.2.2.1.count
  exact absurd hcount (by decide)

end RkaiqToolServer
