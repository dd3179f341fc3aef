import RkaiqToolServer.MediaInfo

/-!
# Registrations that find no slot

The loops of `GetIspSubDevs`, `GetCifSubDevs` and `GetDvpSubDevs` move a
pointer to the entry they inspect, and the entry it points to after the loop is
written.  `GetDvpSubDevs` compares the index with the table's size only after
it has written the entry, so a device without a slot overwrites the last one.
-/

namespace RkaiqToolServer

open ByteCodec

/-- How a round of a search ends: with the next one, with `break` or with
`return`. -/
inductive SearchRound
  | next
  | leave
  | stop
  deriving DecidableEq

structure SlotLoop where
  index : ℕ
  pointer : Option ℕ
  inspected : List ℕ
  stopped : Bool

def slotLoop (round : ℕ → SearchRound) : ℕ → ℕ → Option ℕ → SlotLoop
  | 0, index, pointer =>
      { index, pointer, inspected := [], stopped := false }
  | rounds + 1, index, _ =>
      match round index with
      | .next =>
          let rest := slotLoop round rounds (index + 1) (some index)
          { rest with inspected := index :: rest.inspected }
      | .leave =>
          { index, pointer := some index, inspected := [index]
            stopped := false }
      | .stop =>
          { index, pointer := some index, inspected := [index]
            stopped := true }

/-- A taken slot with the same path is only logged. -/
def ispRound (table : MediaTable) (device : MediaDevice) (index : ℕ) :
    SearchRound :=
  if table.path .isp index = [] then
    if isLinkSensor device index ≠ 0 ∧ table.path .cif index ≠ [] then .next
    else .leave
  else .next

/-- The rounds of `GetCifSubDevs` and `GetDvpSubDevs`. -/
def sensorRound (table : MediaTable) (kind : MediaKind) (device : MediaDevice)
    (devpath : List UInt8) (index : ℕ) : SearchRound :=
  if isLinkSensor device index ≠ 0 ∧ table.path kind index = [] then .leave
  else if table.path kind index = devpath then .stop
  else .next

structure CameraState where
  table : MediaTable
  camCount : ℤ

/-- What a call leaves, and the slots of the table it went to.  The program
ends at a failed assertion. -/
structure Registered where
  state : CameraState
  slots : List ℕ
  aborted : Bool

def CameraState.counted (state : CameraState) (device : MediaDevice)
    (index : ℕ) : ℤ :=
  if isLinkSensor device index ≠ 0 then state.camCount + 1 else state.camCount

def CameraState.enter (state : CameraState) (kind : MediaKind) (slot id : ℕ)
    (device : MediaDevice) (devpath : List UInt8) (index : ℕ) :
    CameraState where
  table := state.table.enter kind slot id device devpath index
  camCount := state.counted device index

/-- `GetIspSubDevs` and `GetCifSubDevs` after their loops. -/
def registerChecked (kind : MediaKind) (id : ℕ) (device : MediaDevice)
    (devpath : List UInt8) (state : CameraState) (loop : SlotLoop) :
    Registered :=
  if loop.stopped then
    { state, slots := loop.inspected, aborted := false }
  else if maxCamNum ≤ loop.index then
    { state, slots := loop.inspected, aborted := false }
  else
    match loop.pointer with
    | none => { state, slots := loop.inspected, aborted := true }
    | some slot =>
        { state := state.enter kind slot id device devpath loop.index
          slots := loop.inspected ++ [slot]
          aborted := false }

def registerIsp (id : ℕ) (device : MediaDevice) (devpath : List UInt8)
    (state : CameraState) : Registered :=
  registerChecked .isp id device devpath state
    (slotLoop (ispRound state.table device) maxCamNum 0 none)

def registerCif (id : ℕ) (device : MediaDevice) (devpath : List UInt8)
    (state : CameraState) : Registered :=
  registerChecked .cif id device devpath state
    (slotLoop (sensorRound state.table .cif device devpath) maxCamNum 0 none)

/-- `asserts` is false in a release build.  The assertion on the index is in
`GetSensorName`. -/
def registerDvp (asserts : Bool) (id : ℕ) (device : MediaDevice)
    (devpath : List UInt8) (state : CameraState) : Registered :=
  let loop :=
    slotLoop (sensorRound state.table .dvp device devpath) maxCamNum 0 none
  if loop.stopped then
    { state, slots := loop.inspected, aborted := false }
  else
    match loop.pointer with
    | none => { state, slots := loop.inspected, aborted := true }
    | some slot =>
        if asserts ∧ isLinkSensor device loop.index ≠ 0 ∧
            maxCamNum ≤ loop.index then
          { state :=
              { table := state.table.set .dvp slot
                  { state.table.entry .dvp slot with
                    modelIdx := id
                    linkedSensor := isLinkSensor device loop.index }
                camCount := state.counted device loop.index }
            slots := loop.inspected ++ [slot]
            aborted := true }
        else
          -- the bound is checked here, with nothing left to do but the paths
          { state := state.enter .dvp slot id device devpath loop.index
            slots := loop.inspected ++ [slot]
            aborted := false }

def register (asserts : Bool) (kind : MediaKind) (id : ℕ)
    (device : MediaDevice) (devpath : List UInt8) (state : CameraState) :
    Registered :=
  match kind with
  | .isp => registerIsp id device devpath state
  | .cif => registerCif id device devpath state
  | .dvp => registerDvp asserts id device devpath state

/-! ## Slots for a device -/

/-- A slot the device would be entered in. -/
def MediaTable.Qualifies (table : MediaTable) (device : MediaDevice) :
    MediaKind → ℕ → Prop
  | .isp, slot => table.path .isp slot = [] ∧
      ¬ (isLinkSensor device slot ≠ 0 ∧ table.path .cif slot ≠ [])
  | .cif, slot => isLinkSensor device slot ≠ 0 ∧ table.path .cif slot = []
  | .dvp, slot => isLinkSensor device slot ≠ 0 ∧ table.path .dvp slot = []

/-- The table and the camera count are as they were, and only slots of the
table were accessed. -/
structure Registered.Intact (registered : Registered) (state : CameraState) :
    Prop where
  table : registered.state.table = state.table
  camCount : registered.state.camCount = state.camCount
  slots : ∀ slot ∈ registered.slots, slot < maxCamNum

/-! ## The loops -/

/-- A loop runs to its bound, or ends in a first round that does not go on. -/
theorem slotLoop_cases (round : ℕ → SearchRound) (rounds index : ℕ)
    (pointer : Option ℕ) :
    ((∀ i < rounds, round (index + i) = .next) ∧
      slotLoop round rounds index pointer =
        { index := index + rounds
          pointer := if rounds = 0 then pointer else some (index + rounds - 1)
          inspected := List.range' index rounds
          stopped := false }) ∨
    ∃ k < rounds, (∀ i < k, round (index + i) = .next) ∧
      round (index + k) ≠ .next ∧
      slotLoop round rounds index pointer =
        { index := index + k
          pointer := some (index + k)
          inspected := List.range' index (k + 1)
          stopped := decide (round (index + k) = .stop) } := by
  induction rounds generalizing index pointer with
  | zero => exact .inl ⟨by simp, rfl⟩
  | succ rounds ih =>
      cases hround : round index with
      | leave =>
          refine .inr ⟨0, by omega, by simp, ?_, ?_⟩
          · simp [hround]
          · simp [slotLoop, hround]
      | stop =>
          refine .inr ⟨0, by omega, by simp, ?_, ?_⟩
          · simp [hround]
          · simp [slotLoop, hround]
      | next =>
          have hshift : ∀ i, index + 1 + i = index + (i + 1) := by omega
          have hfirst : ∀ k, (∀ i < k, round (index + 1 + i) = .next) →
              ∀ i < k + 1, round (index + i) = .next := by
            intro k hk i hi
            cases i with
            | zero => exact hround
            | succ i => rw [← hshift]; exact hk i (by omega)
          rcases ih (index + 1) (some index) with
            ⟨hall, hloop⟩ | ⟨k, hk, hbefore, hend, hloop⟩
          · refine .inl ⟨hfirst rounds hall, ?_⟩
            simp only [slotLoop, hround, hloop]
            cases rounds with
            | zero => simp
            | succ rounds =>
                simp only [SlotLoop.mk.injEq, List.range'_succ]
                refine ⟨by omega, ?_, trivial, trivial⟩
                simp only [Nat.add_eq_zero_iff, one_ne_zero, and_false,
                  if_false, Option.some.injEq]
                omega
          · refine .inr ⟨k + 1, by omega, hfirst k hbefore, ?_, ?_⟩
            · rw [← hshift]
              exact hend
            · simp only [slotLoop, hround, hloop, hshift]
              simp [List.range'_succ]

theorem sensorRound_leave_iff {table : MediaTable} {kind : MediaKind}
    {device : MediaDevice} {devpath : List UInt8} {index : ℕ} :
    sensorRound table kind device devpath index = .leave ↔
      isLinkSensor device index ≠ 0 ∧ table.path kind index = [] := by
  rw [sensorRound]
  split
  · simp_all
  · split <;> simp_all

theorem sensorRound_eq_of_not {table : MediaTable} {kind : MediaKind}
    {device : MediaDevice} (devpath : List UInt8) {index : ℕ}
    (hnot : ¬ (isLinkSensor device index ≠ 0 ∧
      table.path kind index = [])) :
    sensorRound table kind device devpath index =
      if table.path kind index = devpath then .stop else .next :=
  if_neg hnot

theorem ispRound_leave_iff {table : MediaTable} {device : MediaDevice}
    {index : ℕ} :
    ispRound table device index = .leave ↔
      table.Qualifies device .isp index := by
  rw [ispRound, MediaTable.Qualifies]
  split
  · split <;> simp_all
  · simp_all

/-- A loop none of whose rounds breaks stops at a path, or leaves the index at
the table's size and the pointer at the last entry. -/
theorem slotLoop_of_ne_leave (round : ℕ → SearchRound)
    (hround : ∀ index < maxCamNum, round index ≠ .leave) :
    (∀ slot ∈ (slotLoop round maxCamNum 0 none).inspected,
      slot < maxCamNum) ∧
    (((slotLoop round maxCamNum 0 none).stopped = true ∧
        ∃ index < maxCamNum, round index = .stop) ∨
      ((slotLoop round maxCamNum 0 none).stopped = false ∧
        (slotLoop round maxCamNum 0 none).index = maxCamNum ∧
        (slotLoop round maxCamNum 0 none).pointer = some (maxCamNum - 1) ∧
        ∀ index < maxCamNum, round index = .next)) := by
  rcases slotLoop_cases round maxCamNum 0 none with
    ⟨hall, hloop⟩ | ⟨k, hk, -, hend, hloop⟩
  · rw [hloop]
    refine ⟨?_, .inr ⟨rfl, rfl, rfl, by simpa using hall⟩⟩
    intro slot hslot
    rw [List.mem_range'_1] at hslot
    exact hslot.2
  · rw [Nat.zero_add] at hend hloop
    have hstop : round k = .stop := by
      cases hcase : round k with
      | next => exact absurd hcase hend
      | leave => exact absurd hcase (hround k hk)
      | stop => rfl
    rw [hloop]
    refine ⟨?_, .inl ⟨by simp [hstop], k, hk, hstop⟩⟩
    intro slot hslot
    rw [List.mem_range'_1] at hslot
    exact lt_of_lt_of_le hslot.2 (by omega)

/-! ## The tables of the calls -/

theorem ispRound_eq (table : MediaTable) (device : MediaDevice)
    (index : ℕ) :
    ispRound table device index =
      if (table.path .isp index = [] &&
          !(isLinkSensor device index ≠ 0 && table.path .cif index ≠ [])) =
        true then .leave
      else .next := by
  rw [ispRound]
  by_cases hisp : table.path .isp index = []
  · by_cases hlink : isLinkSensor device index = 0 <;>
      by_cases hcif : table.path .cif index = [] <;> simp [hisp, hlink, hcif]
  · simp [hisp]

theorem ispIndex_eq_none {table : MediaTable} {device : MediaDevice}
    (hnext : ∀ index < maxCamNum, ispRound table device index = .next) :
    ispIndex table device = none := by
  rw [ispIndex, List.find?_eq_none]
  intro index hindex hfound
  have hround := hnext index (List.mem_range.mp hindex)
  rw [ispRound_eq, if_pos hfound] at hround
  cases hround

theorem ispIndex_eq_some {table : MediaTable} {device : MediaDevice} {k : ℕ}
    (hk : k < maxCamNum)
    (hbefore : ∀ index < k, ispRound table device index = .next)
    (hend : ispRound table device k ≠ .next) :
    ispIndex table device = some k := by
  rw [ispIndex, List.find?_range_eq_some]
  refine ⟨?_, List.mem_range.mpr hk, ?_⟩
  · by_contra hnot
    rw [ispRound_eq, if_neg hnot] at hend
    exact hend rfl
  · intro index hindex
    have hround := hbefore index hindex
    rw [ispRound_eq] at hround
    rw [Bool.not_eq_true', ← Bool.not_eq_true]
    intro hfound
    rw [if_pos hfound] at hround
    cases hround

theorem registerIsp_table (id : ℕ) (device : MediaDevice)
    (devpath : List UInt8) (state : CameraState) :
    (registerIsp id device devpath state).state.table =
      getIspSubDevs id device devpath state.table := by
  have hstop : ∀ index, ispRound state.table device index ≠ .stop := by
    intro index
    rw [ispRound_eq]
    split <;> simp
  rw [registerIsp, getIspSubDevs]
  rcases slotLoop_cases (ispRound state.table device) maxCamNum 0 none with
    ⟨hall, hloop⟩ | ⟨k, hk, hbefore, hend, hloop⟩
  · rw [ispIndex_eq_none (by simpa using hall), hloop]
    rfl
  · rw [Nat.zero_add] at hend hloop
    rw [ispIndex_eq_some hk (by simpa using hbefore) hend, hloop]
    simp [registerChecked, hstop k, not_le.mpr hk, CameraState.enter]

/-- The loop with `return` is the search of the table model. -/
theorem searchSlot_range' (table : MediaTable) (kind : MediaKind)
    (device : MediaDevice) (devpath : List UInt8) (rounds index : ℕ)
    (pointer : Option ℕ) :
    searchSlot (table.path kind) device devpath (List.range' index rounds) =
      let loop := slotLoop (sensorRound table kind device devpath) rounds index
        pointer
      if loop.stopped then .pathExists
      else if loop.index < index + rounds then .slot loop.index
      else .noSlot := by
  induction rounds generalizing index pointer with
  | zero => simp [slotLoop, searchSlot]
  | succ rounds ih =>
      rw [List.range'_succ, searchSlot]
      by_cases hfree : isLinkSensor device index ≠ 0 ∧
          table.path kind index = []
      · rw [if_pos hfree]
        simp [slotLoop, sensorRound_leave_iff.mpr hfree]
      · rw [if_neg hfree]
        have hround := sensorRound_eq_of_not devpath hfree
        by_cases hpath : table.path kind index = devpath
        · rw [if_pos hpath] at hround ⊢
          simp [slotLoop, hround]
        · rw [if_neg hpath] at hround ⊢
          rw [ih (index + 1) (some index)]
          simp only [slotLoop, hround]
          rw [show index + 1 + rounds = index + (rounds + 1) by omega]

theorem searchSlot_eq_slotLoop (table : MediaTable) (kind : MediaKind)
    (device : MediaDevice) (devpath : List UInt8) :
    searchSlot (table.path kind) device devpath (List.range maxCamNum) =
      let loop := slotLoop (sensorRound table kind device devpath) maxCamNum 0
        none
      if loop.stopped then .pathExists
      else if loop.index < maxCamNum then .slot loop.index
      else .noSlot := by
  rw [List.range_eq_range', searchSlot_range', Nat.zero_add]

theorem registerCif_table (id : ℕ) (device : MediaDevice)
    (devpath : List UInt8) (state : CameraState) :
    (registerCif id device devpath state).state.table =
      getCifSubDevs id device devpath state.table := by
  rw [registerCif, getCifSubDevs, searchSlot_eq_slotLoop]
  rcases slotLoop_cases (sensorRound state.table .cif device devpath)
      maxCamNum 0 none with ⟨-, hloop⟩ | ⟨k, hk, -, -, hloop⟩
  · rw [hloop]
    rfl
  · rw [hloop]
    by_cases hstop : sensorRound state.table .cif device devpath k = .stop
    · simp [registerChecked, hstop]
    · simp [registerChecked, hstop, hk, not_le.mpr hk, CameraState.enter]

/-- In a release build; otherwise the assertion can stop it half way. -/
theorem registerDvp_table (id : ℕ) (device : MediaDevice)
    (devpath : List UInt8) (state : CameraState) :
    (registerDvp false id device devpath state).state.table =
      getDvpSubDevs id device devpath state.table := by
  rw [registerDvp, getDvpSubDevs, searchSlot_eq_slotLoop]
  rcases slotLoop_cases (sensorRound state.table .dvp device devpath)
      maxCamNum 0 none with ⟨-, hloop⟩ | ⟨k, hk, -, -, hloop⟩
  · rw [hloop]
    rfl
  · rw [hloop]
    by_cases hstop : sensorRound state.table .dvp device devpath k = .stop
    · simp [hstop]
    · simp [hstop, hk, CameraState.enter]

/-- A device that was found goes to the function of its kind. -/
def registerDevice (state : CameraState) (id : ℕ) (device : MediaDevice) :
    CameraState :=
  match device.kind with
  | some kind => (register false kind id device (mediaPath id) state).state
  | none => state

/-- `getMediaInfoFrom` with the number of cameras beside the table. -/
def registerFrom (nodes : ℕ → MediaNode) : List ℕ → CameraState → CameraState
  | [], state => state
  | id :: rest, state =>
      match nodes id with
      | .absent => registerFrom nodes rest state
      | .present device =>
          registerFrom nodes rest (registerDevice state id device)
      | .failed => state

theorem registerDevice_table (state : CameraState) (id : ℕ)
    (device : MediaDevice) :
    (registerDevice state id device).table =
      enterDevice state.table id device := by
  rw [registerDevice, enterDevice]
  cases device.kind with
  | none => rfl
  | some kind =>
      cases kind with
      | isp => exact registerIsp_table id device (mediaPath id) state
      | cif => exact registerCif_table id device (mediaPath id) state
      | dvp => exact registerDvp_table id device (mediaPath id) state

/-- In every run over the devices the table is the one of the model without
pointers. -/
theorem registerFrom_table (nodes : ℕ → MediaNode) (ids : List ℕ)
    (state : CameraState) :
    (registerFrom nodes ids state).table =
      getMediaInfoFrom nodes ids state.table := by
  induction ids generalizing state with
  | nil => rfl
  | cons id rest ih =>
      rw [registerFrom, getMediaInfoFrom]
      cases nodes id with
      | absent => exact ih state
      | present device => exact (ih _).trans (by rw [registerDevice_table])
      | failed => rfl

/-! ## Without a slot -/

section NoSlot

variable {id : ℕ} {device : MediaDevice} {devpath : List UInt8}
  {state : CameraState}

/-- The two functions that check the index first do nothing. -/
theorem registerChecked_intact {kind : MediaKind}
    {round : ℕ → SearchRound}
    (hround : ∀ index < maxCamNum, round index ≠ .leave) :
    (registerChecked kind id device devpath state
      (slotLoop round maxCamNum 0 none)).Intact state := by
  obtain ⟨hslots, hend⟩ := slotLoop_of_ne_leave _ hround
  have hnothing : registerChecked kind id device devpath state
      (slotLoop round maxCamNum 0 none) =
        { state, slots := (slotLoop round maxCamNum 0 none).inspected
          aborted := false } := by
    rw [registerChecked]
    rcases hend with ⟨hstopped, -⟩ | ⟨hstopped, hindex, -⟩
    · rw [if_pos hstopped]
    · rw [if_neg (by simp [hstopped]), if_pos hindex.ge]
  rw [hnothing]
  exact ⟨rfl, rfl, hslots⟩

theorem registerDvp_of_entered {asserts : Bool}
    (hnone : ∀ slot < maxCamNum, ¬ state.table.Qualifies device .dvp slot)
    (hentered : ∃ slot < maxCamNum, state.table.path .dvp slot = devpath) :
    (registerDvp asserts id device devpath state).Intact state := by
  have hround : ∀ index < maxCamNum,
      sensorRound state.table .dvp device devpath index ≠ .leave :=
    fun index hindex hleave =>
      hnone index hindex (sensorRound_leave_iff.mp hleave)
  obtain ⟨hslots, ⟨hstopped, -⟩ | ⟨-, -, -, hnext⟩⟩ :=
    slotLoop_of_ne_leave _ hround
  · have hnothing : registerDvp asserts id device devpath state =
        { state
          slots := (slotLoop (sensorRound state.table .dvp device devpath)
            maxCamNum 0 none).inspected
          aborted := false } := by
      rw [registerDvp]
      simp only [hstopped, if_true]
    rw [hnothing]
    exact ⟨rfl, rfl, hslots⟩
  · obtain ⟨slot, hslot, hpath⟩ := hentered
    have hnot := hnext slot hslot
    rw [sensorRound_eq_of_not _ (hnone slot hslot), if_pos hpath] at hnot
    simp at hnot

/-- A path that is in no slot goes into the last one, unless the program ends
after it has counted the camera. -/
theorem not_intact_registerDvp {asserts : Bool}
    (hnone : ∀ slot < maxCamNum, ¬ state.table.Qualifies device .dvp slot)
    (hnew : ∀ slot < maxCamNum, state.table.path .dvp slot ≠ devpath) :
    ¬ (registerDvp asserts id device devpath state).Intact state := by
  have hround : ∀ index < maxCamNum,
      sensorRound state.table .dvp device devpath index = .next := by
    intro index hindex
    rw [sensorRound_eq_of_not _ (hnone index hindex), if_neg (hnew index hindex)]
  obtain ⟨-, ⟨-, index, hindex, hstop⟩ | ⟨hstopped, hindex, hpointer, -⟩⟩ :=
    slotLoop_of_ne_leave (sensorRound state.table .dvp device devpath)
      fun index hindex => by simp [hround index hindex]
  · simp [hround index hindex] at hstop
  · intro hintact
    by_cases hasserts : asserts = true ∧ isLinkSensor device maxCamNum ≠ 0
    · have hcount := hintact.camCount
      simp only [registerDvp, hstopped, Bool.false_eq_true, if_false, hpointer,
        hindex] at hcount
      rw [if_pos ⟨hasserts.1, hasserts.2, le_rfl⟩] at hcount
      simp only [CameraState.counted, if_pos hasserts.2] at hcount
      omega
    · have htable := hintact.table
      have habort : ¬ (asserts = true ∧ isLinkSensor device maxCamNum ≠ 0 ∧
          maxCamNum ≤ maxCamNum) := fun h => hasserts ⟨h.1, h.2.1⟩
      simp only [registerDvp, hstopped, Bool.false_eq_true, if_false, hpointer,
        hindex, if_neg habort, CameraState.enter] at htable
      have hpath := congrArg
        (fun table => MediaTable.path table .dvp (maxCamNum - 1)) htable
      simp only [MediaTable.path, MediaTable.entry_enter_self,
        SensorInfo.enter] at hpath
      exact hnew (maxCamNum - 1) (by decide) hpath.symm

end NoSlot

/-- Without a slot for the device the table stays as it is, except that
`GetDvpSubDevs` keeps it only when the path is entered already. -/
theorem failedRegistration_intact_iff (asserts : Bool) (kind : MediaKind)
    (id : ℕ) (device : MediaDevice) (devpath : List UInt8)
    (state : CameraState)
    (hnone : ∀ slot < maxCamNum, ¬ state.table.Qualifies device kind slot) :
    (register asserts kind id device devpath state).Intact state ↔
      (kind = .dvp →
        ∃ slot < maxCamNum, state.table.path .dvp slot = devpath) := by
  cases kind with
  | isp =>
      refine iff_of_true (registerChecked_intact ?_) (by simp)
      exact fun index hindex hleave =>
        hnone index hindex (ispRound_leave_iff.mp hleave)
  | cif =>
      refine iff_of_true (registerChecked_intact ?_) (by simp)
      exact fun index hindex hleave =>
        hnone index hindex (sensorRound_leave_iff.mp hleave)
  | dvp =>
      constructor
      · intro hintact _
        by_contra hnew
        exact not_intact_registerDvp hnone
          (fun slot hslot hpath => hnew ⟨slot, hslot, hpath⟩) hintact
      · exact fun hentered => registerDvp_of_entered hnone (hentered rfl)

/-- A device that carries no sensor. -/
def dvpWithoutSensor : MediaDevice where
  model := ascii "rkcif_dvp"
  entities := []

def noCameras : CameraState where
  table := rkAiqMedia (fun _ => -1) fun _ => 0
  camCount := 0

theorem not_qualifies_of_unlinked {table : MediaTable} {device : MediaDevice}
    {kind : MediaKind} (hkind : kind ≠ .isp)
    (hunlinked : ∀ slot, isLinkSensor device slot = 0) (slot : ℕ) :
    ¬ table.Qualifies device kind slot := by
  cases kind with
  | isp => exact absurd rfl hkind
  | cif => exact fun h => h.1 (hunlinked slot)
  | dvp => exact fun h => h.1 (hunlinked slot)

theorem failedRegistration_intact_iff_without_sensor :
    (register true .dvp 4 dvpWithoutSensor (mediaPath 4) noCameras).Intact
        noCameras ↔
      (MediaKind.dvp = .dvp →
        ∃ slot < maxCamNum, noCameras.table.path .dvp slot = mediaPath 4) :=
  failedRegistration_intact_iff true .dvp 4 dvpWithoutSensor (mediaPath 4)
    noCameras
    fun slot _ => not_qualifies_of_unlinked (by decide) (fun _ => rfl) slot

/-- The last entry gets the number and the path of a device without sensor. -/
theorem failedRegistration_not_intact :
    ¬ ∀ (asserts : Bool) (kind : MediaKind) (id : ℕ) (device : MediaDevice)
      (devpath : List UInt8) (state : CameraState),
      (∀ slot < maxCamNum, ¬ state.table.Qualifies device kind slot) →
        (register asserts kind id device devpath state).Intact state := by
  intro h
  have hintact := h true .dvp 4 dvpWithoutSensor (mediaPath 4) noCameras
    fun slot _ => not_qualifies_of_unlinked (by decide) (fun _ => rfl) slot
  have hpath := congrArg (fun table => MediaTable.path table .dvp 19)
    hintact.table
  exact absurd hpath (by decide)

end RkaiqToolServer
