import RkaiqToolServer.MediaInfo

/-!
# The slots of the post-processors

`GetIsppSubDevs` inspects one slot for each number of its loop, but the slot
only follows the number when two ISP devices are entered in falling order of
their numbers.  Otherwise all twenty rounds inspect slot zero.  The slot that
was inspected last is entered whether it is free or not.
-/

namespace RkaiqToolServer

open ByteCodec

structure IsppInfo where
  modelIdx : ℤ
  mediaDevPath : List UInt8
  ppInputImagePath : List UInt8
  ppMBypassPath : List UInt8
  ppScale0Path : List UInt8
  ppScale1Path : List UInt8
  ppScale2Path : List UInt8
  ppInputParamsPath : List UInt8
  ppStatsPath : List UInt8
  ppDevPath : List UInt8

abbrev IsppTable := ℕ → IsppInfo

def isppEmpty : IsppTable := fun _ =>
  { modelIdx := -1
    mediaDevPath := []
    ppInputImagePath := []
    ppMBypassPath := []
    ppScale0Path := []
    ppScale1Path := []
    ppScale2Path := []
    ppInputParamsPath := []
    ppStatsPath := []
    ppDevPath := [] }

/-- The device name of the entity with a name; a missing entity, or one
without a device name, leaves the path as it is. -/
def MediaDevice.devnameOf (device : MediaDevice) (name : List UInt8)
    (path : List UInt8) : List UInt8 :=
  match device.entities.find? fun entity => entity.name = name with
  | some entity => if entity.devname = [] then path else entity.devname
  | none => path

def IsppInfo.enter (info : IsppInfo) (id : ℤ) (device : MediaDevice)
    (devpath : List UInt8) : IsppInfo where
  modelIdx := id
  mediaDevPath := devpath
  ppInputImagePath :=
    device.devnameOf (ascii "rkispp_input_image") info.ppInputImagePath
  ppMBypassPath :=
    device.devnameOf (ascii "rkispp_m_bypass") info.ppMBypassPath
  ppScale0Path := device.devnameOf (ascii "rkispp_scale0") info.ppScale0Path
  ppScale1Path := device.devnameOf (ascii "rkispp_scale1") info.ppScale1Path
  ppScale2Path := device.devnameOf (ascii "rkispp_scale2") info.ppScale2Path
  ppInputParamsPath :=
    device.devnameOf (ascii "rkispp_input_params") info.ppInputParamsPath
  ppStatsPath := device.devnameOf (ascii "rkispp-stats") info.ppStatsPath
  ppDevPath := device.devnameOf (ascii "rkispp-subdev") info.ppDevPath

/-! ## The search -/

/-- The first two ISP entries are taken and in falling order. -/
def MediaTable.ispSwapped (table : MediaTable) : Bool :=
  table.path .isp 0 ≠ [] && table.path .isp 1 ≠ [] &&
    (table.entry .isp 0).modelIdx > (table.entry .isp 1).modelIdx

/-- The rounds of the loop from an `index` on; `none` is the return at a slot
that has the path. -/
def isppSearch (swapped : Bool) (paths : ℕ → List UInt8)
    (devpath : List UInt8) : List ℕ → ℕ → Option ℕ
  | [], index => some index
  | i :: rest, index =>
      let index :=
        if swapped then if i = 0 then 1 else if i = 1 then 0 else i else index
      if paths index = [] then some index
      else if paths index = devpath then none
      else isppSearch swapped paths devpath rest index

def getIsppSubDevs (ispTable : MediaTable) (id : ℤ) (device : MediaDevice)
    (devpath : List UInt8) (table : IsppTable) : IsppTable :=
  match isppSearch ispTable.ispSwapped (fun slot => (table slot).mediaDevPath)
      devpath (List.range maxCamNum) 0 with
  | none => table
  | some index =>
      if maxCamNum ≤ index then table
      else Function.update table index ((table index).enter id device devpath)

/-- A call with the state of the ISP entries it meets.  The paths are those of
device files. -/
structure IsppCall where
  ispTable : MediaTable
  id : ℤ
  device : MediaDevice
  devpath : List UInt8
  devpath_ne : devpath ≠ []

def IsppCall.swapped (call : IsppCall) : Bool := call.ispTable.ispSwapped

def IsppCall.register (table : IsppTable) (call : IsppCall) : IsppTable :=
  getIsppSubDevs call.ispTable call.id call.device call.devpath table

def registerIspp (calls : List IsppCall) : IsppTable :=
  calls.foldl IsppCall.register isppEmpty

/-! ## What is kept -/

/-- After every number of calls each path has one slot of its own. -/
def EachPathHasOneSlot (calls : List IsppCall) : Prop :=
  ∀ before, before <+: calls → ∀ call ∈ before,
    ∃! slot, slot < maxCamNum ∧
      (registerIspp before slot).mediaDevPath = call.devpath

def NoneOverwritten (calls : List IsppCall) : Prop :=
  ∀ before call, before ++ [call] <+: calls →
    ∀ slot, (registerIspp before slot).mediaDevPath ≠ [] →
      registerIspp (before ++ [call]) slot = registerIspp before slot

def firstSwapped (calls : List IsppCall) : Bool :=
  calls.head?.any IsppCall.swapped

/-- What the call after `before` has to meet: with the ISP entries in falling
order, a free slot; otherwise slot zero free, which only the first call finds,
and the second one when the first call took slot one. -/
def FindsFreeSlot (before : List IsppCall) (call : IsppCall) : Prop :=
  if call.swapped = true then before.length < maxCamNum
  else before = [] ∨ before.length = 1 ∧ firstSwapped before = true

def EachFindsFreeSlot (calls : List IsppCall) : Prop :=
  ∀ before call, before ++ [call] <+: calls → FindsFreeSlot before call

/-! ## Rounds -/

/-- The slot of each round when the ISP entries are in falling order. -/
def swapFirst : ℕ → ℕ
  | 0 => 1
  | 1 => 0
  | n + 2 => n + 2

theorem swapFirst_swapFirst (n : ℕ) : swapFirst (swapFirst n) = n := by
  match n with
  | 0 => rfl
  | 1 => rfl
  | n + 2 => rfl

theorem swapFirst_lt_iff {n bound : ℕ} (hbound : 2 ≤ bound) :
    swapFirst n < bound ↔ n < bound := by
  match n with
  | 0 => simp [swapFirst]; omega
  | 1 => simp [swapFirst]; omega
  | n + 2 => rfl

theorem isppSearch_swapped_cons (paths : ℕ → List UInt8)
    (devpath : List UInt8) (i : ℕ) (rest : List ℕ) (index : ℕ) :
    isppSearch true paths devpath (i :: rest) index =
      if paths (swapFirst i) = [] then some (swapFirst i)
      else if paths (swapFirst i) = devpath then none
      else isppSearch true paths devpath rest (swapFirst i) := by
  match i with
  | 0 => rfl
  | 1 => rfl
  | i + 2 => rfl

/-- The search goes on from a round that finds another path's slot. -/
theorem isppSearch_swapped_skip {paths : ℕ → List UInt8}
    {devpath : List UInt8} {before : List ℕ} (i : ℕ) (after : List ℕ)
    (index : ℕ)
    (hbefore : ∀ j ∈ before, paths (swapFirst j) ≠ [] ∧
      paths (swapFirst j) ≠ devpath) :
    isppSearch true paths devpath (before ++ i :: after) index =
      isppSearch true paths devpath (i :: after) 0 := by
  induction before generalizing index with
  | nil =>
      rw [List.nil_append, isppSearch_swapped_cons, isppSearch_swapped_cons]
  | cons j rest ih =>
      obtain ⟨htaken, hother⟩ := hbefore j (by simp)
      rw [List.cons_append, isppSearch_swapped_cons, if_neg htaken,
        if_neg hother]
      exact ih _ fun k hk => hbefore k (by simp [hk])

theorem isppSearch_swapped_append {paths : ℕ → List UInt8}
    {devpath : List UInt8} {i : ℕ} {before after : List ℕ} (index : ℕ)
    (hbefore : ∀ j ∈ before, paths (swapFirst j) ≠ [] ∧
      paths (swapFirst j) ≠ devpath)
    (hfree : paths (swapFirst i) = []) :
    isppSearch true paths devpath (before ++ i :: after) index =
      some (swapFirst i) := by
  rw [isppSearch_swapped_skip i after index hbefore, isppSearch_swapped_cons,
    if_pos hfree]

theorem isppSearch_swapped_full {paths : ℕ → List UInt8}
    {devpath : List UInt8} (rounds : List ℕ) (i index : ℕ)
    (htaken : ∀ j ∈ rounds ++ [i], paths (swapFirst j) ≠ [] ∧
      paths (swapFirst j) ≠ devpath) :
    isppSearch true paths devpath (rounds ++ [i]) index =
      some (swapFirst i) := by
  obtain ⟨hlast, hother⟩ := htaken i (by simp)
  have hbefore : ∀ j ∈ rounds, paths (swapFirst j) ≠ [] ∧
      paths (swapFirst j) ≠ devpath := fun j hj => htaken j (by simp [hj])
  rw [isppSearch_swapped_skip i [] index hbefore, isppSearch_swapped_cons,
    if_neg hlast, if_neg hother]
  rfl

/-- Without two ISP entries in falling order every round inspects the slot the
loop began with. -/
theorem isppSearch_unswapped {paths : ℕ → List UInt8} {devpath : List UInt8}
    (rounds : List ℕ) (index : ℕ) (hother : paths index ≠ devpath) :
    isppSearch false paths devpath rounds index = some index := by
  induction rounds with
  | nil => rfl
  | cons i rest ih =>
      simp only [isppSearch, Bool.false_eq_true, if_false, if_neg hother, ih,
        ite_self]

/-! ## The slots of the calls -/

/-- The first call decides in which order the first two slots are taken. -/
def slotOrder (calls : List IsppCall) : ℕ → ℕ :=
  if firstSwapped calls = true then swapFirst else id

theorem slotOrder_slotOrder (calls : List IsppCall) (n : ℕ) :
    slotOrder calls (slotOrder calls n) = n := by
  rw [slotOrder]
  split
  · exact swapFirst_swapFirst n
  · rfl

theorem slotOrder_lt_iff (calls : List IsppCall) {n bound : ℕ}
    (hbound : 2 ≤ bound) : slotOrder calls n < bound ↔ n < bound := by
  rw [slotOrder]
  split
  · exact swapFirst_lt_iff hbound
  · rfl

theorem firstSwapped_append {before : List IsppCall} (hbefore : before ≠ [])
    (call : IsppCall) :
    firstSwapped (before ++ [call]) = firstSwapped before := by
  obtain ⟨first, rest, rfl⟩ := List.exists_cons_of_ne_nil hbefore
  rfl

theorem slotOrder_append {before : List IsppCall} (hbefore : before ≠ [])
    (call : IsppCall) : slotOrder (before ++ [call]) = slotOrder before := by
  rw [slotOrder, slotOrder, firstSwapped_append hbefore]

/-- Slot `order n` is the one of call `n`, and the other slots are free. -/
def PlacedBy (order : ℕ → ℕ) (calls : List IsppCall) (table : IsppTable) :
    Prop :=
  ∀ slot, (table slot).mediaDevPath =
    (calls[order slot]?.map IsppCall.devpath).getD []

theorem placedBy_nil (order : ℕ → ℕ) : PlacedBy order [] isppEmpty := by
  intro slot
  simp [isppEmpty]

section Placed

variable {order : ℕ → ℕ} {calls : List IsppCall} {table : IsppTable}

theorem PlacedBy.free (h : PlacedBy order calls table) {slot : ℕ}
    (hslot : calls.length ≤ order slot) : (table slot).mediaDevPath = [] := by
  rw [h slot, List.getElem?_eq_none hslot]
  rfl

theorem PlacedBy.taken (h : PlacedBy order calls table) {slot : ℕ}
    (hslot : order slot < calls.length) :
    ∃ call ∈ calls, (table slot).mediaDevPath = call.devpath := by
  refine ⟨calls[order slot], List.getElem_mem hslot, ?_⟩
  rw [h slot, List.getElem?_eq_getElem hslot]
  rfl

theorem PlacedBy.path_ne_nil (h : PlacedBy order calls table) {slot : ℕ}
    (hslot : order slot < calls.length) : (table slot).mediaDevPath ≠ [] := by
  obtain ⟨call, -, hpath⟩ := h.taken hslot
  rw [hpath]
  exact call.devpath_ne

theorem PlacedBy.path_ne (h : PlacedBy order calls table) {call : IsppCall}
    (hnew : call.devpath ∉ calls.map IsppCall.devpath) (slot : ℕ) :
    (table slot).mediaDevPath ≠ call.devpath := by
  by_cases hslot : order slot < calls.length
  · obtain ⟨other, hmem, hpath⟩ := h.taken hslot
    rw [hpath]
    exact fun heq => hnew (heq ▸ List.mem_map_of_mem hmem)
  · rw [h.free (not_lt.mp hslot)]
    exact call.devpath_ne.symm

/-- Entering the call in the slot after those of the earlier ones. -/
theorem PlacedBy.enter (h : PlacedBy order calls table)
    (horder : ∀ n, order (order n) = n) (call : IsppCall) (info : IsppInfo)
    (hinfo : info.mediaDevPath = call.devpath) :
    PlacedBy order (calls ++ [call])
      (Function.update table (order calls.length) info) := by
  intro slot
  by_cases hslot : slot = order calls.length
  · rw [hslot, Function.update_self, horder, hinfo]
    simp
  · have hother : order slot ≠ calls.length := by
      intro heq
      exact hslot (by rw [← heq, horder])
    rw [Function.update_of_ne hslot, h slot]
    rcases Nat.lt_or_gt_of_ne hother with hlt | hgt
    · rw [List.getElem?_append_left hlt]
    · rw [List.getElem?_eq_none hgt.le, List.getElem?_eq_none]
      rw [List.length_append, List.length_singleton]
      exact hgt

end Placed

theorem registerIspp_append (before : List IsppCall) (call : IsppCall) :
    registerIspp (before ++ [call]) = call.register (registerIspp before) := by
  rw [registerIspp, List.foldl_append]
  rfl

def IsppCall.search (call : IsppCall) (table : IsppTable) : Option ℕ :=
  isppSearch call.swapped (fun slot => (table slot).mediaDevPath)
    call.devpath (List.range maxCamNum) 0

theorem IsppCall.register_of_search {call : IsppCall} {table : IsppTable}
    {slot : ℕ} (hsearch : call.search table = some slot)
    (hslot : slot < maxCamNum) :
    call.register table = Function.update table slot
      ((table slot).enter call.id call.device call.devpath) := by
  rw [IsppCall.register, getIsppSubDevs,
    show isppSearch call.ispTable.ispSwapped _ _ _ _ = some slot from hsearch]
  exact if_neg (not_le.mpr hslot)

theorem range_eq_append_cons {i bound : ℕ} (hi : i < bound) :
    ∃ after, List.range bound = List.range i ++ i :: after := by
  obtain ⟨more, rfl⟩ : ∃ more, bound = i + (more + 1) :=
    ⟨bound - i - 1, by omega⟩
  refine ⟨List.map (fun j => i + (j + 1)) (List.range more), ?_⟩
  rw [List.range_add, List.range_succ_eq_map, List.map_cons, List.map_map]
  rfl

theorem IsppCall.search_swapped {call : IsppCall} {table : IsppTable}
    (hswapped : call.swapped = true) {i : ℕ} (hi : i < maxCamNum)
    (hbefore : ∀ j < i, (table (swapFirst j)).mediaDevPath ≠ [])
    (hother : ∀ slot, (table slot).mediaDevPath ≠ call.devpath)
    (hfree : (table (swapFirst i)).mediaDevPath = []) :
    call.search table = some (swapFirst i) := by
  obtain ⟨after, hrange⟩ := range_eq_append_cons hi
  rw [IsppCall.search, hswapped, hrange]
  exact isppSearch_swapped_append _
    (fun j hj => ⟨hbefore j (List.mem_range.mp hj), hother _⟩) hfree

/-- A call that finds a free slot takes the next one in the order. -/
theorem PlacedBy.search {before : List IsppCall} {call : IsppCall}
    {table : IsppTable}
    (h : PlacedBy (slotOrder (before ++ [call])) before table)
    (hnew : call.devpath ∉ before.map IsppCall.devpath)
    (hfinds : FindsFreeSlot before call) :
    call.search table = some (slotOrder (before ++ [call]) before.length) := by
  have hother := h.path_ne hnew
  have hnext : (table (slotOrder (before ++ [call]) before.length)).mediaDevPath
      = [] := h.free (by rw [slotOrder_slotOrder])
  rw [FindsFreeSlot] at hfinds
  by_cases hswapped : call.swapped = true
  · rw [if_pos hswapped] at hfinds
    by_cases hfirst : firstSwapped (before ++ [call]) = true
    · rw [slotOrder, if_pos hfirst] at h hnext ⊢
      refine IsppCall.search_swapped hswapped hfinds ?_ hother hnext
      intro j hj
      exact h.path_ne_nil (by rw [swapFirst_swapFirst]; exact hj)
    · rw [slotOrder, if_neg hfirst] at h hnext ⊢
      match hlength : before.length with
      | 0 =>
          rw [List.length_eq_zero_iff] at hlength
          subst hlength
          exact absurd hswapped hfirst
      | 1 =>
          -- the first round inspects slot one
          rw [hlength] at hnext
          exact IsppCall.search_swapped (i := 0) hswapped (by decide)
            (by simp) hother hnext
      | n + 2 =>
          rw [hlength] at hnext hfinds
          refine IsppCall.search_swapped hswapped hfinds ?_ hother hnext
          intro j hj
          refine h.path_ne_nil ?_
          rw [hlength]
          exact (swapFirst_lt_iff (by omega)).mpr hj
  · have hzero : slotOrder (before ++ [call]) before.length = 0 := by
      rw [if_neg hswapped] at hfinds
      rcases hfinds with rfl | ⟨hone, hfirst⟩
      · have hfirst : ¬ firstSwapped ([] ++ [call]) = true := hswapped
        rw [slotOrder, if_neg hfirst]
        rfl
      · have hne : before ≠ [] := by
          rintro rfl
          simp at hone
        rw [slotOrder_append hne, slotOrder, if_pos hfirst, hone]
        rfl
    rw [hzero, IsppCall.search, Bool.eq_false_iff.mpr hswapped]
    exact isppSearch_unswapped _ 0 (hother 0)

/-! ## Runs -/

theorem EachFindsFreeSlot.of_earlier {before calls : List IsppCall}
    (h : EachFindsFreeSlot calls) (hearlier : before <+: calls) :
    EachFindsFreeSlot before := fun earlier call hcall =>
  h earlier call (hcall.trans hearlier)

theorem EachFindsFreeSlot.length_le {calls : List IsppCall}
    (h : EachFindsFreeSlot calls) : calls.length ≤ maxCamNum := by
  rcases List.eq_nil_or_concat' calls with rfl | ⟨before, call, rfl⟩
  · simp
  · have hlast := h before call List.prefix_rfl
    rw [List.length_append, List.length_singleton, maxCamNum]
    rw [FindsFreeSlot, maxCamNum] at hlast
    split at hlast
    · omega
    · rcases hlast with rfl | ⟨hone, -⟩
      · simp
      · omega

theorem not_mem_of_nodup_append {before : List IsppCall} {call : IsppCall}
    (hdistinct : ((before ++ [call]).map IsppCall.devpath).Nodup) :
    call.devpath ∉ before.map IsppCall.devpath := by
  rw [List.map_append, List.nodup_append] at hdistinct
  intro hmem
  exact hdistinct.2.2 _ hmem _ (by simp) rfl

theorem PlacedBy.append {before : List IsppCall} {table : IsppTable}
    (hnil : before = [] → table = isppEmpty)
    (h : PlacedBy (slotOrder before) before table) (call : IsppCall) :
    PlacedBy (slotOrder (before ++ [call])) before table := by
  by_cases hbefore : before = []
  · rw [hnil hbefore, hbefore]
    exact placedBy_nil _
  · rw [slotOrder_append hbefore]
    exact h

theorem registerIspp_placed {before : List IsppCall} (call : IsppCall)
    (h : PlacedBy (slotOrder before) before (registerIspp before)) :
    PlacedBy (slotOrder (before ++ [call])) before (registerIspp before) := by
  refine h.append ?_ call
  rintro rfl
  rfl

/-- A call that finds a free slot enters the next one in the order. -/
theorem registerIspp_step {before : List IsppCall} {call : IsppCall}
    (h : PlacedBy (slotOrder before) before (registerIspp before))
    (hdistinct : ((before ++ [call]).map IsppCall.devpath).Nodup)
    (hfinds : EachFindsFreeSlot (before ++ [call])) :
    registerIspp (before ++ [call]) =
      Function.update (registerIspp before)
        (slotOrder (before ++ [call]) before.length)
        ((registerIspp before (slotOrder (before ++ [call]) before.length)).enter
          call.id call.device call.devpath) := by
  have hsearch := (registerIspp_placed call h).search
    (not_mem_of_nodup_append hdistinct) (hfinds before call List.prefix_rfl)
  have hslot : slotOrder (before ++ [call]) before.length < maxCamNum := by
    have hlength := hfinds.length_le
    rw [List.length_append, List.length_singleton] at hlength
    rw [slotOrder_lt_iff _ (by decide)]
    omega
  rw [registerIspp_append, IsppCall.register_of_search hsearch hslot]

/-- As long as each call finds a free slot, the calls take the slots in
order. -/
theorem EachFindsFreeSlot.placedBy {calls : List IsppCall}
    (h : EachFindsFreeSlot calls)
    (hdistinct : (calls.map IsppCall.devpath).Nodup) :
    PlacedBy (slotOrder calls) calls (registerIspp calls) := by
  induction calls using List.reverseRecOn with
  | nil => exact placedBy_nil _
  | append_singleton before call ih =>
      have hearlier : before <+: before ++ [call] := List.prefix_append _ _
      have hbefore := ih (h.of_earlier hearlier)
        (hdistinct.sublist (hearlier.sublist.map _))
      rw [registerIspp_step hbefore hdistinct h]
      exact (registerIspp_placed call hbefore).enter (slotOrder_slotOrder _)
        call _ rfl

/-- A call that takes a slot another path is in changes it. -/
theorem overwrites_of_search {before : List IsppCall} {call : IsppCall}
    {slot : ℕ} (hsearch : call.search (registerIspp before) = some slot)
    (hslot : slot < maxCamNum)
    (hother : (registerIspp before slot).mediaDevPath ≠ call.devpath) :
    registerIspp (before ++ [call]) slot ≠ registerIspp before slot := by
  intro hsame
  rw [registerIspp_append, IsppCall.register_of_search hsearch hslot,
    Function.update_self] at hsame
  exact hother (congrArg IsppInfo.mediaDevPath hsame).symm

/-- A call that finds no free slot overwrites one. -/
theorem overwrites_of_not_findsFreeSlot {before : List IsppCall}
    {call : IsppCall} (hbefore : EachFindsFreeSlot before)
    (hdistinct : ((before ++ [call]).map IsppCall.devpath).Nodup)
    (hfinds : ¬ FindsFreeSlot before call) :
    ∃ slot, (registerIspp before slot).mediaDevPath ≠ [] ∧
      registerIspp (before ++ [call]) slot ≠ registerIspp before slot := by
  have hplaced := hbefore.placedBy (hdistinct.sublist
    ((List.prefix_append before [call]).sublist.map _))
  have hother := hplaced.path_ne (not_mem_of_nodup_append hdistinct)
  rw [FindsFreeSlot] at hfinds
  by_cases hswapped : call.swapped = true
  · -- all twenty slots are taken, and the last one inspected is the last
    rw [if_pos hswapped] at hfinds
    have hlength : before.length = maxCamNum :=
      le_antisymm hbefore.length_le (not_lt.mp hfinds)
    have htaken : ∀ slot < maxCamNum,
        (registerIspp before slot).mediaDevPath ≠ [] := by
      intro slot hslot
      refine hplaced.path_ne_nil ?_
      rw [hlength, slotOrder_lt_iff _ (by decide)]
      exact hslot
    have hsearch : call.search (registerIspp before) = some 19 := by
      rw [IsppCall.search, hswapped]
      refine isppSearch_swapped_full (List.range 19) 19 0 ?_
      intro j hj
      have hbound : j < maxCamNum := List.mem_range.mp hj
      exact ⟨htaken _ ((swapFirst_lt_iff (by decide)).mpr hbound), hother _⟩
    exact ⟨19, htaken 19 (by decide),
      overwrites_of_search hsearch (by decide) (hother 19)⟩
  · rw [if_neg hswapped, not_or] at hfinds
    have hsearch : call.search (registerIspp before) = some 0 := by
      rw [IsppCall.search, Bool.eq_false_iff.mpr hswapped]
      exact isppSearch_unswapped _ 0 (hother 0)
    have hne : 0 < before.length := List.length_pos_of_ne_nil hfinds.1
    have htaken : slotOrder before 0 < before.length := by
      rw [slotOrder]
      split
      · rename_i hfirst
        have hone : before.length ≠ 1 := fun hone => hfinds.2 ⟨hone, hfirst⟩
        show 1 < before.length
        omega
      · exact hne
    exact ⟨0, hplaced.path_ne_nil htaken,
      overwrites_of_search hsearch (by decide) (hother 0)⟩

theorem NoneOverwritten.eachFindsFreeSlot {calls : List IsppCall}
    (h : NoneOverwritten calls)
    (hdistinct : (calls.map IsppCall.devpath).Nodup) :
    EachFindsFreeSlot calls := by
  induction calls using List.reverseRecOn with
  | nil =>
      intro before call hearlier
      simp at hearlier
  | append_singleton earlier last ih =>
      have hbegins : earlier <+: earlier ++ [last] := List.prefix_append _ _
      have hearlier : EachFindsFreeSlot earlier :=
        ih (fun before call hcall => h before call (hcall.trans hbegins))
          (hdistinct.sublist (hbegins.sublist.map _))
      intro before call hcall
      rcases List.prefix_concat_iff.mp hcall with heq | hwithin
      · obtain ⟨rfl, hlast⟩ := List.append_inj' heq rfl
        obtain rfl : call = last := by simpa using hlast
        by_contra hfinds
        obtain ⟨slot, htaken, hchanged⟩ :=
          overwrites_of_not_findsFreeSlot hearlier hdistinct hfinds
        exact hchanged (h before call List.prefix_rfl slot htaken)
      · exact hearlier before call hwithin

theorem EachFindsFreeSlot.noneOverwritten {calls : List IsppCall}
    (h : EachFindsFreeSlot calls)
    (hdistinct : (calls.map IsppCall.devpath).Nodup) :
    NoneOverwritten calls := by
  intro before call hcall slot htaken
  have hdistinct' := hdistinct.sublist (hcall.sublist.map IsppCall.devpath)
  have hearlier : before <+: before ++ [call] := List.prefix_append _ _
  have hplaced := (h.of_earlier (hearlier.trans hcall)).placedBy
    (hdistinct'.sublist (hearlier.sublist.map _))
  have hother : slot ≠ slotOrder (before ++ [call]) before.length := by
    rintro rfl
    refine htaken ((registerIspp_placed call hplaced).free ?_)
    rw [slotOrder_slotOrder]
  rw [registerIspp_step hplaced hdistinct' (h.of_earlier hcall),
    Function.update_of_ne hother]

theorem EachFindsFreeSlot.eachPathHasOneSlot {calls : List IsppCall}
    (h : EachFindsFreeSlot calls)
    (hdistinct : (calls.map IsppCall.devpath).Nodup) :
    EachPathHasOneSlot calls := by
  intro before hearlier call hmem
  have hdistinct' := hdistinct.sublist (hearlier.sublist.map IsppCall.devpath)
  have hplaced := (h.of_earlier hearlier).placedBy hdistinct'
  obtain ⟨n, hn, hcall⟩ := List.getElem_of_mem hmem
  refine ⟨slotOrder before n, ⟨?_, ?_⟩, ?_⟩
  · rw [slotOrder_lt_iff _ (by decide)]
    exact hn.trans_le (h.of_earlier hearlier).length_le
  · rw [hplaced, slotOrder_slotOrder, List.getElem?_eq_getElem hn, hcall]
    rfl
  · rintro slot ⟨-, hpath⟩
    have hbound : slotOrder before slot < before.length := by
      by_contra hfree
      rw [hplaced.free (not_lt.mp hfree)] at hpath
      exact call.devpath_ne hpath.symm
    rw [hplaced, List.getElem?_eq_getElem hbound, ← hcall] at hpath
    have hbound' : slotOrder before slot
        < (before.map IsppCall.devpath).length := by
      rwa [List.length_map]
    have hn' : n < (before.map IsppCall.devpath).length := by
      rwa [List.length_map]
    have hget : (before.map IsppCall.devpath)[slotOrder before slot]
        = (before.map IsppCall.devpath)[n] := by
      rw [List.getElem_map, List.getElem_map]
      exact hpath
    have hsame : slotOrder before slot = n :=
      (List.Nodup.getElem_inj_iff hdistinct').mp hget
    rw [← hsame, slotOrder_slotOrder]

/-- Distinct paths keep their slots in exactly the sequences whose calls all
find a free slot. -/
theorem isppRegistration_kept_iff (calls : List IsppCall)
    (hdistinct : (calls.map IsppCall.devpath).Nodup) :
    (EachPathHasOneSlot calls ∧ NoneOverwritten calls) ↔
      EachFindsFreeSlot calls := by
  constructor
  · exact fun h => h.2.eachFindsFreeSlot hdistinct
  · exact fun h =>
      ⟨h.eachPathHasOneSlot hdistinct, h.noneOverwritten hdistinct⟩

/-- The post-processor of `/dev/mediaN`, met without any ISP device. -/
def isppAlone (id : ℕ) : IsppCall where
  ispTable := rkAiqMedia (fun _ => -1) (fun _ => 0)
  id := id
  device := { model := ascii "rkispp0", entities := [] }
  devpath := mediaPath id
  devpath_ne := mediaPath_ne_nil id

theorem isppRegistration_kept_iff_two_devices :
    (EachPathHasOneSlot [isppAlone 0, isppAlone 1] ∧
        NoneOverwritten [isppAlone 0, isppAlone 1]) ↔
      EachFindsFreeSlot [isppAlone 0, isppAlone 1] :=
  isppRegistration_kept_iff _ (by decide)

/-- The second of two post-processors takes the slot of the first one. -/
theorem isppRegistration_not_kept :
    ¬ ∀ calls : List IsppCall, (calls.map IsppCall.devpath).Nodup →
      EachPathHasOneSlot calls ∧ NoneOverwritten calls := by
  intro h
  have hkept := (h [isppAlone 0, isppAlone 1] (by decide)).2
  have hsame := hkept [isppAlone 0] (isppAlone 1) List.prefix_rfl 0 (by decide)
  have hpath := congrArg IsppInfo.mediaDevPath hsame
  exact absurd hpath (by decide)

end RkaiqToolServer
