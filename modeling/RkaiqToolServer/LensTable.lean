import RkaiqToolServer.MediaInfo
import RkaiqToolServer.MemoryAccess

/-!
# The lens and flash table

`GetLensSubDevs` is called once for each sensor of a device and appends the
flashes of the sensor's module to two arrays of two names.  Nothing bounds the
counters and no call resets them; the constructor leaves them as they are in
memory.
-/

namespace RkaiqToolServer

open ByteCodec MemoryAccess

def mediaEntTV4l2SubdevFlash : ℕ := 0x00020002
def mediaEntTV4l2SubdevLens : ℕ := 0x00020003
def sensorAttachedFlashMaxNum : ℕ := 2

structure LensEntity extends MediaEntity where
  flags : ℕ

structure LensDevice where
  model : List UInt8
  entities : List LensEntity

def LensDevice.mediaDevice (device : LensDevice) : MediaDevice where
  model := device.model
  entities := device.entities.map LensEntity.toMediaEntity

inductive FlashKind
  | flash
  | flashIr
  deriving DecidableEq

/-- The arrays go on past their ends, where a write changes other memory. -/
structure LensInfo where
  modelIdx : ℤ
  sensorName : List UInt8
  sensorSubdevPath : List UInt8
  mediaDevPath : List UInt8
  moduleLensDevName : List UInt8
  moduleIrcutDevName : List UInt8
  flashNum : ℤ
  moduleFlashDevName : ℤ → List UInt8
  flashIrNum : ℤ
  moduleFlashIrDevName : ℤ → List UInt8

def LensInfo.counter (info : LensInfo) : FlashKind → ℤ
  | .flash => info.flashNum
  | .flashIr => info.flashIrNum

structure FlashArray where
  slot : ℕ
  kind : FlashKind
  deriving DecidableEq

def LensInfo.append (info : LensInfo) (devname : List UInt8) :
    FlashKind → LensInfo
  | .flash =>
      { info with
        flashNum := info.flashNum + 1
        moduleFlashDevName :=
          Function.update info.moduleFlashDevName info.flashNum devname }
  | .flashIr =>
      { info with
        flashIrNum := info.flashIrNum + 1
        moduleFlashIrDevName :=
          Function.update info.moduleFlashIrDevName info.flashIrNum devname }

/-! ## A call -/

/-- The name starts with `m` and agrees with the sensor's in three bytes. -/
def LensEntity.ofModule (entity : LensEntity) (sensorName : List UInt8) :
    Bool :=
  entity.name.head? = some 0x6d && entity.name.take 3 = sensorName.take 3

def LensEntity.flashKind (entity : LensEntity) (sensorName : List UInt8) :
    Option FlashKind :=
  if entity.type = mediaEntTV4l2SubdevFlash ∧
      entity.ofModule sensorName = true then
    some (if ascii "-ir" <:+: entity.name then .flashIr else .flash)
  else none

def scanEntity (slot : ℕ) (entity : LensEntity) (info : LensInfo) :
    LensInfo × List (Access FlashArray) :=
  if entity.type = mediaEntTV4l2SubdevLens then
    if entity.ofModule info.sensorName = true then
      if entity.flags = 1 then
        ({ info with moduleIrcutDevName := entity.devname }, [])
      else ({ info with moduleLensDevName := entity.devname }, [])
    else (info, [])
  else
    match entity.flashKind info.sensorName with
    | some kind =>
        (info.append entity.devname kind,
          [⟨⟨slot, kind⟩, info.counter kind, 1⟩])
    | none => (info, [])

def scanEntities (slot : ℕ) :
    List LensEntity → LensInfo → LensInfo × List (Access FlashArray)
  | [], info => (info, [])
  | entity :: rest, info =>
      let first := scanEntity slot entity info
      let later := scanEntities slot rest first.1
      (later.1, first.2 ++ later.2)

/-- The slot whose sensor the device carries, with the ISP or CIF entry that
has the sensor's name. -/
def lensTarget (table : MediaTable) (device : MediaDevice) :
    List ℕ → Option (ℕ × SensorInfo)
  | [] => none
  | index :: rest =>
      if isLinkSensor device index = 0 then lensTarget table device rest
      else if table.path .isp index ≠ [] ∧
          (table.entry .isp index).linkedSensor ≠ 0 then
        some (index, table.entry .isp index)
      else if table.path .cif index ≠ [] ∧
          (table.entry .cif index).linkedSensor ≠ 0 then
        some (index, table.entry .cif index)
      else none

/-- A call with the ISP and CIF entries it meets. -/
structure LensCall where
  table : MediaTable
  id : ℤ
  device : LensDevice
  devpath : List UInt8
  count : ℕ

def LensCall.target (call : LensCall) : Option (ℕ × SensorInfo) :=
  lensTarget call.table call.device.mediaDevice (List.range maxCamNum)

/-- The entry is scanned again unless it has the call's path. -/
def LensCall.scans (call : LensCall) (path : List UInt8) : Prop :=
  path = [] ∨ path ≠ call.devpath

instance (call : LensCall) (path : List UInt8) :
    Decidable (call.scans path) :=
  inferInstanceAs (Decidable (_ ∨ _))

def LensInfo.ofSensor (info : LensInfo) (sensor : SensorInfo) : LensInfo :=
  { info with
    sensorName := sensor.sensorName
    sensorSubdevPath := sensor.sensorSubdevPath }

def LensInfo.enter (info : LensInfo) (call : LensCall) : LensInfo :=
  { info with modelIdx := call.id, mediaDevPath := call.devpath }

structure LensState where
  lens : ℕ → LensInfo
  writes : List (Access FlashArray)

def getLensSubDevs (state : LensState) (call : LensCall) : LensState :=
  match call.target with
  | none => state
  | some (index, sensor) =>
      let info := (state.lens index).ofSensor sensor
      if call.scans info.mediaDevPath then
        let scanned := scanEntities index (call.device.entities.take call.count)
          (info.enter call)
        { lens := Function.update state.lens index scanned.1
          writes := state.writes ++ scanned.2 }
      else { state with lens := Function.update state.lens index info }

/-- The constructor sets none of the numbers. -/
def lensInitial (unsetModel unsetFlash unsetFlashIr : ℕ → ℤ) :
    LensState where
  lens := fun slot =>
    { modelIdx := unsetModel slot
      sensorName := []
      sensorSubdevPath := []
      mediaDevPath := []
      moduleLensDevName := []
      moduleIrcutDevName := []
      flashNum := unsetFlash slot
      moduleFlashDevName := fun _ => []
      flashIrNum := unsetFlashIr slot
      moduleFlashIrDevName := fun _ => [] }
  writes := []

def LensState.run (state : LensState) (calls : List LensCall) : LensState :=
  calls.foldl getLensSubDevs state

/-! ## Bounds -/

/-- The call when it has come to the entity `n`. -/
def LensCall.upTo (call : LensCall) (n : ℕ) : LensCall :=
  { call with count := min n call.count }

def LensInfo.CountersInBounds (info : LensInfo) : Prop :=
  ∀ kind, 0 ≤ info.counter kind ∧
    info.counter kind ≤ sensorAttachedFlashMaxNum

/-- Between the calls and after every entity of a call the counters of the
slot are in bounds, and so is every element written. -/
structure LensInBounds (state : LensState) (slot : ℕ)
    (calls : List LensCall) : Prop where
  between : ∀ before, before <+: calls →
    ((state.run before).lens slot).CountersInBounds
  within : ∀ before call n, before ++ [call] <+: calls →
    ((state.run (before ++ [call.upTo n])).lens slot).CountersInBounds
  writes : ∀ access ∈ (state.run calls).writes, access.buffer.slot = slot →
    access.Inside fun _ => sensorAttachedFlashMaxNum

def LensCall.matching (call : LensCall) (sensor : SensorInfo)
    (kind : FlashKind) : ℕ :=
  (call.device.entities.take call.count).countP fun entity =>
    entity.flashKind sensor.sensorName = some kind

/-- How many flashes the calls append to an array of the slot, which has
`path` before them. -/
def flashTotal (slot : ℕ) (kind : FlashKind) :
    List UInt8 → List LensCall → ℕ
  | _, [] => 0
  | path, call :: rest =>
      match call.target with
      | none => flashTotal slot kind path rest
      | some (index, sensor) =>
          if index = slot then
            (if call.scans path then call.matching sensor kind else 0) +
              flashTotal slot kind call.devpath rest
          else flashTotal slot kind path rest

/-! ## Scanning -/

theorem LensInfo.append_counter (info : LensInfo) (devname : List UInt8)
    (kind kind' : FlashKind) :
    (info.append devname kind).counter kind' =
      info.counter kind' + if kind = kind' then 1 else 0 := by
  cases kind <;> cases kind' <;> simp [LensInfo.append, LensInfo.counter]

theorem LensInfo.ofSensor_counter (info : LensInfo) (sensor : SensorInfo)
    (kind : FlashKind) :
    (info.ofSensor sensor).counter kind = info.counter kind := by
  cases kind <;> rfl

theorem LensInfo.enter_counter (info : LensInfo) (call : LensCall)
    (kind : FlashKind) : (info.enter call).counter kind = info.counter kind := by
  cases kind <;> rfl

theorem LensInfo.append_mediaDevPath (info : LensInfo) (devname : List UInt8)
    (kind : FlashKind) :
    (info.append devname kind).mediaDevPath = info.mediaDevPath := by
  cases kind <;> rfl

theorem LensInfo.append_sensorName (info : LensInfo) (devname : List UInt8)
    (kind : FlashKind) :
    (info.append devname kind).sensorName = info.sensorName := by
  cases kind <;> rfl

theorem LensEntity.flashKind_lens {entity : LensEntity}
    (hlens : entity.type = mediaEntTV4l2SubdevLens)
    (sensorName : List UInt8) : entity.flashKind sensorName = none := by
  rw [LensEntity.flashKind, if_neg]
  rw [hlens]
  exact fun h => absurd h.1 (by decide)

/-- A write to an element between the values of a counter before and after
it. -/
def WritesBetween (before after : LensInfo) (access : Access FlashArray) :
    Prop :=
  ∃ kind, access.length = 1 ∧ before.counter kind ≤ access.offset ∧
    access.offset < after.counter kind

theorem WritesBetween.mono {before after first last : LensInfo}
    {access : Access FlashArray} (h : WritesBetween before after access)
    (hfirst : ∀ kind, first.counter kind ≤ before.counter kind)
    (hlast : ∀ kind, after.counter kind ≤ last.counter kind) :
    WritesBetween first last access := by
  obtain ⟨kind, hlength, hlow, hhigh⟩ := h
  exact ⟨kind, hlength, (hfirst kind).trans hlow,
    lt_of_lt_of_le hhigh (hlast kind)⟩

/-- What an entity does to the entry, its flashes apart. -/
structure ScanSpec (slot : ℕ) (info : LensInfo) (appended : FlashKind → ℕ)
    (result : LensInfo × List (Access FlashArray)) : Prop where
  path : result.1.mediaDevPath = info.mediaDevPath
  name : result.1.sensorName = info.sensorName
  counter : ∀ kind, result.1.counter kind = info.counter kind + appended kind
  writes : ∀ access ∈ result.2, access.buffer.slot = slot ∧
    WritesBetween info result.1 access

theorem ScanSpec.counter_le {slot : ℕ} {info : LensInfo}
    {appended : FlashKind → ℕ} {result : LensInfo × List (Access FlashArray)}
    (h : ScanSpec slot info appended result) (kind : FlashKind) :
    info.counter kind ≤ result.1.counter kind := by
  rw [h.counter]
  exact le_add_of_nonneg_right (Int.natCast_nonneg _)

theorem scanEntity_spec (slot : ℕ) (entity : LensEntity) (info : LensInfo) :
    ScanSpec slot info
      (fun kind =>
        if entity.flashKind info.sensorName = some kind then 1 else 0)
      (scanEntity slot entity info) := by
  rw [scanEntity]
  by_cases hlens : entity.type = mediaEntTV4l2SubdevLens
  · rw [if_pos hlens]
    have hnone := LensEntity.flashKind_lens hlens info.sensorName
    split
    · split <;> exact ⟨rfl, rfl, by intro kind; cases kind <;>
        simp [hnone, LensInfo.counter], by simp⟩
    · exact ⟨rfl, rfl, by simp [hnone], by simp⟩
  · rw [if_neg hlens]
    cases hkind : entity.flashKind info.sensorName with
    | none => exact ⟨rfl, rfl, by simp, by simp⟩
    | some kind =>
        refine ⟨info.append_mediaDevPath _ _, info.append_sensorName _ _, ?_, ?_⟩
        · intro kind'
          rw [info.append_counter]
          simp
        · intro access haccess
          rw [List.mem_singleton] at haccess
          subst haccess
          refine ⟨rfl, kind, rfl, le_rfl, ?_⟩
          rw [info.append_counter, if_pos rfl]
          exact Int.lt_succ _

theorem scanEntities_spec (slot : ℕ) (entities : List LensEntity)
    (info : LensInfo) :
    ScanSpec slot info
      (fun kind => entities.countP fun entity =>
        entity.flashKind info.sensorName = some kind)
      (scanEntities slot entities info) := by
  induction entities generalizing info with
  | nil => exact ⟨rfl, rfl, by simp [scanEntities], by simp [scanEntities]⟩
  | cons entity rest ih =>
      have hfirst := scanEntity_spec slot entity info
      have hrest := ih (scanEntity slot entity info).1
      rw [hfirst.name] at hrest
      constructor
      · exact hrest.path.trans hfirst.path
      · exact hrest.name.trans hfirst.name
      · intro kind
        rw [scanEntities, hrest.counter, hfirst.counter, List.countP_cons]
        simp only [decide_eq_true_eq]
        push_cast
        ring
      · intro access haccess
        rw [scanEntities, List.mem_append] at haccess
        rcases haccess with haccess | haccess
        · obtain ⟨hslot, hbetween⟩ := hfirst.writes access haccess
          exact ⟨hslot, hbetween.mono (fun _ => le_rfl) hrest.counter_le⟩
        · obtain ⟨hslot, hbetween⟩ := hrest.writes access haccess
          exact ⟨hslot, hbetween.mono hfirst.counter_le fun _ => le_rfl⟩

/-! ## Calls -/

structure CallSpec (slot : ℕ) (state : LensState) (call : LensCall)
    (next : LensState) : Prop where
  counter : ∀ kind rest,
    (next.lens slot).counter kind +
        flashTotal slot kind (next.lens slot).mediaDevPath rest =
      (state.lens slot).counter kind +
        flashTotal slot kind (state.lens slot).mediaDevPath (call :: rest)
  grows : ∀ kind,
    (state.lens slot).counter kind ≤ (next.lens slot).counter kind
  writes : ∀ access ∈ next.writes, access ∈ state.writes ∨
    (access.buffer.slot = slot →
      WritesBetween (state.lens slot) (next.lens slot) access)

theorem LensCall.not_scans {call : LensCall} {path : List UInt8}
    (h : ¬ call.scans path) : path = call.devpath := by
  rw [LensCall.scans, not_or, not_not] at h
  exact h.2

theorem CallSpec.of_other {slot : ℕ} {state next : LensState}
    {call : LensCall} (hlens : next.lens slot = state.lens slot)
    (htarget : ∀ sensor, call.target ≠ some (slot, sensor))
    (hwrites : ∀ access ∈ next.writes,
      access ∈ state.writes ∨ access.buffer.slot ≠ slot) :
    CallSpec slot state call next where
  counter := by
    intro kind rest
    rw [hlens, flashTotal]
    split
    · rfl
    · rename_i index sensor hsome
      have hother : index ≠ slot := by
        rintro rfl
        exact htarget sensor hsome
      rw [if_neg hother]
  grows := by
    intro kind
    rw [hlens]
  writes := by
    intro access haccess
    rcases hwrites access haccess with hold | hother
    · exact .inl hold
    · exact .inr fun hslot => absurd hslot hother

theorem CallSpec.of_scans {slot : ℕ} {state : LensState} {call : LensCall}
    {sensor : SensorInfo} (htarget : call.target = some (slot, sensor))
    (hscans : call.scans (state.lens slot).mediaDevPath) :
    CallSpec slot state call (getLensSubDevs state call) := by
  set info := ((state.lens slot).ofSensor sensor).enter call with hinfo
  have hscan := scanEntities_spec slot
    (call.device.entities.take call.count) info
  have hcounter : ∀ kind, info.counter kind =
      (state.lens slot).counter kind := by
    intro kind
    rw [hinfo, LensInfo.enter_counter, LensInfo.ofSensor_counter]
  have hnext : getLensSubDevs state call =
      { lens := Function.update state.lens slot
          (scanEntities slot (call.device.entities.take call.count) info).1
        writes := state.writes ++
          (scanEntities slot (call.device.entities.take call.count) info).2 } := by
    simp only [getLensSubDevs, htarget]
    exact if_pos hscans
  have hadded : ∀ kind, (scanEntities slot
      (call.device.entities.take call.count) info).1.counter kind =
      (state.lens slot).counter kind + call.matching sensor kind := by
    intro kind
    rw [hscan.counter, hcounter]
    rfl
  rw [hnext]
  constructor
  · intro kind rest
    simp only [Function.update_self]
    rw [hscan.path, hadded]
    simp only [flashTotal, htarget, if_true, if_pos hscans]
    push_cast
    exact add_assoc _ _ _
  · intro kind
    simp only [Function.update_self]
    rw [hadded]
    exact le_add_of_nonneg_right (Int.natCast_nonneg _)
  · intro access haccess
    rcases List.mem_append.mp haccess with hold | hnew
    · exact .inl hold
    · refine .inr fun _ => ?_
      simp only [Function.update_self]
      exact (hscan.writes access hnew).2.mono
        (fun kind => (hcounter kind).ge) fun _ => le_rfl

theorem CallSpec.of_not_scans {slot : ℕ} {state : LensState}
    {call : LensCall} {sensor : SensorInfo}
    (htarget : call.target = some (slot, sensor))
    (hscans : ¬ call.scans (state.lens slot).mediaDevPath) :
    CallSpec slot state call (getLensSubDevs state call) := by
  have hnext : getLensSubDevs state call =
      { state with
        lens := Function.update state.lens slot
          ((state.lens slot).ofSensor sensor) } := by
    simp only [getLensSubDevs, htarget]
    exact if_neg hscans
  have hpath : ((state.lens slot).ofSensor sensor).mediaDevPath =
      call.devpath := LensCall.not_scans hscans
  rw [hnext]
  constructor
  · intro kind rest
    simp only [Function.update_self]
    rw [hpath, LensInfo.ofSensor_counter]
    simp only [flashTotal, htarget, if_true, if_neg hscans, zero_add]
  · intro kind
    simp only [Function.update_self]
    rw [LensInfo.ofSensor_counter]
  · exact fun access haccess => .inl haccess

theorem getLensSubDevs_spec (slot : ℕ) (state : LensState)
    (call : LensCall) :
    CallSpec slot state call (getLensSubDevs state call) := by
  cases htarget : call.target with
  | none =>
      have hnext : getLensSubDevs state call = state := by
        simp only [getLensSubDevs, htarget]
      rw [hnext]
      exact CallSpec.of_other rfl (by simp [htarget]) fun _ h => .inl h
  | some target =>
      obtain ⟨index, sensor⟩ := target
      by_cases hslot : index = slot
      · subst hslot
        by_cases hscans : call.scans (state.lens index).mediaDevPath
        · exact CallSpec.of_scans htarget hscans
        · exact CallSpec.of_not_scans htarget hscans
      · have hother : slot ≠ index := fun h => hslot h.symm
        refine CallSpec.of_other ?_ ?_ ?_
        · simp only [getLensSubDevs, htarget]
          split <;> exact Function.update_of_ne hother ..
        · intro sensor' hsame
          rw [htarget, Option.some.injEq, Prod.mk.injEq] at hsame
          exact hslot hsame.1
        · intro access haccess
          simp only [getLensSubDevs, htarget] at haccess
          split at haccess
          · rcases List.mem_append.mp haccess with hold | hnew
            · exact .inl hold
            · have hindex := ((scanEntities_spec ..).writes access hnew).1
              refine .inr ?_
              rw [hindex]
              exact hslot
          · exact .inl haccess

/-! ## Runs -/

theorem LensState.run_counter (slot : ℕ) (kind : FlashKind)
    (state : LensState) (calls : List LensCall) :
    ((state.run calls).lens slot).counter kind =
      (state.lens slot).counter kind +
        flashTotal slot kind (state.lens slot).mediaDevPath calls := by
  induction calls generalizing state with
  | nil => simp [LensState.run, flashTotal]
  | cons call rest ih =>
      rw [← (getLensSubDevs_spec slot state call).counter]
      exact ih (getLensSubDevs state call)

theorem LensState.counter_le_run (slot : ℕ) (kind : FlashKind)
    (state : LensState) (calls : List LensCall) :
    (state.lens slot).counter kind ≤
      ((state.run calls).lens slot).counter kind := by
  rw [LensState.run_counter]
  exact le_add_of_nonneg_right (Int.natCast_nonneg _)

/-- The elements written lie between the counter before the calls and the one
after them. -/
theorem LensState.run_writes (slot : ℕ) (state : LensState)
    (calls : List LensCall) :
    ∀ access ∈ (state.run calls).writes, access ∈ state.writes ∨
      (access.buffer.slot = slot → WritesBetween (state.lens slot)
        ((state.run calls).lens slot) access) := by
  induction calls generalizing state with
  | nil => exact fun access haccess => .inl haccess
  | cons call rest ih =>
      intro access haccess
      have hcall := getLensSubDevs_spec slot state call
      rcases ih (getLensSubDevs state call) access haccess with hbefore | hlater
      · rcases hcall.writes access hbefore with hold | hnew
        · exact .inl hold
        · exact .inr fun hslot => (hnew hslot).mono (fun _ => le_rfl)
            fun _ => LensState.counter_le_run ..
      · exact .inr fun hslot => (hlater hslot).mono hcall.grows
          fun _ => le_rfl

theorem flashTotal_append_le (slot : ℕ) (kind : FlashKind)
    (path : List UInt8) (before after : List LensCall) :
    flashTotal slot kind path before ≤
      flashTotal slot kind path (before ++ after) := by
  induction before generalizing path with
  | nil => exact Nat.zero_le _
  | cons call rest ih =>
      simp only [List.cons_append, flashTotal]
      split
      · exact ih path
      · split
        · exact Nat.add_le_add_left (ih call.devpath) _
        · exact ih path

theorem LensCall.matching_upTo_le (call : LensCall) (n : ℕ)
    (sensor : SensorInfo) (kind : FlashKind) :
    (call.upTo n).matching sensor kind ≤ call.matching sensor kind := by
  refine List.Sublist.countP_le ?_
  rw [show (call.upTo n).device.entities.take (call.upTo n).count =
    (call.device.entities.take call.count).take n from (List.take_take ..).symm]
  exact List.take_sublist _ _

theorem flashTotal_upTo_le (slot : ℕ) (kind : FlashKind) (path : List UInt8)
    (before : List LensCall) (call : LensCall) (n : ℕ) :
    flashTotal slot kind path (before ++ [call.upTo n]) ≤
      flashTotal slot kind path (before ++ [call]) := by
  induction before generalizing path with
  | nil =>
      simp only [List.nil_append, flashTotal,
        show (call.upTo n).target = call.target from rfl]
      split
      · exact le_rfl
      · split
        · refine Nat.add_le_add_right ?_ _
          by_cases hscans : call.scans path
          · have hupTo : (call.upTo n).scans path := hscans
            rw [if_pos hscans, if_pos hupTo]
            exact call.matching_upTo_le n _ kind
          · have hupTo : ¬ (call.upTo n).scans path := hscans
            rw [if_neg hscans, if_neg hupTo]
        · exact le_rfl
  | cons first rest ih =>
      simp only [List.cons_append, flashTotal]
      split
      · exact ih path
      · split
        · exact Nat.add_le_add_left (ih first.devpath) _
        · exact ih path

/-- The table is safe as long as the counters start in bounds and the flashes
scanned fit in what is left of the arrays. -/
theorem lensTable_inBounds_iff (unsetModel unsetFlash unsetFlashIr : ℕ → ℤ)
    (slot : ℕ) (calls : List LensCall) :
    LensInBounds (lensInitial unsetModel unsetFlash unsetFlashIr) slot calls ↔
      ∀ kind, 0 ≤ ((lensInitial unsetModel unsetFlash
          unsetFlashIr).lens slot).counter kind ∧
        ((lensInitial unsetModel unsetFlash unsetFlashIr).lens slot).counter
            kind + flashTotal slot kind [] calls ≤
          sensorAttachedFlashMaxNum := by
  set initial := lensInitial unsetModel unsetFlash unsetFlashIr with hinitial
  have hcounter : ∀ kind calls, ((initial.run calls).lens slot).counter kind =
      (initial.lens slot).counter kind + flashTotal slot kind [] calls :=
    fun kind calls => LensState.run_counter slot kind initial calls
  constructor
  · intro h kind
    have hfirst := h.between [] (List.nil_prefix) kind
    have hlast := h.between calls List.prefix_rfl kind
    rw [hcounter] at hlast
    exact ⟨hfirst.1, hlast.2⟩
  · intro h
    have hbounds : ∀ part, (∀ kind, flashTotal slot kind [] part ≤
        flashTotal slot kind [] calls) →
          ((initial.run part).lens slot).CountersInBounds := by
      intro part hle kind
      obtain ⟨hlow, hhigh⟩ := h kind
      have hkind := hle kind
      rw [hcounter]
      constructor <;> omega
    constructor
    · rintro before ⟨after, rfl⟩
      exact hbounds before fun kind => flashTotal_append_le ..
    · rintro before call n ⟨after, rfl⟩
      exact hbounds _ fun kind =>
        (flashTotal_upTo_le ..).trans (flashTotal_append_le ..)
    · intro access haccess hslot
      rcases initial.run_writes slot calls access haccess with hold | hnew
      · simp [hinitial, lensInitial] at hold
      · obtain ⟨kind, hlength, hlow, hhigh⟩ := hnew hslot
        obtain ⟨hfirst, hlast⟩ := h kind
        rw [hcounter] at hhigh
        rw [Access.inside_iff]
        right
        constructor
        · exact le_trans hfirst hlow
        · rw [hlength]
          push_cast
          omega

/-- A sensor with three flashes, entered as an ISP device before. -/
def threeFlashes : LensCall where
  table := (rkAiqMedia (fun _ => -1) fun _ => 0).set .isp 0
    { modelIdx := 0
      linkedSensor := 1
      sensorName := ascii "m00_b_ov4689"
      sensorSubdevPath := ascii "/dev/v4l-subdev3"
      mediaDevPath := mediaPath 0 }
  id := 0
  device :=
    { model := ascii "rkisp0"
      entities :=
        { type := mediaEntTV4l2SubdevSensor, name := ascii "m00_b_ov4689"
          devname := ascii "/dev/v4l-subdev3", flags := 0 } ::
        ["m00_b_flash0", "m00_b_flash1", "m00_b_flash2"].map fun name =>
          { type := mediaEntTV4l2SubdevFlash, name := ascii name
            devname := ascii "/dev/v4l-subdev4", flags := 0 } }
  devpath := mediaPath 0
  count := 4

/-- The third flash is one too many, even with counters that start at zero. -/
theorem lensTable_not_inBounds :
    ¬ ∀ (unsetModel unsetFlash unsetFlashIr : ℕ → ℤ) (slot : ℕ)
      (calls : List LensCall),
      LensInBounds (lensInitial unsetModel unsetFlash unsetFlashIr) slot
        calls := by
  intro h
  have hcounter := (h (fun _ => 0) (fun _ => 0) (fun _ => 0) 0
    [threeFlashes]).between [threeFlashes] List.prefix_rfl .flash
  rw [LensState.run_counter] at hcounter
  have htotal : flashTotal 0 .flash [] [threeFlashes] = 3 := by decide
  have hpath : ((lensInitial (fun _ => 0) (fun _ => 0)
      fun _ => 0).lens 0).mediaDevPath = [] := rfl
  rw [hpath, htotal] at hcounter
  exact absurd hcounter.2 (by decide)

end RkaiqToolServer
