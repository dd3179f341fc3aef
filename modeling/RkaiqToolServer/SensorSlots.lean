import RkaiqToolServer.MediaInfo

/-!
# The slots the devices take

On a board every device carries at most one sensor and the sensors have
different one-digit module indices.  A CIF or DVP device with a sensor always
finds the slot of its module index free; the slot of an ISP device is the
number of ISP devices before it.  `Entered` says what the table holds after
the devices below a number, and each device's function keeps it.
-/

namespace RkaiqToolServer

open ByteCodec

/-- The entity's name starts with `m0` and the digit `index`. -/
def MediaEntity.HasModuleIndex (entity : MediaEntity) (index : ℕ) : Prop :=
  index < 10 ∧ sensorIndexStr index <+: entity.name

instance (entity : MediaEntity) (index : ℕ) :
    Decidable (entity.HasModuleIndex index) :=
  inferInstanceAs (Decidable (_ ∧ _))

def MediaDevice.sensor (device : MediaDevice) : Option MediaEntity :=
  device.entities.find? MediaEntity.isSensor

/-- A numbering of media devices as `/dev/mediaN`. -/
structure Board where
  device : ℕ → Option MediaDevice
  kind : ∀ {id device'}, device id = some device' → ∃ k, device'.kind = some k
  oneSensor : ∀ {id device'}, device id = some device' →
    (device'.entities.filter MediaEntity.isSensor).length ≤ 1
  indexed : ∀ {id device' entity}, device id = some device' →
    device'.sensor = some entity → ∃ index, entity.HasModuleIndex index
  distinct : ∀ {id device' entity id' device'' entity' index},
    device id = some device' → device'.sensor = some entity →
    device id' = some device'' → device''.sensor = some entity' →
    entity.HasModuleIndex index → entity'.HasModuleIndex index → id = id'

def Board.nodes (board : Board) (id : ℕ) : MediaNode :=
  match board.device id with
  | some device => .present device
  | none => .absent

def Board.isIsp (board : Board) (id : ℕ) : Bool :=
  (board.device id).any fun device => device.kind = some .isp

/-- The slot of an ISP device: the number of ISP devices numbered below it. -/
def Board.ispRank (board : Board) (id : ℕ) : ℕ :=
  Nat.count (fun n => board.isIsp n) id

/-! ## The sensor a device links -/

theorem MediaEntity.HasModuleIndex.name_ne_nil {entity : MediaEntity}
    {index : ℕ} (h : entity.HasModuleIndex index) : entity.name ≠ [] := by
  intro hnil
  have hprefix := h.2
  rw [hnil, List.prefix_nil] at hprefix
  simp [sensorIndexStr, ascii, String.toList_append] at hprefix

theorem take_sensorIndexStr : ∀ camIndex < maxCamNum, ∀ index < 10,
    ((sensorIndexStr camIndex).take 3 = sensorIndexStr index ↔
      camIndex = index ∨ 10 ≤ camIndex ∧ index = 1) := by
  decide

theorem length_sensorIndexStr : ∀ index < 10,
    (sensorIndexStr index).length = 3 := by
  decide

/-- Past the digits, `m010` to `m019` are all compared as `m01`. -/
theorem MediaEntity.HasModuleIndex.named_iff {entity : MediaEntity}
    {index camIndex : ℕ} (h : entity.HasModuleIndex index)
    (hcam : camIndex < maxCamNum) :
    entity.named camIndex = true ↔
      camIndex = index ∨ 10 ≤ camIndex ∧ index = 1 := by
  have htake : entity.name.take 3 = sensorIndexStr index := by
    obtain ⟨rest, hrest⟩ := h.2
    rw [← hrest, ← length_sensorIndexStr index h.1, List.take_left']
    rfl
  rw [MediaEntity.named, htake, decide_eq_true_eq]
  exact take_sensorIndexStr camIndex hcam index h.1

theorem MediaEntity.HasModuleIndex.unique {entity : MediaEntity}
    {index index' : ℕ} (h : entity.HasModuleIndex index)
    (h' : entity.HasModuleIndex index') : index = index' := by
  have hcam : index < maxCamNum := lt_trans h.1 (by decide)
  have hnamed : entity.named index = true := (h.named_iff hcam).mpr (.inl rfl)
  have hdigit := h.1
  rcases (h'.named_iff hcam).mp hnamed with heq | ⟨hhigh, -⟩
  · exact heq
  · omega

theorem find?_and_of_filter_le_one {α : Type*} {p q : α → Bool} {xs : List α}
    (hone : (xs.filter p).length ≤ 1) :
    xs.find? (fun x => p x && q x) = (xs.find? p).filter q := by
  induction xs with
  | nil => rfl
  | cons x rest ih =>
      by_cases hx : p x = true
      · have hrest : rest.filter p = [] := by
          rw [List.filter_cons_of_pos hx, List.length_cons] at hone
          exact List.eq_nil_of_length_eq_zero (by omega)
        have hnone : rest.find? (fun x => p x && q x) = none := by
          rw [List.find?_eq_none]
          intro y hy
          have hp : p y ≠ true := List.filter_eq_nil_iff.mp hrest y hy
          simp [hp]
        rw [List.find?_cons_of_pos hx]
        by_cases hq : q x = true
        · simp [hx, hq, Option.filter_some]
        · simp [hx, hq, hnone, Option.filter_some]
      · rw [List.filter_cons_of_neg hx] at hone
        rw [List.find?_cons_of_neg hx, List.find?_cons_of_neg (by simp [hx]),
          ih hone]

theorem Board.findSensor (board : Board) {id : ℕ} {device : MediaDevice}
    (hdevice : board.device id = some device) (camIndex : ℕ) :
    device.findSensor camIndex =
      device.sensor.filter (fun entity => entity.named camIndex) :=
  find?_and_of_filter_le_one (board.oneSensor hdevice)

theorem Board.isLinkSensor_ne_zero (board : Board) {id : ℕ}
    {device : MediaDevice} (hdevice : board.device id = some device)
    {camIndex : ℕ} :
    isLinkSensor device camIndex ≠ 0 ↔
      ∃ entity, device.sensor = some entity ∧
        entity.named camIndex = true := by
  rw [isLinkSensor, board.findSensor hdevice]
  cases hsensor : device.sensor with
  | none => simp
  | some entity =>
      by_cases hnamed : entity.named camIndex = true
      · simp [hnamed]
      · simp [hnamed]

theorem Board.getSensorName (board : Board) {id : ℕ} {device : MediaDevice}
    (hdevice : board.device id = some device) {entity : MediaEntity}
    (hsensor : device.sensor = some entity) {camIndex : ℕ}
    (hnamed : entity.named camIndex = true) :
    RkaiqToolServer.getSensorName device camIndex = entity.name := by
  have hfound : device.findSensor camIndex = some entity := by
    rw [board.findSensor hdevice, hsensor, Option.filter_some, if_pos hnamed]
  rw [RkaiqToolServer.getSensorName, hfound]

/-! ## The search for a sensor's slot -/

theorem searchSlot_append {paths : ℕ → List UInt8} {device : MediaDevice}
    {devpath : List UInt8} {slot : ℕ} {before after : List ℕ}
    (hbefore : ∀ index ∈ before,
      isLinkSensor device index = 0 ∧ paths index ≠ devpath)
    (hlink : isLinkSensor device slot ≠ 0) (hfree : paths slot = []) :
    searchSlot paths device devpath (before ++ slot :: after) = .slot slot := by
  induction before with
  | nil => simp [searchSlot, hlink, hfree]
  | cons index rest ih =>
      obtain ⟨hunlinked, hpath⟩ := hbefore index (by simp)
      rw [List.cons_append, searchSlot, if_neg (by simp [hunlinked]),
        if_neg hpath]
      exact ih fun index hindex => hbefore index (by simp [hindex])

theorem searchSlot_range {paths : ℕ → List UInt8} {device : MediaDevice}
    {devpath : List UInt8} {slot : ℕ} (hslot : slot < maxCamNum)
    (hbefore : ∀ index < slot,
      isLinkSensor device index = 0 ∧ paths index ≠ devpath)
    (hlink : isLinkSensor device slot ≠ 0) (hfree : paths slot = []) :
    searchSlot paths device devpath (List.range maxCamNum) = .slot slot := by
  obtain ⟨later, hlater⟩ : ∃ later, maxCamNum = slot + (later + 1) :=
    ⟨maxCamNum - slot - 1, by omega⟩
  rw [hlater, List.range_add, List.range_succ_eq_map, List.map_cons,
    Nat.add_zero]
  exact searchSlot_append
    (fun index hindex => hbefore index (List.mem_range.mp hindex)) hlink hfree

theorem searchSlot_unlinked {paths : ℕ → List UInt8} {device : MediaDevice}
    {devpath : List UInt8} (hunlinked : ∀ index, isLinkSensor device index = 0)
    (indices : List ℕ) :
    ∀ slot, searchSlot paths device devpath indices ≠ .slot slot := by
  intro slot
  induction indices with
  | nil => simp [searchSlot]
  | cons index rest ih =>
      rw [searchSlot, if_neg (by simp [hunlinked index])]
      split
      · simp
      · exact ih

/-! ## Entries chosen by the sensor -/

/-- After the devices below `visited`, the slot of each of their sensors is
entered for its device and the other slots are as they were. -/
structure BySensor (board : Board) (kind : MediaKind)
    (init entries : ℕ → SensorInfo) (visited : ℕ) : Prop where
  placed : ∀ {id device entity index}, id < visited →
    board.device id = some device → device.kind = some kind →
    device.sensor = some entity → entity.HasModuleIndex index →
      entries index = (init index).enter id device (mediaPath id) index
  free : ∀ {index}, index < 10 →
    (∀ id device entity, id < visited → board.device id = some device →
      device.kind = some kind → device.sensor = some entity →
        ¬ entity.HasModuleIndex index) →
      entries index = init index

theorem BySensor.cases {board : Board} {kind : MediaKind}
    {init entries : ℕ → SensorInfo} {visited : ℕ}
    (h : BySensor board kind init entries visited) {index : ℕ}
    (hindex : index < 10) :
    entries index = init index ∨
      ∃ id device entity, id < visited ∧ board.device id = some device ∧
        device.kind = some kind ∧ device.sensor = some entity ∧
        entity.HasModuleIndex index ∧
        entries index = (init index).enter id device (mediaPath id) index := by
  by_cases hplaced : ∃ id device entity, id < visited ∧
      board.device id = some device ∧ device.kind = some kind ∧
      device.sensor = some entity ∧ entity.HasModuleIndex index
  · obtain ⟨id, device, entity, hid, hdevice, hkind, hsensor, hindexed⟩ :=
      hplaced
    exact .inr ⟨id, device, entity, hid, hdevice, hkind, hsensor, hindexed,
      h.placed hid hdevice hkind hsensor hindexed⟩
  · refine .inl (h.free hindex ?_)
    intro id device entity hid hdevice hkind hsensor hindexed
    exact hplaced ⟨id, device, entity, hid, hdevice, hkind, hsensor, hindexed⟩

theorem BySensor.succ_same {board : Board} {kind : MediaKind}
    {init entries entries' : ℕ → SensorInfo} {visited : ℕ}
    (h : BySensor board kind init entries visited)
    (hnone : ∀ device entity, board.device visited = some device →
      device.kind = some kind → device.sensor ≠ some entity)
    (hsame : ∀ index < 10, entries' index = entries index) :
    BySensor board kind init entries' (visited + 1) where
  placed := by
    intro id device entity index hid hdevice hkind hsensor hindexed
    rw [hsame index hindexed.1]
    rcases Nat.lt_succ_iff_lt_or_eq.mp hid with hlt | rfl
    · exact h.placed hlt hdevice hkind hsensor hindexed
    · exact absurd hsensor (hnone device entity hdevice hkind)
  free := by
    intro index hindex hfree
    rw [hsame index hindex]
    exact h.free hindex fun id device entity hid =>
      hfree id device entity (Nat.lt_succ_of_lt hid)

theorem BySensor.succ_other {board : Board} {kind : MediaKind}
    {init entries : ℕ → SensorInfo} {visited : ℕ}
    (h : BySensor board kind init entries visited)
    (hother : ∀ device, board.device visited = some device →
      device.kind ≠ some kind) :
    BySensor board kind init entries (visited + 1) :=
  h.succ_same (fun device _ hdevice hkind => absurd hkind (hother device hdevice))
    fun _ _ => rfl

theorem BySensor.succ_placed {board : Board} {kind : MediaKind}
    {init entries entries' : ℕ → SensorInfo} {visited : ℕ}
    (h : BySensor board kind init entries visited)
    {device : MediaDevice} {entity : MediaEntity} {slot : ℕ}
    (hdevice : board.device visited = some device)
    (hkind : device.kind = some kind) (hsensor : device.sensor = some entity)
    (hindexed : entity.HasModuleIndex slot)
    (hslot : entries' slot =
      (entries slot).enter visited device (mediaPath visited) slot)
    (hsame : ∀ index, index ≠ slot → entries' index = entries index) :
    BySensor board kind init entries' (visited + 1) where
  placed := by
    intro id device' entity' index hid hdevice' hkind' hsensor' hindexed'
    rcases Nat.lt_succ_iff_lt_or_eq.mp hid with hlt | rfl
    · have hother : index ≠ slot := by
        rintro rfl
        have := board.distinct hdevice' hsensor' hdevice hsensor hindexed'
          hindexed
        omega
      rw [hsame index hother]
      exact h.placed hlt hdevice' hkind' hsensor' hindexed'
    · obtain rfl : device' = device := by simpa [hdevice'] using hdevice
      obtain rfl : entity' = entity := by simpa [hsensor'] using hsensor
      obtain rfl : index = slot := hindexed'.unique hindexed
      rw [hslot, h.free hindexed.1]
      intro id device entity hid hdevice _ hsensor hother
      have := board.distinct hdevice hsensor hdevice' hsensor' hother hindexed
      omega
  free := by
    intro index hindex hfree
    have hother : index ≠ slot := by
      rintro rfl
      exact hfree visited device entity (Nat.lt_succ_self visited) hdevice
        hkind hsensor hindexed
    rw [hsame index hother]
    exact h.free hindex fun id device entity hid =>
      hfree id device entity (Nat.lt_succ_of_lt hid)

theorem BySensor.path_ne {board : Board} {kind : MediaKind}
    {init entries : ℕ → SensorInfo} {visited : ℕ}
    (h : BySensor board kind init entries visited)
    (hinit : ∀ index, (init index).mediaDevPath = [])
    {index : ℕ} (hindex : index < 10) :
    (entries index).mediaDevPath ≠ mediaPath visited := by
  rcases h.cases hindex with hfree | ⟨id, _, _, hid, _, _, _, _, hplaced⟩
  · rw [hfree, hinit]
    exact (mediaPath_ne_nil visited).symm
  · intro hpath
    rw [hplaced] at hpath
    have : id = visited := mediaPath_injective hpath
    omega

/-- A device with a sensor finds the slot of its module index free. -/
theorem BySensor.searchSlot {board : Board} {kind : MediaKind}
    {init entries : ℕ → SensorInfo} {visited : ℕ}
    (h : BySensor board kind init entries visited)
    (hinit : ∀ index, (init index).mediaDevPath = [])
    {device : MediaDevice} {entity : MediaEntity} {slot : ℕ}
    (hdevice : board.device visited = some device)
    (hsensor : device.sensor = some entity)
    (hindexed : entity.HasModuleIndex slot) :
    RkaiqToolServer.searchSlot (fun index => (entries index).mediaDevPath)
      device (mediaPath visited) (List.range maxCamNum) = .slot slot := by
  have hdigit : slot < 10 := hindexed.1
  have hnamed : ∀ index < maxCamNum, isLinkSensor device index ≠ 0 ↔
      index = slot ∨ 10 ≤ index ∧ slot = 1 := by
    intro index hindex
    rw [board.isLinkSensor_ne_zero hdevice, hsensor]
    simp [hindexed.named_iff hindex]
  have hfree : entries slot = init slot := by
    refine h.free hdigit fun id device' entity' hid hdevice' _ hsensor' hother => ?_
    have := board.distinct hdevice' hsensor' hdevice hsensor hother hindexed
    omega
  refine searchSlot_range (lt_trans hdigit (by decide)) ?_ ?_ ?_
  · intro index hindex
    have hlow : index < 10 := by omega
    refine ⟨?_, h.path_ne hinit hlow⟩
    by_contra hlink
    rcases (hnamed index (lt_trans hlow (by decide))).mp hlink with heq | hhigh
    · omega
    · omega
  · exact (hnamed slot (lt_trans hdigit (by decide))).mpr (.inl rfl)
  · show (entries slot).mediaDevPath = []
    rw [hfree, hinit]

/-! ## Entries chosen by the number of ISP devices -/

section Ranks

variable {board : Board}

theorem Board.ispRank_succ_isp {id : ℕ} {device : MediaDevice}
    (hdevice : board.device id = some device)
    (hkind : device.kind = some .isp) :
    board.ispRank (id + 1) = board.ispRank id + 1 := by
  rw [Board.ispRank, Nat.count_succ, if_pos (by simp [isIsp, hdevice, hkind])]
  rfl

theorem Board.ispRank_succ_other {id : ℕ}
    (hother : ∀ device, board.device id = some device →
      device.kind ≠ some .isp) :
    board.ispRank (id + 1) = board.ispRank id := by
  rw [Board.ispRank, Nat.count_succ, if_neg, Nat.add_zero]
  · rfl
  · cases hdevice : board.device id with
    | none => simp [isIsp, hdevice]
    | some device => simp [isIsp, hdevice, hother device hdevice]

theorem Board.ispRank_le (board : Board) (id : ℕ) : board.ispRank id ≤ id :=
  Nat.count_le _

theorem Board.ispRank_lt {id later : ℕ} {device : MediaDevice}
    (hdevice : board.device id = some device)
    (hkind : device.kind = some .isp) (hlater : id < later) :
    board.ispRank id < board.ispRank later := by
  have hmono : board.ispRank (id + 1) ≤ board.ispRank later :=
    Nat.count_monotone _ hlater
  rw [ispRank_succ_isp hdevice hkind] at hmono
  omega

/-- The ISP ranks below that of `id` are those of ISP devices below `id`. -/
theorem Board.exists_of_lt_ispRank {id slot : ℕ}
    (hslot : slot < board.ispRank id) :
    ∃ id' device, id' < id ∧ board.device id' = some device ∧
      device.kind = some .isp ∧ board.ispRank id' = slot := by
  induction id with
  | zero => simp [ispRank] at hslot
  | succ id ih =>
      by_cases hisp : ∃ device, board.device id = some device ∧
          device.kind = some .isp
      · obtain ⟨device, hdevice, hkind⟩ := hisp
        rw [ispRank_succ_isp hdevice hkind] at hslot
        rcases Nat.lt_succ_iff_lt_or_eq.mp hslot with hlt | heq
        · obtain ⟨id', device', hid', hrest⟩ := ih hlt
          exact ⟨id', device', by omega, hrest⟩
        · exact ⟨id, device, by omega, hdevice, hkind, heq.symm⟩
      · rw [ispRank_succ_other fun device hdevice hkind =>
          hisp ⟨device, hdevice, hkind⟩] at hslot
        obtain ⟨id', device', hid', hrest⟩ := ih hslot
        exact ⟨id', device', by omega, hrest⟩

/-- After the devices below `visited`, the ISP devices among them fill the
first slots in their order. -/
structure ByRank (board : Board) (init : SensorInfo)
    (entries : ℕ → SensorInfo) (visited : ℕ) : Prop where
  placed : ∀ {id device}, id < visited → board.device id = some device →
    device.kind = some .isp →
      entries (board.ispRank id) =
        init.enter id device (mediaPath id) (board.ispRank id)
  free : ∀ {slot}, board.ispRank visited ≤ slot → entries slot = init

theorem ByRank.succ_other {init : SensorInfo} {entries : ℕ → SensorInfo}
    {visited : ℕ} (h : ByRank board init entries visited)
    (hother : ∀ device, board.device visited = some device →
      device.kind ≠ some .isp) :
    ByRank board init entries (visited + 1) where
  placed := by
    intro id device hid hdevice hkind
    rcases Nat.lt_succ_iff_lt_or_eq.mp hid with hlt | rfl
    · exact h.placed hlt hdevice hkind
    · exact absurd hkind (hother device hdevice)
  free := by
    intro slot hle
    rw [Board.ispRank_succ_other hother] at hle
    exact h.free hle

theorem ByRank.succ_placed {init : SensorInfo}
    {entries entries' : ℕ → SensorInfo} {visited : ℕ}
    (h : ByRank board init entries visited) {device : MediaDevice}
    (hdevice : board.device visited = some device)
    (hkind : device.kind = some .isp)
    (hslot : entries' (board.ispRank visited) =
      (entries (board.ispRank visited)).enter visited device
        (mediaPath visited) (board.ispRank visited))
    (hsame : ∀ slot, slot ≠ board.ispRank visited →
      entries' slot = entries slot) :
    ByRank board init entries' (visited + 1) where
  placed := by
    intro id device' hid hdevice' hkind'
    rcases Nat.lt_succ_iff_lt_or_eq.mp hid with hlt | rfl
    · have hrank := Board.ispRank_lt hdevice' hkind' hlt
      rw [hsame _ (by omega)]
      exact h.placed hlt hdevice' hkind'
    · obtain rfl : device' = device := by simpa [hdevice'] using hdevice
      rw [hslot, h.free le_rfl]
  free := by
    intro slot hle
    rw [Board.ispRank_succ_isp hdevice hkind] at hle
    rw [hsame slot (by omega)]
    exact h.free (by omega)

end Ranks

/-! ## The table after each device -/

section Visiting

variable {board : Board} {unsetModel unsetLinked : ℕ → ℤ}

/-- What the table holds after the devices below `visited`. -/
structure Entered (board : Board) (unsetModel unsetLinked : ℕ → ℤ)
    (visited : ℕ) (table : MediaTable) : Prop where
  isp : ByRank board (.empty (-1) 0) (table.entry .isp) visited
  cif : BySensor board .cif (fun _ => .empty (-1) 0) (table.entry .cif) visited
  cifHigh : ∀ {slot}, 10 ≤ slot → table.entry .cif slot = .empty (-1) 0
  dvp : BySensor board .dvp
    (fun slot => .empty (unsetModel slot) (unsetLinked slot))
    (table.entry .dvp) visited
  dvpHigh : ∀ {slot}, 10 ≤ slot → (table.entry .dvp slot).sensorName = []

theorem entered_initial :
    Entered board unsetModel unsetLinked 0
      (rkAiqMedia unsetModel unsetLinked) where
  isp := ⟨by simp, by simp [rkAiqMedia, MediaTable.entry]⟩
  cif := ⟨by simp, by simp [rkAiqMedia, MediaTable.entry]⟩
  cifHigh := by simp [rkAiqMedia, MediaTable.entry]
  dvp := ⟨by simp, by simp [rkAiqMedia, MediaTable.entry]⟩
  dvpHigh := by simp [rkAiqMedia, MediaTable.entry, SensorInfo.empty]

/-- A device that links a slot's sensor finds no CIF device in that slot. -/
theorem Entered.cifFree {visited : ℕ} {table : MediaTable}
    (h : Entered board unsetModel unsetLinked visited table)
    {device : MediaDevice} (hdevice : board.device visited = some device)
    {slot : ℕ} (hlink : isLinkSensor device slot ≠ 0) :
    table.entry .cif slot = .empty (-1) 0 := by
  by_cases hhigh : 10 ≤ slot
  · exact h.cifHigh hhigh
  obtain ⟨entity, hsensor, hnamed⟩ :=
    (board.isLinkSensor_ne_zero hdevice).mp hlink
  obtain ⟨index, hindexed⟩ := board.indexed hdevice hsensor
  have hcam : slot < maxCamNum := lt_trans (not_le.mp hhigh) (by decide)
  obtain rfl : slot = index := by
    rcases (hindexed.named_iff hcam).mp hnamed with heq | ⟨hle, -⟩
    · exact heq
    · exact absurd hle hhigh
  refine h.cif.free (not_le.mp hhigh) ?_
  intro id device' entity' hid hdevice' _ hsensor' hother
  have := board.distinct hdevice' hsensor' hdevice hsensor hother hindexed
  omega

theorem Entered.ispIndex {visited : ℕ} {table : MediaTable}
    (h : Entered board unsetModel unsetLinked visited table)
    {device : MediaDevice} (hdevice : board.device visited = some device)
    (hvisited : visited < maxMediaNum) :
    RkaiqToolServer.ispIndex table device = some (board.ispRank visited) := by
  have hrank : board.ispRank visited < maxCamNum :=
    lt_of_le_of_lt (board.ispRank_le visited) hvisited
  rw [RkaiqToolServer.ispIndex, List.find?_range_eq_some]
  refine ⟨?_, List.mem_range.mpr hrank, ?_⟩
  · have hisp : table.path .isp (board.ispRank visited) = [] := by
      rw [MediaTable.path, h.isp.free le_rfl]
      rfl
    have hcif : isLinkSensor device (board.ispRank visited) ≠ 0 →
        table.path .cif (board.ispRank visited) = [] := by
      intro hlink
      rw [MediaTable.path, h.cifFree hdevice hlink]
      rfl
    by_cases hlink : isLinkSensor device (board.ispRank visited) = 0
    · simp [hisp, hlink]
    · simp [hisp, hcif hlink]
  · intro slot hslot
    obtain ⟨id, device', hid, hdevice', hkind', hslot'⟩ :=
      Board.exists_of_lt_ispRank hslot
    have hpath : table.path .isp slot = mediaPath id := by
      rw [MediaTable.path, ← hslot', h.isp.placed hid hdevice' hkind']
      rfl
    simp [hpath, mediaPath_ne_nil]

theorem Board.kind_ne {visited : ℕ} {device : MediaDevice}
    {kind : MediaKind} (kind' : MediaKind) (hdevice : board.device visited = some device)
    (hkind : device.kind = some kind) (hne : kind ≠ kind') :
    ∀ device', board.device visited = some device' →
      device'.kind ≠ some kind' := by
  intro device' hdevice' hkind'
  obtain rfl : device' = device := by simpa [hdevice'] using hdevice
  exact hne (by simpa [hkind] using hkind')

theorem Board.isLinkSensor_eq_zero {id : ℕ} {device : MediaDevice}
    (hdevice : board.device id = some device)
    (hsensor : device.sensor = none) (camIndex : ℕ) :
    isLinkSensor device camIndex = 0 := by
  by_contra hlink
  obtain ⟨entity, hsome, -⟩ := (board.isLinkSensor_ne_zero hdevice).mp hlink
  simp [hsensor] at hsome

theorem Entered.ispStep {visited : ℕ} {table : MediaTable}
    (h : Entered board unsetModel unsetLinked visited table)
    {device : MediaDevice} (hdevice : board.device visited = some device)
    (hkind : device.kind = some .isp) (hvisited : visited < maxMediaNum) :
    Entered board unsetModel unsetLinked (visited + 1)
      (getIspSubDevs visited device (mediaPath visited) table) := by
  have hentered : getIspSubDevs visited device (mediaPath visited) table =
      table.enter .isp (board.ispRank visited) visited device
        (mediaPath visited) (board.ispRank visited) := by
    simp only [getIspSubDevs, h.ispIndex hdevice hvisited]
  have hcif := Board.kind_ne .cif hdevice hkind (by decide)
  have hdvp := Board.kind_ne .dvp hdevice hkind (by decide)
  rw [hentered]
  constructor
  · exact h.isp.succ_placed hdevice hkind (table.entry_enter_self ..)
      fun slot hslot => table.entry_enter_slot hslot ..
  · rw [table.entry_enter_kind (by decide)]
    exact h.cif.succ_other hcif
  · rw [table.entry_enter_kind (by decide)]
    exact h.cifHigh
  · rw [table.entry_enter_kind (by decide)]
    exact h.dvp.succ_other hdvp
  · rw [table.entry_enter_kind (by decide)]
    exact h.dvpHigh

/-- No device, or one without a sensor that is not entered. -/
theorem Entered.skip {visited : ℕ} {table : MediaTable}
    (h : Entered board unsetModel unsetLinked visited table)
    (hnone : ∀ device, board.device visited = some device →
      device.kind ≠ some .isp ∧ device.sensor = none) :
    Entered board unsetModel unsetLinked (visited + 1) table := by
  have hsensor : ∀ kind device entity, board.device visited = some device →
      device.kind = some kind → device.sensor ≠ some entity := by
    intro kind device entity hdevice _
    simp [(hnone device hdevice).2]
  exact
    { isp := h.isp.succ_other fun device hdevice => (hnone device hdevice).1
      cif := h.cif.succ_same (hsensor .cif) fun _ _ => rfl
      cifHigh := h.cifHigh
      dvp := h.dvp.succ_same (hsensor .dvp) fun _ _ => rfl
      dvpHigh := h.dvpHigh }

theorem Entered.cifStep {visited : ℕ} {table : MediaTable}
    (h : Entered board unsetModel unsetLinked visited table)
    {device : MediaDevice} (hdevice : board.device visited = some device)
    (hkind : device.kind = some .cif) :
    Entered board unsetModel unsetLinked (visited + 1)
      (getCifSubDevs visited device (mediaPath visited) table) := by
  have hisp := Board.kind_ne .isp hdevice hkind (by decide)
  have hdvp := Board.kind_ne .dvp hdevice hkind (by decide)
  cases hsensor : device.sensor with
  | none =>
      have hsame : getCifSubDevs visited device (mediaPath visited) table =
          table := by
        have hunlinked := Board.isLinkSensor_eq_zero hdevice hsensor
        rw [getCifSubDevs]
        split
        · rename_i slot hslot
          exact absurd hslot (searchSlot_unlinked hunlinked _ slot)
        · rfl
        · rfl
      rw [hsame]
      refine h.skip fun device' hdevice' => ⟨hisp device' hdevice', ?_⟩
      obtain rfl : device' = device := by simpa [hdevice'] using hdevice
      exact hsensor
  | some entity =>
      obtain ⟨slot, hindexed⟩ := board.indexed hdevice hsensor
      have hentered : getCifSubDevs visited device (mediaPath visited) table =
          table.enter .cif slot visited device (mediaPath visited) slot := by
        have hsearch := h.cif.searchSlot (fun _ => rfl) hdevice hsensor hindexed
        simp only [getCifSubDevs, show searchSlot (table.path .cif) device
          (mediaPath visited) (List.range maxCamNum) = .slot slot from hsearch]
      rw [hentered]
      constructor
      · rw [table.entry_enter_kind (by decide)]
        exact h.isp.succ_other hisp
      · exact h.cif.succ_placed hdevice hkind hsensor hindexed
          (table.entry_enter_self ..)
          fun index hindex => table.entry_enter_slot hindex ..
      · intro slot' hhigh
        have hdigit := hindexed.1
        rw [table.entry_enter_slot (by omega)]
        exact h.cifHigh hhigh
      · rw [table.entry_enter_kind (by decide)]
        exact h.dvp.succ_other hdvp
      · rw [table.entry_enter_kind (by decide)]
        exact h.dvpHigh

theorem Entered.dvpStep {visited : ℕ} {table : MediaTable}
    (h : Entered board unsetModel unsetLinked visited table)
    {device : MediaDevice} (hdevice : board.device visited = some device)
    (hkind : device.kind = some .dvp) :
    Entered board unsetModel unsetLinked (visited + 1)
      (getDvpSubDevs visited device (mediaPath visited) table) := by
  have hisp := Board.kind_ne .isp hdevice hkind (by decide)
  have hcif := Board.kind_ne .cif hdevice hkind (by decide)
  cases hsensor : device.sensor with
  | none =>
      have hskip : Entered board unsetModel unsetLinked (visited + 1) table := by
        refine h.skip fun device' hdevice' => ⟨hisp device' hdevice', ?_⟩
        obtain rfl : device' = device := by simpa [hdevice'] using hdevice
        exact hsensor
      have hunlinked := Board.isLinkSensor_eq_zero hdevice hsensor
      rw [getDvpSubDevs]
      split
      · rename_i slot hslot
        exact absurd hslot (searchSlot_unlinked hunlinked _ slot)
      · exact hskip
      · -- the last entry is overwritten, but its name stays empty
        constructor
        · rw [table.entry_enter_kind (by decide)]
          exact hskip.isp
        · rw [table.entry_enter_kind (by decide)]
          exact hskip.cif
        · rw [table.entry_enter_kind (by decide)]
          exact hskip.cifHigh
        · refine h.dvp.succ_same ?_ ?_
          · intro device' entity hdevice' _
            obtain rfl : device' = device := by simpa [hdevice'] using hdevice
            simp [hsensor]
          · intro index hindex
            have hlast : index ≠ maxCamNum - 1 := by
              rw [maxCamNum]
              omega
            exact table.entry_enter_slot hlast ..
        · intro slot hhigh
          by_cases hlast : slot = maxCamNum - 1
          · subst hlast
            rw [table.entry_enter_self]
            simp only [SensorInfo.enter, hunlinked, ne_eq, not_true_eq_false,
              if_false]
            exact h.dvpHigh hhigh
          · rw [table.entry_enter_slot hlast]
            exact h.dvpHigh hhigh
  | some entity =>
      obtain ⟨slot, hindexed⟩ := board.indexed hdevice hsensor
      have hentered : getDvpSubDevs visited device (mediaPath visited) table =
          table.enter .dvp slot visited device (mediaPath visited) slot := by
        have hsearch := h.dvp.searchSlot (fun _ => rfl) hdevice hsensor hindexed
        simp only [getDvpSubDevs, show searchSlot (table.path .dvp) device
          (mediaPath visited) (List.range maxCamNum) = .slot slot from hsearch]
      rw [hentered]
      constructor
      · rw [table.entry_enter_kind (by decide)]
        exact h.isp.succ_other hisp
      · rw [table.entry_enter_kind (by decide)]
        exact h.cif.succ_other hcif
      · rw [table.entry_enter_kind (by decide)]
        exact h.cifHigh
      · exact h.dvp.succ_placed hdevice hkind hsensor hindexed
          (table.entry_enter_self ..)
          fun index hindex => table.entry_enter_slot hindex ..
      · intro slot' hhigh
        have hdigit := hindexed.1
        rw [table.entry_enter_slot (by omega)]
        exact h.dvpHigh hhigh

theorem getMediaInfoFrom_append_of_present (nodes : ℕ → MediaNode)
    (before after : List ℕ) (table : MediaTable)
    (hnodes : ∀ id ∈ before, nodes id ≠ .failed) :
    getMediaInfoFrom nodes (before ++ after) table =
      getMediaInfoFrom nodes after (getMediaInfoFrom nodes before table) := by
  induction before generalizing table with
  | nil => rfl
  | cons id rest ih =>
      have hrest : ∀ id ∈ rest, nodes id ≠ .failed := fun id hid =>
        hnodes id (by simp [hid])
      rw [List.cons_append, getMediaInfoFrom, getMediaInfoFrom]
      cases hnode : nodes id with
      | absent => exact ih table hrest
      | present device => exact ih _ hrest
      | failed => exact absurd hnode (hnodes id (by simp))

theorem Board.nodes_ne_failed (board : Board) (id : ℕ) :
    board.nodes id ≠ .failed := by
  rw [Board.nodes]
  split <;> simp

theorem Entered.step {visited : ℕ} {table : MediaTable}
    (h : Entered board unsetModel unsetLinked visited table)
    (hvisited : visited < maxMediaNum) :
    Entered board unsetModel unsetLinked (visited + 1)
      (getMediaInfoFrom board.nodes [visited] table) := by
  rw [getMediaInfoFrom, Board.nodes]
  cases hdevice : board.device visited with
  | none => exact h.skip (by simp [hdevice])
  | some device =>
      obtain ⟨kind, hkind⟩ := board.kind hdevice
      simp only [getMediaInfoFrom, enterDevice, hkind]
      cases kind with
      | isp => exact h.ispStep hdevice hkind hvisited
      | cif => exact h.cifStep hdevice hkind
      | dvp => exact h.dvpStep hdevice hkind

theorem entered_getMediaInfoFrom :
    ∀ visited ≤ maxMediaNum, Entered board unsetModel unsetLinked visited
      (getMediaInfoFrom board.nodes (List.range visited)
        (rkAiqMedia unsetModel unsetLinked)) := by
  intro visited
  induction visited with
  | zero => exact fun _ => entered_initial
  | succ visited ih =>
      intro hle
      rw [List.range_succ, getMediaInfoFrom_append_of_present _ _ _ _
        fun id _ => board.nodes_ne_failed id]
      exact (ih (by omega)).step hle

end Visiting

end RkaiqToolServer
