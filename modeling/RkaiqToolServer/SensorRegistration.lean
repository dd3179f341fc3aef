import RkaiqToolServer.SensorSlots

/-!
# Where the sensors are registered

A CIF or DVP sensor is registered in the slot of its module index in whatever
order the devices come.  An ISP sensor is registered there exactly when its
device has as many ISP devices before it as its module index says.
-/

namespace RkaiqToolServer

open ByteCodec

/-- The board's sensor called `name` has module index `index` and sits on a
device of kind `kind` at `path`. -/
def Board.HasSensor (board : Board) (kind : MediaKind) (index : ℕ)
    (name path : List UInt8) : Prop :=
  ∃ id device entity, board.device id = some device ∧
    device.kind = some kind ∧ device.sensor = some entity ∧
    entity.HasModuleIndex index ∧ entity.name = name ∧ mediaPath id = path

/-- The slot links the sensor called `name` to the device at `path`. -/
def MediaTable.Links (table : MediaTable) (kind : MediaKind) (slot : ℕ)
    (name path : List UInt8) : Prop :=
  slot < maxCamNum ∧ (table.entry kind slot).linkedSensor ≠ 0 ∧
    (table.entry kind slot).sensorName = name ∧
    (table.entry kind slot).mediaDevPath = path

/-- Each sensor is registered in the slot of its module index under the kind
of its own device, with its name and that device's path, and no slot links
anything else. -/
def SensorsRegistered (board : Board) (table : MediaTable) : Prop :=
  ∀ kind index name path, name ≠ [] →
    (table.Links kind index name path ↔
      board.HasSensor kind index name path)

/-- The sensors' devices are all visited, and each ISP device with a sensor
has as many ISP devices before it as its sensor's module index says. -/
def Board.Arranged (board : Board) : Prop :=
  ∀ id device entity index, board.device id = some device →
    device.sensor = some entity → entity.HasModuleIndex index →
      id < maxMediaNum ∧
        (device.kind = some .isp → board.ispRank id = index)

section Registered

variable (board : Board) (unsetModel unsetLinked : ℕ → ℤ)

/-- The slot a visited device's sensor is looked for in: under the ISP kind it
is the device's rank, and the name only has to pass the comparison. -/
def Board.TakesSlot (id : ℕ) (entity : MediaEntity) (slot : ℕ) :
    MediaKind → Prop
  | .isp => slot < maxCamNum ∧ board.ispRank id = slot ∧
      entity.named slot = true
  | .cif => entity.HasModuleIndex slot
  | .dvp => entity.HasModuleIndex slot

theorem enter_links {id : ℕ} {device : MediaDevice} {entity : MediaEntity}
    (hdevice : board.device id = some device)
    (hsensor : device.sensor = some entity) {slot : ℕ}
    (hnamed : entity.named slot = true) (info : SensorInfo)
    (devpath : List UInt8) :
    (info.enter id device devpath slot).linkedSensor ≠ 0 ∧
      (info.enter id device devpath slot).sensorName = entity.name ∧
      (info.enter id device devpath slot).mediaDevPath = devpath := by
  have hlink : isLinkSensor device slot ≠ 0 :=
    (board.isLinkSensor_ne_zero hdevice).mpr ⟨entity, hsensor, hnamed⟩
  refine ⟨hlink, ?_, rfl⟩
  rw [SensorInfo.enter, if_pos hlink, board.getSensorName hdevice hsensor hnamed]

theorem BySensor.links {board : Board} {kind : MediaKind}
    {init : ℕ → SensorInfo} {table : MediaTable}
    (h : BySensor board kind init (table.entry kind) maxMediaNum)
    (hinit : ∀ slot, (init slot).sensorName = [])
    (hhigh : ∀ {slot}, 10 ≤ slot → (table.entry kind slot).sensorName = [])
    {slot : ℕ} {name path : List UInt8} (hname : name ≠ []) :
    table.Links kind slot name path ↔
      ∃ id device entity, id < maxMediaNum ∧ board.device id = some device ∧
        device.kind = some kind ∧ device.sensor = some entity ∧
        entity.name = name ∧ mediaPath id = path ∧
        entity.HasModuleIndex slot := by
  constructor
  · rintro ⟨hslot, hlinked, hname', hpath⟩
    have hdigit : slot < 10 := by
      by_contra hle
      exact hname (by rw [← hname', hhigh (not_lt.mp hle)])
    rcases h.cases hdigit with hfree | hplaced
    · exact absurd (by rw [← hname', hfree, hinit]) hname
    · obtain ⟨id, device, entity, hid, hdevice, hkind, hsensor, hindexed,
        hentry⟩ := hplaced
      have hnamed : entity.named slot = true :=
        (hindexed.named_iff hslot).mpr (.inl rfl)
      obtain ⟨-, hname'', hpath'⟩ :=
        enter_links board hdevice hsensor hnamed (init slot) (mediaPath id)
      rw [hentry] at hname' hpath
      exact ⟨id, device, entity, hid, hdevice, hkind, hsensor,
        hname''.symm.trans hname', hpath'.symm.trans hpath, hindexed⟩
  · rintro ⟨id, device, entity, hid, hdevice, hkind, hsensor, rfl, rfl,
      hindexed⟩
    have hslot : slot < maxCamNum := lt_trans hindexed.1 (by decide)
    have hnamed : entity.named slot = true :=
      (hindexed.named_iff hslot).mpr (.inl rfl)
    rw [MediaTable.Links, h.placed hid hdevice hkind hsensor hindexed]
    exact ⟨hslot, enter_links board hdevice hsensor hnamed _ _⟩

/-- The finished table, slot by slot. -/
theorem getMediaInfo_links (kind : MediaKind) (slot : ℕ)
    (name path : List UInt8) (hname : name ≠ []) :
    (getMediaInfo board.nodes (rkAiqMedia unsetModel unsetLinked)).Links
        kind slot name path ↔
      ∃ id device entity, id < maxMediaNum ∧ board.device id = some device ∧
        device.kind = some kind ∧ device.sensor = some entity ∧
        entity.name = name ∧ mediaPath id = path ∧
        board.TakesSlot id entity slot kind := by
  have h : Entered board unsetModel unsetLinked maxMediaNum
      (getMediaInfo board.nodes (rkAiqMedia unsetModel unsetLinked)) :=
    entered_getMediaInfoFrom maxMediaNum le_rfl
  generalize getMediaInfo board.nodes (rkAiqMedia unsetModel unsetLinked) =
    table at h
  cases kind with
  | cif =>
    have hhigh : ∀ {slot}, 10 ≤ slot →
        (table.entry .cif slot).sensorName = [] := by
      intro slot hle
      rw [h.cifHigh hle]
      rfl
    exact h.cif.links (fun _ => rfl) hhigh hname
  | dvp => exact h.dvp.links (fun _ => rfl) h.dvpHigh hname
  | isp =>
    constructor
    · rintro ⟨hslot, hlinked, hname', hpath⟩
      have hrank : slot < board.ispRank maxMediaNum := by
        by_contra hle
        rw [h.isp.free (not_lt.mp hle)] at hlinked
        exact hlinked rfl
      obtain ⟨id, device, hid, hdevice, hkind, rfl⟩ :=
        Board.exists_of_lt_ispRank hrank
      rw [h.isp.placed hid hdevice hkind] at hlinked hname' hpath
      obtain ⟨entity, hsensor, hnamed⟩ :=
        (board.isLinkSensor_ne_zero hdevice).mp hlinked
      obtain ⟨-, hname'', hpath'⟩ := enter_links board hdevice hsensor hnamed
        (.empty (-1) 0) (mediaPath id)
      exact ⟨id, device, entity, hid, hdevice, hkind, hsensor,
        hname''.symm.trans hname', hpath'.symm.trans hpath, hslot, rfl, hnamed⟩
    · rintro ⟨id, device, entity, hid, hdevice, hkind, hsensor, rfl, rfl,
        hslot, rfl, hnamed⟩
      rw [MediaTable.Links, h.isp.placed hid hdevice hkind]
      exact ⟨hslot, enter_links board hdevice hsensor hnamed _ _⟩

theorem SensorsRegistered.arranged
    (h : SensorsRegistered board
      (getMediaInfo board.nodes (rkAiqMedia unsetModel unsetLinked))) :
    board.Arranged := by
  intro id device entity index hdevice hsensor hindexed
  obtain ⟨kind, hkind⟩ := board.kind hdevice
  have hlinks := (h kind index entity.name (mediaPath id)
    hindexed.name_ne_nil).mpr
      ⟨id, device, entity, hdevice, hkind, hsensor, hindexed, rfl, rfl⟩
  obtain ⟨id', device', entity', hid, hdevice', hkind', hsensor', -, hpath,
    htakes⟩ := (getMediaInfo_links board unsetModel unsetLinked kind index
      entity.name (mediaPath id) hindexed.name_ne_nil).mp hlinks
  obtain rfl : id' = id := mediaPath_injective hpath
  refine ⟨hid, fun hisp => ?_⟩
  obtain rfl : kind = .isp := by simpa [hkind] using hisp
  exact htakes.2.1

theorem Board.Arranged.registered (h : board.Arranged) :
    SensorsRegistered board
      (getMediaInfo board.nodes (rkAiqMedia unsetModel unsetLinked)) := by
  intro kind index name path hname
  rw [getMediaInfo_links board unsetModel unsetLinked kind index name path
    hname]
  constructor
  · rintro ⟨id, device, entity, hid, hdevice, hkind, hsensor, hname', hpath,
      htakes⟩
    refine ⟨id, device, entity, hdevice, hkind, hsensor, ?_, hname', hpath⟩
    cases kind with
    | cif => exact htakes
    | dvp => exact htakes
    | isp =>
      obtain ⟨own, hown⟩ := board.indexed hdevice hsensor
      have hrank := (h id device entity own hdevice hsensor hown).2 hkind
      rw [← htakes.2.1, hrank]
      exact hown
  · rintro ⟨id, device, entity, hdevice, hkind, hsensor, hindexed, hname',
      hpath⟩
    obtain ⟨hid, hrank⟩ := h id device entity index hdevice hsensor hindexed
    refine ⟨id, device, entity, hid, hdevice, hkind, hsensor, hname', hpath,
      ?_⟩
    cases kind with
    | cif => exact hindexed
    | dvp => exact hindexed
    | isp =>
      have hslot : index < maxCamNum := lt_trans hindexed.1 (by decide)
      exact ⟨hslot, hrank hkind, (hindexed.named_iff hslot).mpr (.inl rfl)⟩

theorem sensorsRegistered_iff_arranged :
    SensorsRegistered board
        (getMediaInfo board.nodes (rkAiqMedia unsetModel unsetLinked)) ↔
      board.Arranged :=
  ⟨SensorsRegistered.arranged board unsetModel unsetLinked,
    Board.Arranged.registered board unsetModel unsetLinked⟩

/-- Two numberings of the same devices that are both arranged link the same
sensors to the same devices. -/
theorem arranged_orders_agree (board' : Board) (renumber : ℕ ≃ ℕ)
    (hsame : ∀ id, board'.device (renumber id) = board.device id)
    (h : board.Arranged) (h' : board'.Arranged)
    (kind : MediaKind) (index id : ℕ) (name : List UInt8) (hname : name ≠ []) :
    (getMediaInfo board.nodes (rkAiqMedia unsetModel unsetLinked)).Links
        kind index name (mediaPath id) ↔
      (getMediaInfo board'.nodes (rkAiqMedia unsetModel unsetLinked)).Links
        kind index name (mediaPath (renumber id)) := by
  rw [h.registered board unsetModel unsetLinked kind index name _ hname,
    h'.registered board' unsetModel unsetLinked kind index name _ hname]
  constructor
  · rintro ⟨id', device, entity, hdevice, hkind, hsensor, hindexed, hname',
      hpath⟩
    obtain rfl : id' = id := mediaPath_injective hpath
    exact ⟨renumber id', device, entity, by rw [hsame, hdevice], hkind, hsensor,
      hindexed, hname', rfl⟩
  · rintro ⟨id', device, entity, hdevice, hkind, hsensor, hindexed, hname',
      hpath⟩
    obtain rfl : id' = renumber id := mediaPath_injective hpath
    exact ⟨id, device, entity, by rw [← hsame, hdevice], hkind, hsensor,
      hindexed, hname', rfl⟩

end Registered

/-! ## Two cameras in the wrong order -/

def backSensor : MediaEntity :=
  ⟨mediaEntTV4l2SubdevSensor, ascii "m01_b_os04a10", ascii "subdev3"⟩

def frontSensor : MediaEntity :=
  ⟨mediaEntTV4l2SubdevSensor, ascii "m00_f_os04a10", ascii "subdev7"⟩

theorem backSensor_index : backSensor.HasModuleIndex 1 := by decide

theorem frontSensor_index : frontSensor.HasModuleIndex 0 := by decide

/-- Camera 1 comes first: its device takes slot 0, where its sensor is not
looked for. -/
def swappedBoard : Board where
  device
    | 0 => some ⟨ascii "rkisp0", [backSensor]⟩
    | 1 => some ⟨ascii "rkisp1", [frontSensor]⟩
    | _ + 2 => none
  kind := by
    intro id device hdevice
    match id with
    | 0 | 1 =>
      obtain rfl := Option.some.inj hdevice
      exact ⟨.isp, by decide⟩
  oneSensor := by
    intro id device hdevice
    match id with
    | 0 | 1 =>
      obtain rfl := Option.some.inj hdevice
      decide
  indexed := by
    intro id device entity hdevice hsensor
    match id with
    | 0 =>
      obtain rfl := Option.some.inj hdevice
      obtain rfl := Option.some.inj hsensor
      exact ⟨1, backSensor_index⟩
    | 1 =>
      obtain rfl := Option.some.inj hdevice
      obtain rfl := Option.some.inj hsensor
      exact ⟨0, frontSensor_index⟩
  distinct := by
    intro id device entity id' device' entity' index hdevice hsensor hdevice'
      hsensor' hindexed hindexed'
    match id, id' with
    | 0, 0 => rfl
    | 1, 1 => rfl
    | 0, 1 =>
      obtain rfl := Option.some.inj hdevice
      obtain rfl := Option.some.inj hsensor
      obtain rfl := Option.some.inj hdevice'
      obtain rfl := Option.some.inj hsensor'
      have := (backSensor_index.unique hindexed).trans
        (hindexed'.unique frontSensor_index)
      omega
    | 1, 0 =>
      obtain rfl := Option.some.inj hdevice
      obtain rfl := Option.some.inj hsensor
      obtain rfl := Option.some.inj hdevice'
      obtain rfl := Option.some.inj hsensor'
      have := (frontSensor_index.unique hindexed).trans
        (hindexed'.unique backSensor_index)
      omega

theorem swappedBoard_not_registered :
    ¬ SensorsRegistered swappedBoard
        (getMediaInfo swappedBoard.nodes (rkAiqMedia 0 0)) := by
  intro hregistered
  have hrank : swappedBoard.ispRank 0 = 1 :=
    (hregistered.arranged swappedBoard 0 0 0 _ backSensor 1 rfl rfl
      backSensor_index).2 (by decide)
  simp [Board.ispRank] at hrank

end RkaiqToolServer
