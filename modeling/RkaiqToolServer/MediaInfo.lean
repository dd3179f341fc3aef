import Mathlib.Data.Nat.Nth
import RkaiqToolServer.ByteCodec

/-!
# The table of media devices

`GetMediaInfo` visits `/dev/media0`, `/dev/media1`, … and enters each device
into the table of cameras under the kind its model name gives it.  The entry
is chosen by what earlier devices left: an ISP device takes the first free
slot, a CIF or DVP device the free slot of a sensor it carries.
-/

namespace RkaiqToolServer

open ByteCodec

def maxMediaNum : ℕ := 20
def maxCamNum : ℕ := 20

/-- `MEDIA_ENT_T_V4L2_SUBDEV_SENSOR`. -/
def mediaEntTV4l2SubdevSensor : ℕ := 0x00020001

structure MediaEntity where
  type : ℕ
  name : List UInt8
  devname : List UInt8

structure MediaDevice where
  model : List UInt8
  entities : List MediaEntity

/-- The fields that `isp_info_t`, `cif_info_t` and `dvp_info_t` have in
common. -/
structure SensorInfo where
  modelIdx : ℤ
  linkedSensor : ℤ
  sensorName : List UInt8
  sensorSubdevPath : List UInt8
  mediaDevPath : List UInt8

inductive MediaKind
  | isp
  | cif
  | dvp
  deriving DecidableEq

structure MediaInfo where
  isp : SensorInfo
  cif : SensorInfo
  dvp : SensorInfo

abbrev MediaTable := ℕ → MediaInfo

def MediaTable.entry (table : MediaTable) (kind : MediaKind) (slot : ℕ) :
    SensorInfo :=
  match kind with
  | .isp => (table slot).isp
  | .cif => (table slot).cif
  | .dvp => (table slot).dvp

def MediaTable.set (table : MediaTable) (kind : MediaKind) (slot : ℕ)
    (info : SensorInfo) : MediaTable :=
  Function.update table slot <|
    match kind with
    | .isp => { table slot with isp := info }
    | .cif => { table slot with cif := info }
    | .dvp => { table slot with dvp := info }

theorem MediaTable.entry_set (table : MediaTable) (kind : MediaKind)
    (slot : ℕ) (info : SensorInfo) (kind' : MediaKind) (slot' : ℕ) :
    (table.set kind slot info).entry kind' slot' =
      if kind' = kind ∧ slot' = slot then info
      else table.entry kind' slot' := by
  by_cases hslot : slot' = slot
  · subst hslot
    cases kind <;> cases kind' <;> simp [MediaTable.set, MediaTable.entry]
  · simp only [hslot, and_false, if_false]
    cases kind' <;> simp [MediaTable.set, MediaTable.entry, hslot]

def SensorInfo.empty (modelIdx linkedSensor : ℤ) : SensorInfo where
  modelIdx := modelIdx
  linkedSensor := linkedSensor
  sensorName := []
  sensorSubdevPath := []
  mediaDevPath := []

/-- The constructor's table.  It leaves the numbers of the DVP entries as they
are in memory. -/
def rkAiqMedia (unsetModel unsetLinked : ℕ → ℤ) : MediaTable := fun slot =>
  { isp := .empty (-1) 0
    cif := .empty (-1) 0
    dvp := .empty (unsetModel slot) (unsetLinked slot) }

/-! ## The sensor of a device -/

def sensorIndexStr (camIndex : ℕ) : List UInt8 :=
  ascii ("m0" ++ toString camIndex)

def MediaEntity.isSensor (entity : MediaEntity) : Bool :=
  entity.type = mediaEntTV4l2SubdevSensor

/-- `sensor_index_str.compare(0, 3, name, 0, 3) == 0`. -/
def MediaEntity.named (entity : MediaEntity) (camIndex : ℕ) : Bool :=
  (sensorIndexStr camIndex).take 3 = entity.name.take 3

def MediaDevice.findSensor (device : MediaDevice) (camIndex : ℕ) :
    Option MediaEntity :=
  device.entities.find? fun entity =>
    entity.isSensor && entity.named camIndex

def isLinkSensor (device : MediaDevice) (camIndex : ℕ) : ℤ :=
  if (device.findSensor camIndex).isSome then 1 else 0

def getSensorName (device : MediaDevice) (camIndex : ℕ) : List UInt8 :=
  match device.findSensor camIndex with
  | some entity => entity.name
  | none => []

def getLinkSensorSubDev (device : MediaDevice) (camIndex : ℕ) : List UInt8 :=
  match device.findSensor camIndex with
  | some entity => entity.devname
  | none => []

/-! ## Entering a device -/

/-- What the three functions write into the entry they chose; the sensor's
name and path stay as they are when the device does not carry the slot's
sensor. -/
def SensorInfo.enter (info : SensorInfo) (id : ℕ) (device : MediaDevice)
    (devpath : List UInt8) (index : ℕ) : SensorInfo where
  modelIdx := id
  linkedSensor := isLinkSensor device index
  sensorName :=
    if isLinkSensor device index ≠ 0 then getSensorName device index
    else info.sensorName
  sensorSubdevPath :=
    if isLinkSensor device index ≠ 0 then getLinkSensorSubDev device index
    else info.sensorSubdevPath
  mediaDevPath := devpath

def MediaTable.enter (table : MediaTable) (kind : MediaKind) (slot : ℕ)
    (id : ℕ) (device : MediaDevice) (devpath : List UInt8) (index : ℕ) :
    MediaTable :=
  table.set kind slot ((table.entry kind slot).enter id device devpath index)

theorem MediaTable.entry_enter_self (table : MediaTable) (kind : MediaKind)
    (slot id : ℕ) (device : MediaDevice) (devpath : List UInt8) (index : ℕ) :
    (table.enter kind slot id device devpath index).entry kind slot =
      (table.entry kind slot).enter id device devpath index := by
  rw [MediaTable.enter, entry_set, if_pos ⟨rfl, rfl⟩]

theorem MediaTable.entry_enter_slot (table : MediaTable) {kind : MediaKind}
    {slot slot' : ℕ} (hslot : slot' ≠ slot) (id : ℕ) (device : MediaDevice)
    (devpath : List UInt8) (index : ℕ) :
    (table.enter kind slot id device devpath index).entry kind slot' =
      table.entry kind slot' := by
  rw [MediaTable.enter, entry_set, if_neg fun heq => hslot heq.2]

theorem MediaTable.entry_enter_kind (table : MediaTable)
    {kind kind' : MediaKind} (hkind : kind' ≠ kind) (slot id : ℕ)
    (device : MediaDevice) (devpath : List UInt8) (index : ℕ) :
    (table.enter kind slot id device devpath index).entry kind' =
      table.entry kind' := by
  funext slot'
  rw [MediaTable.enter, entry_set, if_neg fun heq => hkind heq.1]

def MediaTable.path (table : MediaTable) (kind : MediaKind) (slot : ℕ) :
    List UInt8 :=
  (table.entry kind slot).mediaDevPath

/-- The loop of `GetIspSubDevs` leaves at the first slot without an ISP
device, unless a CIF device already has the sensor there. -/
def ispIndex (table : MediaTable) (device : MediaDevice) : Option ℕ :=
  (List.range maxCamNum).find? fun index =>
    table.path .isp index = [] &&
      !(isLinkSensor device index ≠ 0 && table.path .cif index ≠ [])

def getIspSubDevs (id : ℕ) (device : MediaDevice) (devpath : List UInt8)
    (table : MediaTable) : MediaTable :=
  match ispIndex table device with
  | none => table
  | some index =>
      table.enter .isp index id device devpath index

inductive SlotSearch
  | slot (index : ℕ)
  | pathExists
  | noSlot

/-- The loop of `GetCifSubDevs` and `GetDvpSubDevs`: it leaves at a free slot
whose sensor the device carries, and returns at a slot with the same path. -/
def searchSlot (paths : ℕ → List UInt8) (device : MediaDevice)
    (devpath : List UInt8) : List ℕ → SlotSearch
  | [] => .noSlot
  | index :: rest =>
      if isLinkSensor device index ≠ 0 ∧ paths index = [] then .slot index
      else if paths index = devpath then .pathExists
      else searchSlot paths device devpath rest

def getCifSubDevs (id : ℕ) (device : MediaDevice) (devpath : List UInt8)
    (table : MediaTable) : MediaTable :=
  match searchSlot (table.path .cif) device devpath
      (List.range maxCamNum) with
  | .slot index =>
      table.enter .cif index id device devpath index
  | .pathExists => table
  | .noSlot => table

/-- Without a slot, `dvp_info` still points to the last entry when it is
written, while `index` has run past it. -/
def getDvpSubDevs (id : ℕ) (device : MediaDevice) (devpath : List UInt8)
    (table : MediaTable) : MediaTable :=
  match searchSlot (table.path .dvp) device devpath
      (List.range maxCamNum) with
  | .slot index =>
      table.enter .dvp index id device devpath index
  | .pathExists => table
  | .noSlot =>
      table.enter .dvp (maxCamNum - 1) id device devpath maxCamNum

/-! ## Visiting the devices -/

def ispModels : List (List UInt8) :=
  [ascii "rkisp", ascii "rkisp0", ascii "rkisp1", ascii "rkisp2"]

def cifModels : List (List UInt8) :=
  [ascii "rkcif", ascii "rkcif_mipi_lvds", ascii "rkcif_lite_mipi_lvds",
    ascii "rkcif-mipi-lvds", ascii "rkcif-mipi-lvds1",
    ascii "rkcif-mipi-lvds2", ascii "rkcif-mipi-lvds3",
    ascii "rkcif-mipi-lvds4", ascii "rkcif-mipi-lvds5"]

/-- The post-processor's devices and all other ones enter none of the three
kinds of entries. -/
def MediaDevice.kind (device : MediaDevice) : Option MediaKind :=
  if device.model ∈ ispModels then some .isp
  else if device.model ∈ cifModels then some .cif
  else if device.model = ascii "rkcif_dvp" then some .dvp
  else none

def mediaPath (id : ℕ) : List UInt8 :=
  ascii ("/dev/media" ++ toString id)

def enterDevice (table : MediaTable) (id : ℕ) (device : MediaDevice) :
    MediaTable :=
  match device.kind with
  | some .isp => getIspSubDevs id device (mediaPath id) table
  | some .cif => getCifSubDevs id device (mediaPath id) table
  | some .dvp => getDvpSubDevs id device (mediaPath id) table
  | none => table

/-- What is found under `/dev/mediaN`; `failed` is a device that could not be
opened or enumerated. -/
inductive MediaNode
  | absent
  | present (device : MediaDevice)
  | failed

def getMediaInfoFrom (nodes : ℕ → MediaNode) :
    List ℕ → MediaTable → MediaTable
  | [], table => table
  | id :: rest, table =>
      match nodes id with
      | .absent => getMediaInfoFrom nodes rest table
      | .present device =>
          getMediaInfoFrom nodes rest (enterDevice table id device)
      | .failed => table

def getMediaInfo (nodes : ℕ → MediaNode) (table : MediaTable) : MediaTable :=
  getMediaInfoFrom nodes (List.range maxMediaNum) table

/-! ## Paths -/

theorem char_of_digit {letter : Char} (hletter : letter.isDigit) :
    Char.ofNat (UInt8.ofNat letter.toNat).toNat = letter := by
  have hbound : letter.toNat ≤ 57 := by
    have := hletter
    simp only [Char.isDigit, Bool.and_eq_true, decide_eq_true_eq] at this
    exact this.2
  have hsmall : (UInt8.ofNat letter.toNat).toNat = letter.toNat := by
    rw [UInt8.toNat_ofNat']
    exact Nat.mod_eq_of_lt (by omega)
  rw [hsmall, Char.ofNat_toNat]

theorem ascii_toString_injective {a b : ℕ}
    (h : ascii (toString a) = ascii (toString b)) : a = b := by
  have hback : ∀ n : ℕ, (ascii (toString n)).map
      (fun byte => Char.ofNat byte.toNat) = Nat.toDigits 10 n := by
    intro n
    have hlist : (toString n).toList = Nat.toDigits 10 n := Nat.toList_repr
    rw [ascii, hlist, List.map_map]
    conv_rhs => rw [← List.map_id (Nat.toDigits 10 n)]
    apply List.map_congr_left
    intro letter hletter
    exact char_of_digit
      (Nat.isDigit_of_mem_toDigits (by norm_num) (by norm_num) hletter)
  have hdigits : Nat.toDigits 10 a = Nat.toDigits 10 b := by
    rw [← hback a, ← hback b, h]
  rw [← Nat.ofDigitChars_toDigits (b := 10) (by norm_num) (by norm_num)
      (n := a), hdigits,
    Nat.ofDigitChars_toDigits (by norm_num) (by norm_num)]

theorem mediaPath_injective : Function.Injective mediaPath := by
  intro a b h
  apply ascii_toString_injective
  simpa [mediaPath, ascii, String.toList_append] using h

theorem mediaPath_ne_nil (id : ℕ) : mediaPath id ≠ [] := by
  simp [mediaPath, ascii, String.toList_append]

end RkaiqToolServer
