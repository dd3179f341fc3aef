import RkaiqToolServer.SensorSlots

/-!
# Which sensor an index selects

A sensor's entity name starts with `m` and two digits, its module index.
`GetSensorName`, `IsLinkSensor` and `GetLinkSensorSubDev` compare three bytes
of the name with `m0` followed by the camera's number, so of a number of two
digits only the first one is compared: all cameras from ten on select the
sensors of module one.
-/

namespace RkaiqToolServer

open ByteCodec

/-- The number that the two digits after the `m` of an entity name denote. -/
def moduleIndex : List UInt8 → Option ℕ
  | letter :: tens :: ones :: _ =>
      if letter = 0x6d ∧ (0x30 ≤ tens ∧ tens ≤ 0x39) ∧
          (0x30 ≤ ones ∧ ones ≤ 0x39) then
        some (10 * (tens.toNat - 0x30) + (ones.toNat - 0x30))
      else none
  | _ => none

/-- A sensor of the device with the camera's module index. -/
def MediaDevice.DenotedBy (device : MediaDevice) (camIndex : ℕ)
    (entity : MediaEntity) : Prop :=
  entity ∈ device.entities ∧ entity.isSensor = true ∧
    moduleIndex entity.name = some camIndex

/-- The entity that makes each of the three functions answer has the module
index asked for. -/
structure SelectsOnlyIndex (device : MediaDevice) (camIndex : ℕ) : Prop where
  isLinkSensor : isLinkSensor device camIndex ≠ 0 →
    ∃ entity, device.findSensor camIndex = some entity ∧
      device.DenotedBy camIndex entity
  getSensorName : getSensorName device camIndex ≠ [] →
    ∃ entity, device.findSensor camIndex = some entity ∧
      getSensorName device camIndex = entity.name ∧
      device.DenotedBy camIndex entity
  getLinkSensorSubDev : getLinkSensorSubDev device camIndex ≠ [] →
    ∃ entity, device.findSensor camIndex = some entity ∧
      getLinkSensorSubDev device camIndex = entity.devname ∧
      device.DenotedBy camIndex entity

/-- No sensor's name that the index matches is matched by another one. -/
def MatchedOnce (device : MediaDevice) (camIndex : ℕ) : Prop :=
  ∀ entity ∈ device.entities, entity.isSensor = true →
    entity.named camIndex = true →
      ∀ camIndex' < maxCamNum, entity.named camIndex' = true →
        camIndex' = camIndex

/-- The device has a sensor whose name starts with `m01`. -/
def MediaDevice.HasModuleOne (device : MediaDevice) : Prop :=
  ∃ entity ∈ device.entities, entity.isSensor = true ∧
    entity.HasModuleIndex 1

/-! ## The compared bytes -/

def comparedIndex (camIndex : ℕ) : ℕ :=
  if camIndex < 10 then camIndex else 1

theorem comparedIndex_lt (camIndex : ℕ) : comparedIndex camIndex < 10 := by
  rw [comparedIndex]
  split <;> omega

theorem take_sensorIndexStr_comparedIndex : ∀ camIndex < maxCamNum,
    (sensorIndexStr camIndex).take 3 =
      sensorIndexStr (comparedIndex camIndex) := by
  intro camIndex hcam
  refine (take_sensorIndexStr camIndex hcam _ (comparedIndex_lt _)).mpr ?_
  rw [comparedIndex]
  split <;> omega

theorem MediaEntity.named_iff (entity : MediaEntity) {camIndex : ℕ}
    (hcam : camIndex < maxCamNum) :
    entity.named camIndex = true ↔
      entity.HasModuleIndex (comparedIndex camIndex) := by
  have hdigit := comparedIndex_lt camIndex
  rw [MediaEntity.named, decide_eq_true_eq,
    take_sensorIndexStr_comparedIndex camIndex hcam,
    MediaEntity.HasModuleIndex, List.prefix_iff_eq_take,
    length_sensorIndexStr _ hdigit]
  exact ⟨fun heq => ⟨hdigit, heq⟩, fun h => h.2⟩

theorem moduleIndex_sensorIndexStr_append (rest : List UInt8) :
    ∀ index < 10, moduleIndex (sensorIndexStr index ++ rest) = some index := by
  intro index hindex
  interval_cases index <;> rfl

theorem MediaEntity.HasModuleIndex.moduleIndex_eq {entity : MediaEntity}
    {index : ℕ} (h : entity.HasModuleIndex index) :
    moduleIndex entity.name = some index := by
  obtain ⟨rest, hrest⟩ := h.2
  rw [← hrest]
  exact moduleIndex_sensorIndexStr_append rest index h.1

/-! ## The selected entity -/

theorem MediaDevice.findSensor_some {device : MediaDevice} {camIndex : ℕ}
    {entity : MediaEntity} (h : device.findSensor camIndex = some entity) :
    entity ∈ device.entities ∧ entity.isSensor = true ∧
      entity.named camIndex = true := by
  have hfound := List.find?_some h
  rw [Bool.and_eq_true] at hfound
  exact ⟨List.mem_of_find?_eq_some h, hfound.1, hfound.2⟩

theorem MediaDevice.exists_findSensor {device : MediaDevice} {camIndex : ℕ}
    {entity : MediaEntity} (hmem : entity ∈ device.entities)
    (hsensor : entity.isSensor = true)
    (hnamed : entity.named camIndex = true) :
    ∃ found, device.findSensor camIndex = some found := by
  rw [← Option.isSome_iff_exists, MediaDevice.findSensor, List.find?_isSome]
  exact ⟨entity, hmem, by rw [hsensor, hnamed]; rfl⟩

theorem selectsOnlyIndex_iff_findSensor (device : MediaDevice)
    (camIndex : ℕ) :
    SelectsOnlyIndex device camIndex ↔
      ∀ entity, device.findSensor camIndex = some entity →
        device.DenotedBy camIndex entity := by
  constructor
  · intro h entity hfound
    have hlink : isLinkSensor device camIndex ≠ 0 := by
      simp [isLinkSensor, hfound]
    obtain ⟨found, hsome, hdenoted⟩ := h.isLinkSensor hlink
    obtain rfl : found = entity := by simpa [hsome] using hfound
    exact hdenoted
  · intro h
    cases hfound : device.findSensor camIndex with
    | none =>
        constructor <;>
          simp [isLinkSensor, getSensorName, getLinkSensorSubDev, hfound]
    | some entity =>
        have hdenoted := h entity hfound
        constructor
        · exact fun _ => ⟨entity, hfound, hdenoted⟩
        · exact fun _ => ⟨entity, hfound, by simp [getSensorName, hfound], hdenoted⟩
        · exact fun _ => ⟨entity, hfound,
            by simp [getLinkSensorSubDev, hfound], hdenoted⟩

/-- Numbers of one digit select by the whole module index; the other ones
select module one. -/
theorem selectsOnlyIndex_iff (device : MediaDevice) {camIndex : ℕ}
    (hcam : camIndex < maxCamNum) :
    SelectsOnlyIndex device camIndex ↔
      (10 ≤ camIndex → ¬ device.HasModuleOne) := by
  rw [selectsOnlyIndex_iff_findSensor]
  constructor
  · rintro h hhigh ⟨entity, hmem, hsensor, hone⟩
    have hcompared : comparedIndex camIndex = 1 := if_neg (by omega)
    have hnamed : entity.named camIndex = true := by
      rw [entity.named_iff hcam, hcompared]
      exact hone
    obtain ⟨found, hfound⟩ :=
      MediaDevice.exists_findSensor hmem hsensor hnamed
    have hnamedFound := (MediaDevice.findSensor_some hfound).2.2
    rw [found.named_iff hcam, hcompared] at hnamedFound
    have hdenoted := (h found hfound).2.2
    rw [hnamedFound.moduleIndex_eq, Option.some.injEq] at hdenoted
    omega
  · intro h entity hfound
    obtain ⟨hmem, hsensor, hnamed⟩ := MediaDevice.findSensor_some hfound
    rw [entity.named_iff hcam] at hnamed
    by_cases hlow : camIndex < 10
    · rw [comparedIndex, if_pos hlow] at hnamed
      exact ⟨hmem, hsensor, hnamed.moduleIndex_eq⟩
    · rw [comparedIndex, if_neg hlow] at hnamed
      exact absurd ⟨entity, hmem, hsensor, hnamed⟩ (h (not_lt.mp hlow))

theorem matchedOnce_iff (device : MediaDevice) {camIndex : ℕ}
    (hcam : camIndex < maxCamNum) :
    MatchedOnce device camIndex ↔
      (camIndex = 1 ∨ 10 ≤ camIndex → ¬ device.HasModuleOne) := by
  constructor
  · rintro h hone ⟨entity, hmem, hsensor, hindexed⟩
    have hnamed : ∀ camIndex' < maxCamNum,
        (camIndex' = 1 ∨ 10 ≤ camIndex') → entity.named camIndex' = true := by
      intro camIndex' hcam' hone'
      have hcompared : comparedIndex camIndex' = 1 := by
        rw [comparedIndex]
        split <;> omega
      rw [entity.named_iff hcam', hcompared]
      exact hindexed
    have hmatched := h entity hmem hsensor (hnamed camIndex hcam hone)
    -- eleven numbers match such a name
    have hfirst := hmatched 1 (by decide) (hnamed 1 (by decide) (.inl rfl))
    have hten := hmatched 10 (by decide) (hnamed 10 (by decide) (.inr le_rfl))
    omega
  · intro h entity hmem hsensor hnamed camIndex' hcam' hnamed'
    rw [entity.named_iff hcam] at hnamed
    rw [entity.named_iff hcam'] at hnamed'
    have hsame := hnamed.unique hnamed'
    by_cases hone : camIndex = 1 ∨ 10 ≤ camIndex
    · have hcompared : comparedIndex camIndex = 1 := by
        rw [comparedIndex]
        split <;> omega
      rw [hcompared] at hnamed
      exact absurd ⟨entity, hmem, hsensor, hnamed⟩ (h hone)
    · rw [comparedIndex, comparedIndex, if_pos (by omega)] at hsame
      split at hsame <;> omega

/-- Matching is exact for a camera unless its number is one or has two digits
and the device has a sensor of module one. -/
theorem sensorMatching_exact_iff (device : MediaDevice) (camIndex : ℕ)
    (hcam : camIndex < maxCamNum) :
    (SelectsOnlyIndex device camIndex ∧ MatchedOnce device camIndex) ↔
      ((camIndex = 1 ∨ 10 ≤ camIndex) → ¬ device.HasModuleOne) := by
  rw [selectsOnlyIndex_iff device hcam, matchedOnce_iff device hcam]
  constructor
  · exact fun h => h.2
  · exact fun h => ⟨fun hhigh => h (.inr hhigh), h⟩

def moduleOneDevice : MediaDevice where
  model := ascii "rkcif"
  entities :=
    [{ type := mediaEntTV4l2SubdevSensor
       name := ascii "m01_b_os04a10 1-0036-1"
       devname := ascii "/dev/v4l-subdev2" }]

theorem sensorMatching_exact_iff_camera_two :
    (SelectsOnlyIndex moduleOneDevice 2 ∧ MatchedOnce moduleOneDevice 2) ↔
      ((2 = 1 ∨ 10 ≤ 2) → ¬ moduleOneDevice.HasModuleOne) :=
  sensorMatching_exact_iff moduleOneDevice 2 (by decide)

theorem sensorMatching_not_exact :
    ¬ ∀ device, ∀ camIndex < maxCamNum,
      SelectsOnlyIndex device camIndex ∧ MatchedOnce device camIndex := by
  intro h
  have hselects := (h moduleOneDevice 10 (by decide)).1
  have hlink : isLinkSensor moduleOneDevice 10 ≠ 0 := by decide
  obtain ⟨entity, hfound, -, -, hindex⟩ := hselects.isLinkSensor hlink
  have hentity : moduleOneDevice.findSensor 10 =
      some (moduleOneDevice.entities.head (by decide)) := by
    rfl
  rw [hentity, Option.some.injEq] at hfound
  rw [← hfound] at hindex
  exact absurd hindex (by decide)

end RkaiqToolServer
