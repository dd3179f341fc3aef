import RkaiqToolServer.MediaInfo

/-!
# Linking the sensor

`LinkToSensor` tries to link the sensor to each of nine receivers, remembers
the last one that could be linked, and links that receiver to the ISP or the
CIF.  Every attempt overwrites the result of the one before, and the function
ends with zero whatever the results were; `LinkToIsp` only looks at the sign of
that.
-/

namespace RkaiqToolServer

open ByteCodec

/-- The link `"source":pad -> "sink":0[enabled]`. -/
structure LinkRequest where
  source : List UInt8
  pad : ℕ
  sink : List UInt8
  enabled : Bool
  deriving DecidableEq

def LinkRequest.text (request : LinkRequest) : List UInt8 :=
  ascii "\"" ++ request.source ++ ascii "\":" ++
    ascii (toString request.pad) ++ ascii " -> \"" ++ request.sink ++
    ascii "\":0[" ++ ascii (if request.enabled then "1" else "0") ++ ascii "]"

/-- `media_parse_setup_links` with the link's text. -/
def LinkRequest.setup (request : LinkRequest) (results : List UInt8 → ℤ) :
    ℤ :=
  results request.text

def dphyNum : ℕ := 9

def dphyEntity (n : ℕ) : List UInt8 :=
  ascii ("rockchip-csi2-dphy" ++ toString n)

def sensorToDphy (sensorName : List UInt8) (n : ℕ) : LinkRequest :=
  ⟨sensorName, 0, dphyEntity n, true⟩

def csiToIsp : LinkRequest :=
  ⟨ascii "rkisp-csi-subdev", 1, ascii "rkisp-isp-subdev", true⟩

def dphyToCsi (n : ℕ) : LinkRequest :=
  ⟨dphyEntity n, 1, ascii "rkisp-csi-subdev", true⟩

def dphyToMipi (n : ℕ) : LinkRequest :=
  ⟨dphyEntity n, 1, ascii "rockchip-mipi-csi2", true⟩

def cifStreams : List LinkRequest :=
  [⟨ascii "rockchip-mipi-csi2", 1, ascii "stream_cif_mipi_id0", true⟩,
    ⟨ascii "rockchip-mipi-csi2", 2, ascii "stream_cif_mipi_id1", true⟩,
    ⟨ascii "rockchip-mipi-csi2", 3, ascii "stream_cif_mipi_id2", true⟩,
    ⟨ascii "rockchip-mipi-csi2", 4, ascii "stream_cif_mipi_id3", true⟩]

def rawReads (enabled : Bool) : List LinkRequest :=
  [⟨ascii "rkisp_rawrd0_m", 0, ascii "rkisp-isp-subdev", enabled⟩,
    ⟨ascii "rkisp_rawrd1_l", 0, ascii "rkisp-isp-subdev", enabled⟩,
    ⟨ascii "rkisp_rawrd2_s", 0, ascii "rkisp-isp-subdev", enabled⟩]

def sensorToDvp (sensorName : List UInt8) : LinkRequest :=
  ⟨sensorName, 0, ascii "stream_cif_dvp_id0", true⟩

/-- A CIF entry goes before an ISP entry, and that one before a DVP entry. -/
def MediaTable.linkKind (table : MediaTable) (camIndex : ℕ) :
    Option MediaKind :=
  if table.path .cif camIndex = [] ∧ table.path .isp camIndex = [] ∧
      table.path .dvp camIndex = [] then none
  else if table.path .cif camIndex ≠ [] then some .cif
  else if table.path .isp camIndex ≠ [] then some .isp
  else some .dvp

/-- The number of the last receiver linked; zero when there is none. -/
def dphyIndex (results : List UInt8 → ℤ) (sensorName : List UInt8) : ℕ :=
  (List.range dphyNum).foldl
    (fun index n =>
      if (sensorToDphy sensorName n).setup results = 0 then n else index)
    0

/-- What is linked after the nine receivers. -/
def laterRequests (kind : MediaKind) (sensorName : List UInt8) (index : ℕ) :
    List LinkRequest :=
  match kind with
  | .isp => [csiToIsp, dphyToCsi index]
  | .cif => dphyToMipi index :: (cifStreams ++ rawReads false)
  | .dvp => [sensorToDvp sensorName]

def linkRequests (kind : MediaKind) (sensorName : List UInt8) (index : ℕ) :
    List LinkRequest :=
  (List.range dphyNum).map (sensorToDphy sensorName) ++
    laterRequests kind sensorName index

structure LinkResult where
  ret : ℤ
  attempts : List (LinkRequest × ℤ)

/-- `enumerate` is what enumerating the device gives, if it can be created,
and `results` what `media_parse_setup_links` gives for the text of a link. -/
def linkToSensor (table : MediaTable) (camIndex : ℕ)
    (enumerate : List UInt8 → Option ℤ) (results : List UInt8 → ℤ) :
    LinkResult :=
  match table.linkKind camIndex with
  | none => { ret := -1, attempts := [] }
  | some kind =>
      let sensorName := (table.entry kind camIndex).sensorName
      if sensorName = [] then { ret := -1, attempts := [] }
      else
        match enumerate (table.path kind camIndex) with
        | none => { ret := -1, attempts := [] }
        | some ret =>
            if ret < 0 then { ret, attempts := [] }
            else
              { ret := 0
                attempts :=
                  (linkRequests kind sensorName
                    (dphyIndex results sensorName)).map
                    fun request => (request, request.setup results) }

def ispRequests (enable : Bool) (camCount : ℤ) : List LinkRequest :=
  [⟨ascii "rkisp-csi-subdev", 2, ascii "rkisp_rawwr0", true⟩,
    ⟨ascii "rkisp-csi-subdev", 4, ascii "rkisp_rawwr2", true⟩,
    ⟨ascii "rkisp-csi-subdev", 5, ascii "rkisp_rawwr3", true⟩,
    ⟨ascii "rkisp-isp-subdev", 2, ascii "rkisp_mainpath", true⟩] ++
  rawReads (enable && camCount > 1) ++
  [⟨ascii "rkisp-isp-subdev", 2, ascii "rkisp_bridge_ispp", enable⟩]

structure IspLinkResult where
  ret : ℤ
  sensor : LinkResult
  requests : List (List UInt8 × LinkRequest)

def ispNodeRequests (enable : Bool) (camCount : ℤ) (nodes : ℕ → MediaNode)
    (id : ℕ) : List (List UInt8 × LinkRequest) :=
  match nodes id with
  | .present device =>
      if ispModels.contains device.model then
        (ispRequests enable camCount).map fun request =>
          (mediaPath id, request)
      else []
  | .absent => []
  | .failed => []

/-- No result of the links after the sensor's changes the value returned. -/
def MediaTable.linkToIsp (table : MediaTable) (deviceId : ℕ)
    (enumerate : List UInt8 → Option ℤ) (results : List UInt8 → ℤ)
    (enable : Bool) (camCount : ℤ) (nodes : ℕ → MediaNode) : IspLinkResult :=
  let sensor := linkToSensor table deviceId enumerate results
  if sensor.ret < 0 then { ret := -1, sensor, requests := [] }
  else
    { ret := 0
      sensor
      requests :=
        (List.range 20).flatMap (ispNodeRequests enable camCount nodes) }

/-! ## What success should mean -/

/-- The sensor is linked, and its receiver to the ISP or the CIF. -/
def SensorLinked (kind : MediaKind) (sensorName : List UInt8)
    (attempts : List (LinkRequest × ℤ)) : Prop :=
  match kind with
  | .isp => ∃ n, (sensorToDphy sensorName n, 0) ∈ attempts ∧
      (dphyToCsi n, 0) ∈ attempts
  | .cif => ∃ n, (sensorToDphy sensorName n, 0) ∈ attempts ∧
      (dphyToMipi n, 0) ∈ attempts
  | .dvp => (sensorToDvp sensorName, 0) ∈ attempts

/-- Zero is returned only for a linked sensor. -/
def LinkTruthful (table : MediaTable) (camIndex : ℕ) (ret : ℤ)
    (attempts : List (LinkRequest × ℤ)) : Prop :=
  ret = 0 → ∃ kind, table.linkKind camIndex = some kind ∧
    SensorLinked kind (table.entry kind camIndex).sensorName attempts

/-- The camera has a sensor whose device can be enumerated. -/
def ReachesSetup (table : MediaTable) (camIndex : ℕ)
    (enumerate : List UInt8 → Option ℤ) (kind : MediaKind) : Prop :=
  table.linkKind camIndex = some kind ∧
    (table.entry kind camIndex).sensorName ≠ [] ∧
    ∃ ret, enumerate (table.path kind camIndex) = some ret ∧ 0 ≤ ret

def LastDphy (results : List UInt8 → ℤ) (sensorName : List UInt8) (n : ℕ) :
    Prop :=
  n < dphyNum ∧ (sensorToDphy sensorName n).setup results = 0 ∧
    ∀ m, n < m → m < dphyNum → (sensorToDphy sensorName m).setup results ≠ 0

/-- The links on which the sensor depends can be set up; of several receivers
it is the last one that counts. -/
def SetupSucceeds (results : List UInt8 → ℤ) (sensorName : List UInt8) :
    MediaKind → Prop
  | .isp => ∃ n, LastDphy results sensorName n ∧ (dphyToCsi n).setup results = 0
  | .cif => ∃ n, LastDphy results sensorName n ∧ (dphyToMipi n).setup results = 0
  | .dvp => (sensorToDvp sensorName).setup results = 0

/-! ## The last receiver -/

theorem foldl_range_last (p : ℕ → Prop) [DecidablePred p] (bound : ℕ) :
    (∀ m < bound, ¬ p m) ∨
      ∃ n < bound, p n ∧ (∀ m, n < m → m < bound → ¬ p m) ∧
        (List.range bound).foldl (fun index m => if p m then m else index) 0 =
          n := by
  induction bound with
  | zero => exact .inl (by simp)
  | succ bound ih =>
      rw [List.range_succ, List.foldl_append]
      by_cases hlast : p bound
      · refine .inr ⟨bound, by omega, hlast, by omega, ?_⟩
        simp [hlast]
      · rcases ih with hnone | ⟨n, hn, hp, hlater, hfold⟩
        · refine .inl fun m hm => ?_
          rcases Nat.lt_succ_iff_lt_or_eq.mp hm with hlt | rfl
          · exact hnone m hlt
          · exact hlast
        · refine .inr ⟨n, by omega, hp, ?_, by simp [hlast, hfold]⟩
          intro m hnm hm
          rcases Nat.lt_succ_iff_lt_or_eq.mp hm with hlt | rfl
          · exact hlater m hnm hlt
          · exact hlast

theorem LastDphy.dphyIndex_eq {results : List UInt8 → ℤ}
    {sensorName : List UInt8} {n : ℕ} (h : LastDphy results sensorName n) :
    dphyIndex results sensorName = n := by
  obtain ⟨hn, hlinked, hlater⟩ := h
  rcases foldl_range_last
      (fun m => (sensorToDphy sensorName m).setup results = 0) dphyNum with
    hnone | ⟨index, hindex, hp, hafter, hfold⟩
  · exact absurd hlinked (hnone n hn)
  · have hsame : index = n := by
      rcases Nat.lt_trichotomy index n with hlt | heq | hgt
      · exact absurd hlinked (hafter n hlt hn)
      · exact heq
      · exact absurd hp (hlater index hgt hindex)
    rw [dphyIndex, hfold, hsame]

theorem exists_lastDphy {results : List UInt8 → ℤ} {sensorName : List UInt8}
    {n : ℕ} (hn : n < dphyNum)
    (hlinked : (sensorToDphy sensorName n).setup results = 0) :
    LastDphy results sensorName (dphyIndex results sensorName) := by
  rcases foldl_range_last
      (fun m => (sensorToDphy sensorName m).setup results = 0) dphyNum with
    hnone | ⟨index, hindex, hp, hafter, hfold⟩
  · exact absurd hlinked (hnone n hn)
  · have hlast : LastDphy results sensorName index := ⟨hindex, hp, hafter⟩
    rw [hlast.dphyIndex_eq]
    exact hlast

/-- Of the links that go on from a receiver, only the last receiver's is
tried. -/
theorem linkedFurther_iff {results : List UInt8 → ℤ} {sensorName : List UInt8}
    (further : ℕ → LinkRequest) :
    (∃ n, (n < dphyNum ∧ (sensorToDphy sensorName n).setup results = 0) ∧
        n = dphyIndex results sensorName ∧ (further n).setup results = 0) ↔
      ∃ n, LastDphy results sensorName n ∧ (further n).setup results = 0 := by
  constructor
  · rintro ⟨n, ⟨hn, hlinked⟩, hindex, hfurther⟩
    have hlast := exists_lastDphy hn hlinked
    rw [← hindex] at hlast
    exact ⟨n, hlast, hfurther⟩
  · rintro ⟨n, hlast, hfurther⟩
    exact ⟨n, ⟨hlast.1, hlast.2.1⟩, hlast.dphyIndex_eq.symm, hfurther⟩

/-! ## Attempts -/

theorem dphyEntity_injective : Function.Injective dphyEntity := by
  intro a b h
  apply ascii_toString_injective
  simpa [dphyEntity, ascii, String.toList_append] using h

theorem mem_attempts {results : List UInt8 → ℤ} {requests : List LinkRequest}
    {request : LinkRequest} :
    (request, (0 : ℤ)) ∈ requests.map (fun r => (r, r.setup results)) ↔
      request ∈ requests ∧ request.setup results = 0 := by
  rw [List.mem_map]
  constructor
  · rintro ⟨other, hmem, heq⟩
    rw [Prod.mk.injEq] at heq
    obtain ⟨rfl, hzero⟩ := heq
    exact ⟨hmem, hzero⟩
  · rintro ⟨hmem, hzero⟩
    exact ⟨request, hmem, by rw [hzero]⟩

theorem not_mem_dphyRequests {sensorName : List UInt8}
    {request : LinkRequest} (hpad : request.pad ≠ 0) :
    request ∉ (List.range dphyNum).map (sensorToDphy sensorName) := by
  intro hmem
  obtain ⟨n, -, rfl⟩ := List.mem_map.mp hmem
  exact hpad rfl

theorem dphyToCsi_pad (n : ℕ) : (dphyToCsi n).pad ≠ 0 := Nat.one_ne_zero

theorem dphyToMipi_pad (n : ℕ) : (dphyToMipi n).pad ≠ 0 := Nat.one_ne_zero

theorem dphyToCsi_mem_iff {sensorName : List UInt8} {index n : ℕ} :
    dphyToCsi n ∈ linkRequests .isp sensorName index ↔ n = index := by
  rw [linkRequests, List.mem_append,
    or_iff_right (not_mem_dphyRequests (dphyToCsi_pad n)), laterRequests]
  constructor
  · intro hmem
    rcases List.mem_cons.mp hmem with hisp | hcsi
    · have hsink : ascii "rkisp-csi-subdev" = ascii "rkisp-isp-subdev" :=
        congrArg LinkRequest.sink hisp
      exact absurd hsink (by decide)
    · rw [List.mem_singleton] at hcsi
      exact dphyEntity_injective (congrArg LinkRequest.source hcsi)
  · rintro rfl
    simp

/-- The links of the CIF path after its receiver lead to other entities. -/
theorem cifRequests_sink : ∀ request ∈ cifStreams ++ rawReads false,
    request.sink.take 8 ≠ ascii "rockchip" := by
  decide +kernel

theorem dphyToMipi_mem_iff {sensorName : List UInt8} {index n : ℕ} :
    dphyToMipi n ∈ linkRequests .cif sensorName index ↔ n = index := by
  rw [linkRequests, List.mem_append,
    or_iff_right (not_mem_dphyRequests (dphyToMipi_pad n)), laterRequests]
  constructor
  · intro hmem
    rcases List.mem_cons.mp hmem with hmipi | hlater
    · exact dphyEntity_injective (congrArg LinkRequest.source hmipi)
    · have hsink : (dphyToMipi n).sink.take 8 = ascii "rockchip" := rfl
      exact absurd hsink (cifRequests_sink _ hlater)
  · rintro rfl
    simp

/-- Only the links to the receivers lead to an entity of such a name. -/
theorem laterRequests_sink {kind : MediaKind} {sensorName : List UInt8}
    {index : ℕ} : ∀ request ∈ laterRequests kind sensorName index,
      request.sink.take 10 ≠ ascii "rockchip-c" := by
  intro request hmem
  cases kind with
  | isp =>
      rcases List.mem_cons.mp hmem with rfl | hcsi
      · decide
      · rw [List.mem_singleton] at hcsi
        rw [show request.sink = ascii "rkisp-csi-subdev" by rw [hcsi]; rfl]
        decide
  | cif =>
      rcases List.mem_cons.mp hmem with hmipi | hlater
      · rw [show request.sink = ascii "rockchip-mipi-csi2" by rw [hmipi]; rfl]
        decide
      · intro hsink
        have hstart := congrArg (List.take 8) hsink
        rw [List.take_take] at hstart
        exact cifRequests_sink request hlater hstart
  | dvp =>
      rw [laterRequests, List.mem_singleton] at hmem
      rw [show request.sink = ascii "stream_cif_dvp_id0" by rw [hmem]; rfl]
      decide

theorem dphyEntity_take (n : ℕ) :
    (dphyEntity n).take 10 = ascii "rockchip-c" := by
  rw [dphyEntity, ascii, String.toList_append, List.map_append,
    List.take_append_of_le_length (by decide)]
  decide

theorem sensorToDphy_mem_iff {kind : MediaKind} {sensorName : List UInt8}
    {index n : ℕ} :
    sensorToDphy sensorName n ∈ linkRequests kind sensorName index ↔
      n < dphyNum := by
  rw [linkRequests, List.mem_append]
  constructor
  · rintro (hdphy | hlater)
    · obtain ⟨m, hm, heq⟩ := List.mem_map.mp hdphy
      have hsame : m = n :=
        dphyEntity_injective (congrArg LinkRequest.sink heq)
      rw [← hsame]
      exact List.mem_range.mp hm
    · exact absurd (dphyEntity_take n) (laterRequests_sink _ hlater)
  · exact fun hn => .inl (List.mem_map_of_mem (List.mem_range.mpr hn))

theorem sensorToDvp_mem {sensorName : List UInt8} {index : ℕ} :
    sensorToDvp sensorName ∈ linkRequests .dvp sensorName index := by
  simp [linkRequests, laterRequests]

theorem sensorLinked_iff (results : List UInt8 → ℤ) (kind : MediaKind)
    (sensorName : List UInt8) :
    SensorLinked kind sensorName
        ((linkRequests kind sensorName (dphyIndex results sensorName)).map
          fun request => (request, request.setup results)) ↔
      SetupSucceeds results sensorName kind := by
  cases kind with
  | isp =>
      simp only [SensorLinked, SetupSucceeds, mem_attempts,
        sensorToDphy_mem_iff, dphyToCsi_mem_iff]
      exact linkedFurther_iff dphyToCsi
  | cif =>
      simp only [SensorLinked, SetupSucceeds, mem_attempts,
        sensorToDphy_mem_iff, dphyToMipi_mem_iff]
      exact linkedFurther_iff dphyToMipi
  | dvp =>
      simp only [SensorLinked, SetupSucceeds, mem_attempts]
      exact and_iff_right sensorToDvp_mem

/-! ## The returned value -/

/-- The function fails before it sets up a link, or it has made all its
attempts and returns zero. -/
theorem linkToSensor_cases (table : MediaTable) (camIndex : ℕ)
    (enumerate : List UInt8 → Option ℤ) (results : List UInt8 → ℤ) :
    ((∀ kind, ¬ ReachesSetup table camIndex enumerate kind) ∧
      (linkToSensor table camIndex enumerate results).ret < 0) ∨
    ∃ kind, ReachesSetup table camIndex enumerate kind ∧
      linkToSensor table camIndex enumerate results =
        { ret := 0
          attempts :=
            (linkRequests kind (table.entry kind camIndex).sensorName
              (dphyIndex results (table.entry kind camIndex).sensorName)).map
              fun request => (request, request.setup results) } := by
  rw [linkToSensor]
  cases hkind : table.linkKind camIndex with
  | none => exact .inl ⟨fun kind h => by simp [ReachesSetup, hkind] at h, by simp⟩
  | some kind =>
      have hnot : ∀ {P : Prop}, (ReachesSetup table camIndex enumerate kind → P) →
          ∀ kind', ReachesSetup table camIndex enumerate kind' → P := by
        intro P hP kind' h
        have hsame := h.1
        rw [hkind, Option.some.injEq] at hsame
        exact hP (hsame ▸ h)
      by_cases hname : (table.entry kind camIndex).sensorName = []
      · refine .inl ⟨fun kind' h => hnot (fun h => h.2.1 hname) kind' h, ?_⟩
        simp [hname]
      · cases hopen : enumerate (table.path kind camIndex) with
        | none =>
            refine .inl ⟨fun kind' h => hnot (fun h => ?_) kind' h, ?_⟩
            · obtain ⟨-, -, ret, hret, -⟩ := h
              simp [hopen] at hret
            · simp [hname, hopen]
        | some ret =>
            by_cases hret : ret < 0
            · refine .inl ⟨fun kind' h => hnot (fun h => ?_) kind' h, ?_⟩
              · obtain ⟨-, -, ret', hsome, hle⟩ := h
                rw [hopen, Option.some.injEq] at hsome
                omega
              · simp [hname, hopen, hret]
            · refine .inr ⟨kind, ⟨hkind, hname, ret, hopen, not_lt.mp hret⟩, ?_⟩
              simp [hname, hopen, hret]

theorem MediaTable.linkToIsp_sensor (table : MediaTable) (camIndex : ℕ)
    (enumerate : List UInt8 → Option ℤ) (results : List UInt8 → ℤ)
    (enable : Bool) (camCount : ℤ) (nodes : ℕ → MediaNode) :
    (table.linkToIsp camIndex enumerate results enable camCount nodes).sensor =
      linkToSensor table camIndex enumerate results := by
  rw [MediaTable.linkToIsp]
  split <;> rfl

/-- `LinkToSensor` and `LinkToIsp` tell the truth about a camera exactly when
its set-up fails early or succeeds with the last receiver. -/
theorem linkSetup_truthful_iff (table : MediaTable) (camIndex : ℕ)
    (enumerate : List UInt8 → Option ℤ) (results : List UInt8 → ℤ)
    (enable : Bool) (camCount : ℤ) (nodes : ℕ → MediaNode) :
    (LinkTruthful table camIndex
        (linkToSensor table camIndex enumerate results).ret
        (linkToSensor table camIndex enumerate results).attempts ∧
      LinkTruthful table camIndex
        (table.linkToIsp camIndex enumerate results enable camCount nodes).ret
        (table.linkToIsp camIndex enumerate results enable camCount
          nodes).sensor.attempts) ↔
      ∀ kind, ReachesSetup table camIndex enumerate kind →
        SetupSucceeds results (table.entry kind camIndex).sensorName kind := by
  rw [MediaTable.linkToIsp_sensor]
  rcases linkToSensor_cases table camIndex enumerate results with
    ⟨hnone, hret⟩ | ⟨kind, hreaches, hresult⟩
  · have hisp : (table.linkToIsp camIndex enumerate results enable camCount
        nodes).ret = -1 := by
      simp only [MediaTable.linkToIsp, if_pos hret]
    refine iff_of_true ⟨fun hzero => by omega, fun hzero => by omega⟩ ?_
    exact fun kind h => absurd h (hnone kind)
  · have hisp : (table.linkToIsp camIndex enumerate results enable camCount
        nodes).ret = 0 := by
      simp only [MediaTable.linkToIsp, hresult]
      rfl
    have htruthful : LinkTruthful table camIndex 0
        ((linkRequests kind (table.entry kind camIndex).sensorName
          (dphyIndex results (table.entry kind camIndex).sensorName)).map
          fun request => (request, request.setup results)) ↔
        SetupSucceeds results (table.entry kind camIndex).sensorName kind := by
      rw [← sensorLinked_iff]
      constructor
      · intro h
        obtain ⟨kind', hkind', hlinked⟩ := h rfl
        rw [hreaches.1, Option.some.injEq] at hkind'
        subst hkind'
        exact hlinked
      · exact fun hlinked _ => ⟨kind, hreaches.1, hlinked⟩
    rw [hisp, hresult, htruthful, and_self]
    constructor
    · intro hsucceeds kind' h'
      have hsame := h'.1
      rw [hreaches.1, Option.some.injEq] at hsame
      exact hsame ▸ hsucceeds
    · exact fun h => h kind hreaches

/-- A camera entered with its ISP device. -/
def linkedCamera : MediaTable :=
  (rkAiqMedia (fun _ => -1) fun _ => 0).set .isp 0
    { modelIdx := 0
      linkedSensor := 1
      sensorName := ascii "m00_b_ov4689"
      sensorSubdevPath := ascii "/dev/v4l-subdev3"
      mediaDevPath := mediaPath 0 }

/-- Both functions report success when no link at all can be set up. -/
theorem linkSetup_not_truthful :
    ¬ ∀ (table : MediaTable) (camIndex : ℕ)
      (enumerate : List UInt8 → Option ℤ) (results : List UInt8 → ℤ)
      (enable : Bool) (camCount : ℤ) (nodes : ℕ → MediaNode),
      LinkTruthful table camIndex
          (linkToSensor table camIndex enumerate results).ret
          (linkToSensor table camIndex enumerate results).attempts ∧
        LinkTruthful table camIndex
          (table.linkToIsp camIndex enumerate results enable camCount nodes).ret
          (table.linkToIsp camIndex enumerate results enable camCount
            nodes).sensor.attempts := by
  intro h
  have hsensor := (h linkedCamera 0 (fun _ => some 0) (fun _ => -22) true 1
    fun _ => .absent).1
  obtain ⟨kind, hkind, hlinked⟩ := hsensor (by decide)
  have hisp : linkedCamera.linkKind 0 = some .isp := by decide
  rw [hisp, Option.some.injEq] at hkind
  subst hkind
  obtain ⟨n, hdphy, -⟩ := hlinked
  have hattempts : (linkToSensor linkedCamera 0 (fun _ => some 0)
      (fun _ => -22)).attempts =
        (linkRequests .isp (ascii "m00_b_ov4689")
          (dphyIndex (fun _ => -22) (ascii "m00_b_ov4689"))).map
          fun request => (request, -22) := by
    decide
  rw [hattempts] at hdphy
  obtain ⟨request, -, hresult⟩ := List.mem_map.mp hdphy
  exact absurd (congrArg Prod.snd hresult) (by simp)

end RkaiqToolServer
