import RkaiqToolServer.MediaGraph

/-!
# The mirror of a media device

What it means for a graph to mirror the kernel is that every link has two
cells, one at each end, and that the two belong together.  The enumeration of
any device that is in order leaves such a graph, however many arrays had to be
moved on the way.
-/

namespace RkaiqToolServer

open TwinArrays ByteCodec

/-! ## The links of a mirrored device -/

theorem Topology.Valid.padRef_injective {top : Topology} (hvalid : top.Valid)
    {pad other : PadName} (hpad : top.HasPad pad) (hother : top.HasPad other)
    (hsame : top.padRef pad = top.padRef other) : pad = other := by
  simp only [Topology.padRef, PadRef.mk.injEq] at hsame
  have hentity := hvalid.position_injective hpad hother hsame.1
  cases pad with
  | mk entity index =>
      cases other with
      | mk entity' index' =>
          simp only at hentity hsame
          rw [hentity, hsame.2]

theorem Topology.Valid.ends_injective {top : Topology} (hvalid : top.Valid)
    {ends other : LinkEnds} (hends : ends ∈ top.links)
    (hother : other ∈ top.links)
    (hsource : top.padRef ends.source = top.padRef other.source)
    (hsink : top.padRef ends.sink = top.padRef other.sink) : ends = other := by
  obtain ⟨hs, ht, -⟩ := hvalid.ends ends hends
  obtain ⟨hs', ht', -⟩ := hvalid.ends other hother
  have hsame := hvalid.padRef_injective hs hs' hsource
  have hsame' := hvalid.padRef_injective ht ht' hsink
  cases ends with
  | mk source sink =>
      cases other with
      | mk source' sink' =>
          simp only at hsame hsame'
          rw [hsame, hsame']

theorem Topology.Valid.nodup_linksAt {top : Topology} (hvalid : top.Valid)
    (flags : LinkEnds → ℕ) (i : ℕ) :
    (linksAt (top.links.map (top.link flags)) i).Nodup := by
  apply List.Nodup.filter
  apply List.Nodup.map_on ?_ hvalid.distinct
  intro ends hends other hother hsame
  exact hvalid.ends_injective hends hother (congrArg MediaLink.source hsame)
    (congrArg MediaLink.sink hsame)

section

variable {g : MediaGraph} {top : Topology} {flags : LinkEnds → ℕ}

theorem Mirrors.value_eq (hmirrors : Mirrors g top flags) {p : CellPlace}
    {cell : Cell MediaLink} (hp : TwinArrays.read g.links p = some cell) :
    ∃ ends ∈ top.links, cell.value = top.link flags ends ∧
      (top.position ends.source.entity = p.array ∨
        top.position ends.sink.entity = p.array) := by
  obtain ⟨-, hcell⟩ := read_eq_some_iff.mp hp
  have hmem : cell.value ∈ (g.links p.array).values :=
    List.mem_map_of_mem (List.mem_of_getElem? hcell)
  rw [hmirrors.links, linksAt, List.mem_filter] at hmem
  obtain ⟨hlink, hends⟩ := hmem
  obtain ⟨ends, hmem, hvalue⟩ := List.mem_map.mp hlink
  rw [← hvalue] at hends
  exact ⟨ends, hmem, hvalue.symm, of_decide_eq_true hends⟩

theorem Mirrors.exists_cell (hmirrors : Mirrors g top flags) {ends : LinkEnds}
    (hends : ends ∈ top.links) {i : ℕ}
    (hi : top.position ends.source.entity = i ∨
      top.position ends.sink.entity = i) :
    ∃ p cell, p.array = i ∧ TwinArrays.read g.links p = some cell ∧
      cell.value = top.link flags ends := by
  have hmem : top.link flags ends ∈ (g.links i).values := by
    rw [hmirrors.links, linksAt, List.mem_filter]
    exact ⟨List.mem_map_of_mem hends, decide_eq_true hi⟩
  obtain ⟨cell, hcell, hvalue⟩ := List.mem_map.mp hmem
  obtain ⟨index, hindex⟩ := List.getElem?_of_mem hcell
  exact ⟨⟨i, (g.links i).block, index⟩, cell, rfl,
    read_eq_some_iff.mpr ⟨rfl, hindex⟩, hvalue⟩

/-- An array has one cell for a link at most. -/
theorem Mirrors.place_unique (hmirrors : Mirrors g top flags)
    (hvalid : top.Valid) {p q : CellPlace} {cell other : Cell MediaLink}
    (hp : TwinArrays.read g.links p = some cell)
    (hq : TwinArrays.read g.links q = some other)
    (harray : p.array = q.array) (hvalue : cell.value = other.value) :
    p = q := by
  obtain ⟨hpblock, hpcell⟩ := read_eq_some_iff.mp hp
  obtain ⟨hqblock, hqcell⟩ := read_eq_some_iff.mp hq
  have hnodup := hvalid.nodup_linksAt flags q.array
  rw [← hmirrors.links] at hnodup
  have hpvalue : (g.links q.array).values[p.index]? = some cell.value := by
    rw [← harray]
    simp [Cells.values, hpcell]
  have hqvalue : (g.links q.array).values[q.index]? = some cell.value := by
    simp [Cells.values, hqcell, hvalue]
  obtain ⟨hplt, hpget⟩ := List.getElem?_eq_some_iff.mp hpvalue
  obtain ⟨hqlt, hqget⟩ := List.getElem?_eq_some_iff.mp hqvalue
  have hindex : p.index = q.index :=
    hnodup.getElem_inj_iff.mp (hpget.trans hqget.symm)
  cases p with
  | mk array block index =>
      cases q with
      | mk array' block' index' =>
          simp only at harray hindex hpblock hqblock
          subst harray hindex
          rw [← hpblock, ← hqblock]

/-- The two cells of a link are each other's twins, and no other cell is of
that link. -/
theorem Mirrors.cells_of_link (hmirrors : Mirrors g top flags)
    (hvalid : top.Valid) {ends : LinkEnds} (hends : ends ∈ top.links) :
    ∃ p q, p.array = top.position ends.source.entity ∧
      q.array = top.position ends.sink.entity ∧
      TwinArrays.read g.links p =
        some { value := top.link flags ends, twin := some q } ∧
      TwinArrays.read g.links q =
        some { value := top.link flags ends, twin := some p } ∧
      ∀ r cell, TwinArrays.read g.links r = some cell →
        cell.value = top.link flags ends → r = p ∨ r = q := by
  obtain ⟨p, cell, hpa, hp, hvalue⟩ := hmirrors.exists_cell hends (.inl rfl)
  obtain ⟨q, other, hq, hqp, -, hother, hback, hsame⟩ :=
    hmirrors.paired.twin p cell hp List.not_mem_nil
  have harray : ∀ r target, TwinArrays.read g.links r = some target →
      target.value = top.link flags ends →
      top.position ends.source.entity = r.array ∨
        top.position ends.sink.entity = r.array := by
    intro r target hr htarget
    obtain ⟨ends', hmem, hlink, hplace⟩ := hmirrors.value_eq hr
    have heq : ends' = ends :=
      hvalid.ends_injective hmem hends
        (congrArg MediaLink.source (hlink.symm.trans htarget))
        (congrArg MediaLink.sink (hlink.symm.trans htarget))
    rw [heq] at hplace
    exact hplace
  have hqa : q.array = top.position ends.sink.entity := by
    rcases harray q other hother (hsame.trans hvalue) with h | h
    · exact absurd (h.symm.trans hpa.symm) hqp
    · exact h.symm
  refine ⟨p, q, hpa, hqa, ?_, ?_, ?_⟩
  · rw [hp]
    cases cell with
    | mk value twin =>
        simp only at hvalue hq
        rw [hvalue, hq]
  · rw [hother]
    cases other with
    | mk value twin =>
        simp only at hsame hback
        rw [hsame, hvalue, hback]
  · intro r target hr htarget
    rcases harray r target hr htarget with h | h
    · left
      exact hmirrors.place_unique hvalid hr hp (h.symm.trans hpa.symm)
        (htarget.trans hvalue.symm)
    · right
      exact hmirrors.place_unique hvalid hr hother (h.symm.trans hqa.symm)
        (htarget.trans (hsame.trans hvalue).symm)

end

theorem Mirrors.knows {g : MediaGraph} {top : Topology}
    {flags : LinkEnds → ℕ} (hmirrors : Mirrors g top flags) : g.Knows top := by
  have hfirst := congrArg (List.map Prod.fst) hmirrors.entities
  simpa [MediaGraph.Knows, List.map_map, Function.comp_def] using hfirst

/-! ## A kernel that serves a topology -/

def Topology.calls (top : Topology) (flags : LinkEnds → ℕ)
    (model : List UInt8) : MediaCalls where
  deviceInfo := .ok model
  enumEntities id := top.next (id % mediaEntIdFlagNext)
  enumLinks id :=
    match top.find? fun entity => entity.info.id = id with
    | some entity =>
        .ok
          { padIndex := fun n => n
            padFlags := fun n => entity.padFlags.getD n 0
            links := fun n =>
              match entity.links[n]? with
              | some ends => { ends, flags := flags ends }
              | none => { ends := ⟨⟨0, 0⟩, ⟨0, 0⟩⟩, flags := 0 } }
    | none => .error mediaEinval
  devname _ _ := none

theorem Topology.Valid.find?_id {top : Topology} (hvalid : top.Valid)
    {entity : TopologyEntity} (hentity : entity ∈ top) :
    top.find? (fun other => decide (other.info.id = entity.info.id)) =
      some entity := by
  rw [List.find?_eq_getElem?_findIdx]
  exact hvalid.findIdx_id hentity

theorem Topology.Valid.calls_serves {top : Topology} (hvalid : top.Valid)
    (flags : LinkEnds → ℕ) (model : List UInt8) :
    (top.calls flags model).Serves top flags where
  next := by
    intro id hid
    have hmod : (id ||| mediaEntIdFlagNext) % mediaEntIdFlagNext = id := by
      rw [mediaEntIdFlagNext, Nat.or_mod_two_pow, Nat.mod_self, Nat.or_zero]
      exact Nat.mod_eq_of_lt hid
    simp only [Topology.calls, hmod]
  entityLinks := by
    intro entity hentity
    simp only [Topology.calls, hvalid.find?_id hentity, Except.ok.injEq,
      exists_eq_left']
    constructor
    · intro n hn
      simp [List.getElem?_eq_getElem hn]
    · intro n hn
      simp [List.getElem?_eq_getElem hn]

/-- After the enumeration every link of the kernel has one cell at the entity
it starts from and one at the entity it leads to; the two are each other's
twins wherever the arrays have been moved, and there is no other cell. -/
theorem mediaDeviceEnumerate_twins {calls : MediaCalls} {top : Topology}
    {flags : LinkEnds → ℕ} (hvalid : top.Valid)
    (hserves : calls.Serves top flags) {fd : ℤ} {model : List UInt8}
    (hmodel : calls.deviceInfo = .ok model) {fuel : ℕ}
    (hfuel : top.length < fuel) :
    ∃ g, mediaDeviceEnumerate calls (.ok fd) fuel mediaDeviceNew =
        some (0, g) ∧
      g.entities.map (fun entity => (entity.info, entity.pads)) =
        top.map (fun entity => (entity.info, entity.pads)) ∧
      (∀ p cell, TwinArrays.read g.links p = some cell →
        ∃ ends ∈ top.links, cell.value = top.link flags ends) ∧
      ∀ ends ∈ top.links, ∃ p q,
        p.array = top.position ends.source.entity ∧
        q.array = top.position ends.sink.entity ∧
        TwinArrays.read g.links p =
          some { value := top.link flags ends, twin := some q } ∧
        TwinArrays.read g.links q =
          some { value := top.link flags ends, twin := some p } ∧
        ∀ r cell, TwinArrays.read g.links r = some cell →
          cell.value = top.link flags ends → r = p ∨ r = q := by
  obtain ⟨g, hg, hmirrors, -⟩ :=
    @mediaDeviceEnumerate_mirrors calls top flags hvalid hserves fd model
      hmodel fuel hfuel
  refine ⟨g, hg, hmirrors.entities, ?_, fun ends hends =>
    hmirrors.cells_of_link hvalid hends⟩
  intro p cell hp
  obtain ⟨ends, hmem, hvalue, -⟩ := hmirrors.value_eq hp
  exact ⟨ends, hmem, hvalue⟩

/-- Two readers of raw frames in front of one pad, whose entity has to make
room for the second link. -/
def rawReadTopology : Topology :=
  [{ info := ⟨1, ascii "rkisp_rawrd0_m", 0x00010001, 1, 1, 81, 4⟩
     padFlags := [2], links := [⟨⟨1, 0⟩, ⟨3, 0⟩⟩] },
    { info := ⟨2, ascii "rkisp_rawrd1_l", 0x00010001, 1, 1, 81, 5⟩
      padFlags := [2], links := [⟨⟨2, 0⟩, ⟨3, 0⟩⟩] },
    { info := ⟨3, ascii "rkisp-isp-subdev", 0x00020000, 1, 0, 81, 6⟩
      padFlags := [1], links := [] }]

theorem rawReadTopology_valid : rawReadTopology.Valid where
  ids := by decide
  range := by decide
  counts := by decide
  starts := by decide
  ends := by
    intro link hlink
    have hcases : link = ⟨⟨1, 0⟩, ⟨3, 0⟩⟩ ∨ link = ⟨⟨2, 0⟩, ⟨3, 0⟩⟩ := by
      simpa [rawReadTopology, Topology.links] using hlink
    rcases hcases with rfl | rfl <;> simp [Topology.HasPad, rawReadTopology]
  distinct := by decide

theorem mediaDeviceEnumerate_twins_rawRead :
    ∃ g, mediaDeviceEnumerate
          (rawReadTopology.calls (fun _ => 0) (ascii "rkisp0")) (.ok 3) 4
          mediaDeviceNew = some (0, g) ∧
      ∃ p q, p.array = 1 ∧ q.array = 2 ∧
        TwinArrays.read g.links p =
          some { value := ⟨⟨1, 0⟩, ⟨2, 0⟩, 0⟩, twin := some q } ∧
        TwinArrays.read g.links q =
          some { value := ⟨⟨1, 0⟩, ⟨2, 0⟩, 0⟩, twin := some p } := by
  obtain ⟨g, hg, -, -, htwins⟩ :=
    @mediaDeviceEnumerate_twins
      (rawReadTopology.calls (fun _ => 0) (ascii "rkisp0")) rawReadTopology
      (fun _ => 0) rawReadTopology_valid
      (rawReadTopology_valid.calls_serves _ _) 3 (ascii "rkisp0") rfl 4
      (by decide)
  obtain ⟨p, q, hp, hq, hread, hread', -⟩ :=
    htwins ⟨⟨2, 0⟩, ⟨3, 0⟩⟩ (by decide)
  exact ⟨g, hg, p, q, hp, hq, hread, hread'⟩

/-- The graph of the readers, whatever flags their links have. -/
theorem rawReadTopology_enumerated (flags : LinkEnds → ℕ) :
    ∃ g, mediaDeviceEnumerate
          (rawReadTopology.calls flags (ascii "rkisp0")) (.ok 3) 4
          mediaDeviceNew = some (0, g) ∧
      Mirrors g rawReadTopology flags := by
  obtain ⟨g, hg, hmirrors, -⟩ :=
    @mediaDeviceEnumerate_mirrors
      (rawReadTopology.calls flags (ascii "rkisp0")) rawReadTopology
      flags rawReadTopology_valid
      (rawReadTopology_valid.calls_serves _ _) 3 (ascii "rkisp0") rfl 4
      (by decide)
  exact ⟨g, hg, hmirrors⟩

end RkaiqToolServer
