import RkaiqToolServer.MediaMirror

/-!
# Setting up links

`media_setup_link` looks for the link between two pads, asks the kernel for
its flags and stores the answer in both cells of the link;
`media_reset_links` does so for every link that can be disabled.  The graph
keeps mirroring the kernel, whatever the kernel refuses.
-/

namespace RkaiqToolServer

open TwinArrays

variable {κ : Type*}

def enoent : ℤ := 2
def mediaLnkFlEnabled : ℕ := 1
def mediaLnkFlImmutable : ℕ := 2

/-- The kernel with a state of its own; an error is an errno. -/
structure LinkDriver (κ : Type*) where
  openDevice : κ → Except ℤ ℤ
  setupLink : κ → LinkDesc → κ × Except ℤ ℕ

/-- The kernel keeps the flags it answers for the link that was asked for, and
no flags change otherwise. -/
structure LinkDriver.Keeps (driver : LinkDriver κ)
    (flags : κ → LinkEnds → ℕ) : Prop where
  opened : ∀ k errno, driver.openDevice k = .error errno → 0 < errno
  refused : ∀ k desc errno, (driver.setupLink k desc).2 = .error errno →
    0 < errno ∧ flags (driver.setupLink k desc).1 = flags k
  done : ∀ k desc new, (driver.setupLink k desc).2 = .ok new →
    flags (driver.setupLink k desc).1 =
      Function.update (flags k) desc.ends new

structure LinkState (κ : Type*) where
  kernel : κ
  graph : MediaGraph

/-! ## One link -/

def MediaGraph.pad? (g : MediaGraph) (ref : PadRef) : Option MediaPad :=
  (g.entities[ref.entity]?).bind fun entity => entity.pads[ref.pad]?

/-- The loop of `media_setup_link` over the links of the source's entity; no
result stands for the use of a pointer that is not valid. -/
def MediaGraph.findLink (g : MediaGraph) (source sink : PadRef)
    (sourceIndex sinkIndex : ℕ) :
    List (Cell MediaLink) → ℕ → Option (Option ℕ)
  | [], _ => some none
  | cell :: rest, i =>
      (g.pad? cell.value.source).bind fun sourcePad =>
        (g.pad? cell.value.sink).bind fun sinkPad =>
          if cell.value.source.entity = source.entity ∧
              sourcePad.index = sourceIndex ∧
              cell.value.sink.entity = sink.entity ∧
              sinkPad.index = sinkIndex then some (some i)
          else findLink g source sink sourceIndex sinkIndex rest (i + 1)

def MediaGraph.mediaDeviceClose (g : MediaGraph) : MediaGraph :=
  { g with fd := -1 }

def MediaGraph.mediaDeviceOpen (g : MediaGraph) (opened : Except ℤ ℤ) :
    Except ℤ MediaGraph :=
  if g.fd ≠ -1 then .ok g
  else
    match opened with
    | .error errno => .error errno
    | .ok fd => .ok { g with fd }

/-- The link at a place of the source's array with the ends that are asked
for. -/
def setupAt (driver : LinkDriver κ) (s : LinkState κ) (place : CellPlace)
    (ends : LinkEnds) (flags : ℕ) : Option (ℤ × LinkState κ) :=
  (TwinArrays.read s.graph.links place).bind fun cell =>
    let answer := driver.setupLink s.kernel
      { ends, flags := flags ||| (cell.value.flags &&& mediaLnkFlImmutable) }
    match answer.2 with
    | .error errno =>
        some (-errno, ⟨answer.1, s.graph.mediaDeviceClose⟩)
    | .ok new =>
        (setPair s.graph.links place fun link =>
          { link with flags := new }).map fun links =>
            (0, ⟨answer.1, { s.graph with links }.mediaDeviceClose⟩)

def mediaSetupLink (driver : LinkDriver κ) (s : LinkState κ)
    (source sink : PadRef) (flags : ℕ) : Option (ℤ × LinkState κ) :=
  match s.graph.mediaDeviceOpen (driver.openDevice s.kernel) with
  | .error errno => some (-errno, s)
  | .ok graph =>
      (graph.pad? source).bind fun sourcePad =>
        (graph.pad? sink).bind fun sinkPad =>
          (graph.entities[source.entity]?).bind fun sourceEntity =>
            (graph.entities[sink.entity]?).bind fun sinkEntity =>
              (graph.findLink source sink sourcePad.index sinkPad.index
                (graph.links source.entity).cells 0).bind fun
                | none =>
                    some (-enoent, ⟨s.kernel, graph.mediaDeviceClose⟩)
                | some i =>
                    setupAt driver ⟨s.kernel, graph⟩
                      ⟨source.entity, (graph.links source.entity).block, i⟩
                      ⟨⟨sourceEntity.info.id, sourcePad.index⟩,
                        ⟨sinkEntity.info.id, sinkPad.index⟩⟩ flags

/-! ## All links -/

/-- The links of all entities, one after the other. -/
def MediaGraph.linkPlaces (g : MediaGraph) : List CellPlace :=
  (List.range g.entities.length).flatMap fun i =>
    (List.range (g.links i).cells.length).map fun j =>
      ⟨i, (g.links i).block, j⟩

/-- The flags without `MEDIA_LNK_FL_ENABLED`. -/
def clearEnabled (flags : ℕ) : ℕ := flags &&& 0xfffffffe

def resetLinksFrom (driver : LinkDriver κ) :
    List CellPlace → LinkState κ → Option (ℤ × LinkState κ)
  | [], s => some (0, s)
  | place :: rest, s =>
      (TwinArrays.read s.graph.links place).bind fun cell =>
        if cell.value.flags &&& mediaLnkFlImmutable ≠ 0 ∨
            cell.value.source.entity ≠ place.array then
          resetLinksFrom driver rest s
        else
          (mediaSetupLink driver s cell.value.source cell.value.sink
            (clearEnabled cell.value.flags)).bind fun (ret, s) =>
              if ret < 0 then some (ret, s) else resetLinksFrom driver rest s

def mediaResetLinks (driver : LinkDriver κ) (s : LinkState κ) :
    Option (ℤ × LinkState κ) :=
  resetLinksFrom driver s.graph.linkPlaces s

/-! ## Finding a link -/

section

variable {g : MediaGraph} {top : Topology} {flags : LinkEnds → ℕ}

theorem Mirrors.entity_eq (hmirrors : Mirrors g top flags) {i : ℕ}
    {entity : TopologyEntity} (hentity : top[i]? = some entity) :
    ∃ known, g.entities[i]? = some known ∧ known.info = entity.info ∧
      known.pads = entity.pads := by
  have hget := congrArg (fun list => list[i]?) hmirrors.entities
  simp only [List.getElem?_map, hentity, Option.map_some,
    Option.map_eq_some_iff, Prod.mk.injEq] at hget
  exact hget

theorem Mirrors.pad_eq (hmirrors : Mirrors g top flags) (hvalid : top.Valid)
    {pad : PadName} (hpad : top.HasPad pad) :
    (∃ known, g.entities[(top.padRef pad).entity]? = some known ∧
        known.info.id = pad.entity) ∧
      ∃ found, g.pad? (top.padRef pad) = some found ∧
        found.index = pad.index := by
  obtain ⟨entity, hentity, hid, hindex⟩ := hpad
  have hposition := hvalid.findIdx_id hentity
  rw [hid] at hposition
  obtain ⟨known, hknown, hinfo, hpads⟩ := hmirrors.entity_eq hposition
  refine ⟨⟨known, hknown, by rw [hinfo, hid]⟩, ?_⟩
  refine ⟨{ index := pad.index, flags := entity.padFlags.getD pad.index 0 },
    ?_, rfl⟩
  rw [MediaGraph.pad?]
  change (g.entities[top.position pad.entity]?).bind _ = _
  rw [hknown, Option.bind_some, hpads, TopologyEntity.pads,
    List.getElem?_map]
  change Option.map _ (List.range entity.padFlags.length)[pad.index]? = _
  rw [List.getElem?_range hindex]
  rfl

/-- The comparison of a link with the pads looked for. -/
theorem Topology.Valid.link_matches (hvalid : top.Valid)
    {ends other : LinkEnds} (hends : top.HasPad ends.source ∧
      top.HasPad ends.sink) (hother : other ∈ top.links) :
    ((top.link flags other).source.entity = (top.padRef ends.source).entity ∧
        other.source.index = ends.source.index ∧
        (top.link flags other).sink.entity = (top.padRef ends.sink).entity ∧
        other.sink.index = ends.sink.index) ↔ other = ends := by
  obtain ⟨hsource, hsink, -⟩ := hvalid.ends other hother
  constructor
  · rintro ⟨hs, hsi, ht, hti⟩
    have hsame := hvalid.position_injective hsource hends.1 hs
    have hsame' := hvalid.position_injective hsink hends.2 ht
    cases other with
    | mk source sink =>
        cases ends with
        | mk source' sink' =>
            cases source
            cases sink
            cases source'
            cases sink'
            simp only at hsame hsame' hsi hti
            rw [hsame, hsame', hsi, hti]
  · rintro rfl
    exact ⟨rfl, rfl, rfl, rfl⟩

theorem Topology.Valid.link_eq_iff (hvalid : top.Valid)
    {ends other : LinkEnds} (hends : top.HasPad ends.source ∧
      top.HasPad ends.sink) (hother : other ∈ top.links) :
    top.link flags other = top.link flags ends ↔ other = ends := by
  constructor
  · intro hsame
    obtain ⟨hsource, hsink, -⟩ := hvalid.ends other hother
    have hs := hvalid.padRef_injective hsource hends.1
      (congrArg MediaLink.source hsame)
    have ht := hvalid.padRef_injective hsink hends.2
      (congrArg MediaLink.sink hsame)
    cases other with
    | mk source sink =>
        cases ends with
        | mk source' sink' =>
            simp only at hs ht
            rw [hs, ht]
  · rintro rfl
    rfl

theorem Mirrors.findLink_eq (hmirrors : Mirrors g top flags)
    (hvalid : top.Valid) {ends : LinkEnds}
    (hends : top.HasPad ends.source ∧ top.HasPad ends.sink)
    {cells : List (Cell MediaLink)}
    (hcells : ∀ cell ∈ cells, ∃ other ∈ top.links,
      cell.value = top.link flags other) (start : ℕ) :
    g.findLink (top.padRef ends.source) (top.padRef ends.sink)
        ends.source.index ends.sink.index cells start =
      some ((cells.findIdx? fun cell =>
        cell.value = top.link flags ends).map (start + ·)) := by
  induction cells generalizing start with
  | nil => rfl
  | cons cell cells ih =>
      obtain ⟨other, hother, hvalue⟩ := hcells cell List.mem_cons_self
      obtain ⟨hsource, hsink, -⟩ := hvalid.ends other hother
      obtain ⟨-, sourcePad, hsourcePad, hsourceIndex⟩ :=
        hmirrors.pad_eq hvalid hsource
      obtain ⟨-, sinkPad, hsinkPad, hsinkIndex⟩ :=
        hmirrors.pad_eq hvalid hsink
      have hs : g.pad? cell.value.source = some sourcePad := by
        rw [hvalue]
        exact hsourcePad
      have ht : g.pad? cell.value.sink = some sinkPad := by
        rw [hvalue]
        exact hsinkPad
      have hiff := @Topology.Valid.link_matches top flags hvalid ends other
        hends hother
      have heq : cell.value = top.link flags ends ↔ other = ends := by
        rw [hvalue]
        exact hvalid.link_eq_iff hends hother
      rw [MediaGraph.findLink, hs, Option.bind_some, ht, Option.bind_some,
        hsourceIndex, hsinkIndex, hvalue, if_congr hiff rfl rfl,
        List.findIdx?_cons]
      by_cases hfound : other = ends
      · simp [hfound, heq.mpr hfound]
      · have hnot : ¬ cell.value = top.link flags ends :=
          fun h => hfound (heq.mp h)
        rw [if_neg hfound,
          ih fun cell' h => hcells cell' (List.mem_cons_of_mem _ h)]
        simp only [hnot, decide_false, Bool.false_eq_true, if_false,
          Option.map_map]
        congr 2
        funext n
        simp only [Function.comp_apply]
        omega

/-! ## New flags for a link -/

theorem set_eq_map_of_nodup {α : Type*} [DecidableEq α] {list : List α}
    (hnodup : list.Nodup) {i : ℕ} {old : α} (hold : list[i]? = some old)
    (new : α) :
    list.set i new = list.map fun x => if x = old then new else x := by
  obtain ⟨hi, hget⟩ := List.getElem?_eq_some_iff.mp hold
  apply List.ext_getElem?
  intro j
  rw [List.getElem?_set, List.getElem?_map]
  by_cases hij : i = j
  · subst hij
    simp [hi, hget]
  · rw [if_neg hij]
    cases hj : list[j]? with
    | none => rfl
    | some x =>
        obtain ⟨hjlt, hjget⟩ := List.getElem?_eq_some_iff.mp hj
        have hne : x ≠ old := by
          intro hsame
          rw [← hget, ← hjget] at hsame
          exact hij (hnodup.getElem_inj_iff.mp hsame).symm
        simp [hne]

theorem map_eq_self_of_not_mem {α : Type*} [DecidableEq α] {list : List α}
    {old new : α} (hold : old ∉ list) :
    (list.map fun x => if x = old then new else x) = list := by
  conv_rhs => rw [← List.map_id list]
  apply List.map_congr_left
  intro x hx
  have hne : x ≠ old := by
    rintro rfl
    exact hold hx
  simp [hne]

/-- The links at an entity when the flags of one link change. -/
theorem Topology.Valid.linksAt_update (hvalid : top.Valid) {ends : LinkEnds}
    (hends : ends ∈ top.links) (new : ℕ) (i : ℕ) :
    linksAt (top.links.map (top.link (Function.update flags ends new))) i =
      (linksAt (top.links.map (top.link flags)) i).map fun link =>
        if link = top.link flags ends then
          { top.link flags ends with flags := new }
        else link := by
  obtain ⟨hsource, hsink, -⟩ := hvalid.ends ends hends
  unfold linksAt
  rw [List.filter_map, List.filter_map, List.map_map]
  apply List.map_congr_left
  intro other hother
  have hmem := (List.mem_filter.mp hother).1
  have hiff := @Topology.Valid.link_eq_iff top flags hvalid ends other
    ⟨hsource, hsink⟩ hmem
  by_cases hsame : other = ends
  · subst hsame
    simp [Topology.link]
  · have hnot : ¬ top.link flags other = top.link flags ends :=
      fun h => hsame (hiff.mp h)
    rw [Function.comp_apply, if_neg hnot]
    simp [Topology.link, hsame]

/-- The graph with new flags in both cells of a link mirrors the kernel with
new flags for it. -/
theorem Mirrors.setPair (hmirrors : Mirrors g top flags)
    (hvalid : top.Valid) {ends : LinkEnds} (hends : ends ∈ top.links)
    {p : CellPlace} {cell : Cell MediaLink}
    (hp : TwinArrays.read g.links p = some cell)
    (hvalue : cell.value = top.link flags ends) (new : ℕ) :
    ∃ links, TwinArrays.setPair g.links p
          (fun link => { link with flags := new }) = some links ∧
      (∀ i, (links i).block = (g.links i).block) ∧
      Mirrors { g with links } top (Function.update flags ends new) := by
  obtain ⟨links, q, other, hset, hpaired, -, hqp, hother, hsame, hchanged⟩ :=
    hmirrors.paired.setPair hp fun link => { link with flags := new }
  refine ⟨links, hset, fun i => (hchanged.shape i).1, hmirrors.entities, ?_,
    hpaired, hmirrors.closed⟩
  intro i
  obtain ⟨p', q', -, -, hp', hq', honly⟩ :=
    hmirrors.cells_of_link hvalid hends
  have hplace := honly p cell hp hvalue
  have hplace' := honly q other hother (hsame.trans hvalue)
  have hnodup := hvalid.nodup_linksAt flags i
  have hvalues := hmirrors.links i
  rw [← hvalues] at hnodup
  dsimp only
  rw [hchanged.values, hvalid.linksAt_update hends, ← hvalues]
  have hat : ∀ r target, TwinArrays.read g.links r = some target →
      target.value = top.link flags ends →
      (g.links r.array).values[r.index]? = some (top.link flags ends) := by
    intro r target hr htarget
    obtain ⟨-, hget⟩ := read_eq_some_iff.mp hr
    simp [Cells.values, hget, htarget]
  by_cases hip : i = p.array
  · subst hip
    rw [if_pos rfl, hvalue]
    exact set_eq_map_of_nodup hnodup (hat p cell hp hvalue) _
  rw [if_neg hip]
  by_cases hiq : i = q.array
  · subst hiq
    rw [if_pos rfl, hvalue]
    exact set_eq_map_of_nodup hnodup
      (hat q other hother (hsame.trans hvalue)) _
  rw [if_neg hiq]
  symm
  apply map_eq_self_of_not_mem
  intro hmem
  obtain ⟨target, htarget, hlink⟩ := List.mem_map.mp hmem
  obtain ⟨index, hindex⟩ := List.getElem?_of_mem htarget
  have hread : TwinArrays.read g.links ⟨i, (g.links i).block, index⟩ =
      some target := read_eq_some_iff.mpr ⟨rfl, hindex⟩
  have hthird := honly _ target hread hlink
  have hpq : p ≠ q := fun h => hqp (by rw [h])
  have hcover : (⟨i, (g.links i).block, index⟩ : CellPlace) = p ∨
      (⟨i, (g.links i).block, index⟩ : CellPlace) = q := by
    rcases hplace with rfl | rfl
    · rcases hplace' with rfl | rfl
      · exact absurd rfl hpq
      · exact hthird
    · rcases hplace' with rfl | rfl
      · exact hthird.symm
      · exact absurd rfl hpq
  rcases hcover with h | h
  · exact hip (congrArg CellPlace.array h)
  · exact hiq (congrArg CellPlace.array h)

end

/-! ## What setting up a link does -/

/-- A request is refused and changes nothing, or the kernel takes it and both
sides have its answer. -/
inductive SetupOutcome (driver : LinkDriver κ) (flags : κ → LinkEnds → ℕ)
    (top : Topology) (k k' : κ) (ends : LinkEnds) (request : ℕ) : ℤ → Prop
  | refused (ret : ℤ) : ret < 0 → flags k' = flags k →
      SetupOutcome driver flags top k k' ends request ret
  | done (new : ℕ) : ends ∈ top.links →
      driver.setupLink k
          { ends
            flags := request ||| (flags k ends &&& mediaLnkFlImmutable) } =
        (k', .ok new) →
      flags k' = Function.update (flags k) ends new →
      SetupOutcome driver flags top k k' ends request 0

section

variable {driver : LinkDriver κ} {flags : κ → LinkEnds → ℕ} {top : Topology}
  {s : LinkState κ}

theorem Mirrors.mediaDeviceOpen {graph : MediaGraph}
    {values : LinkEnds → ℕ} (hmirrors : Mirrors graph top values)
    (opened : Except ℤ ℤ) :
    graph.mediaDeviceOpen opened =
      opened.map fun fd => { graph with fd } := by
  unfold MediaGraph.mediaDeviceOpen
  rw [if_neg (by simp [hmirrors.closed])]
  cases opened <;> rfl

theorem Mirrors.setupAt (hmirrors : Mirrors s.graph top (flags s.kernel))
    (hvalid : top.Valid) (hkeeps : driver.Keeps flags) {ends : LinkEnds}
    (hends : ends ∈ top.links) {p : CellPlace} {cell : Cell MediaLink}
    (hp : TwinArrays.read s.graph.links p = some cell)
    (hvalue : cell.value = top.link (flags s.kernel) ends)
    (fd : ℤ) (request : ℕ) :
    ∃ ret t, RkaiqToolServer.setupAt driver
          ⟨s.kernel, { s.graph with fd }⟩ p ends request = some (ret, t) ∧
      Mirrors t.graph top (flags t.kernel) ∧
      (∀ i, (t.graph.links i).block = (s.graph.links i).block) ∧
      SetupOutcome driver flags top s.kernel t.kernel ends request ret := by
  have hclosed : ({ s.graph with fd } : MediaGraph).mediaDeviceClose =
      s.graph := by
    have := hmirrors.closed
    cases s with
    | mk kernel graph =>
        cases graph
        simp only at this
        rw [MediaGraph.mediaDeviceClose, this]
  have hold : cell.value.flags = flags s.kernel ends := by
    rw [hvalue]
    rfl
  unfold RkaiqToolServer.setupAt
  dsimp only
  rw [hp, Option.bind_some, hold]
  generalize hanswer : driver.setupLink s.kernel
    { ends, flags := request ||| (flags s.kernel ends &&&
        mediaLnkFlImmutable) } = answer
  obtain ⟨kernel, result⟩ := answer
  cases result with
  | error errno =>
      obtain ⟨hpositive, hsame⟩ := hkeeps.refused s.kernel _ errno
        (by rw [hanswer])
      rw [hanswer] at hsame
      dsimp only at hsame
      refine ⟨-errno, _, rfl, ?_, ?_, .refused _ (by omega) hsame⟩
      · dsimp only
        rw [hclosed, hsame]
        exact hmirrors
      · intro i
        rfl
  | ok new =>
      have hupdate := hkeeps.done s.kernel _ new (by rw [hanswer])
      rw [hanswer] at hupdate
      dsimp only at hupdate
      obtain ⟨links, hset, hblock, hnew⟩ :=
        hmirrors.setPair hvalid hends hp hvalue new
      dsimp only
      rw [hset]
      refine ⟨0, _, rfl, ?_, hblock, .done new hends hanswer hupdate⟩
      dsimp only
      rw [hupdate]
      exact ⟨hnew.entities, hnew.links, hnew.paired, rfl⟩

theorem Mirrors.setupLink (hmirrors : Mirrors s.graph top (flags s.kernel))
    (hvalid : top.Valid) (hkeeps : driver.Keeps flags) {ends : LinkEnds}
    (hends : top.HasPad ends.source ∧ top.HasPad ends.sink) (request : ℕ) :
    ∃ ret t, mediaSetupLink driver s (top.padRef ends.source)
          (top.padRef ends.sink) request = some (ret, t) ∧
      Mirrors t.graph top (flags t.kernel) ∧
      (∀ i, (t.graph.links i).block = (s.graph.links i).block) ∧
      SetupOutcome driver flags top s.kernel t.kernel ends request ret := by
  unfold mediaSetupLink
  rw [hmirrors.mediaDeviceOpen]
  cases hopen : driver.openDevice s.kernel with
  | error errno =>
      have := hkeeps.opened s.kernel errno hopen
      exact ⟨-errno, s, rfl, hmirrors, fun _ => rfl,
        .refused _ (by omega) rfl⟩
  | ok fd =>
      obtain ⟨⟨sourceEntity, hsource, hsourceId⟩, sourcePad, hsourcePad,
        hsourceIndex⟩ := hmirrors.pad_eq hvalid hends.1
      obtain ⟨⟨sinkEntity, hsink, hsinkId⟩, sinkPad, hsinkPad,
        hsinkIndex⟩ := hmirrors.pad_eq hvalid hends.2
      have hpads : ∀ ref, ({ s.graph with fd } : MediaGraph).pad? ref =
          s.graph.pad? ref := fun _ => rfl
      have hcells : ∀ cell ∈
          (s.graph.links (top.padRef ends.source).entity).cells,
          ∃ other ∈ top.links,
            cell.value = top.link (flags s.kernel) other := by
        intro cell hcell
        obtain ⟨index, hindex⟩ := List.getElem?_of_mem hcell
        have hread : TwinArrays.read s.graph.links
            ⟨(top.padRef ends.source).entity,
              (s.graph.links (top.padRef ends.source).entity).block, index⟩ =
            some cell := read_eq_some_iff.mpr ⟨rfl, hindex⟩
        obtain ⟨other, hother, hvalue, -⟩ := hmirrors.value_eq hread
        exact ⟨other, hother, hvalue⟩
      have hopened : Mirrors { s.graph with fd := -1 } top
          (flags s.kernel) :=
        ⟨hmirrors.entities, hmirrors.links, hmirrors.paired, rfl⟩
      have hfind := hmirrors.findLink_eq hvalid hends hcells 0
      have hfind' : ({ s.graph with fd } : MediaGraph).findLink
          (top.padRef ends.source) (top.padRef ends.sink) ends.source.index
          ends.sink.index
          (s.graph.links (top.padRef ends.source).entity).cells 0 =
        s.graph.findLink (top.padRef ends.source) (top.padRef ends.sink)
          ends.source.index ends.sink.index
          (s.graph.links (top.padRef ends.source).entity).cells 0 := by
        generalize (s.graph.links (top.padRef ends.source).entity).cells =
          cells
        generalize 0 = start
        induction cells generalizing start with
        | nil => rfl
        | cons cell cells ih =>
            simp only [MediaGraph.findLink, hpads, ih]
      dsimp only [Except.map]
      rw [hpads, hsourcePad, Option.bind_some, hpads, hsinkPad,
        Option.bind_some, hsource, Option.bind_some, hsink,
        Option.bind_some, hsourceIndex, hsinkIndex, hfind', hfind,
        Option.bind_some, hsourceId, hsinkId]
      cases hindex : (s.graph.links
          (top.padRef ends.source).entity).cells.findIdx? fun cell =>
            cell.value = top.link (flags s.kernel) ends with
      | none =>
          exact ⟨-enoent, _, rfl, hopened, fun _ => rfl,
            .refused _ (by decide) rfl⟩
      | some i =>
          obtain ⟨hi, hvalue, -⟩ := List.findIdx?_eq_some_iff_getElem.mp hindex
          have hvalue := of_decide_eq_true hvalue
          obtain ⟨other, hother, hsame⟩ :=
            hcells _ (List.getElem_mem hi)
          have heq : other = ends :=
            (hvalid.link_eq_iff hends hother).mp (hsame.symm.trans hvalue)
          subst heq
          have hread : TwinArrays.read s.graph.links
              ⟨(top.padRef other.source).entity,
                (s.graph.links (top.padRef other.source).entity).block, i⟩ =
              some (s.graph.links (top.padRef other.source).entity).cells[i] :=
            read_eq_some_iff.mpr ⟨rfl, List.getElem?_eq_getElem hi⟩
          dsimp only [Option.map_some]
          rw [Nat.zero_add]
          exact hmirrors.setupAt hvalid hkeeps hother hread hvalue fd request

end

/-! ## Disabling all links -/

def Enabled (flags : ℕ) : Prop := flags &&& mediaLnkFlEnabled ≠ 0

def Immutable (flags : ℕ) : Prop := flags &&& mediaLnkFlImmutable ≠ 0

instance Enabled.decidable (flags : ℕ) : Decidable (Enabled flags) :=
  inferInstanceAs (Decidable (_ ≠ _))

instance Immutable.decidable (flags : ℕ) : Decidable (Immutable flags) :=
  inferInstanceAs (Decidable (_ ≠ _))

/-- A link that the kernel takes a request for is enabled as requested, and
stays immutable or not. -/
structure LinkDriver.Obeys (driver : LinkDriver κ)
    (flags : κ → LinkEnds → ℕ) : Prop extends driver.Keeps flags where
  enabled : ∀ k desc new, (driver.setupLink k desc).2 = .ok new →
    new &&& mediaLnkFlEnabled = desc.flags &&& mediaLnkFlEnabled
  immutable : ∀ k desc new, (driver.setupLink k desc).2 = .ok new →
    new &&& mediaLnkFlImmutable = flags k desc.ends &&& mediaLnkFlImmutable

/-- Some links that could be disabled have been; nothing else has changed. -/
def Lowered (before after : LinkEnds → ℕ) : Prop :=
  ∀ ends, after ends = before ends ∨
    ¬ Immutable (before ends) ∧ ¬ Enabled (after ends) ∧
      after ends &&& mediaLnkFlImmutable =
        before ends &&& mediaLnkFlImmutable

theorem Lowered.refl (flags : LinkEnds → ℕ) : Lowered flags flags :=
  fun _ => .inl rfl

theorem Lowered.trans {first second third : LinkEnds → ℕ}
    (h : Lowered first second) (h' : Lowered second third) :
    Lowered first third := by
  intro ends
  rcases h' ends with hsame' | ⟨himmutable', henabled', hkept'⟩
  · rw [hsame']
    exact h ends
  · right
    rcases h ends with hsame | ⟨himmutable, -, hkept⟩
    · rw [hsame] at himmutable' hkept'
      exact ⟨himmutable', henabled', hkept'⟩
    · exact ⟨himmutable, henabled', hkept'.trans hkept⟩

theorem Lowered.not_enabled {before after : LinkEnds → ℕ}
    (h : Lowered before after) {ends : LinkEnds}
    (hends : ¬ Enabled (before ends)) : ¬ Enabled (after ends) := by
  rcases h ends with hsame | ⟨-, henabled, -⟩
  · rw [hsame]
    exact hends
  · exact henabled

/-- The links of the kernel at an entity, in the order of its array. -/
def Topology.endsAt (top : Topology) (i : ℕ) : List LinkEnds :=
  top.links.filter fun ends =>
    top.position ends.source.entity = i ∨ top.position ends.sink.entity = i

theorem Topology.linksAt_eq (top : Topology) (flags : LinkEnds → ℕ) (i : ℕ) :
    linksAt (top.links.map (top.link flags)) i =
      (top.endsAt i).map (top.link flags) := by
  rw [linksAt, List.filter_map]
  rfl

section

variable {driver : LinkDriver κ} {flags : κ → LinkEnds → ℕ} {top : Topology}
  {s : LinkState κ}

theorem Mirrors.read_eq {g : MediaGraph} {values : LinkEnds → ℕ}
    (hmirrors : Mirrors g top values) {i j : ℕ} {ends : LinkEnds}
    (hends : (top.endsAt i)[j]? = some ends) :
    ∃ cell, TwinArrays.read g.links ⟨i, (g.links i).block, j⟩ = some cell ∧
      cell.value = top.link values ends := by
  have hvalue : (g.links i).values[j]? = some (top.link values ends) := by
    rw [hmirrors.links, Topology.linksAt_eq, List.getElem?_map, hends]
    rfl
  rw [Cells.values, List.getElem?_map, Option.map_eq_some_iff] at hvalue
  obtain ⟨cell, hcell, hvalue⟩ := hvalue
  exact ⟨cell, read_eq_some_iff.mpr ⟨rfl, hcell⟩, hvalue⟩

theorem clearEnabled_not_enabled (flags more : ℕ) :
    (clearEnabled flags ||| (more &&& mediaLnkFlImmutable)) &&&
      mediaLnkFlEnabled = 0 := by
  rw [clearEnabled, Nat.and_or_distrib_right, Nat.and_assoc, Nat.and_assoc]
  have hfirst : 0xfffffffe &&& mediaLnkFlEnabled = 0 := by decide
  have hsecond : mediaLnkFlImmutable &&& mediaLnkFlEnabled = 0 := by decide
  rw [hfirst, hsecond, Nat.and_zero, Nat.and_zero, Nat.or_zero]

/-- One round of the loop of `media_reset_links`, with a link of its own
entity that can be disabled. -/
theorem SetupOutcome.lowered {k k' : κ} {ends : LinkEnds} {old : ℕ} {ret : ℤ}
    (houtcome : SetupOutcome driver flags top k k' ends (clearEnabled old) ret)
    (hobeys : driver.Obeys flags) (himmutable : ¬ Immutable (flags k ends)) :
    Lowered (flags k) (flags k') ∧ ret ≤ 0 ∧
      (0 ≤ ret → ¬ Enabled (flags k' ends)) := by
  cases houtcome with
  | refused _ hret hsame =>
      rw [hsame]
      exact ⟨Lowered.refl _, by omega, fun h => absurd hret (by omega)⟩
  | done new hmem hcall hupdate =>
      have henabled := hobeys.enabled k _ new (by rw [hcall])
      have hkept := hobeys.immutable k _ new (by rw [hcall])
      dsimp only at henabled hkept
      rw [clearEnabled_not_enabled] at henabled
      have hnew : ¬ Enabled new := by
        rw [Enabled, henabled]
        simp
      refine ⟨?_, le_rfl, fun _ => ?_⟩
      · intro other
        rw [hupdate]
        by_cases hother : other = ends
        · subst hother
          rw [Function.update_self]
          exact .inr ⟨himmutable, hnew, hkept⟩
        · rw [Function.update_of_ne hother]
          exact .inl rfl
      · rw [hupdate, Function.update_self]
        exact hnew

/-- The loop of `media_reset_links` keeps the mirror; with a kernel that obeys,
the links it has gone through are disabled. -/
theorem Mirrors.resetLinksFrom (hmirrors : Mirrors s.graph top (flags s.kernel))
    (hvalid : top.Valid) (hkeeps : driver.Keeps flags) {places : List CellPlace}
    (hplaces : ∀ p ∈ places, p.block = (s.graph.links p.array).block ∧
      ((top.endsAt p.array)[p.index]?).isSome) :
    ∃ ret t, RkaiqToolServer.resetLinksFrom driver places s = some (ret, t) ∧
      Mirrors t.graph top (flags t.kernel) ∧
      (driver.Obeys flags →
        Lowered (flags s.kernel) (flags t.kernel) ∧ ret ≤ 0 ∧
        (0 ≤ ret → ∀ p ∈ places, ∀ ends,
          (top.endsAt p.array)[p.index]? = some ends →
          top.position ends.source.entity = p.array →
          ¬ Immutable (flags s.kernel ends) →
            ¬ Enabled (flags t.kernel ends))) := by
  induction places generalizing s with
  | nil =>
      exact ⟨0, s, rfl, hmirrors, fun _ =>
        ⟨Lowered.refl _, le_rfl, by simp⟩⟩
  | cons p places ih =>
      obtain ⟨hblock, hsome⟩ := hplaces p List.mem_cons_self
      obtain ⟨ends, hends⟩ := Option.isSome_iff_exists.mp hsome
      obtain ⟨cell, hread, hvalue⟩ := hmirrors.read_eq hends
      rw [← hblock] at hread
      have hmem : ends ∈ top.links :=
        (List.mem_filter.mp (List.mem_of_getElem? hends)).1
      obtain ⟨hsource, hsink, -⟩ := hvalid.ends ends hmem
      have hread' : TwinArrays.read s.graph.links p = some cell := hread
      have hcell : cell.value.flags = flags s.kernel ends ∧
          cell.value.source = top.padRef ends.source ∧
          cell.value.sink = top.padRef ends.sink := by
        rw [hvalue]
        exact ⟨rfl, rfl, rfl⟩
      obtain ⟨hflags, hsourceRef, hsinkRef⟩ := hcell
      have hentity : (top.padRef ends.source).entity =
          top.position ends.source.entity := rfl
      rw [RkaiqToolServer.resetLinksFrom, hread', Option.bind_some, hflags,
        hsourceRef, hsinkRef, hentity]
      by_cases hskip : flags s.kernel ends &&& mediaLnkFlImmutable ≠ 0 ∨
          top.position ends.source.entity ≠ p.array
      · rw [if_pos hskip]
        obtain ⟨ret, t, hrun, hmirror, hall⟩ :=
          ih hmirrors fun q hq => hplaces q (List.mem_cons_of_mem _ hq)
        refine ⟨ret, t, hrun, hmirror, fun hobeys => ?_⟩
        obtain ⟨hlowered, hret, hall⟩ := hall hobeys
        refine ⟨hlowered, hret, ?_⟩
        intro hzero q hq other hother hposition himmutable
        rcases List.mem_cons.mp hq with rfl | hq
        · rw [hends, Option.some.injEq] at hother
          subst hother
          rcases hskip with h | h
          · exact absurd h himmutable
          · exact absurd hposition h
        · exact hall hzero q hq other hother hposition himmutable
      · rw [if_neg hskip]
        rw [not_or, not_not] at hskip
        have himmutable : ¬ Immutable (flags s.kernel ends) := by
          rw [Immutable, not_not]
          exact hskip.1
        obtain ⟨ret, t, hrun, hmirror, hblocks, houtcome⟩ :=
          hmirrors.setupLink hvalid hkeeps ⟨hsource, hsink⟩
            (clearEnabled (flags s.kernel ends))
        rw [hrun, Option.bind_some]
        dsimp only
        by_cases hneg : ret < 0
        · rw [if_pos hneg]
          refine ⟨ret, t, rfl, hmirror, fun hobeys => ?_⟩
          obtain ⟨hlowered, hret, -⟩ := houtcome.lowered hobeys himmutable
          exact ⟨hlowered, hret, fun h => absurd hneg (by omega)⟩
        · rw [if_neg hneg]
          obtain ⟨ret', u, hrest, hmirror', hall⟩ :=
            ih hmirror (by
              intro q hq
              obtain ⟨hq', hsome'⟩ := hplaces q (List.mem_cons_of_mem _ hq)
              exact ⟨hq'.trans (hblocks q.array).symm, hsome'⟩)
          refine ⟨ret', u, hrest, hmirror', fun hobeys => ?_⟩
          obtain ⟨hlowered, -, hdisabled⟩ :=
            houtcome.lowered hobeys himmutable
          obtain ⟨hlowered', hret', hall⟩ := hall hobeys
          refine ⟨hlowered.trans hlowered', hret', ?_⟩
          intro hzero q hq other hother hposition hchangeable
          rcases List.mem_cons.mp hq with rfl | hq
          · rw [hends, Option.some.injEq] at hother
            subst hother
            exact hlowered'.not_enabled (hdisabled (by omega))
          · apply hall hzero q hq other hother hposition
            rcases hlowered other with hsame | ⟨-, -, hkept⟩
            · rw [hsame]
              exact hchangeable
            · rw [Immutable, hkept]
              exact hchangeable

theorem Mirrors.mem_linkPlaces {g : MediaGraph} {values : LinkEnds → ℕ}
    (hmirrors : Mirrors g top values) {p : CellPlace} :
    p ∈ g.linkPlaces ↔ p.array < top.length ∧
      p.block = (g.links p.array).block ∧
      ((top.endsAt p.array)[p.index]?).isSome := by
  have hlength : g.entities.length = top.length := by
    have := congrArg List.length hmirrors.entities
    simpa using this
  have hcells : ∀ i, (g.links i).cells.length = (top.endsAt i).length := by
    intro i
    have hvalues := congrArg List.length (hmirrors.links i)
    rw [Topology.linksAt_eq] at hvalues
    simpa [Cells.values] using hvalues
  rw [MediaGraph.linkPlaces, List.mem_flatMap, hlength]
  constructor
  · rintro ⟨i, hi, hp⟩
    obtain ⟨j, hj, rfl⟩ := List.mem_map.mp hp
    rw [List.mem_range] at hi hj
    rw [hcells] at hj
    exact ⟨hi, rfl, by simp [List.getElem?_eq_getElem hj]⟩
  · rintro ⟨harray, hblock, hsome⟩
    refine ⟨p.array, List.mem_range.mpr harray, ?_⟩
    rw [List.mem_map]
    refine ⟨p.index, ?_, ?_⟩
    · rw [List.mem_range, hcells]
      by_contra hlt
      rw [List.getElem?_eq_none (by omega)] at hsome
      contradiction
    · rw [← hblock]

theorem Mirrors.resetLinks (hmirrors : Mirrors s.graph top (flags s.kernel))
    (hvalid : top.Valid) (hkeeps : driver.Keeps flags) :
    ∃ ret t, mediaResetLinks driver s = some (ret, t) ∧
      Mirrors t.graph top (flags t.kernel) ∧
      (driver.Obeys flags →
        Lowered (flags s.kernel) (flags t.kernel) ∧ ret ≤ 0 ∧
        (0 ≤ ret → ∀ ends ∈ top.links, ¬ Immutable (flags s.kernel ends) →
          ¬ Enabled (flags t.kernel ends))) := by
  obtain ⟨ret, t, hrun, hmirror, hall⟩ :=
    @Mirrors.resetLinksFrom κ driver flags top s hmirrors hvalid hkeeps
      s.graph.linkPlaces fun p hp => (hmirrors.mem_linkPlaces.mp hp).2
  refine ⟨ret, t, hrun, hmirror, fun hobeys => ?_⟩
  obtain ⟨hlowered, hret, hall⟩ := hall hobeys
  refine ⟨hlowered, hret, ?_⟩
  intro hzero ends hends himmutable
  have hmem : ends ∈ top.endsAt (top.position ends.source.entity) :=
    List.mem_filter.mpr ⟨hends, decide_eq_true (.inl rfl)⟩
  obtain ⟨j, hj⟩ := List.getElem?_of_mem hmem
  obtain ⟨entity, hentity, hid, -⟩ := (hvalid.ends ends hends).1
  have hposition := hvalid.findIdx_id hentity
  rw [hid] at hposition
  exact hall hzero
    ⟨top.position ends.source.entity,
      (s.graph.links (top.position ends.source.entity)).block, j⟩
    (hmirrors.mem_linkPlaces.mpr
      ⟨(List.getElem?_eq_some_iff.mp hposition).1, rfl, by rw [hj]; rfl⟩)
    ends hj rfl himmutable

end

/-! ## A kernel that obeys -/

/-- Only the enabled flag of a link can be changed, and that of an immutable
link cannot. -/
def plainDriver : LinkDriver (LinkEnds → ℕ) where
  openDevice _ := .ok 3
  setupLink k desc :=
    if clearEnabled desc.flags ≠ clearEnabled (k desc.ends) ∨
        Immutable (k desc.ends) ∧ desc.flags ≠ k desc.ends then
      (k, .error mediaEinval)
    else (Function.update k desc.ends desc.flags, .ok desc.flags)

theorem plainDriver_done {k : LinkEnds → ℕ} {desc : LinkDesc} {new : ℕ}
    (h : (plainDriver.setupLink k desc).2 = .ok new) :
    new = desc.flags ∧ clearEnabled desc.flags = clearEnabled (k desc.ends) ∧
      (plainDriver.setupLink k desc).1 = Function.update k desc.ends new := by
  unfold plainDriver at h ⊢
  dsimp only at h ⊢
  split at h
  case isTrue => contradiction
  case isFalse hmodifiable =>
    rw [Except.ok.injEq] at h
    subst h
    rw [not_or, not_not] at hmodifiable
    exact ⟨rfl, hmodifiable.1, by rw [if_neg (by tauto)]⟩

theorem plainDriver_refused {k : LinkEnds → ℕ} {desc : LinkDesc} {errno : ℤ}
    (h : (plainDriver.setupLink k desc).2 = .error errno) :
    errno = mediaEinval ∧ (plainDriver.setupLink k desc).1 = k := by
  unfold plainDriver at h ⊢
  dsimp only at h ⊢
  split at h
  case isTrue hkept =>
    rw [Except.error.injEq] at h
    exact ⟨h.symm, by rw [if_pos hkept]⟩
  case isFalse => contradiction

theorem clearEnabled_immutable (flags : ℕ) :
    clearEnabled flags &&& mediaLnkFlImmutable =
      flags &&& mediaLnkFlImmutable := by
  rw [clearEnabled, Nat.and_assoc]
  rfl

theorem plainDriver_obeys : plainDriver.Obeys id where
  opened k errno h := by
    unfold plainDriver at h
    contradiction
  refused k desc errno h := by
    obtain ⟨rfl, hsame⟩ := plainDriver_refused h
    exact ⟨by decide, hsame⟩
  done k desc new h := (plainDriver_done h).2.2
  enabled k desc new h := by rw [(plainDriver_done h).1]
  immutable k desc new h := by
    obtain ⟨rfl, hkept, -⟩ := plainDriver_done h
    rw [← clearEnabled_immutable, hkept, clearEnabled_immutable]
    rfl

end RkaiqToolServer
