import RkaiqToolServer.TwinArrays
import RkaiqToolServer.ByteCodec

/-!
# The media graph

`media_device_enumerate` asks the kernel for the entities of a media device,
one after the other, and then for the pads and the links of each entity.  A
link is entered twice, at the entity it starts from and at the one it leads
to, and the two entries point at each other.  The array of an entity that
gets more links than expected is moved.  The graph that results mirrors what
the kernel has.  Allocations are taken to succeed, and kernels with links inside
one entity are left out (`Topology.Valid`).
-/

namespace RkaiqToolServer

open TwinArrays

/-- `MEDIA_ENT_ID_FLAG_NEXT`. -/
def mediaEntIdFlagNext : ℕ := 2 ^ 31

def mediaEntTypeMask : ℕ := 0x00ff0000
def mediaEntTDevnode : ℕ := 0x00010000
def mediaEntTV4l2Subdev : ℕ := 0x00020000

def mediaEinval : ℤ := 22

/-- `struct media_entity_desc`; `pads` and `links` are the numbers of pads
and of links that start at the entity. -/
structure EntityDesc where
  id : ℕ
  name : List UInt8
  type : ℕ
  pads : ℕ
  links : ℕ
  major : ℕ
  minor : ℕ
  deriving DecidableEq

/-- A pad as the kernel names it, by the id of its entity. -/
structure PadName where
  entity : ℕ
  index : ℕ
  deriving DecidableEq

structure LinkEnds where
  source : PadName
  sink : PadName
  deriving DecidableEq

/-- `struct media_link_desc`. -/
structure LinkDesc where
  ends : LinkEnds
  flags : ℕ
  deriving DecidableEq

/-- `struct media_links_enum` as the kernel fills it in. -/
structure LinksEnum where
  padIndex : ℕ → ℕ
  padFlags : ℕ → ℕ
  links : ℕ → LinkDesc

structure MediaPad where
  index : ℕ
  flags : ℕ
  deriving DecidableEq

/-- A pointer to a pad: the position of the entity and of the pad. -/
structure PadRef where
  entity : ℕ
  pad : ℕ
  deriving DecidableEq

/-- `struct media_link` without its twin. -/
structure MediaLink where
  source : PadRef
  sink : PadRef
  flags : ℕ
  deriving DecidableEq

structure GraphEntity where
  info : EntityDesc
  devname : List UInt8
  pads : List MediaPad
  deriving DecidableEq

/-- `struct media_device`; the links of an entity are the array of its
position.  `allocated` says that there is an array of entities. -/
structure MediaGraph where
  fd : ℤ
  model : List UInt8
  allocated : Bool
  entities : List GraphEntity
  links : Store MediaLink

def MediaGraph.getEntityByName (g : MediaGraph) (name : List UInt8) :
    Option ℕ :=
  g.entities.findIdx? fun entity => entity.info.name = name

def MediaGraph.getEntityById (g : MediaGraph) (id : ℕ) : Option ℕ :=
  let next := mediaEntIdFlagNext ≤ id
  let id := id % mediaEntIdFlagNext
  g.entities.findIdx? fun entity =>
    (entity.info.id = id ∧ ¬ next) ∨ (id < entity.info.id ∧ next)

/-! ## Entities -/

/-- The answers of the kernel; an error is a positive errno. -/
structure MediaCalls where
  deviceInfo : Except ℤ (List UInt8)
  enumEntities : ℕ → Except ℤ EntityDesc
  enumLinks : ℕ → Except ℤ LinksEnum
  /-- What `media_get_devname_udev` or `media_get_devname_sysfs` finds. -/
  devname : ℕ → ℕ → Option (List UInt8)

/-- The device of an entity is looked up for nodes and subdevices with a
number. -/
def entityDevname (calls : MediaCalls) (info : EntityDesc) : List UInt8 :=
  if info.type &&& mediaEntTypeMask ≠ mediaEntTDevnode ∧
      info.type &&& mediaEntTypeMask ≠ mediaEntTV4l2Subdev then []
  else if info.major = 0 ∧ info.minor = 0 then []
  else (calls.devname info.major info.minor).getD []

/-- The loop of `media_enum_entities`, which ends with an error of the
kernel. -/
def mediaEnumEntitiesFrom (calls : MediaCalls) :
    ℕ → ℕ → List GraphEntity → Option (ℤ × List GraphEntity)
  | 0, _, _ => none
  | fuel + 1, id, entities =>
      match calls.enumEntities (id ||| mediaEntIdFlagNext) with
      | .error errno =>
          some (if errno ≠ mediaEinval then -errno else 0, entities)
      | .ok info =>
          mediaEnumEntitiesFrom calls fuel info.id
            (entities ++ [{ info, devname := entityDevname calls info,
                            pads := [] }])

def mediaEnumEntities (calls : MediaCalls) (fuel : ℕ) :
    Option (ℤ × List GraphEntity) :=
  mediaEnumEntitiesFrom calls fuel 0 []

/-- The arrays of links as `media_enum_entities` allocates them. -/
def linkArrays (entities : List GraphEntity) : Store MediaLink := fun i =>
  { block := 0
    capacity :=
      match entities[i]? with
      | some entity => entity.info.pads + entity.info.links
      | none => 0
    cells := [] }

/-! ## Links -/

/-- One round over the links of an entity: the link is entered at both ends,
unless an end is unknown. -/
def MediaGraph.enumLink (state : MediaGraph × Bool) (link : LinkDesc) :
    Option (MediaGraph × Bool) :=
  let g := state.1
  match g.getEntityById link.ends.source.entity,
    g.getEntityById link.ends.sink.entity with
  | some source, some sink =>
      (pushPair g.links source sink
        { source := ⟨source, link.ends.source.index⟩
          sink := ⟨sink, link.ends.sink.index⟩
          flags := link.flags }).map fun links =>
        ({ g with links }, state.2)
  | _, _ => some (g, false)

def MediaGraph.setPads (g : MediaGraph) (i : ℕ) (pads : List MediaPad) :
    MediaGraph :=
  { g with entities := g.entities.modify i fun entity => { entity with pads } }

/-- `media_enum_links` from the entity at a position on.  No result stands
for the use of a pointer that is not valid. -/
def MediaGraph.enumLinksFrom (calls : MediaCalls) :
    List ℕ → ℤ → MediaGraph → Option (ℤ × MediaGraph)
  | [], ret, g => some (ret, g)
  | i :: rest, ret, g =>
      (g.entities[i]?).bind fun entity =>
        match calls.enumLinks entity.info.id with
        | .error errno => some (-errno, g)
        | .ok answer =>
            let pads := (List.range entity.info.pads).map fun n =>
              { index := answer.padIndex n, flags := answer.padFlags n }
            (((List.range entity.info.links).map answer.links).foldlM
              MediaGraph.enumLink (g.setPads i pads, true)).bind
              fun (g, valid) =>
                MediaGraph.enumLinksFrom calls rest
                  (if valid then ret else -mediaEinval) g

def MediaGraph.mediaEnumLinks (calls : MediaCalls) (g : MediaGraph) :
    Option (ℤ × MediaGraph) :=
  g.enumLinksFrom calls (List.range g.entities.length) 0

/-! ## The device -/

/-- `media_device_new`. -/
def mediaDeviceNew : MediaGraph where
  fd := -1
  model := []
  allocated := false
  entities := []
  links := linkArrays []

/-- `media_device_enumerate` behind `media_device_open`; the descriptor is
closed at every end. -/
def mediaDeviceEnumerate (calls : MediaCalls) (opened : Except ℤ ℤ)
    (fuel : ℕ) (g : MediaGraph) : Option (ℤ × MediaGraph) :=
  if g.allocated then some (0, g)
  else
    match opened with
    | .error errno => some (-errno, g)
    | .ok _ =>
        match calls.deviceInfo with
        | .error errno => some (-errno, { g with model := [] })
        | .ok model =>
            (mediaEnumEntities calls fuel).bind fun (ret, entities) =>
              let g : MediaGraph :=
                { fd := -1
                  model
                  allocated := true
                  entities
                  links := linkArrays entities }
              if ret < 0 then some (ret, g)
              else
                (g.mediaEnumLinks calls).map fun (ret, g) =>
                  (if ret < 0 then ret else 0, g)

/-! ## What the kernel has -/

/-- An entity of the kernel with its pads and the links that start there. -/
structure TopologyEntity where
  info : EntityDesc
  padFlags : List ℕ
  links : List LinkEnds

abbrev Topology := List TopologyEntity

def Topology.links (top : Topology) : List LinkEnds :=
  top.flatMap TopologyEntity.links

def Topology.position (top : Topology) (id : ℕ) : ℕ :=
  top.findIdx fun entity => entity.info.id = id

def Topology.padRef (top : Topology) (pad : PadName) : PadRef :=
  ⟨top.position pad.entity, pad.index⟩

/-- A pad of an entity of the kernel. -/
def Topology.HasPad (top : Topology) (pad : PadName) : Prop :=
  ∃ entity ∈ top, entity.info.id = pad.entity ∧
    pad.index < entity.padFlags.length

/-- The entities are in the order of their ids, the counts are those of the
lists, and every link leads from a pad of its entity to a pad of another;
no two links have the same ends. -/
structure Topology.Valid (top : Topology) : Prop where
  ids : (top.map fun entity => entity.info.id).Pairwise (· < ·)
  range : ∀ entity ∈ top, 0 < entity.info.id ∧
    entity.info.id < mediaEntIdFlagNext
  counts : ∀ entity ∈ top, entity.info.pads = entity.padFlags.length ∧
    entity.info.links = entity.links.length
  starts : ∀ entity ∈ top, ∀ link ∈ entity.links,
    link.source.entity = entity.info.id
  ends : ∀ link ∈ top.links, top.HasPad link.source ∧ top.HasPad link.sink ∧
    link.source.entity ≠ link.sink.entity
  distinct : top.links.Nodup

/-- The entity with the smallest id behind the given one; `EINVAL` behind the
last. -/
def Topology.next (top : Topology) (id : ℕ) : Except ℤ EntityDesc :=
  match top.find? fun entity => id < entity.info.id with
  | some entity => .ok entity.info
  | none => .error mediaEinval

/-- The kernel answers what it has. -/
structure MediaCalls.Serves (calls : MediaCalls) (top : Topology)
    (flags : LinkEnds → ℕ) : Prop where
  next : ∀ id < mediaEntIdFlagNext,
    calls.enumEntities (id ||| mediaEntIdFlagNext) = top.next id
  entityLinks : ∀ entity ∈ top, ∃ answer,
    calls.enumLinks entity.info.id = .ok answer ∧
      (∀ n (h : n < entity.padFlags.length), answer.padIndex n = n ∧
        answer.padFlags n = entity.padFlags[n]) ∧
      ∀ n (h : n < entity.links.length), answer.links n =
        { ends := entity.links[n], flags := flags entity.links[n] }

def TopologyEntity.pads (entity : TopologyEntity) : List MediaPad :=
  (List.range entity.padFlags.length).map fun n =>
    { index := n, flags := entity.padFlags.getD n 0 }

def Topology.link (top : Topology) (flags : LinkEnds → ℕ) (ends : LinkEnds) :
    MediaLink where
  source := top.padRef ends.source
  sink := top.padRef ends.sink
  flags := flags ends

/-- The links that an entity has a share in, in the order of the kernel. -/
def linksAt (links : List MediaLink) (i : ℕ) : List MediaLink :=
  links.filter fun link => link.source.entity = i ∨ link.sink.entity = i

/-- The graph has the entities and the pads of the kernel, and every link at
both its ends and nowhere else, with the flags of the kernel. -/
structure Mirrors (g : MediaGraph) (top : Topology) (flags : LinkEnds → ℕ) :
    Prop where
  entities : g.entities.map (fun entity => (entity.info, entity.pads)) =
    top.map fun entity => (entity.info, entity.pads)
  links : ∀ i, (g.links i).values =
    linksAt (top.links.map (top.link flags)) i
  paired : Paired g.links []
  closed : g.fd = -1

/-! ## Entities by name and number -/

theorem Topology.Valid.nodup {top : Topology} (hvalid : top.Valid) :
    (top.map fun entity => entity.info.id).Nodup :=
  hvalid.ids.imp fun h => Nat.ne_of_lt h

/-- An entity is found at its position by its id. -/
theorem Topology.Valid.findIdx_id {top : Topology} (hvalid : top.Valid)
    {entity : TopologyEntity} (hentity : entity ∈ top) :
    top[top.position entity.info.id]? = some entity := by
  have hlt : top.position entity.info.id < top.length :=
    List.findIdx_lt_length_of_exists ⟨entity, hentity, by simp⟩
  have hid : top[top.position entity.info.id].info.id = entity.info.id := by
    exact of_decide_eq_true (List.findIdx_getElem (w := hlt))
  rw [List.getElem?_eq_getElem hlt, Option.some.injEq]
  exact List.inj_on_of_nodup_map hvalid.nodup (List.getElem_mem hlt)
    hentity hid

theorem Topology.Valid.position_eq {top : Topology} (hvalid : top.Valid)
    {i : ℕ} {entity : TopologyEntity} (hentity : top[i]? = some entity) :
    top.position entity.info.id = i := by
  have hmem := List.mem_of_getElem? hentity
  have hfound := hvalid.findIdx_id hmem
  obtain ⟨hi, hget⟩ := List.getElem?_eq_some_iff.mp hentity
  obtain ⟨hp, hgetp⟩ := List.getElem?_eq_some_iff.mp hfound
  have hnodup : top.Nodup := hvalid.nodup.of_map
  exact (hnodup.getElem_inj_iff).mp (hgetp.trans hget.symm)

/-- The descriptions of the entities are those of the kernel. -/
def MediaGraph.Knows (g : MediaGraph) (top : Topology) : Prop :=
  g.entities.map GraphEntity.info = top.map TopologyEntity.info

theorem findIdx?_map_info {g : MediaGraph} {top : Topology}
    (hknows : g.Knows top) (p : EntityDesc → Bool) :
    g.entities.findIdx? (fun entity => p entity.info) =
      top.findIdx? fun entity => p entity.info := by
  have hmap := congrArg (List.findIdx? p) hknows
  rw [List.findIdx?_map, List.findIdx?_map] at hmap
  exact hmap

theorem getEntityById_eq {g : MediaGraph} {top : Topology}
    (hvalid : top.Valid) (hknows : g.Knows top) {entity : TopologyEntity}
    (hentity : entity ∈ top) :
    g.getEntityById entity.info.id = some (top.position entity.info.id) := by
  have hrange := (hvalid.range entity hentity).2
  have hnext : ¬ mediaEntIdFlagNext ≤ entity.info.id := by omega
  have hsame : g.getEntityById entity.info.id =
      top.findIdx? fun other =>
        decide (other.info.id = entity.info.id) := by
    unfold MediaGraph.getEntityById
    simp only [hnext, not_false_eq_true, and_true, and_false, or_false,
      Nat.mod_eq_of_lt hrange]
    exact findIdx?_map_info hknows fun info =>
      decide (info.id = entity.info.id)
  rw [hsame, List.findIdx?_eq_some_iff_findIdx_eq]
  exact ⟨List.findIdx_lt_length_of_exists ⟨entity, hentity, by simp⟩, rfl⟩

theorem Topology.HasPad.getEntityById {g : MediaGraph} {top : Topology}
    (hvalid : top.Valid) (hknows : g.Knows top) {pad : PadName}
    (hpad : top.HasPad pad) :
    g.getEntityById pad.entity = some (top.position pad.entity) := by
  obtain ⟨entity, hentity, hid, -⟩ := hpad
  rw [← hid]
  exact getEntityById_eq hvalid hknows hentity

theorem Topology.Valid.position_injective {top : Topology}
    (hvalid : top.Valid) {pad other : PadName} (hpad : top.HasPad pad)
    (hother : top.HasPad other)
    (hposition : top.position pad.entity = top.position other.entity) :
    pad.entity = other.entity := by
  obtain ⟨entity, hentity, hid, -⟩ := hpad
  obtain ⟨entity', hentity', hid', -⟩ := hother
  have hfound := hvalid.findIdx_id hentity
  have hfound' := hvalid.findIdx_id hentity'
  rw [hid, hposition, ← hid', hfound', Option.some.injEq] at hfound
  rw [← hid, ← hid', hfound]

/-! ## The loop over the entities -/

theorem find?_of_sorted {done rest : List TopologyEntity} {id : ℕ}
    (hdone : ∀ entity ∈ done, entity.info.id ≤ id)
    (hrest : ∀ entity ∈ rest, id < entity.info.id) :
    (done ++ rest).find? (fun entity => id < entity.info.id) =
      rest.head? := by
  have hnone : done.find? (fun entity => decide (id < entity.info.id)) =
      none := by
    rw [List.find?_eq_none]
    intro entity hentity
    have := hdone entity hentity
    simp only [decide_eq_true_eq]
    omega
  rw [List.find?_append, hnone]
  cases rest with
  | nil => rfl
  | cons first rest =>
      have := hrest first List.mem_cons_self
      simp [this]

def newEntity (calls : MediaCalls) (entity : TopologyEntity) : GraphEntity where
  info := entity.info
  devname := entityDevname calls entity.info
  pads := []

theorem mediaEnumEntitiesFrom_eq {calls : MediaCalls} {flags : LinkEnds → ℕ}
    {done rest : List TopologyEntity} {id fuel : ℕ}
    {entities : List GraphEntity} (hvalid : Topology.Valid (done ++ rest))
    (hserves : calls.Serves (done ++ rest) flags) (hid : id < mediaEntIdFlagNext)
    (hdone : ∀ entity ∈ done, entity.info.id ≤ id)
    (hrest : ∀ entity ∈ rest, id < entity.info.id)
    (hfuel : rest.length < fuel) :
    mediaEnumEntitiesFrom calls fuel id entities =
      some (0, entities ++ rest.map (newEntity calls)) := by
  induction rest generalizing done id fuel entities with
  | nil =>
      obtain ⟨fuel, rfl⟩ : ∃ less, fuel = less + 1 := ⟨fuel - 1, by omega⟩
      have hnext := hserves.next id hid
      rw [Topology.next, find?_of_sorted hdone hrest] at hnext
      dsimp only [List.head?_nil] at hnext
      rw [mediaEnumEntitiesFrom, hnext]
      simp
  | cons first rest ih =>
      obtain ⟨fuel, rfl⟩ : ∃ less, fuel = less + 1 := ⟨fuel - 1, by omega⟩
      have hnext := hserves.next id hid
      rw [Topology.next, find?_of_sorted hdone hrest] at hnext
      dsimp only [List.head?_cons] at hnext
      have hshift : done ++ first :: rest = (done ++ [first]) ++ rest := by
        simp
      have hsorted := hvalid.ids
      rw [hshift] at hvalid hserves
      rw [List.map_append, List.map_cons, List.pairwise_append,
        List.pairwise_cons] at hsorted
      rw [mediaEnumEntitiesFrom, hnext]
      dsimp only
      rw [ih hvalid hserves]
      · simp [newEntity]
      · exact (hvalid.range first (by simp)).2
      · intro entity hentity
        rcases List.mem_append.mp hentity with hmem | hmem
        · have := hdone entity hmem
          have := hrest first List.mem_cons_self
          omega
        · rw [List.mem_singleton.mp hmem]
      · intro entity hentity
        exact hsorted.2.1.1 _ (List.mem_map_of_mem hentity)
      · rw [List.length_cons] at hfuel
        omega

theorem mediaEnumEntities_eq {calls : MediaCalls} {top : Topology}
    {flags : LinkEnds → ℕ} (hvalid : top.Valid)
    (hserves : calls.Serves top flags) {fuel : ℕ} (hfuel : top.length < fuel) :
    mediaEnumEntities calls fuel = some (0, top.map (newEntity calls)) :=
  @mediaEnumEntitiesFrom_eq calls flags [] top 0 fuel [] hvalid hserves
    (by decide) (by simp) (fun entity h => (hvalid.range entity h).1) hfuel

/-! ## The loops over the links -/

/-- The graph when some links of the kernel have been entered. -/
structure LinksEntered (g : MediaGraph) (top : Topology) (flags : LinkEnds → ℕ)
    (done : List LinkEnds) : Prop where
  knows : g.Knows top
  links : ∀ i, (g.links i).values = linksAt (done.map (top.link flags)) i
  paired : Paired g.links []
  room : ∀ i entity, top[i]? = some entity →
    entity.info.pads + entity.info.links ≤ (g.links i).capacity

theorem linksAt_append (links more : List MediaLink) (i : ℕ) :
    linksAt (links ++ more) i = linksAt links i ++ linksAt more i :=
  List.filter_append ..

/-- One link of the kernel is entered at both its ends. -/
theorem LinksEntered.enumLink {g : MediaGraph} {top : Topology}
    {flags : LinkEnds → ℕ} {done : List LinkEnds}
    (hentered : LinksEntered g top flags done) (hvalid : top.Valid)
    {ends : LinkEnds} (hends : ends ∈ top.links) (valid : Bool) :
    ∃ t, MediaGraph.enumLink (g, valid) { ends, flags := flags ends } =
        some ({ g with links := t }, valid) ∧
      LinksEntered { g with links := t } top flags (done ++ [ends]) := by
  obtain ⟨hsource, hsink, hother⟩ := hvalid.ends ends hends
  have hne : top.position ends.source.entity ≠
      top.position ends.sink.entity := fun h =>
    hother (hvalid.position_injective hsource hsink h)
  have hroom : ∀ pad : PadName, top.HasPad pad →
      0 < (g.links (top.position pad.entity)).capacity := by
    rintro pad ⟨entity, hentity, hid, hindex⟩
    have hcapacity := hentered.room _ entity (hvalid.findIdx_id hentity)
    have hcount := (hvalid.counts entity hentity).1
    rw [hid] at hcapacity
    omega
  obtain ⟨t, hpush, hpaired, hextends⟩ := hentered.paired.pushPair
    (top.link flags ends) hne (hroom _ hsource) (hroom _ hsink)
  refine ⟨t, ?_, ?_⟩
  · unfold MediaGraph.enumLink
    dsimp only
    rw [hsource.getEntityById hvalid hentered.knows,
      hsink.getEntityById hvalid hentered.knows]
    change Option.map _ (pushPair g.links (top.position ends.source.entity)
      (top.position ends.sink.entity) (top.link flags ends)) = _
    rw [hpush]
    rfl
  · constructor
    case knows => exact hentered.knows
    case links =>
      intro i
      rw [hextends.values, hentered.links, List.map_append, linksAt_append]
      congr 1
      simp only [linksAt, List.map_cons, List.map_nil, Topology.link,
        Topology.padRef, List.filter_cons, List.filter_nil,
        decide_eq_true_eq, @eq_comm _ i]
    case paired => exact hpaired
    case room =>
      intro i entity hentity
      exact (hentered.room i entity hentity).trans (hextends.capacity i)

theorem LinksEntered.enumEntityLinks {g : MediaGraph} {top : Topology}
    {flags : LinkEnds → ℕ} {done : List LinkEnds}
    (hentered : LinksEntered g top flags done) (hvalid : top.Valid)
    {links : List LinkEnds} (hlinks : ∀ ends ∈ links, ends ∈ top.links)
    (valid : Bool) :
    ∃ t, (links.map fun ends => ({ ends, flags := flags ends } : LinkDesc)).foldlM
          MediaGraph.enumLink (g, valid) = some ({ g with links := t }, valid) ∧
      LinksEntered { g with links := t } top flags (done ++ links) := by
  induction links generalizing g done with
  | nil => exact ⟨g.links, rfl, by simpa using hentered⟩
  | cons ends links ih =>
      obtain ⟨t, hstep, hnext⟩ :=
        hentered.enumLink hvalid (hlinks ends List.mem_cons_self) valid
      obtain ⟨u, hrest, hlast⟩ :=
        ih hnext fun other h => hlinks other (List.mem_cons_of_mem _ h)
      refine ⟨u, ?_, by simpa using hlast⟩
      rw [List.map_cons, List.foldlM_cons, hstep]
      exact hrest

theorem LinksEntered.setPads {g : MediaGraph} {top : Topology}
    {flags : LinkEnds → ℕ} {done : List LinkEnds}
    (hentered : LinksEntered g top flags done) (i : ℕ) (pads : List MediaPad) :
    LinksEntered (g.setPads i pads) top flags done where
  knows := by
    have hsame : (g.setPads i pads).entities.map GraphEntity.info =
        g.entities.map GraphEntity.info := by
      apply List.ext_getElem?
      intro n
      rw [List.getElem?_map, List.getElem?_map, MediaGraph.setPads,
        List.getElem?_modify]
      split <;> cases g.entities[n]? <;> rfl
    unfold MediaGraph.Knows
    rw [hsame]
    exact hentered.knows
  links := hentered.links
  paired := hentered.paired
  room := hentered.room

/-- The pads of the entities before a position are those of the kernel. -/
def PadsBefore (g : MediaGraph) (top : Topology) (n : ℕ) : Prop :=
  ∀ i < n, ∀ entity, top[i]? = some entity →
    (g.entities[i]?).map GraphEntity.pads = some entity.pads

theorem PadsBefore.setPads {g : MediaGraph} {top : Topology} {n : ℕ}
    (hpads : PadsBefore g top n) (hknows : g.Knows top)
    {entity : TopologyEntity} (hentity : top[n]? = some entity) :
    PadsBefore (g.setPads n entity.pads) top (n + 1) := by
  intro i hi other hother
  rw [MediaGraph.setPads, List.getElem?_modify]
  by_cases hin : n = i
  · subst hin
    rw [hentity, Option.some.injEq] at hother
    subst hother
    have hlength := congrArg List.length hknows
    rw [List.length_map, List.length_map] at hlength
    obtain ⟨hlt, -⟩ := List.getElem?_eq_some_iff.mp hentity
    rw [List.getElem?_eq_getElem (by omega)]
    simp
  · have hold := hpads i (by omega) other hother
    simp only [if_neg hin]
    cases hget : g.entities[i]? with
    | none =>
        rw [hget] at hold
        exact hold
    | some known =>
        rw [hget] at hold
        exact hold

/-- What the kernel answers for the pads and the links of an entity. -/
theorem MediaCalls.Serves.entityAnswer {calls : MediaCalls} {top : Topology}
    {flags : LinkEnds → ℕ} (hserves : calls.Serves top flags)
    (hvalid : top.Valid) {entity : TopologyEntity} (hentity : entity ∈ top) :
    ∃ answer, calls.enumLinks entity.info.id = .ok answer ∧
      ((List.range entity.info.pads).map fun n =>
        ({ index := answer.padIndex n, flags := answer.padFlags n } :
          MediaPad)) = entity.pads ∧
      (List.range entity.info.links).map answer.links =
        entity.links.map fun ends => { ends, flags := flags ends } := by
  obtain ⟨answer, hanswer, hpads, hlinks⟩ := hserves.entityLinks entity hentity
  obtain ⟨hpadCount, hlinkCount⟩ := hvalid.counts entity hentity
  refine ⟨answer, hanswer, ?_, ?_⟩
  · rw [hpadCount, TopologyEntity.pads]
    apply List.map_congr_left
    intro n hn
    have hn := List.mem_range.mp hn
    obtain ⟨hindex, hflags⟩ := hpads n hn
    rw [hindex, hflags, List.getD_eq_getElem?_getD,
      List.getElem?_eq_getElem hn, Option.getD_some]
  · rw [hlinkCount]
    apply List.ext_getElem
    · simp
    · intro n hn hn'
      rw [List.length_map] at hn'
      simp [hlinks n hn']

theorem LinksEntered.enumLinksFrom {g : MediaGraph} {top : Topology}
    {flags : LinkEnds → ℕ} {calls : MediaCalls} (hvalid : top.Valid)
    (hserves : calls.Serves top flags) {before rest : List TopologyEntity}
    (htop : top = before ++ rest)
    (hentered : LinksEntered g top flags (before.flatMap TopologyEntity.links))
    (hpads : PadsBefore g top before.length) (hclosed : g.fd = -1) :
    ∃ t, g.enumLinksFrom calls
          ((List.range rest.length).map (before.length + ·)) 0 =
        some (0, t) ∧ LinksEntered t top flags top.links ∧
      PadsBefore t top top.length ∧ t.fd = -1 ∧ t.model = g.model := by
  induction rest generalizing g before with
  | nil =>
      rw [List.append_nil] at htop
      subst htop
      exact ⟨g, rfl, hentered, hpads, hclosed, rfl⟩
  | cons entity rest ih =>
      have hentity : top[before.length]? = some entity := by
        rw [htop]
        simp
      have hmem : entity ∈ top := List.mem_of_getElem? hentity
      obtain ⟨known, hknown, hinfo⟩ : ∃ known,
          g.entities[before.length]? = some known ∧
            known.info = entity.info := by
        have hget := congrArg (fun infos => infos[before.length]?)
          hentered.knows
        simp only [List.getElem?_map, hentity, Option.map_some,
          Option.map_eq_some_iff] at hget
        exact hget
      obtain ⟨answer, hanswer, hpadList, hlinkList⟩ :=
        hserves.entityAnswer hvalid hmem
      have hsub : ∀ ends ∈ entity.links, ends ∈ top.links := by
        intro ends h
        exact List.mem_flatMap.mpr ⟨entity, hmem, h⟩
      obtain ⟨t, hlinks, hnext⟩ :=
        (hentered.setPads before.length entity.pads).enumEntityLinks hvalid
          hsub true
      have hshift : before ++ entity :: rest = (before ++ [entity]) ++ rest := by
        simp
      rw [hshift] at htop
      have hdone : before.flatMap TopologyEntity.links ++ entity.links =
          (before ++ [entity]).flatMap TopologyEntity.links := by
        simp
      rw [hdone] at hnext
      have hpads' : PadsBefore
          { g.setPads before.length entity.pads with links := t } top
          (before ++ [entity]).length := by
        rw [List.length_append, List.length_singleton]
        exact hpads.setPads hentered.knows hentity
      obtain ⟨final, hfinal, hresult⟩ := ih htop hnext hpads' hclosed
      refine ⟨final, ?_, hresult⟩
      have hindices : (List.range (entity :: rest).length).map
            (before.length + ·) =
          before.length :: (List.range rest.length).map
            ((before ++ [entity]).length + ·) := by
        rw [List.length_cons, List.range_succ_eq_map, List.map_cons,
          List.map_map]
        congr 1
        apply List.map_congr_left
        intro n _
        simp only [Function.comp_apply, List.length_append,
          List.length_singleton]
        omega
      rw [hindices, MediaGraph.enumLinksFrom, hknown, Option.bind_some, hinfo,
        hanswer]
      dsimp only
      rw [hpadList, hlinkList, hlinks]
      exact hfinal

theorem linksEntered_initial {calls : MediaCalls} {top : Topology}
    {flags : LinkEnds → ℕ} (model : List UInt8) :
    LinksEntered
      { fd := -1
        model
        allocated := true
        entities := top.map (newEntity calls)
        links := linkArrays (top.map (newEntity calls)) } top flags [] where
  knows := by
    simp only [MediaGraph.Knows, List.map_map]
    rfl
  links := by
    intro i
    rfl
  paired := by
    constructor
    · simp [linkArrays]
    · simp
    · intro p cell hcell
      simp [TwinArrays.read, linkArrays] at hcell
  room := by
    intro i entity hentity
    simp [linkArrays, hentity, newEntity]

/-- Enumerating a device gives a graph that mirrors what the kernel has, and
every pointer it follows on the way is valid. -/
theorem mediaDeviceEnumerate_mirrors {calls : MediaCalls} {top : Topology}
    {flags : LinkEnds → ℕ} (hvalid : top.Valid)
    (hserves : calls.Serves top flags) {fd : ℤ} {model : List UInt8}
    (hmodel : calls.deviceInfo = .ok model) {fuel : ℕ}
    (hfuel : top.length < fuel) :
    ∃ g, mediaDeviceEnumerate calls (.ok fd) fuel mediaDeviceNew =
        some (0, g) ∧ Mirrors g top flags ∧ g.model = model := by
  obtain ⟨g, hg, hentered, hpads, hclosed, hname⟩ :=
    @LinksEntered.enumLinksFrom _ top flags calls hvalid hserves [] top rfl
      (@linksEntered_initial calls top flags model) (by intro i hi; simp at hi) rfl
  refine ⟨g, ?_, ⟨?_, hentered.links, hentered.paired, hclosed⟩, hname⟩
  · unfold mediaDeviceEnumerate
    rw [mediaEnumEntities_eq hvalid hserves hfuel, hmodel]
    have hindices : (List.range top.length).map (([] : Topology).length + ·) =
        List.range (top.map (newEntity calls)).length := by
      simp
    rw [hindices] at hg
    simp only [mediaDeviceNew, Bool.false_eq_true, if_false,
      Option.bind_some, MediaGraph.mediaEnumLinks, hg, Option.map_some,
      lt_irrefl]
  · apply List.ext_getElem?
    intro i
    have hknows := congrArg (fun infos => infos[i]?) hentered.knows
    simp only [List.getElem?_map] at hknows ⊢
    cases htop : top[i]? with
    | none =>
        rw [htop] at hknows
        cases hentity : g.entities[i]? with
        | none => rfl
        | some entity =>
            rw [hentity] at hknows
            contradiction
    | some entity =>
        obtain ⟨hi, -⟩ := List.getElem?_eq_some_iff.mp htop
        have hpad := hpads i hi entity htop
        rw [htop] at hknows
        cases hentity : g.entities[i]? with
        | none =>
            rw [hentity] at hknows
            contradiction
        | some known =>
            rw [hentity] at hknows hpad
            simp only [Option.map_some, Option.some.injEq] at hknows hpad ⊢
            rw [hknows, hpad]

end RkaiqToolServer
