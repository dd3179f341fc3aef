import RkaiqToolServer.MediaRun
import RkaiqToolServer.LinkSetup

/-!
# The sensor's links on the graph

`LinkToSensor` and `LinkToIsp` write a text for each link they want and go on
when one fails.  On a graph that mirrors its kernel a text is read as the link
it names, so what the kernel ends with is decided, link by link, by the last
request for it that the kernel took.
-/

namespace RkaiqToolServer

open TwinArrays TextScan ByteCodec

variable {κ : Type*}

/-! ## One request -/

/-- The pad with a number of the entity with a name. -/
def MediaGraph.padNamed? (g : MediaGraph) (name : List UInt8) (pad : ℕ) :
    Option PadRef :=
  (g.getEntityByName name).bind fun entity =>
    (g.entities[entity]?).bind fun known =>
      if pad < known.info.pads then some ⟨entity, pad⟩ else none

def LinkRequest.flags (request : LinkRequest) : ℕ :=
  if request.enabled then 1 else 0

/-- What the text of a request asks for, if the graph has such a link. -/
def LinkRequest.setting? (request : LinkRequest) (g : MediaGraph) :
    Option LinkSetting :=
  (g.padNamed? request.source request.pad).bind fun source =>
    (g.padNamed? request.sink 0).bind fun sink =>
      if g.hasLink source sink then some ⟨source, sink, request.flags⟩
      else none

/-- The names can stand between quotes, and the number is an
`unsigned int`. -/
structure LinkRequest.Plain (request : LinkRequest) : Prop where
  source : ∀ byte ∈ request.source, notQuote byte = true
  sink : ∀ byte ∈ request.sink, notQuote byte = true
  pad : request.pad < 2 ^ 32

def namedPad (before name : List UInt8) (pad : ℕ) (behind : List UInt8) :
    PadText :=
  ⟨before, .quoted name, [], [], pad, behind⟩

def LinkRequest.linkText (request : LinkRequest) : LinkText where
  source := namedPad [] request.source request.pad [32]
  sink := namedPad [32] request.sink 0 []
  beforeFlags := []
  flags := request.flags
  behindFlags := []
  behind := []

theorem LinkRequest.linkText_text (request : LinkRequest) :
    request.linkText.text = request.text := by
  have hflags : ascii (toString request.flags) =
      ascii (if request.enabled then "1" else "0") := by
    rw [LinkRequest.flags]
    split <;> rfl
  have hzero : ascii (toString 0) = ascii "0" := rfl
  have hquote : ascii "\"" = [quote] := rfl
  have hcolon : ascii "\":" = [quote, colon] := rfl
  have harrow : ascii " -> \"" = [32, dash, greater, 32, quote] := rfl
  have hopen : ascii "\":0[" = [quote, colon] ++ ascii "0" ++ [bracket] := rfl
  have hclose : ascii "]" = [bracketEnd] := rfl
  rw [LinkRequest.text, hquote, hcolon, harrow, hopen, hclose, ← hflags]
  rw [← hzero]
  simp [LinkText.text, PadText.text, EntityText.text, LinkRequest.linkText,
    namedPad]

section

variable {g : MediaGraph} {name before behind rest : List UInt8} {pad : ℕ}

theorem namedPad_means {ref : PadRef}
    (hname : ∀ byte ∈ name, notQuote byte = true) (hpad : pad < 2 ^ 32)
    (hbefore : Blank before) (hbehind : Blank behind)
    (hfound : g.padNamed? name pad = some ref) :
    (namedPad before name pad behind).Means g ref := by
  rw [MediaGraph.padNamed?, Option.bind_eq_some_iff] at hfound
  obtain ⟨entity, hentity, hfound⟩ := hfound
  rw [Option.bind_eq_some_iff] at hfound
  obtain ⟨known, hknown, hfound⟩ := hfound
  split at hfound
  case isTrue hbound =>
    rw [Option.some.injEq] at hfound
    subst hfound
    have hnone : Blank [] := by decide
    exact ⟨⟨hbefore, hnone, hnone, hbehind⟩, ⟨hname, hentity⟩, ⟨rfl, hpad⟩,
      known, hknown, hbound⟩
  case isFalse => contradiction

theorem mediaParsePad_unnamed
    (hname : ∀ byte ∈ name, notQuote byte = true) (hpad : pad < 2 ^ 32)
    (hbefore : Blank before) (hbehind : Blank behind)
    (hdigit : Stops isDigit rest) (hfound : g.padNamed? name pad = none) :
    ∃ stop, mediaParsePad g ((namedPad before name pad behind).text ++ rest) =
      .error stop := by
  have htext : (namedPad before name pad behind).text ++ rest =
      before ++ (quote :: (name ++ (quote :: (colon ::
        (ascii (toString pad) ++ (behind ++ rest)))))) := by
    simp [PadText.text, EntityText.text, namedPad]
  have hskip : skipSpaces (before ++ (quote :: (name ++ (quote :: (colon ::
        (ascii (toString pad) ++ (behind ++ rest))))))) =
      quote :: (name ++ (quote :: (colon ::
        (ascii (toString pad) ++ (behind ++ rest))))) :=
    skipSpaces_append hbefore (by rw [stops_cons]; rfl)
  have hstop : Stops notQuote (quote :: (colon ::
      (ascii (toString pad) ++ (behind ++ rest)))) := by
    rw [stops_cons]
    rfl
  have hquote : isQuote quote = true := rfl
  rw [htext]
  unfold mediaParsePad mediaParseEntity
  rw [hskip]
  dsimp only
  rw [if_pos hquote, dropWhile_append_stops hname hstop,
    takeWhile_append_stops hname hstop]
  dsimp only
  cases hentity : g.getEntityByName name with
  | none => exact ⟨_, rfl⟩
  | some entity =>
      have hcolon : skipSpaces (colon ::
            (ascii (toString pad) ++ (behind ++ rest))) =
          colon :: (ascii (toString pad) ++ (behind ++ rest)) :=
        skipSpaces_eq (by rw [stops_cons]; rfl)
      have hnumber : skipSpaces (ascii (toString pad) ++ (behind ++ rest)) =
          ascii (toString pad) ++ (behind ++ rest) :=
        skipSpaces_eq
          (stops_decimal _ fun byte => isSpace_eq_false_of_isDigit)
      have hread : strtouint (ascii (toString pad) ++ (behind ++ rest)) =
          (pad, behind ++ rest) :=
        @strtouint_decimal [] _ pad hpad (by simp [Blank])
          (hbehind.stops_isDigit hdigit)
      dsimp only
      rw [hcolon]
      dsimp only
      rw [if_neg (not_not.mpr rfl), hnumber, hread]
      dsimp only
      rw [MediaGraph.padNamed?, hentity, Option.bind_some] at hfound
      cases hknown : g.entities[entity]? with
      | none => exact ⟨_, rfl⟩
      | some known =>
          rw [hknown, Option.bind_some] at hfound
          split at hfound
          case isTrue => contradiction
          case isFalse hbound =>
            dsimp only
            rw [if_pos (not_lt.mp hbound)]
            exact ⟨_, rfl⟩

/-- The text of a request is read to its end, or not at all. -/
theorem mediaParseSetting_request {request : LinkRequest}
    (hplain : request.Plain) :
    match request.setting? g with
    | some setting => mediaParseSetting g request.text = .ok (setting, [])
    | none => ∃ stop, mediaParseSetting g request.text = .error stop := by
  have hnone : Blank [] := by decide
  have hblank : Blank [32] := by decide
  have hflags : request.flags < 2 ^ 32 := by
    rw [LinkRequest.flags]
    split <;> decide
  have htext : request.text =
      request.linkText.source.text ++
        (dash :: greater :: (request.linkText.sink.text ++
          (bracket :: (ascii (toString request.flags) ++
            [bracketEnd])))) := by
    rw [← request.linkText_text]
    simp [LinkText.text, LinkRequest.linkText]
  have hbehind : Stops isDigit (dash :: greater ::
      (request.linkText.sink.text ++ (bracket ::
        (ascii (toString request.flags) ++ [bracketEnd])))) := by
    rw [stops_cons]
    rfl
  have herror : (∃ stop, mediaParseLink g request.text = .error stop) →
      ∃ stop, mediaParseSetting g request.text = .error stop := by
    rintro ⟨stop, hstop⟩
    unfold mediaParseSetting
    rw [hstop]
    exact ⟨stop, rfl⟩
  rw [LinkRequest.setting?]
  cases hsource : g.padNamed? request.source request.pad with
  | none =>
      obtain ⟨stop, hstop⟩ :=
        @mediaParsePad_unnamed g request.source [] [32] _ request.pad
          hplain.source hplain.pad hnone hblank hbehind hsource
      have hstop' : mediaParsePad g (request.linkText.source.text ++ _) =
        .error stop := hstop
      apply herror
      unfold mediaParseLink
      rw [htext, hstop']
      exact ⟨stop, rfl⟩
  | some source =>
      have hfirst : request.linkText.source.Means g source :=
        namedPad_means hplain.source hplain.pad hnone hblank hsource
      have hread := mediaParsePad_text hfirst (by rw [stops_cons]; rfl)
        hbehind
      rw [Option.bind_some]
      cases hsink : g.padNamed? request.sink 0 with
      | none =>
          obtain ⟨stop, hstop⟩ :=
            @mediaParsePad_unnamed g request.sink [32] []
              (bracket :: (ascii (toString request.flags) ++ [bracketEnd])) 0
              hplain.sink (by decide) hblank hnone (by rw [stops_cons]; rfl)
              hsink
          have hstop' : mediaParsePad g (request.linkText.sink.text ++ _) =
            .error stop := hstop
          apply herror
          unfold mediaParseLink
          rw [htext, hread]
          dsimp only
          rw [arrow?, if_pos ⟨rfl, rfl⟩]
          dsimp only
          rw [hstop']
          exact ⟨stop, rfl⟩
      | some sink =>
          have hsecond : request.linkText.sink.Means g sink :=
            namedPad_means hplain.sink (by decide) hblank hnone hsink
          rw [Option.bind_some]
          cases hlink : g.hasLink source sink with
          | false =>
              have hread' := @mediaParsePad_text g
                (bracket :: (ascii (toString request.flags) ++ [bracketEnd]))
                _ _ hsecond (by rw [stops_cons]; rfl) (by rw [stops_cons]; rfl)
              apply herror
              unfold mediaParseLink
              rw [htext, hread]
              dsimp only
              rw [arrow?, if_pos ⟨rfl, rfl⟩]
              dsimp only
              rw [hread']
              dsimp only
              rw [hlink, if_neg Bool.false_ne_true]
              exact ⟨_, rfl⟩
          | true =>
              have hparse := @mediaParseSetting_text g [] request.linkText
                ⟨source, sink, request.flags⟩
                { blank := ⟨hnone, hnone, hnone⟩
                  source := hfirst
                  sink := hsecond
                  flags := ⟨rfl, hflags⟩
                  link := hlink } (by simp)
              rw [List.append_nil, request.linkText_text] at hparse
              exact hparse

end

/-! ## The link that is named -/

/-- The id of the first entity with a name. -/
def Topology.named (top : Topology) (name : List UInt8) : Option ℕ :=
  (top.find? fun entity => entity.info.name = name).map fun entity =>
    entity.info.id

/-- The request is for this link of the kernel. -/
structure LinkRequest.Names (request : LinkRequest) (top : Topology)
    (ends : LinkEnds) : Prop where
  source : top.named request.source = some ends.source.entity
  sink : top.named request.sink = some ends.sink.entity
  pads : ends.source.index = request.pad ∧ ends.sink.index = 0

section

variable {g : MediaGraph} {top : Topology} {values : LinkEnds → ℕ}

theorem Topology.Valid.exists_named (hvalid : top.Valid) {name : List UInt8}
    {id : ℕ} (hnamed : top.named name = some id) :
    ∃ entity, top[top.position id]? = some entity ∧ entity.info.id = id ∧
      entity.info.name = name := by
  rw [Topology.named, Option.map_eq_some_iff] at hnamed
  obtain ⟨entity, hfound, hid⟩ := hnamed
  have hentity := hvalid.findIdx_id (List.mem_of_find?_eq_some hfound)
  rw [hid] at hentity
  have hname := List.find?_some hfound
  rw [decide_eq_true_eq] at hname
  exact ⟨entity, hentity, hid, hname⟩

theorem Topology.Valid.named_injective (hvalid : top.Valid)
    {name other : List UInt8} {id : ℕ} (hnamed : top.named name = some id)
    (hother : top.named other = some id) : name = other := by
  obtain ⟨entity, hentity, -, hname⟩ := hvalid.exists_named hnamed
  obtain ⟨entity', hentity', -, hname'⟩ := hvalid.exists_named hother
  rw [hentity, Option.some.injEq] at hentity'
  rw [← hname, ← hname', hentity']

theorem Mirrors.getEntityByName_eq (hmirrors : Mirrors g top values)
    (hvalid : top.Valid) (name : List UInt8) :
    g.getEntityByName name = (top.named name).map top.position := by
  have hsame : g.getEntityByName name =
      top.findIdx? fun entity => decide (entity.info.name = name) :=
    findIdx?_map_info hmirrors.knows fun info => decide (info.name = name)
  rw [hsame, Topology.named]
  cases hindex : top.findIdx? fun entity =>
      decide (entity.info.name = name) with
  | none =>
      rw [List.findIdx?_eq_none_iff] at hindex
      have hnone : top.find? (fun entity =>
          decide (entity.info.name = name)) = none := by
        rw [List.find?_eq_none]
        intro entity hentity
        rw [hindex entity hentity]
        exact Bool.false_ne_true
      rw [hnone]
      rfl
  | some i =>
      obtain ⟨hlt, hindex⟩ := List.findIdx?_eq_some_iff_findIdx_eq.mp hindex
      have hfound : top.find? (fun entity =>
          decide (entity.info.name = name)) = some top[i] := by
        rw [List.find?_eq_getElem?_findIdx, hindex,
          List.getElem?_eq_getElem hlt]
      rw [hfound, Option.map_some, Option.map_some,
        hvalid.position_eq (List.getElem?_eq_getElem hlt)]

theorem Mirrors.padNamed?_eq_iff (hmirrors : Mirrors g top values)
    (hvalid : top.Valid) {name : List UInt8} {n : ℕ} {pad : PadName}
    (hpad : top.HasPad pad) :
    g.padNamed? name n = some (top.padRef pad) ↔
      top.named name = some pad.entity ∧ pad.index = n := by
  obtain ⟨entity, hentity, hid, hindex⟩ := hpad
  have hplace := hvalid.findIdx_id hentity
  rw [hid] at hplace
  rw [MediaGraph.padNamed?, hmirrors.getEntityByName_eq hvalid]
  constructor
  · intro hfound
    rw [Option.bind_eq_some_iff] at hfound
    obtain ⟨i, hi, hfound⟩ := hfound
    rw [Option.map_eq_some_iff] at hi
    obtain ⟨id, hnamed, rfl⟩ := hi
    rw [Option.bind_eq_some_iff] at hfound
    obtain ⟨known, -, hfound⟩ := hfound
    split at hfound
    case isTrue =>
      rw [Option.some.injEq, Topology.padRef, PadRef.mk.injEq] at hfound
      obtain ⟨hposition, hn⟩ := hfound
      obtain ⟨other, hother, hid', -⟩ := hvalid.exists_named hnamed
      rw [hposition, hplace, Option.some.injEq] at hother
      subst hother
      rw [hid] at hid'
      rw [hid']
      exact ⟨hnamed, hn.symm⟩
    case isFalse => contradiction
  · rintro ⟨hnamed, rfl⟩
    obtain ⟨known, hknown, hinfo, -⟩ := hmirrors.entity_eq hplace
    have hbound : pad.index < known.info.pads := by
      rw [hinfo, (hvalid.counts entity hentity).1]
      exact hindex
    rw [hnamed, Option.map_some, Option.bind_some, hknown, Option.bind_some,
      if_pos hbound]
    rfl

/-- A request is read as the link it names. -/
theorem Mirrors.setting?_of_iff (hmirrors : Mirrors g top values)
    (hvalid : top.Valid) {request : LinkRequest} {ends : LinkEnds}
    (hends : ends ∈ top.links) :
    request.setting? g =
        some ⟨top.padRef ends.source, top.padRef ends.sink, request.flags⟩ ↔
      request.Names top ends := by
  obtain ⟨hsource, hsink, -⟩ := hvalid.ends ends hends
  have hfirst := @Mirrors.padNamed?_eq_iff g top values hmirrors hvalid
    request.source request.pad _ hsource
  have hsecond := @Mirrors.padNamed?_eq_iff g top values hmirrors hvalid
    request.sink 0 _ hsink
  rw [LinkRequest.setting?]
  constructor
  · intro hsetting
    rw [Option.bind_eq_some_iff] at hsetting
    obtain ⟨source, hfound, hsetting⟩ := hsetting
    rw [Option.bind_eq_some_iff] at hsetting
    obtain ⟨sink, hfound', hsetting⟩ := hsetting
    split at hsetting
    case isTrue =>
      rw [Option.some.injEq, LinkSetting.mk.injEq] at hsetting
      obtain ⟨rfl, rfl, -⟩ := hsetting
      obtain ⟨hname, hpad⟩ := hfirst.mp hfound
      obtain ⟨hname', hpad'⟩ := hsecond.mp hfound'
      exact ⟨hname, hname', hpad, hpad'⟩
    case isFalse => contradiction
  · intro hnames
    have hlink : g.hasLink (top.padRef ends.source) (top.padRef ends.sink) =
        true :=
      @Mirrors.hasLink_of top g values hmirrors
        ⟨top.padRef ends.source, top.padRef ends.sink, request.flags⟩ ends
        hends ⟨rfl, rfl⟩
    rw [hfirst.mpr ⟨hnames.source, hnames.pads.1⟩, Option.bind_some,
      hsecond.mpr ⟨hnames.sink, hnames.pads.2⟩, Option.bind_some, hlink,
      if_pos rfl]

theorem LinkRequest.Names.unique {request : LinkRequest}
    {ends other : LinkEnds} (hends : request.Names top ends)
    (hother : request.Names top other) : other = ends := by
  have hsource := hother.source.symm.trans hends.source
  have hsink := hother.sink.symm.trans hends.sink
  rw [Option.some.injEq] at hsource hsink
  have hpad := hother.pads.1.trans hends.pads.1.symm
  have hpad' := hother.pads.2.trans hends.pads.2.symm
  cases other with
  | mk source sink =>
      cases ends with
      | mk source' sink' =>
          cases source
          cases sink
          cases source'
          cases sink'
          simp only at hsource hsink hpad hpad'
          rw [hsource, hsink, hpad, hpad']

end

/-! ## What a request does -/

structure RequestOutcome (top : Topology) (before after : LinkEnds → ℕ)
    (request : LinkRequest) (ret : ℤ) : Prop where
  sign : ret ≤ 0
  named : ret = 0 → ∃ ends ∈ top.links, request.Names top ends
  enabled : ∀ ends, ret = 0 → request.Names top ends →
    (Enabled (after ends) ↔ request.enabled = true)
  kept : ∀ ends, ¬ (ret = 0 ∧ request.Names top ends) →
    after ends = before ends

theorem LinkRequest.enabled_flags (request : LinkRequest) (old : ℕ) :
    Enabled (request.flags ||| (old &&& mediaLnkFlImmutable)) ↔
      request.enabled = true := by
  have himmutable : mediaLnkFlImmutable &&& mediaLnkFlEnabled = 0 := by decide
  rw [Enabled, Nat.and_or_distrib_right, Nat.and_assoc, himmutable,
    Nat.and_zero, Nat.or_zero, LinkRequest.flags]
  cases request.enabled <;> decide

section

variable {driver : LinkDriver κ} {flags : κ → LinkEnds → ℕ} {top : Topology}
  {s : LinkState κ}

theorem Mirrors.request (hmirrors : Mirrors s.graph top (flags s.kernel))
    (hvalid : top.Valid) (hobeys : driver.Obeys flags) {request : LinkRequest}
    (hplain : request.Plain) :
    ∃ ret t, mediaParseSetupLinks driver s request.text = some (ret, t) ∧
      Mirrors t.graph top (flags t.kernel) ∧
      RequestOutcome top (flags s.kernel) (flags t.kernel) request ret := by
  have hparse := @mediaParseSetting_request s.graph request hplain
  rw [mediaParseSetupLinks, RkaiqToolServer.parseSetupLinksFrom,
    mediaParseSetupLink]
  cases hsetting : request.setting? s.graph with
  | none =>
      rw [hsetting] at hparse
      obtain ⟨stop, hstop⟩ := hparse
      rw [hstop]
      dsimp only [Option.bind_some]
      rw [if_pos (by decide)]
      refine ⟨-mediaEinval, s, rfl, hmirrors, by decide, ?_, ?_, fun _ _ => rfl⟩
      · intro hzero
        contradiction
      · intro ends hzero
        contradiction
  | some setting =>
      rw [hsetting] at hparse
      have hlength := (mediaParseSetting_spec hparse).2
      obtain ⟨ends, hends, hof⟩ := hmirrors.hasLink hlength
      obtain ⟨hsource, hsink, -⟩ := hvalid.ends ends hends
      obtain ⟨ret, t, hrun, hmirror, houtcome⟩ :=
        hmirrors.setup hvalid hobeys.toKeeps ⟨hsource, hsink⟩ hof
      have hflags : setting.flags = request.flags := by
        rw [LinkRequest.setting?, Option.bind_eq_some_iff] at hsetting
        obtain ⟨_, -, hsetting⟩ := hsetting
        rw [Option.bind_eq_some_iff] at hsetting
        obtain ⟨_, -, hsetting⟩ := hsetting
        split at hsetting
        case isTrue =>
          rw [Option.some.injEq] at hsetting
          rw [← hsetting]
        case isFalse => contradiction
      have hnames : request.Names top ends := by
        rw [← hmirrors.setting?_of_iff hvalid hends, hsetting, ← hof.1,
          ← hof.2, ← hflags]
      rw [hparse]
      dsimp only
      rw [hrun]
      dsimp only [Option.map_some, Option.bind_some]
      have hzero : (if ret < 0 then some (ret, t) else some (0, t)) =
          some (ret, t) := by
        cases houtcome with
        | refused _ hret => rw [if_pos hret]
        | done => rfl
      refine ⟨ret, t, hzero, hmirror, ?_⟩
      cases houtcome with
      | refused _ hret hsame =>
          refine ⟨hret.le, ?_, ?_, fun _ _ => by rw [hsame]⟩
          · intro h
            omega
          · intro _ h
            omega
      | done new _ hcall hupdate =>
          have henabled := hobeys.enabled s.kernel _ new (by rw [hcall])
          refine ⟨le_rfl, fun _ => ⟨ends, hends, hnames⟩, ?_, ?_⟩
          · intro other _ hother
            rw [hnames.unique hother, hupdate, Function.update_self, Enabled,
              henabled, hflags]
            exact request.enabled_flags _
          · intro other hother
            rw [hupdate, Function.update_of_ne]
            rintro rfl
            exact hother ⟨rfl, hnames⟩

end

/-! ## Requests one after the other -/

/-- Every request is tried, whatever became of those before it. -/
def tryLinks (driver : LinkDriver κ) :
    List LinkRequest → LinkState κ →
      Option (List (LinkRequest × ℤ) × LinkState κ)
  | [], s => some ([], s)
  | request :: rest, s =>
      (mediaParseSetupLinks driver s request.text).bind fun (ret, s) =>
        (tryLinks driver rest s).map fun (attempts, s) =>
          ((request, ret) :: attempts, s)

/-- Some attempt for the link was taken by the kernel. -/
def Taken (top : Topology) (ends : LinkEnds)
    (attempts : List (LinkRequest × ℤ)) (enabled : Bool) : Prop :=
  ∃ request, (request, 0) ∈ attempts ∧ request.Names top ends ∧
    request.enabled = enabled

section

variable {driver : LinkDriver κ} {flags : κ → LinkEnds → ℕ} {top : Topology}
  {s : LinkState κ}

theorem tryLinks_append {first second : List LinkRequest}
    {t u : LinkState κ} {attempts more : List (LinkRequest × ℤ)}
    (hfirst : tryLinks driver first s = some (attempts, t))
    (hsecond : tryLinks driver second t = some (more, u)) :
    tryLinks driver (first ++ second) s = some (attempts ++ more, u) := by
  induction first generalizing s attempts with
  | nil =>
      rw [tryLinks, Option.some.injEq, Prod.mk.injEq] at hfirst
      obtain ⟨rfl, rfl⟩ := hfirst
      exact hsecond
  | cons request first ih =>
      rw [tryLinks, Option.bind_eq_some_iff] at hfirst
      obtain ⟨⟨ret, middle⟩, hrequest, hfirst⟩ := hfirst
      rw [Option.map_eq_some_iff] at hfirst
      obtain ⟨⟨rest, last⟩, hrest, hsame⟩ := hfirst
      rw [Prod.mk.injEq] at hsame
      obtain ⟨rfl, rfl⟩ := hsame
      rw [List.cons_append, tryLinks, hrequest, Option.bind_some]
      dsimp only
      rw [ih hrest]
      rfl

theorem tryLinks_requests {requests : List LinkRequest} {t : LinkState κ}
    {attempts : List (LinkRequest × ℤ)}
    (hrun : tryLinks driver requests s = some (attempts, t)) :
    attempts.map Prod.fst = requests := by
  induction requests generalizing s t attempts with
  | nil =>
      rw [tryLinks, Option.some.injEq, Prod.mk.injEq] at hrun
      rw [← hrun.1]
      rfl
  | cons request requests ih =>
      rw [tryLinks, Option.bind_eq_some_iff] at hrun
      obtain ⟨⟨ret, middle⟩, -, hrun⟩ := hrun
      rw [Option.map_eq_some_iff] at hrun
      obtain ⟨⟨rest, last⟩, hrest, hsame⟩ := hrun
      rw [Prod.mk.injEq] at hsame
      rw [← hsame.1, List.map_cons, ih hrest]

/-- The links after a list of attempts: a link for which an attempt was taken
is as that attempt wanted it, and every other link is as it was.  Attempts for
one link want the same, for what they want depends on where they lead. -/
theorem Mirrors.tryLinks (hmirrors : Mirrors s.graph top (flags s.kernel))
    (hvalid : top.Valid) (hobeys : driver.Obeys flags)
    {requests : List LinkRequest} (hplain : ∀ r ∈ requests, r.Plain)
    (wanted : List UInt8 → Bool)
    (hwanted : ∀ r ∈ requests, r.enabled = wanted r.sink) :
    ∃ attempts t,
      RkaiqToolServer.tryLinks driver requests s = some (attempts, t) ∧
      Mirrors t.graph top (flags t.kernel) ∧
      (∀ request, (request, 0) ∈ attempts → ∃ ends ∈ top.links,
        request.Names top ends) ∧
      (∀ ends enabled, Taken top ends attempts enabled →
        (Enabled (flags t.kernel ends) ↔ enabled = true)) ∧
      ∀ ends, (∀ enabled, ¬ Taken top ends attempts enabled) →
        flags t.kernel ends = flags s.kernel ends := by
  induction requests generalizing s with
  | nil =>
      refine ⟨[], s, rfl, hmirrors, by simp, ?_, fun _ _ => rfl⟩
      rintro ends enabled ⟨request, hrequest, -⟩
      contradiction
  | cons request requests ih =>
      have hrest := fun r h => hplain r (List.mem_cons_of_mem request h)
      have hrest' := fun r h => hwanted r (List.mem_cons_of_mem request h)
      obtain ⟨ret, t, hrun, hmirror, houtcome⟩ :=
        hmirrors.request hvalid hobeys (hplain request List.mem_cons_self)
      obtain ⟨attempts, u, hrun', hmirror', hnamed, htaken, hkept⟩ :=
        ih hmirror hrest hrest'
      have hsplit : ∀ ends enabled,
          Taken top ends ((request, ret) :: attempts) enabled ↔
            (ret = 0 ∧ request.Names top ends ∧ request.enabled = enabled) ∨
              Taken top ends attempts enabled := by
        intro ends enabled
        constructor
        · rintro ⟨other, hother, hnames, henabled⟩
          rcases List.mem_cons.mp hother with hsame | hother
          · rw [Prod.mk.injEq] at hsame
            obtain ⟨rfl, rfl⟩ := hsame
            exact .inl ⟨rfl, hnames, henabled⟩
          · exact .inr ⟨other, hother, hnames, henabled⟩
        · rintro (⟨rfl, hnames, henabled⟩ | ⟨other, hother, hrest⟩)
          · exact ⟨request, List.mem_cons_self, hnames, henabled⟩
          · exact ⟨other, List.mem_cons_of_mem _ hother, hrest⟩
      refine ⟨(request, ret) :: attempts, u, ?_, hmirror', ?_, ?_, ?_⟩
      · rw [RkaiqToolServer.tryLinks, hrun, Option.bind_some]
        dsimp only
        rw [hrun']
        rfl
      · intro other hother
        rcases List.mem_cons.mp hother with hsame | hother
        · rw [Prod.mk.injEq] at hsame
          rw [hsame.1]
          exact houtcome.named hsame.2.symm
        · exact hnamed other hother
      · intro ends enabled htake
        by_cases hlater : ∃ enabled, Taken top ends attempts enabled
        · obtain ⟨last, hlast⟩ := hlater
          have hsame : last = enabled := by
            obtain ⟨other, hother, hnames, rfl⟩ := hlast
            have hmem : other ∈ requests := by
              rw [← tryLinks_requests hrun']
              exact List.mem_map_of_mem hother
            obtain ⟨first, hfirst, hnames', rfl⟩ := htake
            have hmem' : first ∈ request :: requests := by
              rcases List.mem_cons.mp hfirst with heq | hfirst
              · rw [Prod.mk.injEq] at heq
                rw [heq.1]
                exact List.mem_cons_self
              · rw [← tryLinks_requests hrun']
                exact List.mem_cons_of_mem _ (List.mem_map_of_mem hfirst)
            rw [hwanted other (List.mem_cons_of_mem _ hmem),
              hwanted first hmem',
              hvalid.named_injective hnames.sink hnames'.sink]
          rw [← hsame]
          exact htaken ends last hlast
        · have hnone : ∀ enabled, ¬ Taken top ends attempts enabled :=
            fun enabled h => hlater ⟨enabled, h⟩
          rcases (hsplit ends enabled).mp htake with ⟨hzero, hnames, rfl⟩ | h
          · rw [hkept ends hnone]
            exact houtcome.enabled ends hzero hnames
          · exact absurd h (hnone enabled)
      · intro ends hends
        have hlater : ∀ enabled, ¬ Taken top ends attempts enabled :=
          fun enabled h => hends enabled ((hsplit ends enabled).mpr (.inr h))
        have hnow : ¬ (ret = 0 ∧ request.Names top ends) := fun h =>
          hends request.enabled
            ((hsplit ends _).mpr (.inl ⟨h.1, h.2, rfl⟩))
        exact (hkept ends hlater).trans (houtcome.kept ends hnow)

end

/-! ## `LinkToSensor` and `LinkToIsp` -/

/-- The number of the last receiver linked; zero when there is none. -/
def lastLinked (attempts : List (LinkRequest × ℤ)) : ℕ :=
  (List.range attempts.length).foldl
    (fun index n =>
      if (attempts[n]?).map Prod.snd = some 0 then n else index)
    0

/-- The links that `LinkToSensor` sets up on an enumerated device, with the
result of the reset before them, which is not looked at. -/
def linkSensorOn (driver : LinkDriver κ) (kind : MediaKind)
    (sensorName : List UInt8) (s : LinkState κ) :
    Option (ℤ × List (LinkRequest × ℤ) × LinkState κ) :=
  (mediaResetLinks driver s).bind fun (reset, s) =>
    (tryLinks driver ((List.range dphyNum).map (sensorToDphy sensorName))
      s).bind fun (attempts, s) =>
        (tryLinks driver
          (laterRequests kind sensorName (lastLinked attempts)) s).map
            fun (more, s) => (reset, attempts ++ more, s)

/-- What a request wants, by where it leads. -/
def sensorWants (kind : MediaKind) (sink : List UInt8) : Bool :=
  match kind with
  | .cif => sink ≠ ascii "rkisp-isp-subdev"
  | .isp => true
  | .dvp => true

theorem dphyEntity_plain (n : ℕ) :
    ∀ byte ∈ dphyEntity n, notQuote byte = true := by
  have hprefix : ∀ byte ∈ ascii "rockchip-csi2-dphy",
      notQuote byte = true := List.all_eq_true.mp (by decide)
  have hsplit : dphyEntity n =
      ascii "rockchip-csi2-dphy" ++ ascii (toString n) := by
    rw [dphyEntity, ascii, String.toList_append, List.map_append]
    rfl
  intro byte hbyte
  rw [hsplit, List.mem_append] at hbyte
  rcases hbyte with hbyte | hbyte
  · exact hprefix byte hbyte
  · rw [notQuote,
      isQuote_eq_false_of_isDigit (isDigit_of_mem_decimal hbyte)]
    rfl

theorem sensorToDphy_plain {sensorName : List UInt8}
    (hname : ∀ byte ∈ sensorName, notQuote byte = true) (n : ℕ) :
    (sensorToDphy sensorName n).Plain :=
  ⟨hname, dphyEntity_plain n, by simp [sensorToDphy]⟩

theorem laterRequests_plain {sensorName : List UInt8}
    (hname : ∀ byte ∈ sensorName, notQuote byte = true) (kind : MediaKind)
    (index : ℕ) :
    ∀ r ∈ laterRequests kind sensorName index, r.Plain := by
  have hfixed : ∀ r ∈ csiToIsp :: (cifStreams ++ rawReads false),
      r.source.all notQuote = true ∧ r.sink.all notQuote = true ∧
        r.pad < 2 ^ 32 := by
    decide +kernel
  have hplain : ∀ r ∈ csiToIsp :: (cifStreams ++ rawReads false), r.Plain :=
    fun r h => ⟨List.all_eq_true.mp (hfixed r h).1,
      List.all_eq_true.mp (hfixed r h).2.1, (hfixed r h).2.2⟩
  have hcsi : ∀ byte ∈ ascii "rkisp-csi-subdev", notQuote byte = true :=
    List.all_eq_true.mp (by decide)
  have hmipi : ∀ byte ∈ ascii "rockchip-mipi-csi2", notQuote byte = true :=
    List.all_eq_true.mp (by decide)
  have hdvp : ∀ byte ∈ ascii "stream_cif_dvp_id0", notQuote byte = true :=
    List.all_eq_true.mp (by decide)
  intro r hr
  cases kind with
  | isp =>
      rcases List.mem_cons.mp hr with rfl | hr
      · exact hplain csiToIsp List.mem_cons_self
      · rw [List.mem_singleton.mp hr]
        exact ⟨dphyEntity_plain index, hcsi, by simp [dphyToCsi]⟩
  | cif =>
      rcases List.mem_cons.mp hr with rfl | hr
      · exact ⟨dphyEntity_plain index, hmipi, by simp [dphyToMipi]⟩
      · exact hplain r (List.mem_cons_of_mem _ hr)
  | dvp =>
      rw [List.mem_singleton.mp hr]
      exact ⟨hname, hdvp, by simp [sensorToDvp]⟩

theorem linkRequests_wanted (kind : MediaKind) (sensorName : List UInt8)
    (index : ℕ) :
    ∀ r ∈ linkRequests kind sensorName index,
      r.enabled = sensorWants kind r.sink := by
  have hreceiver : ∀ n, dphyEntity n ≠ ascii "rkisp-isp-subdev" := by
    intro n hsame
    have htake := congrArg (List.take 10) hsame
    rw [dphyEntity_take] at htake
    exact absurd htake (by decide)
  intro r hr
  rcases List.mem_append.mp hr with hr | hr
  · obtain ⟨n, -, rfl⟩ := List.mem_map.mp hr
    cases kind with
    | isp => rfl
    | cif => exact (decide_eq_true (hreceiver n)).symm
    | dvp => rfl
  · cases kind with
    | isp =>
        rcases List.mem_cons.mp hr with rfl | hr
        · rfl
        · rw [List.mem_singleton.mp hr]
          rfl
    | cif =>
        rcases List.mem_cons.mp hr with rfl | hr
        · rfl
        · have hstreams : ∀ r ∈ cifStreams ++ rawReads false,
              r.enabled = sensorWants .cif r.sink := by decide +kernel
          exact hstreams r hr
    | dvp =>
        rw [List.mem_singleton.mp hr]
        rfl

section

variable {driver : LinkDriver κ} {flags : κ → LinkEnds → ℕ} {top : Topology}
  {s : LinkState κ} {sensorName : List UInt8}

theorem linkSensorOn_run {kind : MediaKind} {reset : ℤ} {t : LinkState κ}
    {attempts : List (LinkRequest × ℤ)}
    (hrun : linkSensorOn driver kind sensorName s =
      some (reset, attempts, t)) :
    ∃ middle first more,
      mediaResetLinks driver s = some (reset, middle) ∧
      attempts = first ++ more ∧
      first.map Prod.fst = (List.range dphyNum).map (sensorToDphy sensorName) ∧
      attempts.map Prod.fst =
        linkRequests kind sensorName (lastLinked first) ∧
      tryLinks driver (linkRequests kind sensorName (lastLinked first))
        middle = some (attempts, t) := by
  rw [linkSensorOn, Option.bind_eq_some_iff] at hrun
  obtain ⟨⟨ret, middle⟩, hreset, hrun⟩ := hrun
  rw [Option.bind_eq_some_iff] at hrun
  obtain ⟨⟨first, next⟩, hfirst, hrun⟩ := hrun
  rw [Option.map_eq_some_iff] at hrun
  obtain ⟨⟨more, last⟩, hmore, hsame⟩ := hrun
  simp only [Prod.mk.injEq] at hsame
  obtain ⟨rfl, rfl, rfl⟩ := hsame
  have hall := tryLinks_append hfirst hmore
  exact ⟨middle, first, more, hreset, rfl, tryLinks_requests hfirst,
    tryLinks_requests hall, hall⟩

/-- Behind `LinkToSensor` the graph mirrors the kernel.  Every attempt that
was taken has its link in the state it asked for; and when the reset went
through, of the links that can be changed just those are enabled for which an
attempt was taken that asked for it. -/
theorem linkSensorOn_enabled
    (hmirrors : Mirrors s.graph top (flags s.kernel)) (hvalid : top.Valid)
    (hobeys : driver.Obeys flags)
    (hname : ∀ byte ∈ sensorName, notQuote byte = true) (kind : MediaKind) :
    ∃ reset attempts t,
      linkSensorOn driver kind sensorName s = some (reset, attempts, t) ∧
      Mirrors t.graph top (flags t.kernel) ∧
      (∀ request, (request, 0) ∈ attempts → ∃ ends ∈ top.links,
        request.Names top ends ∧
          (Enabled (flags t.kernel ends) ↔ request.enabled = true)) ∧
      (reset = 0 → ∀ ends ∈ top.links, ¬ Immutable (flags s.kernel ends) →
        (Enabled (flags t.kernel ends) ↔ Taken top ends attempts true)) := by
  obtain ⟨reset, middle, hreset, hmirror, hdisabled⟩ :=
    hmirrors.resetLinks hvalid hobeys.toKeeps
  obtain ⟨-, -, hdisabled⟩ := hdisabled hobeys
  have hfirst : ∀ r ∈ (List.range dphyNum).map (sensorToDphy sensorName),
      r.Plain := by
    intro r hr
    obtain ⟨n, -, rfl⟩ := List.mem_map.mp hr
    exact sensorToDphy_plain hname n
  have hplain : ∀ index, ∀ r ∈ linkRequests kind sensorName index,
      r.Plain := by
    intro index r hr
    rcases List.mem_append.mp hr with hr | hr
    · exact hfirst r hr
    · exact laterRequests_plain hname kind index r hr
  obtain ⟨first, next, htry, hnext, -⟩ :=
    hmirror.tryLinks hvalid hobeys hfirst (fun _ => true) (by
      intro r hr
      obtain ⟨n, -, rfl⟩ := List.mem_map.mp hr
      rfl)
  obtain ⟨more, last, htry', -⟩ :=
    hnext.tryLinks hvalid hobeys
      (laterRequests_plain hname kind (lastLinked first)) (sensorWants kind)
      fun r hr => linkRequests_wanted kind sensorName (lastLinked first) r
        (List.mem_append_right _ hr)
  obtain ⟨attempts, t, hall, hmirror', hnamed, htaken, hkept⟩ :=
    hmirror.tryLinks hvalid hobeys (hplain (lastLinked first))
      (sensorWants kind) (linkRequests_wanted kind sensorName _)
  have hsame := (tryLinks_append htry htry').symm.trans hall
  simp only [Option.some.injEq, Prod.mk.injEq] at hsame
  obtain ⟨hattempts, rfl⟩ := hsame
  refine ⟨reset, attempts, last, ?_, hmirror', ?_, ?_⟩
  · rw [linkSensorOn, hreset, Option.bind_some]
    dsimp only
    rw [htry, Option.bind_some]
    dsimp only
    rw [htry', ← hattempts]
    rfl
  · intro request hrequest
    obtain ⟨ends, hends, hnames⟩ := hnamed request hrequest
    exact ⟨ends, hends, hnames,
      htaken ends request.enabled ⟨request, hrequest, hnames, rfl⟩⟩
  · intro hzero ends hends himmutable
    constructor
    · intro henabled
      by_contra hnot
      have hnone : ∀ enabled, ¬ Taken top ends attempts enabled := by
        intro enabled h
        have hiff := htaken ends enabled h
        rw [hiff] at henabled
        rw [henabled] at h
        exact hnot h
      rw [hkept ends hnone] at henabled
      exact hdisabled (by omega) ends hends himmutable henabled
    · intro h
      exact (htaken ends true h).mpr rfl

/-- A sensor behind the first receiver, which leads to the ISP. -/
def sensorTopology : Topology :=
  [{ info := ⟨1, ascii "rkisp-isp-subdev", 0x00020000, 1, 0, 81, 6⟩
     padFlags := [1], links := [] },
    { info := ⟨2, ascii "rkisp-csi-subdev", 0x00020000, 2, 1, 81, 7⟩
      padFlags := [1, 2], links := [⟨⟨2, 1⟩, ⟨1, 0⟩⟩] },
    { info := ⟨3, ascii "rockchip-csi2-dphy0", 0x00020000, 2, 1, 81, 8⟩
      padFlags := [1, 2], links := [⟨⟨3, 1⟩, ⟨2, 0⟩⟩] },
    { info := ⟨4, ascii "m00_b_ov4689", 0x00020000, 1, 1, 81, 9⟩
      padFlags := [2], links := [⟨⟨4, 0⟩, ⟨3, 0⟩⟩] }]

theorem sensorTopology_valid : sensorTopology.Valid where
  ids := by decide
  range := by decide
  counts := by decide
  starts := by decide
  ends := by
    intro link hlink
    have hcases : link = ⟨⟨2, 1⟩, ⟨1, 0⟩⟩ ∨ link = ⟨⟨3, 1⟩, ⟨2, 0⟩⟩ ∨
        link = ⟨⟨4, 0⟩, ⟨3, 0⟩⟩ := by
      simpa [sensorTopology, Topology.links] using hlink
    rcases hcases with rfl | rfl | rfl <;>
      simp [Topology.HasPad, sensorTopology]
  distinct := by decide

/-- The sensor with all its links enabled. -/
def sensorGraph : MediaGraph :=
  ((mediaDeviceEnumerate (sensorTopology.calls (fun _ => 1) (ascii "rkisp0"))
    (.ok 3) 5 mediaDeviceNew).map Prod.snd).getD mediaDeviceNew

theorem sensorGraph_mirrors :
    Mirrors sensorGraph sensorTopology fun _ => 1 := by
  obtain ⟨g, hg, hmirrors, -⟩ :=
    @mediaDeviceEnumerate_mirrors
      (sensorTopology.calls (fun _ => 1) (ascii "rkisp0")) sensorTopology
      (fun _ => 1) sensorTopology_valid
      (sensorTopology_valid.calls_serves _ _) 3 (ascii "rkisp0") rfl 5
      (by decide)
  rw [sensorGraph, hg]
  exact hmirrors

theorem linkSensorOn_enabled_sensor :
    ∃ g, mediaDeviceEnumerate
          (sensorTopology.calls (fun _ => 0) (ascii "rkisp0")) (.ok 3) 5
          mediaDeviceNew = some (0, g) ∧
      ∃ reset attempts t,
        linkSensorOn plainDriver .isp (ascii "m00_b_ov4689")
            ⟨fun _ => 0, g⟩ = some (reset, attempts, t) ∧
        Mirrors t.graph sensorTopology t.kernel := by
  obtain ⟨g, hg, hmirrors, -⟩ :=
    @mediaDeviceEnumerate_mirrors
      (sensorTopology.calls (fun _ => 0) (ascii "rkisp0")) sensorTopology
      (fun _ => 0) sensorTopology_valid
      (sensorTopology_valid.calls_serves _ _) 3 (ascii "rkisp0") rfl 5
      (by decide)
  obtain ⟨reset, attempts, t, hrun, hmirror, -⟩ :=
    @linkSensorOn_enabled _ plainDriver id sensorTopology ⟨fun _ => 0, g⟩
      (ascii "m00_b_ov4689") hmirrors sensorTopology_valid plainDriver_obeys
      (List.all_eq_true.mp (by decide)) .isp
  exact ⟨g, hg, reset, attempts, t, hrun, hmirror⟩

end

/-! ## Agreement with the attempts taken alone -/

theorem text_split {name other rest tail : List UInt8}
    (hname : ∀ byte ∈ name, notQuote byte = true)
    (hother : ∀ byte ∈ other, notQuote byte = true)
    (hsame : name ++ quote :: rest = other ++ quote :: tail) :
    name = other ∧ rest = tail := by
  have hstop : ∀ text, Stops notQuote (quote :: text) := by
    intro text
    rw [stops_cons]
    rfl
  have htake := congrArg (List.takeWhile notQuote) hsame
  have hdrop := congrArg (List.dropWhile notQuote) hsame
  rw [takeWhile_append_stops hname (hstop _),
    takeWhile_append_stops hother (hstop _)] at htake
  rw [dropWhile_append_stops hname (hstop _),
    dropWhile_append_stops hother (hstop _), List.cons.injEq] at hdrop
  exact ⟨htake, hdrop.2⟩

theorem decimal_split {value other : ℕ} {rest tail : List UInt8}
    (hvalue : value < 2 ^ 32) (hother : other < 2 ^ 32)
    (hrest : Stops isDigit rest) (htail : Stops isDigit tail)
    (hsame : ascii (toString value) ++ rest =
      ascii (toString other) ++ tail) :
    value = other ∧ rest = tail := by
  have hread := @strtouint_decimal [] rest value hvalue (by simp [Blank]) hrest
  rw [List.nil_append, hsame] at hread
  have hread' :=
    @strtouint_decimal [] tail other hother (by simp [Blank]) htail
  rw [List.nil_append, hread, Prod.mk.injEq] at hread'
  exact hread'

theorem LinkRequest.Plain.text_injective {request other : LinkRequest}
    (hrequest : request.Plain) (hother : other.Plain)
    (hsame : request.text = other.text) : request = other := by
  have hexpand : ∀ r : LinkRequest, r.text =
      quote :: (r.source ++ quote :: (colon :: (ascii (toString r.pad) ++
        (32 :: dash :: greater :: 32 :: quote :: (r.sink ++ quote ::
          (colon :: (ascii (toString 0) ++ (bracket ::
            (ascii (toString r.flags) ++ [bracketEnd]))))))))) := by
    intro r
    rw [← r.linkText_text]
    simp [LinkText.text, PadText.text, EntityText.text, LinkRequest.linkText,
      namedPad]
  have hflags : ∀ r : LinkRequest, r.flags < 2 ^ 32 := by
    intro r
    rw [LinkRequest.flags]
    split <;> decide
  rw [hexpand, hexpand, List.cons.injEq] at hsame
  obtain ⟨hsource, hsame⟩ :=
    text_split hrequest.source hother.source hsame.2
  rw [List.cons.injEq] at hsame
  obtain ⟨hpad, hsame⟩ :=
    decimal_split hrequest.pad hother.pad (by rw [stops_cons]; rfl)
      (by rw [stops_cons]; rfl) hsame.2
  simp only [List.cons.injEq, true_and] at hsame
  obtain ⟨hsink, hsame⟩ := text_split hrequest.sink hother.sink hsame
  rw [List.cons.injEq] at hsame
  have hsame := List.append_cancel_left hsame.2
  rw [List.cons.injEq] at hsame
  obtain ⟨hflag, -⟩ := decimal_split (hflags request) (hflags other)
    (by rw [stops_cons]; rfl) (by rw [stops_cons]; rfl) hsame.2
  cases request with
  | mk source pad sink enabled =>
      cases other with
      | mk source' pad' sink' enabled' =>
          simp only [LinkRequest.flags] at hsource hpad hsink hflag
          rw [hsource, hpad, hsink]
          cases enabled <;> cases enabled' <;> simp_all

/-- What came of the text of a request. -/
def resultOf (attempts : List (LinkRequest × ℤ)) (text : List UInt8) : ℤ :=
  ((attempts.find? fun attempt => attempt.1.text = text).map
    Prod.snd).getD (-mediaEinval)

theorem resultOf_eq {attempts : List (LinkRequest × ℤ)}
    (hnodup : (attempts.map Prod.fst).Nodup)
    (hplain : ∀ r ∈ attempts.map Prod.fst, r.Plain)
    {attempt : LinkRequest × ℤ} (hattempt : attempt ∈ attempts) :
    resultOf attempts attempt.1.text = attempt.2 := by
  cases hfound : attempts.find? fun other =>
      decide (other.1.text = attempt.1.text) with
  | none =>
      have hnot := List.find?_eq_none.mp hfound attempt hattempt
      simp at hnot
  | some other =>
      have hmem := List.mem_of_find?_eq_some hfound
      have htext := List.find?_some hfound
      rw [decide_eq_true_eq] at htext
      have hsame : other.1 = attempt.1 :=
        (hplain _ (List.mem_map_of_mem hmem)).text_injective
          (hplain _ (List.mem_map_of_mem hattempt)) htext
      rw [resultOf, hfound,
        List.inj_on_of_nodup_map hnodup hmem hattempt hsame]
      rfl

theorem attempts_eq_map {attempts : List (LinkRequest × ℤ)}
    (hnodup : (attempts.map Prod.fst).Nodup)
    (hplain : ∀ r ∈ attempts.map Prod.fst, r.Plain) :
    (attempts.map Prod.fst).map
        (fun request => (request, request.setup (resultOf attempts))) =
      attempts := by
  rw [List.map_map]
  conv_rhs => rw [← List.map_id attempts]
  apply List.map_congr_left
  intro attempt hattempt
  rw [Function.comp_apply, LinkRequest.setup,
    resultOf_eq hnodup hplain hattempt]
  rfl

theorem linkRequests_nodup (kind : MediaKind) (sensorName : List UInt8)
    (index : ℕ) : (linkRequests kind sensorName index).Nodup := by
  -- The requests differ in where they lead, or in the reader they start from.
  let key : LinkRequest → ℕ × List UInt8 × List UInt8 := fun r =>
    (r.pad, r.sink,
      if r.sink = ascii "rkisp-isp-subdev" then r.source else [])
  have hkey : (linkRequests kind sensorName index).map key =
      (linkRequests kind [] 0).map key := by
    cases kind <;> rfl
  apply List.Nodup.of_map key
  rw [hkey]
  cases kind <;> decide +kernel

theorem lastLinked_eq {first : List (LinkRequest × ℤ)}
    {results : List UInt8 → ℤ} {sensorName : List UInt8}
    (hfirst : first = ((List.range dphyNum).map (sensorToDphy sensorName)).map
      fun request => (request, request.setup results)) :
    lastLinked first = dphyIndex results sensorName := by
  have hlength : first.length = dphyNum := by
    rw [hfirst]
    simp
  rw [lastLinked, dphyIndex, hlength]
  apply List.foldl_ext
  intro index n hn
  have hlt : n < dphyNum := List.mem_range.mp hn
  have hget : first[n]? =
      some (sensorToDphy sensorName n,
        (sensorToDphy sensorName n).setup results) := by
    rw [hfirst, List.getElem?_map, List.getElem?_map,
      List.getElem?_range hlt]
    rfl
  rw [hget, Option.map_some]
  exact if_congr Option.some_inj rfl rfl

/-- What `LinkToSensor` does on a device is what it does with the results that
its texts have there, one by one; so what holds of its attempts for any
results holds of those on a device. -/
theorem linkToSensor_linkSensorOn {driver : LinkDriver κ} {s t : LinkState κ}
    {table : MediaTable} {camIndex : ℕ} {enumerate : List UInt8 → Option ℤ}
    {kind : MediaKind} (hreach : ReachesSetup table camIndex enumerate kind)
    (hname : ∀ byte ∈ (table.entry kind camIndex).sensorName,
      notQuote byte = true)
    {reset : ℤ} {attempts : List (LinkRequest × ℤ)}
    (hrun : linkSensorOn driver kind (table.entry kind camIndex).sensorName s =
      some (reset, attempts, t)) :
    linkToSensor table camIndex enumerate (resultOf attempts) =
      { ret := 0, attempts } := by
  obtain ⟨middle, first, more, -, hsplit, hfirst, hall, -⟩ :=
    linkSensorOn_run hrun
  have hnodup : (attempts.map Prod.fst).Nodup := by
    rw [hall]
    exact linkRequests_nodup _ _ _
  have hplain : ∀ r ∈ attempts.map Prod.fst, r.Plain := by
    intro r hr
    rw [hall] at hr
    rcases List.mem_append.mp hr with hr | hr
    · obtain ⟨n, -, rfl⟩ := List.mem_map.mp hr
      exact sensorToDphy_plain hname n
    · exact laterRequests_plain hname kind _ r hr
  have hmap := attempts_eq_map hnodup hplain
  have hindex : lastLinked first =
      dphyIndex (resultOf attempts) (table.entry kind camIndex).sensorName := by
    apply lastLinked_eq
    have hparts : (first.map Prod.fst).map (fun request =>
          (request, request.setup (resultOf attempts))) ++
        (more.map Prod.fst).map (fun request =>
          (request, request.setup (resultOf attempts))) = first ++ more := by
      rw [← List.map_append, ← List.map_append, ← hsplit, hmap]
    rw [← hfirst]
    exact (List.append_inj_left hparts (by simp)).symm
  rcases linkToSensor_cases table camIndex enumerate (resultOf attempts) with
    ⟨hnot, -⟩ | ⟨kind', hreach', hresult⟩
  · exact absurd hreach (hnot kind)
  · have hkind : kind' = kind := by
      have hsame := hreach'.1.symm.trans hreach.1
      rwa [Option.some.injEq] at hsame
    rw [hresult, hkind, ← hindex, ← hall, hmap]

/-- The sensor is linked to the first receiver, and that to the ISP. -/
theorem linkToSensor_linkSensorOn_linkedCamera :
    ∃ reset attempts t,
      linkSensorOn plainDriver .isp (ascii "m00_b_ov4689")
          ⟨fun _ => 1, sensorGraph⟩ = some (reset, attempts, t) ∧
      attempts.map Prod.snd =
        0 :: (List.replicate 8 (-mediaEinval) ++ [0, 0]) ∧
      linkToSensor linkedCamera 0 (fun _ => some 0) (resultOf attempts) =
        { ret := 0, attempts } := by
  have hresults : (linkSensorOn plainDriver .isp (ascii "m00_b_ov4689")
      ⟨fun _ => 1, sensorGraph⟩).map (fun run => run.2.1.map Prod.snd) =
        some (0 :: (List.replicate 8 (-mediaEinval) ++ [0, 0])) := by
    decide +kernel
  obtain ⟨⟨reset, attempts, t⟩, hrun, hattempts⟩ :=
    Option.map_eq_some_iff.mp hresults
  have hreach : ReachesSetup linkedCamera 0 (fun _ => some 0) .isp :=
    ⟨by decide, by decide, 0, rfl, le_rfl⟩
  exact ⟨reset, attempts, t, hrun, hattempts,
    linkToSensor_linkSensorOn hreach (List.all_eq_true.mp (by decide)) hrun⟩

/-! ## The links of an ISP -/

/-- What a request of `LinkToIsp` wants, by where it leads. -/
def ispWants (enable : Bool) (camCount : ℤ) (sink : List UInt8) : Bool :=
  if sink = ascii "rkisp-isp-subdev" then enable && camCount > 1
  else if sink = ascii "rkisp_bridge_ispp" then enable
  else true

theorem ispRequests_plain (enable : Bool) (camCount : ℤ) :
    ∀ r ∈ ispRequests enable camCount, r.Plain ∧
      r.enabled = ispWants enable camCount r.sink := by
  have hall : ∀ enable many : Bool,
      ∀ r ∈ [⟨ascii "rkisp-csi-subdev", 2, ascii "rkisp_rawwr0", true⟩,
          ⟨ascii "rkisp-csi-subdev", 4, ascii "rkisp_rawwr2", true⟩,
          ⟨ascii "rkisp-csi-subdev", 5, ascii "rkisp_rawwr3", true⟩,
          ⟨ascii "rkisp-isp-subdev", 2, ascii "rkisp_mainpath", true⟩] ++
        rawReads (enable && many) ++
        [⟨ascii "rkisp-isp-subdev", 2, ascii "rkisp_bridge_ispp", enable⟩],
      (r.source.all notQuote = true ∧ r.sink.all notQuote = true ∧
        r.pad < 2 ^ 32) ∧
      r.enabled =
        if r.sink = ascii "rkisp-isp-subdev" then enable && many
        else if r.sink = ascii "rkisp_bridge_ispp" then enable
        else true := by
    decide +kernel
  intro r hr
  obtain ⟨⟨hsource, hsink, hpad⟩, henabled⟩ :=
    hall enable (camCount > 1) r hr
  exact ⟨⟨List.all_eq_true.mp hsource, List.all_eq_true.mp hsink, hpad⟩,
    henabled⟩

/-- Behind the requests of `LinkToIsp` on an ISP the graph mirrors the kernel.
A link for which a request was taken is enabled just when its sink is one of
those wanted, with several cameras for the readers; the other links are as
they were. -/
theorem ispRequests_enabled {driver : LinkDriver κ}
    {flags : κ → LinkEnds → ℕ} {top : Topology} {s : LinkState κ}
    (hmirrors : Mirrors s.graph top (flags s.kernel)) (hvalid : top.Valid)
    (hobeys : driver.Obeys flags) (enable : Bool) (camCount : ℤ) :
    ∃ attempts t,
      tryLinks driver (ispRequests enable camCount) s = some (attempts, t) ∧
      Mirrors t.graph top (flags t.kernel) ∧
      (∀ request, (request, 0) ∈ attempts → ∃ ends ∈ top.links,
        request.Names top ends ∧
          (Enabled (flags t.kernel ends) ↔
            ispWants enable camCount request.sink = true)) ∧
      ∀ ends, (∀ enabled, ¬ Taken top ends attempts enabled) →
        flags t.kernel ends = flags s.kernel ends := by
  have hplain := ispRequests_plain enable camCount
  obtain ⟨attempts, t, hrun, hmirror, hnamed, htaken, hkept⟩ :=
    hmirrors.tryLinks hvalid hobeys (fun r h => (hplain r h).1)
      (ispWants enable camCount) fun r h => (hplain r h).2
  refine ⟨attempts, t, hrun, hmirror, ?_, hkept⟩
  intro request hrequest
  obtain ⟨ends, hends, hnames⟩ := hnamed request hrequest
  have hmem : request ∈ ispRequests enable camCount := by
    rw [← tryLinks_requests hrun]
    exact List.mem_map_of_mem hrequest
  have hiff := htaken ends request.enabled
    ⟨request, hrequest, hnames, rfl⟩
  rw [(hplain request hmem).2] at hiff
  exact ⟨ends, hends, hnames, hiff⟩

theorem ispRequests_enabled_rawRead :
    ∃ g, mediaDeviceEnumerate
          (rawReadTopology.calls (fun _ => 0) (ascii "rkisp0")) (.ok 3) 4
          mediaDeviceNew = some (0, g) ∧
      ∃ attempts t,
        tryLinks plainDriver (ispRequests true 2) ⟨fun _ => 0, g⟩ =
          some (attempts, t) ∧
        Mirrors t.graph rawReadTopology t.kernel := by
  obtain ⟨g, hg, hmirrors⟩ := rawReadTopology_enumerated fun _ => 0
  obtain ⟨attempts, t, hrun, hmirror, -⟩ :=
    @ispRequests_enabled _ plainDriver id rawReadTopology ⟨fun _ => 0, g⟩
      hmirrors rawReadTopology_valid plainDriver_obeys true 2
  exact ⟨g, hg, attempts, t, hrun, hmirror⟩

end RkaiqToolServer
