import RkaiqToolServer.MediaSetup
import RkaiqToolServer.TextScan
import RkaiqToolServer.StepRun

/-!
# Links as texts

`media_parse_setup_links` reads a text of links, each with its ends and its
flags, and sets them up one after the other until one fails.  Pointers into
the text are modelled by what is left of it; where a parser stops with an
error it says where.
-/

namespace RkaiqToolServer

open TwinArrays TextScan ByteCodec

variable {κ : Type*}

/-- The largest number of `unsigned long`. -/
def ulongMax : ℕ := 2 ^ 64 - 1

/-- What `strtoul` gives to an `unsigned int`, and where it stops. -/
def strtouint (text : List UInt8) : ℕ × List UInt8 :=
  ((strtoul ulongMax text).1 % 2 ^ 32, (strtoul ulongMax text).2)

def quote : UInt8 := 34
def apostrophe : UInt8 := 39
def colon : UInt8 := 58
def dash : UInt8 := 45
def greater : UInt8 := 62
def bracket : UInt8 := 91
def bracketEnd : UInt8 := 93
def comma : UInt8 := 44

def isQuote (byte : UInt8) : Bool := byte == quote || byte == apostrophe

def notQuote (byte : UInt8) : Bool := !isQuote byte

/-- A value with the rest of the text, or where the parser has stopped. -/
abbrev Parsed (α : Type*) := Except (List UInt8) (α × List UInt8)

/-! ## Entities, pads and links -/

def mediaParseEntity (g : MediaGraph) (text : List UInt8) : Parsed ℕ :=
  match skipSpaces text with
  | [] =>
      match g.getEntityById (strtouint []).1 with
      | none => .error []
      | some entity => .ok (entity, skipSpaces (strtouint []).2)
  | first :: body =>
      if isQuote first then
        match body.dropWhile notQuote with
        | [] => .error []
        | _ :: rest =>
            match g.getEntityByName (body.takeWhile notQuote) with
            | none => .error body
            | some entity => .ok (entity, skipSpaces rest)
      else
        match g.getEntityById (strtouint (first :: body)).1 with
        | none => .error (first :: body)
        | some entity =>
            .ok (entity, skipSpaces (strtouint (first :: body)).2)

def mediaParsePad (g : MediaGraph) (text : List UInt8) : Parsed PadRef :=
  match mediaParseEntity g text with
  | .error stop => .error stop
  | .ok (entity, rest) =>
      match rest with
      | [] => .error []
      | sign :: rest =>
          if sign ≠ colon then .error (sign :: rest)
          else
            let pad := strtouint (skipSpaces rest)
            match g.entities[entity]? with
            | none => .error (skipSpaces rest)
            | some known =>
                if known.info.pads ≤ pad.1 then .error (skipSpaces rest)
                else .ok (⟨entity, pad.1⟩, skipSpaces pad.2)

/-- What is left behind an arrow. -/
def arrow? (text : List UInt8) : Option (List UInt8) :=
  match text with
  | first :: second :: rest =>
      if first = dash ∧ second = greater then some rest else none
  | _ => none

/-- The pads are those of a link of the source's entity. -/
def MediaGraph.hasLink (g : MediaGraph) (source sink : PadRef) : Bool :=
  (g.links source.entity).cells.any fun cell =>
    cell.value.source = source ∧ cell.value.sink = sink

def mediaParseLink (g : MediaGraph) (text : List UInt8) :
    Parsed (PadRef × PadRef) :=
  match mediaParsePad g text with
  | .error stop => .error stop
  | .ok (source, rest) =>
      match arrow? rest with
      | none => .error rest
      | some rest =>
          match mediaParsePad g rest with
          | .error stop => .error stop
          | .ok (sink, rest) =>
              if g.hasLink source sink then .ok ((source, sink), rest)
              else .error rest

/-! ## Setting up what a text says -/

/-- A link and the flags for it. -/
structure LinkSetting where
  source : PadRef
  sink : PadRef
  flags : ℕ

def mediaParseSetting (g : MediaGraph) (text : List UInt8) :
    Parsed LinkSetting :=
  match mediaParseLink g text with
  | .error stop => .error stop
  | .ok ((source, sink), rest) =>
      match rest with
      | [] => .error []
      | sign :: rest =>
          if sign ≠ bracket then .error (sign :: rest)
          else
            let flags := strtouint rest
            match skipSpaces flags.2 with
            | [] => .error []
            | sign :: rest =>
                if sign ≠ bracketEnd then .error (sign :: rest)
                else .ok (⟨source, sink, flags.1⟩, skipSpaces rest)

def LinkSetting.setup (driver : LinkDriver κ) (s : LinkState κ)
    (setting : LinkSetting) : Option (ℤ × LinkState κ) :=
  mediaSetupLink driver s setting.source setting.sink setting.flags

/-- The result, where the parser has stopped, and the state. -/
def mediaParseSetupLink (driver : LinkDriver κ) (s : LinkState κ)
    (text : List UInt8) : Option (ℤ × List UInt8 × LinkState κ) :=
  match mediaParseSetting s.graph text with
  | .error stop => some (-mediaEinval, stop, s)
  | .ok (setting, rest) =>
      (setting.setup driver s).map fun (ret, s) => (ret, rest, s)

/-- The loop of `media_parse_setup_links`; every round uses up a comma. -/
def parseSetupLinksFrom (driver : LinkDriver κ) :
    ℕ → LinkState κ → List UInt8 → Option (ℤ × LinkState κ)
  | 0, _, _ => none
  | fuel + 1, s, text =>
      (mediaParseSetupLink driver s text).bind fun (ret, rest, s) =>
        if ret < 0 then some (ret, s)
        else
          match rest with
          | [] => some (0, s)
          | sign :: rest =>
              if sign = comma then parseSetupLinksFrom driver fuel s rest
              else some (-mediaEinval, s)

def mediaParseSetupLinks (driver : LinkDriver κ) (s : LinkState κ)
    (text : List UInt8) : Option (ℤ × LinkState κ) :=
  parseSetupLinksFrom driver (text.length + 1) s text

/-- Settings one after the other, until one fails. -/
def setupAll (driver : LinkDriver κ) :
    List LinkSetting → LinkState κ → Option (ℤ × LinkState κ)
  | [], s => some (0, s)
  | setting :: rest, s =>
      (setting.setup driver s).bind fun (ret, s) =>
        if ret < 0 then some (ret, s) else setupAll driver rest s

/-! ## What a parser leaves -/

section

variable {g : MediaGraph} {text : List UInt8}

theorem strtouint_suffix (text : List UInt8) : (strtouint text).2 <:+ text :=
  strtoul_suffix ulongMax text

theorem mediaParseEntity_spec {entity : ℕ} {rest : List UInt8}
    (h : mediaParseEntity g text = .ok (entity, rest)) :
    rest <:+ text ∧ entity < g.entities.length := by
  have hskip := skipSpaces_suffix text
  have hname : ∀ name, g.getEntityByName name = some entity →
      entity < g.entities.length := fun name hfound =>
    (List.findIdx?_eq_some_iff_findIdx_eq.mp hfound).1
  have hid : ∀ id, g.getEntityById id = some entity →
      entity < g.entities.length := fun id hfound =>
    (List.findIdx?_eq_some_iff_findIdx_eq.mp hfound).1
  unfold mediaParseEntity at h
  split at h
  case h_1 heq =>
    split at h
    case h_1 => contradiction
    case h_2 found hfound =>
      simp only [Except.ok.injEq, Prod.mk.injEq] at h
      obtain ⟨rfl, rfl⟩ := h
      rw [heq] at hskip
      exact ⟨((skipSpaces_suffix _).trans (strtouint_suffix _)).trans hskip,
        hid _ hfound⟩
  case h_2 first body heq =>
    rw [heq] at hskip
    split at h
    case isTrue =>
      split at h
      case h_1 => contradiction
      case h_2 last rest' hrest =>
        split at h
        case h_1 => contradiction
        case h_2 found hfound =>
          simp only [Except.ok.injEq, Prod.mk.injEq] at h
          obtain ⟨rfl, rfl⟩ := h
          refine ⟨?_, hname _ hfound⟩
          have hdrop : last :: rest' <:+ body := by
            rw [← hrest]
            exact List.dropWhile_suffix _
          exact (((skipSpaces_suffix _).trans (List.suffix_cons _ _)).trans
            hdrop).trans ((List.suffix_cons _ _).trans hskip)
    case isFalse =>
      split at h
      case h_1 => contradiction
      case h_2 found hfound =>
        simp only [Except.ok.injEq, Prod.mk.injEq] at h
        obtain ⟨rfl, rfl⟩ := h
        exact ⟨((skipSpaces_suffix _).trans (strtouint_suffix _)).trans hskip,
          hid _ hfound⟩

theorem mediaParsePad_spec {pad : PadRef} {rest : List UInt8}
    (h : mediaParsePad g text = .ok (pad, rest)) :
    rest <:+ text ∧ ∃ known, g.entities[pad.entity]? = some known ∧
      pad.pad < known.info.pads := by
  unfold mediaParsePad at h
  split at h
  case h_1 => contradiction
  case h_2 entity after hentity =>
    obtain ⟨hsuffix, -⟩ := mediaParseEntity_spec hentity
    split at h
    case h_1 => contradiction
    case h_2 sign body =>
      split at h
      case isTrue => contradiction
      case isFalse =>
        dsimp only at h
        split at h
        case h_1 => contradiction
        case h_2 known hknown =>
          split at h
          case isTrue => contradiction
          case isFalse hpad =>
            simp only [Except.ok.injEq, Prod.mk.injEq] at h
            obtain ⟨rfl, rfl⟩ := h
            refine ⟨?_, known, hknown, not_le.mp hpad⟩
            exact (((skipSpaces_suffix _).trans (strtouint_suffix _)).trans
              (skipSpaces_suffix _)).trans
                ((List.suffix_cons _ _).trans hsuffix)

theorem arrow?_suffix {rest : List UInt8} (h : arrow? text = some rest) :
    rest <:+ text := by
  unfold arrow? at h
  split at h
  case h_1 first second after =>
    split at h
    case isTrue =>
      rw [Option.some.injEq] at h
      subst h
      exact (List.suffix_cons _ _).trans (List.suffix_cons _ _)
    case isFalse => contradiction
  case h_2 => contradiction

theorem mediaParseLink_spec {source sink : PadRef} {rest : List UInt8}
    (h : mediaParseLink g text = .ok ((source, sink), rest)) :
    rest <:+ text ∧ g.hasLink source sink = true := by
  unfold mediaParseLink at h
  split at h
  case h_1 => contradiction
  case h_2 source' after hsource =>
    split at h
    case h_1 => contradiction
    case h_2 behind harrow =>
      split at h
      case h_1 => contradiction
      case h_2 sink' last hsink =>
        split at h
        case isTrue hlink =>
          simp only [Except.ok.injEq, Prod.mk.injEq] at h
          obtain ⟨⟨rfl, rfl⟩, rfl⟩ := h
          exact ⟨((mediaParsePad_spec hsink).1.trans
            (arrow?_suffix harrow)).trans (mediaParsePad_spec hsource).1,
            hlink⟩
        case isFalse => contradiction

theorem mediaParseSetting_spec {setting : LinkSetting} {rest : List UInt8}
    (h : mediaParseSetting g text = .ok (setting, rest)) :
    rest.length < text.length ∧
      g.hasLink setting.source setting.sink = true := by
  unfold mediaParseSetting at h
  split at h
  case h_1 => contradiction
  case h_2 source sink after hlink =>
    obtain ⟨hsuffix, hhas⟩ := mediaParseLink_spec hlink
    split at h
    case h_1 => contradiction
    case h_2 sign body =>
      split at h
      case isTrue => contradiction
      case isFalse =>
        dsimp only at h
        split at h
        case h_1 => contradiction
        case h_2 sign' last hlast =>
          split at h
          case isTrue => contradiction
          case isFalse =>
            simp only [Except.ok.injEq, Prod.mk.injEq] at h
            obtain ⟨rfl, rfl⟩ := h
            refine ⟨?_, hhas⟩
            have hskip := (skipSpaces_suffix (strtouint body).2).length_le
            rw [hlast, List.length_cons] at hskip
            have hread := (strtouint_suffix body).length_le
            have hafter := hsuffix.length_le
            rw [List.length_cons] at hafter
            have hrest := (skipSpaces_suffix last).length_le
            omega

end

/-! ## Any text -/

/-- The setting is for a link of the kernel. -/
def LinkSetting.Of (setting : LinkSetting) (top : Topology)
    (ends : LinkEnds) : Prop :=
  setting.source = top.padRef ends.source ∧
    setting.sink = top.padRef ends.sink

section

variable {driver : LinkDriver κ} {flags : κ → LinkEnds → ℕ} {top : Topology}
  {s : LinkState κ}

theorem Mirrors.hasLink {g : MediaGraph} {values : LinkEnds → ℕ}
    (hmirrors : Mirrors g top values) {setting : LinkSetting}
    (hlink : g.hasLink setting.source setting.sink = true) :
    ∃ ends ∈ top.links, setting.Of top ends := by
  obtain ⟨cell, hcell, hsame⟩ := List.any_eq_true.mp hlink
  obtain ⟨hsource, hsink⟩ := of_decide_eq_true hsame
  obtain ⟨index, hindex⟩ := List.getElem?_of_mem hcell
  have hread : TwinArrays.read g.links ⟨setting.source.entity,
      (g.links setting.source.entity).block, index⟩ = some cell :=
    read_eq_some_iff.mpr ⟨rfl, hindex⟩
  obtain ⟨ends, hends, hvalue, -⟩ := hmirrors.value_eq hread
  refine ⟨ends, hends, ?_, ?_⟩
  · rw [← hsource, hvalue]
    rfl
  · rw [← hsink, hvalue]
    rfl

theorem Mirrors.setup (hmirrors : Mirrors s.graph top (flags s.kernel))
    (hvalid : top.Valid) (hkeeps : driver.Keeps flags) {setting : LinkSetting}
    {ends : LinkEnds} (hpads : top.HasPad ends.source ∧ top.HasPad ends.sink)
    (hof : setting.Of top ends) :
    ∃ ret t, setting.setup driver s = some (ret, t) ∧
      Mirrors t.graph top (flags t.kernel) ∧
      SetupOutcome driver flags top s.kernel t.kernel ends setting.flags
        ret := by
  obtain ⟨ret, t, hrun, hmirror, -, houtcome⟩ :=
    hmirrors.setupLink hvalid hkeeps hpads setting.flags
  refine ⟨ret, t, ?_, hmirror, houtcome⟩
  rw [LinkSetting.setup, hof.1, hof.2]
  exact hrun

theorem Mirrors.parseSetupLinksFrom
    (hmirrors : Mirrors s.graph top (flags s.kernel)) (hvalid : top.Valid)
    (hkeeps : driver.Keeps flags) {fuel : ℕ} {text : List UInt8}
    (hfuel : text.length < fuel) :
    ∃ ret t settings ret',
      RkaiqToolServer.parseSetupLinksFrom driver fuel s text =
        some (ret, t) ∧
      Mirrors t.graph top (flags t.kernel) ∧
      (∀ setting ∈ settings, ∃ ends ∈ top.links,
        LinkSetting.Of setting top ends) ∧
      setupAll driver settings s = some (ret', t) ∧
      (ret = ret' ∨ ret = -mediaEinval ∧ ret' = 0) := by
  induction fuel generalizing s text with
  | zero => omega
  | succ fuel ih =>
      rw [RkaiqToolServer.parseSetupLinksFrom, mediaParseSetupLink]
      cases hparse : mediaParseSetting s.graph text with
      | error stop =>
          dsimp only [Option.bind_some]
          rw [if_pos (by decide)]
          exact ⟨-mediaEinval, s, [], 0, rfl, hmirrors, by simp, rfl,
            .inr ⟨rfl, rfl⟩⟩
      | ok result =>
          obtain ⟨setting, rest⟩ := result
          obtain ⟨hlength, hhas⟩ := mediaParseSetting_spec hparse
          obtain ⟨ends, hends, hof⟩ := hmirrors.hasLink hhas
          obtain ⟨hsource, hsink, -⟩ := hvalid.ends ends hends
          obtain ⟨ret, t, hrun, hmirror, -⟩ :=
            hmirrors.setup hvalid hkeeps ⟨hsource, hsink⟩ hof
          have honly : ∀ other ∈ [setting], ∃ ends ∈ top.links,
              LinkSetting.Of other top ends := by
            intro other hother
            rw [List.mem_singleton.mp hother]
            exact ⟨ends, hends, hof⟩
          dsimp only
          rw [hrun]
          dsimp only [Option.map_some, Option.bind_some]
          by_cases hneg : ret < 0
          · rw [if_pos hneg]
            refine ⟨ret, t, [setting], ret, rfl, hmirror, honly, ?_, .inl rfl⟩
            rw [setupAll, hrun, Option.bind_some]
            dsimp only
            rw [if_pos hneg]
          · rw [if_neg hneg]
            have hone : setupAll driver [setting] s = some (0, t) := by
              rw [setupAll, hrun, Option.bind_some]
              dsimp only
              rw [if_neg hneg]
              rfl
            cases rest with
            | nil =>
                exact ⟨0, t, [setting], 0, rfl, hmirror, honly, hone,
                  .inl rfl⟩
            | cons sign rest =>
                dsimp only
                by_cases hcomma : sign = comma
                · rw [if_pos hcomma]
                  rw [List.length_cons] at hlength
                  obtain ⟨ret', u, settings, last, hrest, hmirror', hall,
                    hlast, hresult⟩ := @ih t hmirror rest (by omega)
                  refine ⟨ret', u, setting :: settings, last, hrest, hmirror',
                    ?_, ?_, hresult⟩
                  · intro other hother
                    rcases List.mem_cons.mp hother with rfl | hother
                    · exact ⟨ends, hends, hof⟩
                    · exact hall other hother
                  · rw [setupAll, hrun, Option.bind_some]
                    dsimp only
                    rw [if_neg hneg]
                    exact hlast
                · rw [if_neg hcomma]
                  exact ⟨-mediaEinval, t, [setting], 0, rfl, hmirror, honly, hone,
                    .inr ⟨rfl, rfl⟩⟩

/-- Whatever the text is, what is done are settings for links of the device,
one after the other up to the first failure or to where the text is not in
order; nothing else is changed. -/
theorem mediaParseSetupLinks_sound
    (hmirrors : Mirrors s.graph top (flags s.kernel)) (hvalid : top.Valid)
    (hkeeps : driver.Keeps flags) (text : List UInt8) :
    ∃ ret t settings ret',
      mediaParseSetupLinks driver s text = some (ret, t) ∧
      Mirrors t.graph top (flags t.kernel) ∧
      (∀ setting ∈ settings, ∃ ends ∈ top.links,
        LinkSetting.Of setting top ends) ∧
      setupAll driver settings s = some (ret', t) ∧
      (ret = ret' ∨ ret = -mediaEinval ∧ ret' = 0) :=
  hmirrors.parseSetupLinksFrom hvalid hkeeps (Nat.lt_succ_self _)

theorem mediaParseSetupLinks_sound_rawRead :
    ∃ g, mediaDeviceEnumerate
          (rawReadTopology.calls (fun _ => 0) (ascii "rkisp0")) (.ok 3) 4
          mediaDeviceNew = some (0, g) ∧
      ∃ ret t settings ret',
        mediaParseSetupLinks plainDriver ⟨fun _ => 0, g⟩
            (ascii "1:0 -> 3:0[1], 2:0 -> 1:0[1]") = some (ret, t) ∧
        Mirrors t.graph rawReadTopology t.kernel ∧
        (∀ setting ∈ settings, ∃ ends ∈ rawReadTopology.links,
          LinkSetting.Of setting rawReadTopology ends) ∧
        setupAll plainDriver settings ⟨fun _ => 0, g⟩ = some (ret', t) ∧
        (ret = ret' ∨ ret = -mediaEinval ∧ ret' = 0) := by
  obtain ⟨g, hg, hmirrors⟩ := rawReadTopology_enumerated fun _ => 0
  exact ⟨g, hg,
    @mediaParseSetupLinks_sound _ plainDriver id rawReadTopology
      ⟨fun _ => 0, g⟩ hmirrors rawReadTopology_valid
      plainDriver_obeys.toKeeps (ascii "1:0 -> 3:0[1], 2:0 -> 1:0[1]")⟩

end

/-! ## Written links -/

/-- An entity by its name in quotes or by its id. -/
inductive EntityText
  | quoted (name : List UInt8)
  | numbered (id : ℕ)
  deriving DecidableEq

def EntityText.text : EntityText → List UInt8
  | .quoted name => quote :: (name ++ [quote])
  | .numbered id => ascii (toString id)

/-- The text stands for the entity at a position. -/
def EntityText.Means (g : MediaGraph) (i : ℕ) : EntityText → Prop
  | .quoted name => (∀ byte ∈ name, notQuote byte = true) ∧
      g.getEntityByName name = some i
  | .numbered id => id < 2 ^ 32 ∧ g.getEntityById id = some i

/-- A pad with the blanks around its parts. -/
structure PadText where
  before : List UInt8
  entity : EntityText
  behindEntity : List UInt8
  behindColon : List UInt8
  pad : ℕ
  behindPad : List UInt8

def PadText.text (pad : PadText) : List UInt8 :=
  pad.before ++ (pad.entity.text ++ (pad.behindEntity ++
    (colon :: (pad.behindColon ++ (ascii (toString pad.pad) ++
      pad.behindPad)))))

structure PadText.Means (g : MediaGraph) (ref : PadRef) (pad : PadText) :
    Prop where
  blank : Blank pad.before ∧ Blank pad.behindEntity ∧
    Blank pad.behindColon ∧ Blank pad.behindPad
  entity : pad.entity.Means g ref.entity
  pad : pad.pad = ref.pad ∧ ref.pad < 2 ^ 32
  known : ∃ known, g.entities[ref.entity]? = some known ∧
    ref.pad < known.info.pads

/-- A link with its flags. -/
structure LinkText where
  source : PadText
  sink : PadText
  beforeFlags : List UInt8
  flags : ℕ
  behindFlags : List UInt8
  behind : List UInt8

def LinkText.text (link : LinkText) : List UInt8 :=
  link.source.text ++ (dash :: greater :: (link.sink.text ++
    (bracket :: (link.beforeFlags ++ (ascii (toString link.flags) ++
      (link.behindFlags ++ (bracketEnd :: link.behind)))))))

structure LinkText.Means (g : MediaGraph) (setting : LinkSetting)
    (link : LinkText) : Prop where
  blank : Blank link.beforeFlags ∧ Blank link.behindFlags ∧
    Blank link.behind
  source : link.source.Means g setting.source
  sink : link.sink.Means g setting.sink
  flags : link.flags = setting.flags ∧ setting.flags < 2 ^ 32
  link : g.hasLink setting.source setting.sink = true

/-- Links with commas between them. -/
def joinLinks : List LinkText → List UInt8
  | [] => []
  | [link] => link.text
  | link :: rest => link.text ++ comma :: joinLinks rest

section

variable {g : MediaGraph} {blank rest : List UInt8}

theorem strtouint_decimal {value : ℕ} (hvalue : value < 2 ^ 32)
    (hblank : Blank blank) (hrest : Stops isDigit rest) :
    strtouint (blank ++ (ascii (toString value) ++ rest)) = (value, rest) := by
  have hlimit : value ≤ ulongMax := by
    have : (2 : ℕ) ^ 32 ≤ ulongMax := by decide
    omega
  rw [strtouint, strtoul_decimal hlimit hblank hrest]
  dsimp only
  rw [Nat.mod_eq_of_lt hvalue]

theorem isQuote_eq_false_of_isDigit {byte : UInt8}
    (hdigit : isDigit byte = true) : isQuote byte = false := by
  rw [isQuote, Bool.or_eq_false_iff, beq_eq_false_iff_ne, beq_eq_false_iff_ne]
  constructor
  · rintro rfl
    exact absurd hdigit (by decide)
  · rintro rfl
    exact absurd hdigit (by decide)

theorem mediaParseEntity_text {entity : EntityText} {i : ℕ}
    {before behind : List UInt8} (hmeans : entity.Means g i)
    (hbefore : Blank before) (hbehind : Blank behind)
    (hspace : Stops isSpace rest) (hdigit : Stops isDigit rest) :
    mediaParseEntity g (before ++ (entity.text ++ (behind ++ rest))) =
      .ok (i, rest) := by
  cases entity with
  | quoted name =>
      obtain ⟨hname, hfound⟩ := hmeans
      have hskip : skipSpaces
            (before ++ ((EntityText.quoted name).text ++ (behind ++ rest))) =
          quote :: (name ++ (quote :: (behind ++ rest))) := by
        rw [skipSpaces_append hbefore (by
          rw [EntityText.text, List.cons_append, stops_cons]
          rfl)]
        simp [EntityText.text]
      have hstop : Stops notQuote (quote :: (behind ++ rest)) := by
        rw [stops_cons]
        rfl
      unfold mediaParseEntity
      rw [hskip]
      dsimp only
      have hquote : isQuote quote = true := rfl
      rw [if_pos hquote, dropWhile_append_stops hname hstop,
        takeWhile_append_stops hname hstop]
      dsimp only
      rw [hfound]
      dsimp only
      rw [skipSpaces_append hbehind hspace]
  | numbered id =>
      obtain ⟨hid, hfound⟩ := hmeans
      have hstop : Stops isSpace (ascii (toString id) ++ (behind ++ rest)) :=
        stops_decimal id fun byte => isSpace_eq_false_of_isDigit
      have hskip : skipSpaces
            (before ++ ((EntityText.numbered id).text ++ (behind ++ rest))) =
          ascii (toString id) ++ (behind ++ rest) :=
        skipSpaces_append hbefore hstop
      have hread : strtouint (ascii (toString id) ++ (behind ++ rest)) =
          (id, behind ++ rest) :=
        @strtouint_decimal [] _ id hid (by simp [Blank])
          (hbehind.stops_isDigit hdigit)
      have hquote : Stops isQuote (ascii (toString id) ++ (behind ++ rest)) :=
        stops_decimal id fun byte => isQuote_eq_false_of_isDigit
      unfold mediaParseEntity
      rw [hskip]
      obtain ⟨first, body, hbody⟩ :
          ∃ first body, ascii (toString id) ++ (behind ++ rest) =
            first :: body := by
        obtain ⟨digit, digits, hdigits⟩ :=
          List.exists_cons_of_ne_nil (decimal_ne_nil id)
        exact ⟨digit, digits ++ (behind ++ rest), by rw [hdigits]; rfl⟩
      rw [hbody, stops_cons] at hquote
      rw [hbody] at hread
      rw [hbody]
      dsimp only
      rw [hquote, if_neg Bool.false_ne_true, hread]
      dsimp only
      rw [hfound]
      dsimp only
      rw [skipSpaces_append hbehind hspace]

theorem mediaParsePad_text {pad : PadText} {ref : PadRef}
    (hmeans : pad.Means g ref) (hspace : Stops isSpace rest)
    (hdigit : Stops isDigit rest) :
    mediaParsePad g (pad.text ++ rest) = .ok (ref, rest) := by
  obtain ⟨hbefore, hbehind, hcolon, hpad⟩ := hmeans.blank
  obtain ⟨known, hknown, hbound⟩ := hmeans.known
  obtain ⟨hsame, hsmall⟩ := hmeans.pad
  have htext : pad.text ++ rest =
      pad.before ++ (pad.entity.text ++ (pad.behindEntity ++
        (colon :: (pad.behindColon ++ (ascii (toString pad.pad) ++
          (pad.behindPad ++ rest)))))) := by
    simp [PadText.text]
  have hentity := @mediaParseEntity_text g
    (colon :: (pad.behindColon ++ (ascii (toString pad.pad) ++
      (pad.behindPad ++ rest)))) pad.entity ref.entity pad.before
    pad.behindEntity hmeans.entity hbefore hbehind
    (by rw [stops_cons]; rfl) (by rw [stops_cons]; rfl)
  have hskip : skipSpaces (pad.behindColon ++ (ascii (toString pad.pad) ++
        (pad.behindPad ++ rest))) =
      ascii (toString pad.pad) ++ (pad.behindPad ++ rest) :=
    skipSpaces_append hcolon
      (stops_decimal _ fun byte => isSpace_eq_false_of_isDigit)
  have hread : strtouint (ascii (toString pad.pad) ++
      (pad.behindPad ++ rest)) = (ref.pad, pad.behindPad ++ rest) := by
    rw [hsame]
    exact @strtouint_decimal [] _ ref.pad hsmall (by simp [Blank])
      (hpad.stops_isDigit hdigit)
  unfold mediaParsePad
  rw [htext, hentity]
  dsimp only
  rw [if_neg (not_not.mpr rfl), hskip, hread, hknown]
  dsimp only
  rw [if_neg (not_le.mpr hbound), skipSpaces_append hpad hspace]

theorem mediaParseSetting_text {link : LinkText} {setting : LinkSetting}
    (hmeans : link.Means g setting) (hspace : Stops isSpace rest) :
    mediaParseSetting g (link.text ++ rest) = .ok (setting, rest) := by
  obtain ⟨hbefore, hbehind, hlast⟩ := hmeans.blank
  obtain ⟨hsame, hsmall⟩ := hmeans.flags
  have hflags : strtouint (link.beforeFlags ++
        (ascii (toString link.flags) ++ (link.behindFlags ++
          (bracketEnd :: (link.behind ++ rest))))) =
      (setting.flags, link.behindFlags ++
        (bracketEnd :: (link.behind ++ rest))) := by
    rw [hsame]
    exact strtouint_decimal hsmall hbefore
      (hbehind.stops_isDigit (by rw [stops_cons]; rfl))
  have hsink : mediaParsePad g (link.sink.text ++ (bracket ::
        (link.beforeFlags ++ (ascii (toString link.flags) ++
          (link.behindFlags ++ (bracketEnd :: (link.behind ++ rest))))))) =
      .ok (setting.sink, bracket ::
        (link.beforeFlags ++ (ascii (toString link.flags) ++
          (link.behindFlags ++ (bracketEnd :: (link.behind ++ rest)))))) :=
    mediaParsePad_text hmeans.sink (by rw [stops_cons]; rfl)
      (by rw [stops_cons]; rfl)
  have htext : link.text ++ rest =
      link.source.text ++ (dash :: greater :: (link.sink.text ++ (bracket ::
        (link.beforeFlags ++ (ascii (toString link.flags) ++
          (link.behindFlags ++ (bracketEnd :: (link.behind ++ rest)))))))) := by
    simp [LinkText.text]
  have hsource := @mediaParsePad_text g
    (dash :: greater :: (link.sink.text ++ (bracket ::
      (link.beforeFlags ++ (ascii (toString link.flags) ++
        (link.behindFlags ++ (bracketEnd :: (link.behind ++ rest))))))))
    link.source setting.source hmeans.source (by rw [stops_cons]; rfl)
    (by rw [stops_cons]; rfl)
  have hskip : skipSpaces (link.behindFlags ++
      (bracketEnd :: (link.behind ++ rest))) =
        bracketEnd :: (link.behind ++ rest) :=
    skipSpaces_append hbehind (by rw [stops_cons]; rfl)
  unfold mediaParseSetting mediaParseLink
  rw [htext, hsource]
  dsimp only
  rw [arrow?, if_pos ⟨rfl, rfl⟩]
  dsimp only
  rw [hsink]
  dsimp only
  rw [if_pos hmeans.link]
  dsimp only
  rw [if_neg (not_not.mpr rfl), hflags]
  dsimp only
  rw [hskip]
  dsimp only
  rw [if_neg (not_not.mpr rfl), skipSpaces_append hlast hspace]

end

section

variable {driver : LinkDriver κ} {flags : κ → LinkEnds → ℕ} {top : Topology}
  {s : LinkState κ}

theorem Mirrors.hasLink_of {g : MediaGraph} {values : LinkEnds → ℕ}
    (hmirrors : Mirrors g top values) {setting : LinkSetting}
    {ends : LinkEnds} (hends : ends ∈ top.links)
    (hof : setting.Of top ends) :
    g.hasLink setting.source setting.sink = true := by
  obtain ⟨p, cell, hpa, hp, hvalue⟩ := hmirrors.exists_cell hends (.inl rfl)
  obtain ⟨-, hcell⟩ := read_eq_some_iff.mp hp
  have hsource : setting.source.entity = p.array := by
    rw [hpa, hof.1]
    rfl
  rw [MediaGraph.hasLink, hsource, List.any_eq_true]
  refine ⟨cell, List.mem_of_getElem? hcell, decide_eq_true ⟨?_, ?_⟩⟩
  · rw [hvalue, hof.1]
    rfl
  · rw [hvalue, hof.2]
    rfl

/-- Two graphs with the same entities read a text in the same way. -/
theorem LinkText.Means.transfer {g g' : MediaGraph}
    {values values' : LinkEnds → ℕ} (hmirrors : Mirrors g top values)
    (hmirrors' : Mirrors g' top values') {link : LinkText}
    {setting : LinkSetting} (hmeans : link.Means g setting) :
    link.Means g' setting := by
  have hinfos : g.entities.map GraphEntity.info =
      g'.entities.map GraphEntity.info :=
    hmirrors.knows.trans hmirrors'.knows.symm
  have hfind : ∀ p : EntityDesc → Bool,
      g.entities.findIdx? (fun entity => p entity.info) =
        g'.entities.findIdx? fun entity => p entity.info := by
    intro p
    have hmap := congrArg (List.findIdx? p) hinfos
    rw [List.findIdx?_map, List.findIdx?_map] at hmap
    exact hmap
  have hentity : ∀ (entity : EntityText) i, entity.Means g i →
      entity.Means g' i := by
    intro entity i h
    cases entity with
    | quoted name =>
        refine ⟨h.1, ?_⟩
        rw [← h.2]
        exact (hfind fun info => info.name = name).symm
    | numbered id =>
        refine ⟨h.1, ?_⟩
        rw [← h.2]
        exact (hfind fun info =>
          (info.id = id % mediaEntIdFlagNext ∧ ¬ mediaEntIdFlagNext ≤ id) ∨
            (id % mediaEntIdFlagNext < info.id ∧
              mediaEntIdFlagNext ≤ id)).symm
  have hpad : ∀ (pad : PadText) ref, pad.Means g ref → pad.Means g' ref := by
    intro pad ref h
    obtain ⟨known, hknown, hbound⟩ := h.known
    have hinfo := congrArg (fun infos => infos[ref.entity]?) hinfos
    simp only [List.getElem?_map, hknown, Option.map_some] at hinfo
    obtain ⟨known', hknown', hsame⟩ := Option.map_eq_some_iff.mp hinfo.symm
    exact ⟨h.blank, hentity _ _ h.entity, h.pad, known', hknown', by
      rw [hsame]
      exact hbound⟩
  obtain ⟨ends, hends, hof⟩ := hmirrors.hasLink hmeans.link
  exact ⟨hmeans.blank, hpad _ _ hmeans.source, hpad _ _ hmeans.sink,
    hmeans.flags, hmirrors'.hasLink_of hends hof⟩

theorem Mirrors.parseSetupLinksFrom_text
    (hmirrors : Mirrors s.graph top (flags s.kernel)) (hvalid : top.Valid)
    (hkeeps : driver.Keeps flags) {fuel : ℕ}
    {links : List (LinkText × LinkSetting)} (hne : links ≠ [])
    (hmeans : ∀ link ∈ links, link.1.Means s.graph link.2)
    (hfuel : (joinLinks (links.map Prod.fst)).length < fuel) :
    RkaiqToolServer.parseSetupLinksFrom driver fuel s
        (joinLinks (links.map Prod.fst)) =
      setupAll driver (links.map Prod.snd) s := by
  induction links generalizing s fuel with
  | nil => exact absurd rfl hne
  | cons link links ih =>
      obtain ⟨fuel, rfl⟩ : ∃ less, fuel = less + 1 := ⟨fuel - 1, by omega⟩
      have hfirst := hmeans link List.mem_cons_self
      obtain ⟨ends, hends, hof⟩ := hmirrors.hasLink hfirst.link
      obtain ⟨hsource, hsink, -⟩ := hvalid.ends ends hends
      obtain ⟨ret, t, hrun, hmirror, -⟩ :=
        hmirrors.setup hvalid hkeeps ⟨hsource, hsink⟩ hof
      cases links with
      | nil =>
          have hparse := @mediaParseSetting_text s.graph [] link.1 link.2
            hfirst (by simp)
          rw [List.append_nil] at hparse
          have hjoin : joinLinks ([link].map Prod.fst) = link.1.text := rfl
          rw [hjoin, RkaiqToolServer.parseSetupLinksFrom, mediaParseSetupLink,
            hparse]
          dsimp only
          rw [hrun]
          simp only [List.map_cons, List.map_nil, setupAll, hrun,
            Option.map_some, Option.bind_some]
      | cons next rest =>
          have hjoin : joinLinks ((link :: next :: rest).map Prod.fst) =
              link.1.text ++
                comma :: joinLinks ((next :: rest).map Prod.fst) := rfl
          have hparse := @mediaParseSetting_text s.graph
            (comma :: joinLinks ((next :: rest).map Prod.fst)) link.1 link.2
            hfirst (by rw [stops_cons]; rfl)
          rw [hjoin, List.length_append, List.length_cons] at hfuel
          have hrest := @ih t hmirror fuel (List.cons_ne_nil _ _)
            (fun other hother => (hmeans other
              (List.mem_cons_of_mem _ hother)).transfer hmirrors hmirror)
            (by omega)
          rw [hjoin, RkaiqToolServer.parseSetupLinksFrom, mediaParseSetupLink,
            hparse]
          dsimp only
          have hall : setupAll driver
                ((link :: next :: rest).map Prod.snd) s =
              (link.2.setup driver s).bind fun (ret, s) =>
                if ret < 0 then some (ret, s)
                else setupAll driver ((next :: rest).map Prod.snd) s := rfl
          rw [hall, hrun]
          dsimp only [Option.map_some, Option.bind_some]
          rw [if_pos rfl, hrest]

/-- A written list of links does the settings it stands for, in its order and
up to the first that fails. -/
theorem mediaParseSetupLinks_joinLinks
    (hmirrors : Mirrors s.graph top (flags s.kernel)) (hvalid : top.Valid)
    (hkeeps : driver.Keeps flags) {links : List (LinkText × LinkSetting)}
    (hne : links ≠ [])
    (hmeans : ∀ link ∈ links, link.1.Means s.graph link.2) :
    mediaParseSetupLinks driver s (joinLinks (links.map Prod.fst)) =
      setupAll driver (links.map Prod.snd) s :=
  hmirrors.parseSetupLinksFrom_text hvalid hkeeps hne hmeans
    (Nat.lt_succ_self _)

/-- `1:0 -> 3:0 [1]` and the same for the second reader. -/
def readerLink (id : ℕ) : LinkText where
  source := ⟨[], .numbered id, [], [], 0, [32]⟩
  sink := ⟨[32], .numbered 3, [], [], 0, [32]⟩
  beforeFlags := []
  flags := 1
  behindFlags := []
  behind := []

theorem readerLink_means {g : MediaGraph} {i : ℕ}
    (hmirrors : Mirrors g rawReadTopology (fun _ => 0)) (hi : i < 2) :
    (readerLink (i + 1)).Means g ⟨⟨i, 0⟩, ⟨2, 0⟩, 1⟩ := by
  have hentity : ∀ (j : ℕ) (h : j < 3), g.getEntityById (j + 1) = some j ∧
      ∃ known, g.entities[j]? = some known ∧ 0 < known.info.pads := by
    intro j h
    have hj : j < rawReadTopology.length := h
    have hmem := List.getElem_mem hj
    have hplain : ∀ k (hk : k < rawReadTopology.length),
        rawReadTopology[k].info.id = k + 1 ∧
          rawReadTopology.position (k + 1) = k ∧
          0 < rawReadTopology[k].info.pads := by decide
    obtain ⟨hid, hposition, hpads⟩ := hplain j hj
    have hfound := getEntityById_eq rawReadTopology_valid hmirrors.knows hmem
    rw [hid, hposition] at hfound
    obtain ⟨known, hknown, hinfo, -⟩ :=
      hmirrors.entity_eq (List.getElem?_eq_getElem hj)
    exact ⟨hfound, known, hknown, by rw [hinfo]; exact hpads⟩
  obtain ⟨hsource, hpad⟩ := hentity i (by omega)
  obtain ⟨hsink, hpad'⟩ := hentity 2 (by omega)
  have hlink : ∃ ends ∈ rawReadTopology.links,
      LinkSetting.Of ⟨⟨i, 0⟩, ⟨2, 0⟩, 1⟩ rawReadTopology ends := by
    refine ⟨⟨⟨i + 1, 0⟩, ⟨3, 0⟩⟩, ?_, ?_⟩
    · interval_cases i <;> decide
    · interval_cases i <;> exact ⟨rfl, rfl⟩
  obtain ⟨ends, hends, hof⟩ := hlink
  have hnone : Blank [] := by decide
  have hspace : Blank [32] := by decide
  have hzero : 0 < 2 ^ 32 := by decide
  exact
    { blank := ⟨hnone, hnone, hnone⟩
      source := ⟨⟨hnone, hnone, hnone, hspace⟩, ⟨by omega, hsource⟩,
        ⟨rfl, hzero⟩, hpad⟩
      sink := ⟨⟨hspace, hnone, hnone, hspace⟩, ⟨by decide, hsink⟩,
        ⟨rfl, hzero⟩, hpad'⟩
      flags := ⟨rfl, Nat.one_lt_two_pow (by decide)⟩
      link := hmirrors.hasLink_of hends hof }

theorem mediaParseSetupLinks_joinLinks_readers :
    ∃ g, mediaDeviceEnumerate
          (rawReadTopology.calls (fun _ => 0) (ascii "rkisp0")) (.ok 3) 4
          mediaDeviceNew = some (0, g) ∧
      mediaParseSetupLinks plainDriver ⟨fun _ => 0, g⟩
          (joinLinks [readerLink 1, readerLink 2]) =
        setupAll plainDriver
          [⟨⟨0, 0⟩, ⟨2, 0⟩, 1⟩, ⟨⟨1, 0⟩, ⟨2, 0⟩, 1⟩] ⟨fun _ => 0, g⟩ := by
  obtain ⟨g, hg, hmirrors⟩ := rawReadTopology_enumerated fun _ => 0
  refine ⟨g, hg, ?_⟩
  exact @mediaParseSetupLinks_joinLinks _ plainDriver id rawReadTopology
    ⟨fun _ => 0, g⟩ hmirrors rawReadTopology_valid plainDriver_obeys.toKeeps
    [(readerLink 1, ⟨⟨0, 0⟩, ⟨2, 0⟩, 1⟩), (readerLink 2, ⟨⟨1, 0⟩, ⟨2, 0⟩, 1⟩)]
    (by simp) (by
      intro link hlink
      simp only [List.mem_cons, List.not_mem_nil, or_false] at hlink
      rcases hlink with rfl | rfl
      · exact readerLink_means hmirrors (by omega)
      · exact readerLink_means hmirrors (by omega))

end

end RkaiqToolServer
