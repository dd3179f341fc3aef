import RkaiqToolServer.PadFormatText
import RkaiqToolServer.SensorGraph

/-!
# Setting up formats

`v4l2_subdev_parse_setup_formats` reads formats of pads, divided by commas,
and sets each of them up: on a sink the format goes before the selections, on
a source behind them, and a source hands its format and its interval on to the
subdevices its enabled links lead to.
-/

namespace RkaiqToolServer

open TwinArrays TextScan ByteCodec

variable {κ : Type*}

def mediaPadFlSink : ℕ := 1
def mediaPadFlSource : ℕ := 2
def v4l2SelTgtCrop : ℕ := 0
def v4l2SelTgtCompose : ℕ := 0x100
def enotty : ℤ := 25

/-- The subdevices of the kernel; an answer may differ from what was asked
for, and an error is an errno. -/
structure SubdevDriver (κ : Type*) where
  setFormat : κ → PadRef → MbusFramefmt → κ × Except ℤ MbusFramefmt
  setSelection : κ → PadRef → ℕ → Rect → κ × Except ℤ Rect
  setFrameInterval : κ → PadRef → Fract → κ × Except ℤ Fract

/-! ## One call -/

/-- A value that is set unless there is nothing to set; the answer takes its
place. -/
def setUnless {α : Type*} (nothing : Bool)
    (call : κ → α → κ × Except ℤ α) (k : κ) (value : α) : ℤ × κ × α :=
  if nothing then (0, k, value)
  else
    match (call k value).2 with
    | .error errno => (-errno, (call k value).1, value)
    | .ok answer => (0, (call k value).1, answer)

def setFormat (driver : SubdevDriver κ) (pad : PadRef) (k : κ)
    (format : MbusFramefmt) : ℤ × κ × MbusFramefmt :=
  setUnless (format.width = 0 ∨ format.height = 0)
    (fun k => driver.setFormat k pad) k format

def setSelection (driver : SubdevDriver κ) (pad : PadRef) (target : ℕ) (k : κ)
    (rect : Rect) : ℤ × κ × Rect :=
  setUnless (rect.left = -1 ∨ rect.top = -1)
    (fun k => driver.setSelection k pad target) k rect

def setFrameInterval (driver : SubdevDriver κ) (pad : PadRef) (k : κ)
    (interval : Fract) : ℤ × κ × Fract :=
  setUnless (interval.numerator = 0)
    (fun k => driver.setFrameInterval k pad) k interval

/-! ## One pad -/

/-- The kernel with what is still asked of it. -/
structure FormatState (κ : Type*) where
  kernel : κ
  request : PadFormat

def FormatState.format (driver : SubdevDriver κ) (pad : PadRef)
    (s : FormatState κ) : ℤ × FormatState κ :=
  let answer := setFormat driver pad s.kernel s.request.format
  (answer.1, ⟨answer.2.1, { s.request with format := answer.2.2 }⟩)

def FormatState.crop (driver : SubdevDriver κ) (pad : PadRef)
    (s : FormatState κ) : ℤ × FormatState κ :=
  let answer :=
    setSelection driver pad v4l2SelTgtCrop s.kernel s.request.crop
  (answer.1, ⟨answer.2.1, { s.request with crop := answer.2.2 }⟩)

def FormatState.compose (driver : SubdevDriver κ) (pad : PadRef)
    (s : FormatState κ) : ℤ × FormatState κ :=
  let answer :=
    setSelection driver pad v4l2SelTgtCompose s.kernel s.request.compose
  (answer.1, ⟨answer.2.1, { s.request with compose := answer.2.2 }⟩)

def FormatState.interval (driver : SubdevDriver κ) (pad : PadRef)
    (s : FormatState κ) : ℤ × FormatState κ :=
  let answer := setFrameInterval driver pad s.kernel s.request.interval
  (answer.1, ⟨answer.2.1, { s.request with interval := answer.2.2 }⟩)

/-- The next step, unless the one before has failed. -/
def unlessFailed {σ : Type*} (result : ℤ × σ) (next : σ → ℤ × σ) : ℤ × σ :=
  if result.1 < 0 then result else next result.2

def onlyIf {σ : Type*} (condition : Prop) [Decidable condition]
    (step : σ → ℤ × σ) (s : σ) : ℤ × σ :=
  if condition then step s else (0, s)

/-- What is set on the pad itself. -/
def setupPad (driver : SubdevDriver κ) (pad : PadRef) (flags : ℕ)
    (s : FormatState κ) : ℤ × FormatState κ :=
  unlessFailed
    (unlessFailed
      (unlessFailed
        (unlessFailed
          (onlyIf (flags &&& mediaPadFlSink ≠ 0)
            (FormatState.format driver pad) s)
          (FormatState.crop driver pad))
        (FormatState.compose driver pad))
      (onlyIf (flags &&& mediaPadFlSource ≠ 0)
        (FormatState.format driver pad)))
    (FormatState.interval driver pad)

/-- The format of a source at the other end of its links: what comes of the
format is not looked at, and its answer is dropped; the answer for the
interval goes on to the next link. -/
def setupRemotes (driver : SubdevDriver κ) (g : MediaGraph) (pad : PadRef) :
    List MediaLink → FormatState κ → Option (ℤ × FormatState κ)
  | [], s => some (0, s)
  | link :: rest, s =>
      if link.flags &&& mediaLnkFlEnabled = 0 ∨ link.source ≠ pad then
        setupRemotes driver g pad rest s
      else
        (g.entities[link.sink.entity]?).bind fun entity =>
          if entity.info.type ≠ mediaEntTV4l2Subdev then
            setupRemotes driver g pad rest s
          else
            let answer := setFormat driver link.sink s.kernel s.request.format
            let result := FormatState.interval driver link.sink
              { s with kernel := answer.2.1 }
            if result.1 < 0 ∧ result.1 ≠ -mediaEinval ∧ result.1 ≠ -enotty then
              some result
            else setupRemotes driver g pad rest result.2

/-- `v4l2_subdev_parse_setup_format` behind the parser. -/
def setupFormat (driver : SubdevDriver κ) (g : MediaGraph) (pad : PadRef)
    (s : FormatState κ) : Option (ℤ × FormatState κ) :=
  (g.pad? pad).bind fun known =>
    let result := setupPad driver pad known.flags s
    if result.1 < 0 then some result
    else if known.flags &&& mediaPadFlSource ≠ 0 then
      setupRemotes driver g pad (g.links pad.entity).values result.2
    else some (0, result.2)

/-! ## Texts -/

/-- The result with what is left of the text; no result stands for the use of
a pointer that is not valid, be it one behind the text. -/
def parseSetupFormat (driver : SubdevDriver κ) (g : MediaGraph) (k : κ)
    (text : List UInt8) : Option (ℤ × List UInt8 × κ) :=
  match parsePadFormat g text with
  | none => none
  | some .overrun => none
  | some .refused => some (-mediaEinval, text, k)
  | some (.got (pad, request) rest) =>
      (setupFormat driver g pad ⟨k, request⟩).map fun (ret, s) =>
        (ret, rest, s.kernel)

def parseSetupFormatsFrom (driver : SubdevDriver κ) (g : MediaGraph) :
    ℕ → κ → List UInt8 → Option (ℤ × κ)
  | 0, _, _ => none
  | fuel + 1, k, text =>
      (parseSetupFormat driver g k text).bind fun (ret, rest, k) =>
        if ret < 0 then some (ret, k)
        else
          match skipSpaces rest with
          | [] => some (0, k)
          | sign :: rest =>
              if sign = comma then parseSetupFormatsFrom driver g fuel k rest
              else some (-mediaEinval, k)

def v4l2SubdevParseSetupFormats (driver : SubdevDriver κ) (g : MediaGraph)
    (k : κ) (text : List UInt8) : Option (ℤ × κ) :=
  parseSetupFormatsFrom driver g (text.length + 1) k text

/-- Formats one after the other, until one fails. -/
def setupFormats (driver : SubdevDriver κ) (g : MediaGraph) :
    List (PadRef × PadFormat) → κ → Option (ℤ × κ)
  | [], k => some (0, k)
  | (pad, request) :: rest, k =>
      (setupFormat driver g pad ⟨k, request⟩).bind fun (ret, s) =>
        if ret < 0 then some (ret, s.kernel)
        else setupFormats driver g rest s.kernel

/-! ## A pipeline to try -/

/-- Every pad takes what it is given. -/
def takingDriver : SubdevDriver (PadRef → MbusFramefmt) where
  setFormat k pad format := (Function.update k pad format, .ok format)
  setSelection k _ _ rect := (k, .ok rect)
  setFrameInterval k _ interval := (k, .ok interval)

/-! ## Every text -/

section

variable {driver : SubdevDriver κ} {g : MediaGraph} {top : Topology}
  {flags : LinkEnds → ℕ}

theorem Mirrors.setupRemotes_isSome (hmirrors : Mirrors g top flags)
    (hvalid : top.Valid) {pad : PadRef} {links : List MediaLink}
    (hlinks : ∀ link ∈ links, ∃ ends ∈ top.links, link = top.link flags ends)
    (s : FormatState κ) : (setupRemotes driver g pad links s).isSome := by
  induction links generalizing s with
  | nil => rfl
  | cons link links ih =>
      have hrest := fun other h => hlinks other (List.mem_cons_of_mem link h)
      obtain ⟨ends, hends, rfl⟩ := hlinks link List.mem_cons_self
      obtain ⟨-, hsink, -⟩ := hvalid.ends ends hends
      obtain ⟨⟨known, hknown, -⟩, -⟩ := hmirrors.pad_eq hvalid hsink
      have hknown' : g.entities[(top.link flags ends).sink.entity]? =
          some known := hknown
      rw [setupRemotes]
      split
      · exact ih hrest s
      · rw [hknown', Option.bind_some]
        split
        · exact ih hrest s
        · dsimp only
          split
          · rfl
          · exact ih hrest _

theorem Mirrors.setupFormat_isSome (hmirrors : Mirrors g top flags)
    (hvalid : top.Valid) {pad : PadRef}
    (hpad : ∃ known, g.entities[pad.entity]? = some known ∧
      pad.pad < known.info.pads) (s : FormatState κ) :
    (setupFormat driver g pad s).isSome := by
  obtain ⟨known, hknown, hbound⟩ := hpad
  have hpads : known.pads.length = known.info.pads := by
    have hget := congrArg (fun list => list[pad.entity]?) hmirrors.entities
    simp only [List.getElem?_map, hknown, Option.map_some] at hget
    obtain ⟨entity, hentity, hsame⟩ := Option.map_eq_some_iff.mp hget.symm
    rw [Prod.mk.injEq] at hsame
    rw [← hsame.1, ← hsame.2, TopologyEntity.pads, List.length_map,
      List.length_range,
      (hvalid.counts entity (List.mem_of_getElem? hentity)).1]
  have hfound : ∃ found, g.pad? pad = some found := by
    rw [MediaGraph.pad?, hknown, Option.bind_some]
    exact ⟨_, List.getElem?_eq_getElem (by rw [hpads]; exact hbound)⟩
  obtain ⟨found, hfound⟩ := hfound
  have hlinks : ∀ link ∈ (g.links pad.entity).values,
      ∃ ends ∈ top.links, link = top.link flags ends := by
    intro link hlink
    rw [hmirrors.links, Topology.linksAt_eq] at hlink
    obtain ⟨ends, hends, rfl⟩ := List.mem_map.mp hlink
    exact ⟨ends, (List.mem_filter.mp hends).1, rfl⟩
  rw [setupFormat, hfound, Option.bind_some]
  dsimp only
  split
  · rfl
  · split
    · exact hmirrors.setupRemotes_isSome hvalid hlinks _
    · rfl

theorem parsePadFormat_pad {text rest : List UInt8} {pad : PadRef}
    {request : PadFormat}
    (hparse : parsePadFormat g text = some (.got (pad, request) rest)) :
    (∃ known, g.entities[pad.entity]? = some known ∧
        pad.pad < known.info.pads) ∧ rest.length < text.length := by
  unfold parsePadFormat at hparse
  have hskip := (skipSpaces_suffix text).length_le
  cases hpad : mediaParsePad g (skipSpaces text) with
  | error stop =>
      rw [hpad] at hparse
      simp at hparse
  | ok result =>
      obtain ⟨ref, left⟩ := result
      obtain ⟨hsuffix, hknown⟩ := mediaParsePad_spec hpad
      have hleft := hsuffix.length_le
      have hleft' := (skipSpaces_suffix left).length_le
      rw [hpad] at hparse
      dsimp only at hparse
      cases hopen : expect bracket (skipSpaces left) with
      | overrun =>
          rw [hopen] at hparse
          simp at hparse
      | refused =>
          rw [hopen] at hparse
          simp at hparse
      | got value body =>
          have hprogress := expect_progress bracket _ value body hopen
          rw [hopen] at hparse
          obtain ⟨scan, hscan, hends⟩ :=
            @parsePropertiesFrom_ends body _ (Nat.lt_succ_self body.length)
              true .initial
          dsimp only at hparse
          rw [parseProperties, hscan, Option.map_some,
            Option.some.injEq] at hparse
          cases scan with
          | overrun => simp [Scan.bind] at hparse
          | refused => simp [Scan.bind] at hparse
          | got format behind =>
              have hbehind := List.IsSuffix.length_le hends
              rw [Scan.got_bind] at hparse
              cases hclose : expect bracketEnd behind with
              | overrun =>
                  rw [hclose] at hparse
                  simp at hparse
              | refused =>
                  rw [hclose] at hparse
                  simp at hparse
              | got value' last =>
                  have hlast := expect_progress bracketEnd _ value' last hclose
                  rw [hclose, Scan.got_map, Scan.got.injEq,
                    Prod.mk.injEq] at hparse
                  obtain ⟨⟨rfl, -⟩, rfl⟩ := hparse
                  exact ⟨hknown, by omega⟩

/-- Whatever the text is, reading it ends and follows only valid pointers,
unless the text ends with the code of a format. -/
theorem Mirrors.parseSetupFormatsFrom (hmirrors : Mirrors g top flags)
    (hvalid : top.Valid) {fuel : ℕ} {text : List UInt8}
    (hfuel : text.length < fuel) {k : κ}
    (hnone : RkaiqToolServer.parseSetupFormatsFrom driver g fuel k text =
      none) :
    ∃ word ∈ codeWords, word <:+ text := by
  induction fuel generalizing text k with
  | zero => omega
  | succ fuel ih =>
      obtain ⟨scan, hscan, hends⟩ := parsePadFormat_ends g text
      rw [RkaiqToolServer.parseSetupFormatsFrom, parseSetupFormat,
        hscan] at hnone
      cases scan with
      | overrun => exact hends
      | refused => contradiction
      | got result rest =>
          obtain ⟨pad, request⟩ := result
          obtain ⟨hknown, hlength⟩ := parsePadFormat_pad hscan
          obtain ⟨⟨ret, s⟩, hsetup⟩ := Option.isSome_iff_exists.mp
            (@Mirrors.setupFormat_isSome κ driver g top flags hmirrors hvalid
              pad hknown ⟨k, request⟩)
          dsimp only at hnone
          rw [hsetup] at hnone
          dsimp only [Option.map_some, Option.bind_some] at hnone
          split at hnone
          case isTrue => contradiction
          case isFalse =>
            have hskip := skipSpaces_suffix rest
            split at hnone
            · contradiction
            · rename_i sign last hlast
              rw [hlast] at hskip
              split at hnone
              case isTrue =>
                have hle := hskip.length_le
                rw [List.length_cons] at hle
                obtain ⟨word, hword, hsuffix⟩ := ih (by omega) hnone
                exact ⟨word, hword,
                  ((hsuffix.trans (List.suffix_cons _ _)).trans hskip).trans
                    hends⟩
              case isFalse => contradiction

/-- A text that ends with a bracket does not end with a code. -/
theorem not_code_suffix {body : List UInt8} :
    ∀ word ∈ codeWords, ¬ word <:+ body ++ [bracketEnd] := by
  have hlast : ∀ word ∈ codeWords, word.getLast? ≠ some bracketEnd ∧
      word ≠ [] := by
    decide +kernel
  rintro word hword ⟨before, hsame⟩
  obtain ⟨hnot, hne⟩ := hlast word hword
  have hget := congrArg List.getLast? hsame
  rw [List.getLast?_append_of_ne_nil _ hne, List.getLast?_concat] at hget
  exact hnot hget

/-- Whatever the text is, setting up what it says comes to an end and follows
only valid pointers, unless the text ends with the code of a format: behind
that the parser reads on. -/
theorem v4l2SubdevParseSetupFormats_within (hmirrors : Mirrors g top flags)
    (hvalid : top.Valid) (k : κ) {text : List UInt8}
    (htext : ∀ word ∈ codeWords, ¬ word <:+ text) :
    ∃ ret k', v4l2SubdevParseSetupFormats driver g k text = some (ret, k') := by
  cases hrun : v4l2SubdevParseSetupFormats driver g k text with
  | none =>
      obtain ⟨word, hword, hsuffix⟩ :=
        hmirrors.parseSetupFormatsFrom hvalid (Nat.lt_succ_self _) hrun
      exact absurd hsuffix (htext word hword)
  | some result => exact ⟨result.1, result.2, rfl⟩

theorem v4l2SubdevParseSetupFormats_within_bracket :
    ∃ ret k', v4l2SubdevParseSetupFormats takingDriver sensorGraph
      (fun _ => blankFormat) (ascii "4:0 [fmt:SBGGR10/2688x1520, 3:0 []") =
        some (ret, k') :=
  v4l2SubdevParseSetupFormats_within sensorGraph_mirrors sensorTopology_valid
    _ (@not_code_suffix (ascii "4:0 [fmt:SBGGR10/2688x1520, 3:0 ["))

end

/-! ## Written formats -/

structure FormatText where
  pad : PadText
  properties : List (PropertyText × FormatProperty)
  before : List UInt8
  behind : List UInt8

def FormatText.text (format : FormatText) : List UInt8 :=
  format.pad.text ++ (bracket ::
    (joinProperties (format.properties.map Prod.fst) ++
      (format.before ++ bracketEnd :: format.behind)))

/-- The last of the properties of a kind counts. -/
def FormatText.request (format : FormatText) : PadFormat :=
  format.properties.foldl (fun request p => p.2.apply request) .initial

structure FormatText.Means (g : MediaGraph) (ref : PadRef)
    (format : FormatText) : Prop where
  pad : format.pad.Means g ref
  written : Written format.properties
  blank : Blank format.before ∧ Blank format.behind

def joinFormats : List FormatText → List UInt8
  | [] => []
  | [format] => format.text
  | format :: rest => format.text ++ comma :: joinFormats rest

theorem length_le_joinFormats (formats : List FormatText) :
    formats.length ≤ (joinFormats formats).length + 1 := by
  induction formats with
  | nil => simp
  | cons format formats ih =>
      cases formats with
      | nil => simp
      | cons next rest =>
          have hjoin : joinFormats (format :: next :: rest) =
            format.text ++ comma :: joinFormats (next :: rest) := rfl
          rw [hjoin]
          simp only [List.length_append, List.length_cons] at ih ⊢
          omega

section

variable {driver : SubdevDriver κ} {g : MediaGraph} {k : κ}

theorem parseSetupFormat_text {format : FormatText} {ref : PadRef}
    (hmeans : format.Means g ref) (rest : List UInt8) :
    parseSetupFormat driver g k (format.text ++ rest) =
      (setupFormat driver g ref ⟨k, format.request⟩).map fun (ret, s) =>
        (ret, format.behind ++ rest, s.kernel) := by
  have htext : format.text ++ rest =
      format.pad.text ++ (bracket ::
        (joinProperties (format.properties.map Prod.fst) ++
          (format.before ++ bracketEnd :: (format.behind ++ rest)))) := by
    simp [FormatText.text]
  have hparse := @parsePadFormat_written (format.behind ++ rest) g _ _
    hmeans.pad _ hmeans.written _ hmeans.blank.1
  rw [parseSetupFormat, htext, hparse]
  rfl

theorem parseSetupFormatsFrom_text {formats : List (FormatText × PadRef)}
    (hne : formats ≠ []) (hmeans : ∀ p ∈ formats, p.1.Means g p.2) {fuel : ℕ}
    (hfuel : formats.length ≤ fuel) :
    parseSetupFormatsFrom driver g fuel k
        (joinFormats (formats.map Prod.fst)) =
      setupFormats driver g (formats.map fun p => (p.2, p.1.request)) k := by
  induction formats generalizing k fuel with
  | nil => exact absurd rfl hne
  | cons p formats ih =>
      obtain ⟨fuel, rfl⟩ : ∃ less, fuel = less + 1 := by
        rw [List.length_cons] at hfuel
        exact ⟨fuel - 1, by omega⟩
      have hp := hmeans p List.mem_cons_self
      cases formats with
      | nil =>
          have hparse := @parseSetupFormat_text κ driver g k _ _ hp []
          have hskip : skipSpaces p.1.behind = [] := by
            have := @skipSpaces_append p.1.behind [] hp.blank.2 (stops_nil _)
            rwa [List.append_nil] at this
          have hjoin : joinFormats ([p].map Prod.fst) = p.1.text := rfl
          rw [List.append_nil, List.append_nil] at hparse
          rw [hjoin, parseSetupFormatsFrom, hparse]
          cases hsetup : setupFormat driver g p.2 ⟨k, p.1.request⟩ with
          | none => simp [setupFormats, hsetup]
          | some result =>
              simp only [List.map_cons, List.map_nil, setupFormats, hsetup,
                Option.map_some, Option.bind_some, hskip]
      | cons next rest =>
          have hjoin : joinFormats ((p :: next :: rest).map Prod.fst) =
              p.1.text ++ comma :: joinFormats ((next :: rest).map Prod.fst) :=
            rfl
          have hskip : skipSpaces (p.1.behind ++
                comma :: joinFormats ((next :: rest).map Prod.fst)) =
              comma :: joinFormats ((next :: rest).map Prod.fst) :=
            skipSpaces_append hp.blank.2 (stops_cons.mpr rfl)
          have hall : setupFormats driver g
                ((p :: next :: rest).map fun p => (p.2, p.1.request)) k =
              (setupFormat driver g p.2 ⟨k, p.1.request⟩).bind fun (ret, s) =>
                if ret < 0 then some (ret, s.kernel)
                else setupFormats driver g
                  ((next :: rest).map fun p => (p.2, p.1.request)) s.kernel :=
            rfl
          rw [hjoin, parseSetupFormatsFrom, parseSetupFormat_text hp, hall]
          cases hsetup : setupFormat driver g p.2 ⟨k, p.1.request⟩ with
          | none => rfl
          | some result =>
              dsimp only [Option.map_some, Option.bind_some]
              rw [hskip]
              dsimp only
              rw [if_pos rfl,
                ih (List.cons_ne_nil _ _)
                  (fun q h => hmeans q (List.mem_cons_of_mem _ h))
                  (by rw [List.length_cons] at hfuel; omega)]

/-- A written list of formats sets up the formats it stands for, pad by pad
and up to the first that fails. -/
theorem v4l2SubdevParseSetupFormats_joinFormats
    {formats : List (FormatText × PadRef)} (hne : formats ≠ [])
    (hmeans : ∀ p ∈ formats, p.1.Means g p.2) :
    v4l2SubdevParseSetupFormats driver g k
        (joinFormats (formats.map Prod.fst)) =
      setupFormats driver g (formats.map fun p => (p.2, p.1.request)) k := by
  apply parseSetupFormatsFrom_text hne hmeans
  have hlength := length_le_joinFormats (formats.map Prod.fst)
  rwa [List.length_map] at hlength

/-- `"m00_b_ov4689":0 [fmt:SBGGR10/2688x1520 field:None crop:(0,0)/2688x1520]`
with a second format behind it. -/
def sensorFormats : List (FormatText × PadRef) :=
  [({ pad := namedPad [] (ascii "m00_b_ov4689") 0 [32]
      properties :=
        [(⟨[], [], .fmt true (ascii "SBGGR10") 2688 1520⟩,
            .fmt 0x3007 2688 1520),
          (⟨[32], [], .word .field (ascii "None")⟩, .word .field 1),
          (⟨[32], [], .crop true ⟨0, 0, 2688, 1520⟩⟩,
            .crop ⟨0, 0, 2688, 1520⟩)]
      before := []
      behind := [] }, ⟨3, 0⟩),
    ({ pad := namedPad [32] (ascii "rockchip-csi2-dphy0") 1 [32]
       properties := [(⟨[], [], .interval 1 30⟩, .interval ⟨1, 30⟩)]
       before := [32]
       behind := [] }, ⟨2, 1⟩)]

theorem sensorFormats_means :
    ∀ p ∈ sensorFormats, p.1.Means sensorGraph p.2 := by
  have hnone : Blank [] := by decide
  have hspace : Blank [32] := by decide
  have hword : Word32 0 ∧ Word32 1 ∧ Word32 30 ∧ Word32 2688 ∧
      Word32 1520 := by decide
  obtain ⟨hzero, hone, hthirty, hwidth, hheight⟩ := hword
  intro p hp
  simp only [sensorFormats, List.mem_cons, List.not_mem_nil, or_false] at hp
  rcases hp with rfl | rfl
  · refine ⟨namedPad_means (List.all_eq_true.mp (by decide)) (by decide)
      hnone hspace (by decide +kernel), ⟨?_, ?_⟩, hnone, hnone⟩
    · intro q hq
      simp only [List.mem_cons, List.not_mem_nil, or_false] at hq
      rcases hq with rfl | rfl | rfl
      · exact ⟨hnone, hnone, .fmt (by decide +kernel) hwidth hheight⟩
      · exact ⟨hspace, hnone, .word (List.all_eq_true.mp (by decide))
          (by decide +kernel)⟩
      · exact ⟨hspace, hnone,
          @PropertyForm.Means.crop true ⟨0, 0, 2688, 1520⟩
            ⟨⟨hzero, hzero⟩, hwidth, hheight⟩⟩
    · intro q hq
      simp only [List.tail_cons, List.mem_cons, List.not_mem_nil,
        or_false] at hq
      rcases hq with rfl | rfl
      · exact ⟨List.cons_ne_nil _ _, by simp⟩
      · exact ⟨List.cons_ne_nil _ _, by simp⟩
  · refine ⟨namedPad_means (List.all_eq_true.mp (by decide)) (by decide)
      hspace hspace (by decide +kernel), ⟨?_, ?_⟩, hspace, hnone⟩
    · intro q hq
      rw [List.mem_singleton.mp hq]
      exact ⟨hnone, hnone, .interval hone hthirty⟩
    · simp

theorem v4l2SubdevParseSetupFormats_joinFormats_sensor :
    v4l2SubdevParseSetupFormats takingDriver sensorGraph
        (fun _ => blankFormat) (joinFormats (sensorFormats.map Prod.fst)) =
      setupFormats takingDriver sensorGraph
        (sensorFormats.map fun p => (p.2, p.1.request))
        fun _ => blankFormat :=
  v4l2SubdevParseSetupFormats_joinFormats (List.cons_ne_nil _ _)
    sensorFormats_means

end

/-! ## Both ends of a link -/

/-- A kernel that remembers the format of every pad.  Setting the format of a
pad may change the formats of other sources of its entity; setting an interval
changes no format.  A selection may change any. -/
structure SubdevDriver.Remembers (driver : SubdevDriver κ) (g : MediaGraph)
    (formats : κ → PadRef → MbusFramefmt) : Prop where
  refused : ∀ k pad format errno,
    (driver.setFormat k pad format).2 = .error errno → 0 < errno
  taken : ∀ k pad format new,
    (driver.setFormat k pad format).2 = .ok new →
      formats (driver.setFormat k pad format).1 pad = new
  sinks : ∀ k pad format other found, g.pad? other = some found →
    found.flags &&& mediaPadFlSource = 0 → other ≠ pad →
      formats (driver.setFormat k pad format).1 other = formats k other
  entities : ∀ k pad format other, other.entity ≠ pad.entity →
    formats (driver.setFormat k pad format).1 other = formats k other
  interval : ∀ k pad interval other,
    formats (driver.setFrameInterval k pad interval).1 other =
      formats k other

/-- A pad that only receives, and takes a format as it is. -/
structure SubdevDriver.Receives (driver : SubdevDriver κ) (g : MediaGraph)
    (pad : PadRef) (format : MbusFramefmt) : Prop where
  known : ∃ found, g.pad? pad = some found ∧
    found.flags &&& mediaPadFlSource = 0
  accepts : ∀ k, (driver.setFormat k pad format).2 = .ok format

section

variable {driver : SubdevDriver κ} {g : MediaGraph}
  {formats : κ → PadRef → MbusFramefmt}

theorem not_neg_of_unlessFailed {σ : Type*} {result : ℤ × σ} {next : σ → ℤ × σ}
    (h : ¬ (unlessFailed result next).1 < 0) :
    ¬ result.1 < 0 ∧ unlessFailed result next = next result.2 := by
  unfold unlessFailed at h ⊢
  split at h
  case isTrue hneg => exact absurd hneg h
  case isFalse hpos => exact ⟨hpos, if_neg hpos⟩

theorem interval_kept (hremembers : driver.Remembers g formats)
    (pad other : PadRef) (s : FormatState κ) :
    formats (FormatState.interval driver pad s).2.kernel other =
        formats s.kernel other ∧
      (FormatState.interval driver pad s).2.request.format =
        s.request.format := by
  refine ⟨?_, rfl⟩
  unfold FormatState.interval setFrameInterval setUnless
  dsimp only
  split
  · rfl
  · split <;> exact hremembers.interval _ _ _ _

/-- Setting the format at one sink leaves the format of a source elsewhere and
that of another sink, and a receiving sink has it afterwards. -/
theorem setFormat_kept (hremembers : driver.Remembers g formats)
    {pad sink : PadRef} {format : MbusFramefmt} (k : κ) :
    (pad.entity ≠ sink.entity →
      formats (setFormat driver sink k format).2.1 pad = formats k pad) ∧
    (driver.Receives g pad format → formats k pad = format →
      formats (setFormat driver sink k format).2.1 pad = format) ∧
    (driver.Receives g sink format → format.width ≠ 0 → format.height ≠ 0 →
      formats (setFormat driver sink k format).2.1 sink = format) := by
  have hkernel : ¬ (format.width = 0 ∨ format.height = 0) →
      (setFormat driver sink k format).2.1 =
        (driver.setFormat k sink format).1 := by
    intro hsize
    unfold setFormat setUnless
    rw [if_neg (by simpa using hsize)]
    dsimp only
    split <;> rfl
  have hskip : format.width = 0 ∨ format.height = 0 →
      (setFormat driver sink k format).2.1 = k := by
    intro hsize
    unfold setFormat setUnless
    rw [if_pos (by simpa using hsize)]
  by_cases hsize : format.width = 0 ∨ format.height = 0
  · rw [hskip hsize]
    refine ⟨fun _ => rfl, fun _ h => h, ?_⟩
    intro _ hwidth hheight
    exact absurd hsize (by simp [hwidth, hheight])
  · rw [hkernel hsize]
    refine ⟨fun h => hremembers.entities k sink format pad h, ?_, ?_⟩
    · intro hreceives hformat
      by_cases hsame : pad = sink
      · subst hsame
        exact hremembers.taken k pad format format (hreceives.accepts k)
      · obtain ⟨found, hfound, hflags⟩ := hreceives.known
        rw [hremembers.sinks k sink format pad found hfound hflags hsame]
        exact hformat
    · intro hreceives _ _
      exact hremembers.taken k sink format format (hreceives.accepts k)

theorem setupRemotes_agrees (hremembers : driver.Remembers g formats)
    {pad : PadRef} {links : List MediaLink}
    (hother : ∀ link ∈ links, link.source = pad →
      pad.entity ≠ link.sink.entity) {s t : FormatState κ}
    (hrun : setupRemotes driver g pad links s = some (0, t)) :
    formats t.kernel pad = formats s.kernel pad ∧
      (∀ sink, driver.Receives g sink s.request.format →
        formats s.kernel sink = s.request.format →
        formats t.kernel sink = s.request.format) ∧
      ∀ link ∈ links, Enabled link.flags → link.source = pad →
        (∃ entity, g.entities[link.sink.entity]? = some entity ∧
          entity.info.type = mediaEntTV4l2Subdev) →
        driver.Receives g link.sink s.request.format →
        s.request.format.width ≠ 0 → s.request.format.height ≠ 0 →
          formats t.kernel link.sink = s.request.format := by
  induction links generalizing s with
  | nil =>
      rw [setupRemotes, Option.some.injEq, Prod.mk.injEq] at hrun
      rw [← hrun.2]
      exact ⟨rfl, fun _ _ h => h, by simp⟩
  | cons link links ih =>
      have hrest := fun other h => hother other (List.mem_cons_of_mem link h)
      rw [setupRemotes] at hrun
      by_cases hskip : link.flags &&& mediaLnkFlEnabled = 0 ∨ link.source ≠ pad
      · rw [if_pos hskip] at hrun
        obtain ⟨hpad, hkept, hall⟩ := ih hrest hrun
        refine ⟨hpad, hkept, ?_⟩
        intro other hmem henabled hsource
        rcases List.mem_cons.mp hmem with rfl | hmem
        · rcases hskip with h | h
          · exact absurd h henabled
          · exact absurd hsource h
        · exact hall other hmem henabled hsource
      · rw [if_neg hskip, Option.bind_eq_some_iff] at hrun
        obtain ⟨entity, hentity, hrun⟩ := hrun
        rw [not_or, not_not] at hskip
        by_cases htype : entity.info.type ≠ mediaEntTV4l2Subdev
        · rw [if_pos htype] at hrun
          obtain ⟨hpad, hkept, hall⟩ := ih hrest hrun
          refine ⟨hpad, hkept, ?_⟩
          rintro other hmem henabled hsource ⟨known, hknown, hsubdev⟩
          rcases List.mem_cons.mp hmem with rfl | hmem
          · rw [hentity, Option.some.injEq] at hknown
            rw [hknown] at htype
            exact absurd hsubdev htype
          · exact hall other hmem henabled hsource ⟨known, hknown, hsubdev⟩
        · rw [if_neg htype] at hrun
          have hkept := @setFormat_kept κ driver g formats hremembers
          have hinterval := fun other => interval_kept hremembers link.sink
            other { s with kernel :=
              (setFormat driver link.sink s.kernel s.request.format).2.1 }
          dsimp only at hrun hinterval
          generalize FormatState.interval driver link.sink
            { s with kernel := (setFormat driver link.sink s.kernel
              s.request.format).2.1 } = result at hrun hinterval
          split at hrun
          case isTrue hfailed =>
            rw [Option.some.injEq] at hrun
            rw [hrun] at hfailed
            exact absurd hfailed.1 (lt_irrefl _)
          case isFalse =>
            obtain ⟨hpad, hsinks, hall⟩ := ih hrest hrun
            have hformat := (hinterval pad).2
            rw [hformat] at hsinks hall
            refine ⟨?_, ?_, ?_⟩
            · rw [hpad, (hinterval pad).1]
              exact (hkept s.kernel).1
                (hother link List.mem_cons_self hskip.2)
            · intro sink hreceives hsame
              apply hsinks sink hreceives
              rw [(hinterval sink).1]
              exact (hkept s.kernel).2.1 hreceives hsame
            · intro other hmem henabled hsource hsubdev hreceives hwidth
                hheight
              rcases List.mem_cons.mp hmem with rfl | hmem
              · apply hsinks other.sink hreceives
                rw [(hinterval other.sink).1]
                exact (@hkept pad other.sink _ s.kernel).2.2 hreceives hwidth
                  hheight
              · exact hall other hmem henabled hsource hsubdev hreceives
                  hwidth hheight

theorem format_taken (hremembers : driver.Remembers g formats) {pad : PadRef}
    {s : FormatState κ}
    (hsize : s.request.format.width ≠ 0 ∧ s.request.format.height ≠ 0)
    (hrun : ¬ (FormatState.format driver pad s).1 < 0) :
    formats (FormatState.format driver pad s).2.kernel pad =
      (FormatState.format driver pad s).2.request.format := by
  have hskip : ¬ (decide (s.request.format.width = 0 ∨
      s.request.format.height = 0)) = true := by
    simp [hsize.1, hsize.2]
  unfold FormatState.format setFormat setUnless at hrun ⊢
  rw [if_neg hskip] at hrun ⊢
  cases hanswer :
      (driver.setFormat s.kernel pad s.request.format).2 with
  | error errno =>
      have hpos := hremembers.refused _ _ _ _ hanswer
      simp only [hanswer] at hrun
      omega
  | ok new => exact hremembers.taken _ _ _ _ hanswer

/-- A source that has been set up has the format that goes on to the sinks. -/
theorem setupPad_format (hremembers : driver.Remembers g formats)
    {pad : PadRef} {flags : ℕ} (hsource : flags &&& mediaPadFlSource ≠ 0 ∧
      flags &&& mediaPadFlSink = 0)
    {s : FormatState κ}
    (hsize : s.request.format.width ≠ 0 ∧ s.request.format.height ≠ 0)
    (hrun : ¬ (setupPad driver pad flags s).1 < 0) :
    formats (setupPad driver pad flags s).2.kernel pad =
      (setupPad driver pad flags s).2.request.format := by
  have hon : onlyIf (flags &&& mediaPadFlSource ≠ 0)
      (FormatState.format driver pad) = FormatState.format driver pad :=
    funext fun _ => if_pos hsource.1
  have hoff : onlyIf (flags &&& mediaPadFlSink ≠ 0)
      (FormatState.format driver pad) s = (0, s) :=
    if_neg (not_not.mpr hsource.2)
  unfold setupPad at hrun ⊢
  rw [hon, hoff] at hrun ⊢
  obtain ⟨hformat, hinterval⟩ := not_neg_of_unlessFailed hrun
  obtain ⟨hcompose, hlast⟩ := not_neg_of_unlessFailed hformat
  obtain ⟨hcrop, hcompose'⟩ := not_neg_of_unlessFailed hcompose
  have hcrop' := (not_neg_of_unlessFailed hcrop).2
  rw [hlast, hcompose', hcrop'] at hformat
  rw [hinterval, (interval_kept hremembers pad pad _).1,
    (interval_kept hremembers pad pad _).2, hlast, hcompose', hcrop']
  exact format_taken hremembers hsize hformat

/-- After a successful setup of a source, a subdevice at the other end of an
enabled link that takes the format of the source has it: both ends agree. -/
theorem setupFormat_agrees {top : Topology} {flags : LinkEnds → ℕ}
    (hmirrors : Mirrors g top flags) (hvalid : top.Valid)
    (hremembers : driver.Remembers g formats) {pad : PadRef}
    {known : MediaPad} (hknown : g.pad? pad = some known)
    (hsource : known.flags &&& mediaPadFlSource ≠ 0 ∧
      known.flags &&& mediaPadFlSink = 0)
    {s t : FormatState κ}
    (hsize : s.request.format.width ≠ 0 ∧ s.request.format.height ≠ 0)
    (hrun : setupFormat driver g pad s = some (0, t)) :
    ∀ link ∈ (g.links pad.entity).values, Enabled link.flags →
      link.source = pad →
      (∃ entity, g.entities[link.sink.entity]? = some entity ∧
        entity.info.type = mediaEntTV4l2Subdev) →
      driver.Receives g link.sink (formats t.kernel pad) →
      (formats t.kernel pad).width ≠ 0 →
      (formats t.kernel pad).height ≠ 0 →
        formats t.kernel link.sink = formats t.kernel pad := by
  have hother : ∀ link ∈ (g.links pad.entity).values, link.source = pad →
      pad.entity ≠ link.sink.entity := by
    intro link hlink hends
    rw [hmirrors.links, Topology.linksAt_eq] at hlink
    obtain ⟨ends, hmem, rfl⟩ := List.mem_map.mp hlink
    obtain ⟨hfirst, hsecond, hne⟩ :=
      hvalid.ends ends (List.mem_filter.mp hmem).1
    rw [← hends]
    exact fun h => hne (hvalid.position_injective hfirst hsecond h)
  rw [setupFormat, hknown, Option.bind_some] at hrun
  dsimp only at hrun
  split at hrun
  case isTrue hneg =>
    rw [Option.some.injEq] at hrun
    rw [hrun] at hneg
    exact absurd hneg (lt_irrefl _)
  case isFalse hpos =>
    rw [if_pos hsource.1] at hrun
    have hformat := setupPad_format hremembers hsource hsize hpos
    obtain ⟨hpad, -, hall⟩ := setupRemotes_agrees hremembers hother hrun
    intro link hlink henabled hends hsubdev hreceives hwidth hheight
    rw [hpad, hformat] at hreceives hwidth hheight ⊢
    exact hall link hlink henabled hends hsubdev hreceives hwidth hheight

theorem takingDriver_remembers (g : MediaGraph) :
    takingDriver.Remembers g id where
  refused k pad format errno h := by
    unfold takingDriver at h
    contradiction
  taken k pad format new h := by
    unfold takingDriver at h ⊢
    rw [Except.ok.injEq] at h
    rw [← h]
    exact Function.update_self _ _ _
  sinks k pad format other found _ _ hne := Function.update_of_ne hne _ _
  entities k pad format other hne :=
    Function.update_of_ne (fun h => hne (congrArg PadRef.entity h)) _ _
  interval _ _ _ _ := rfl

theorem setupFormat_agrees_sensor :
    ∃ t, setupFormat takingDriver sensorGraph ⟨3, 0⟩
          ⟨fun _ => blankFormat,
            (FormatProperty.fmt 0x3007 2688 1520).apply .initial⟩ =
        some (0, t) ∧
      t.kernel ⟨2, 0⟩ = t.kernel ⟨3, 0⟩ := by
  have hresult : (setupFormat takingDriver sensorGraph ⟨3, 0⟩
        ⟨fun _ => blankFormat,
          (FormatProperty.fmt 0x3007 2688 1520).apply .initial⟩).map
      (fun result => (result.1, result.2.kernel ⟨3, 0⟩)) =
        some (0, { blankFormat with
          width := 2688, height := 1520, code := 0x3007 }) := by
    decide +kernel
  rw [Option.map_eq_some_iff] at hresult
  obtain ⟨⟨ret, t⟩, hrun, hsame⟩ := hresult
  rw [Prod.mk.injEq] at hsame
  obtain ⟨rfl, hformat⟩ := hsame
  dsimp only at hformat
  have hknown : sensorGraph.pad? ⟨3, 0⟩ = some ⟨0, 2⟩ := by decide +kernel
  have hlink : (⟨⟨3, 0⟩, ⟨2, 0⟩, 1⟩ : MediaLink) ∈
      (sensorGraph.links 3).values := by decide +kernel
  have hsubdev : ∃ entity, sensorGraph.entities[2]? = some entity ∧
      entity.info.type = mediaEntTV4l2Subdev := by
    have htype : (sensorGraph.entities[2]?).map (fun entity =>
        entity.info.type) = some mediaEntTV4l2Subdev := by decide +kernel
    rw [Option.map_eq_some_iff] at htype
    exact htype
  have hreceives : takingDriver.Receives sensorGraph ⟨2, 0⟩
      (t.kernel ⟨3, 0⟩) :=
    ⟨⟨⟨0, 1⟩, by decide +kernel, by decide⟩, fun _ => rfl⟩
  exact ⟨t, hrun,
    setupFormat_agrees sensorGraph_mirrors sensorTopology_valid
      (takingDriver_remembers _) hknown (by decide) (by decide) hrun _ hlink
      (by decide) rfl hsubdev hreceives (by rw [id_eq, hformat]; decide)
      (by rw [id_eq, hformat]; decide)⟩

end

/-! ## The format for an ISP -/

/-- What `LinkToIsp` writes into `set_fmt`: the name of the entity, and the
size that the pad has, written as two `int`s. -/
def ispFormatText (name : List UInt8) (pad width height : ℕ) : List UInt8 :=
  ascii "\"" ++ name ++ ascii "\":" ++ ascii (toString pad) ++
    ascii " [fmt:" ++ ascii "YUYV8_2X8" ++ ascii "/" ++
    ascii (toString (signed 32 width)) ++ ascii "x" ++
    ascii (toString (signed 32 height)) ++ ascii " field:" ++ ascii "none" ++
    ascii "]"

def ispProperties (width height : ℕ) : List (PropertyText × FormatProperty) :=
  [(⟨[], [], .fmt true (ascii "YUYV8_2X8") (signed 32 width)
      (signed 32 height)⟩, .fmt 0x2008 width height),
    (⟨[32], [], .word .field (ascii "none")⟩, .word .field 1)]

theorem signed_word32 {value : ℕ} (hvalue : value < 2 ^ 32) :
    Word32 (signed 32 value) ∧ word32 (signed 32 value) = value := by
  rw [signed, Word32, word32]
  norm_num at hvalue ⊢
  split <;> omega

theorem length_signed_le {value : ℕ} (hvalue : value < 2 ^ 32) :
    (ascii (toString (signed 32 value))).length ≤ 11 := by
  obtain ⟨hlow, hhigh⟩ := (signed_word32 hvalue).1
  cases hsigned : signed 32 value with
  | ofNat number =>
      have hsmall : number < 10 ^ 11 := by
        rw [hsigned] at hhigh
        have : ((number : ℕ) : ℤ) < 2 ^ 32 := hhigh
        omega
      exact length_decimal_le (by omega) hsmall
  | negSucc number =>
      have hsmall : number + 1 < 10 ^ 10 := by
        rw [hsigned] at hlow
        omega
      have hlength := length_decimal_le (by omega) hsmall
      rw [ascii_negSucc, List.length_cons]
      omega

theorem ispProperties_written {width height : ℕ} (hwidth : width < 2 ^ 32)
    (hheight : height < 2 ^ 32) : Written (ispProperties width height) := by
  obtain ⟨hwidth, hwidth'⟩ := signed_word32 hwidth
  obtain ⟨hheight, hheight'⟩ := signed_word32 hheight
  have hcode : stringToPixelcode (ascii "YUYV8_2X8") = some 0x2008 := by
    decide +kernel
  have hnone : Blank [] := by decide
  have hsize := @PropertyForm.Means.fmt true _ _ _ _ hcode hwidth hheight
  rw [hwidth', hheight'] at hsize
  constructor
  · intro p hp
    rcases List.mem_cons.mp hp with rfl | hp
    · exact ⟨hnone, hnone, hsize⟩
    · rw [List.mem_singleton.mp hp]
      have hspace : Blank [32] := by decide
      exact ⟨hspace, hnone, .word (List.all_eq_true.mp (by decide))
          (by decide +kernel)⟩
  · intro p hp
    rw [ispProperties, List.tail_cons] at hp
    rw [List.mem_singleton.mp hp]
    exact ⟨List.cons_ne_nil _ _, by simp⟩

/-- The text for an ISP fits its buffer and is read back as the size that was
written, whatever the 32 bits of its numbers are. -/
theorem ispFormatText_read {g : MediaGraph} {name : List UInt8}
    (hname : ∀ byte ∈ name, notQuote byte = true) (hlength : name.length ≤ 31)
    {pad : ℕ} (hpad : pad < 2 ^ 31) {ref : PadRef}
    (hfound : g.padNamed? name pad = some ref) {width height : ℕ}
    (hwidth : width < 2 ^ 32) (hheight : height < 2 ^ 32) :
    (ispFormatText name pad width height).length < 128 ∧
      parsePadFormat g (ispFormatText name pad width height) =
        some (.got (ref,
          { PadFormat.initial with
            format :=
              { blankFormat with width, height, code := 0x2008, field := 1 } })
          []) := by
  have hquote : ascii "\"" = [quote] := rfl
  have hcolon : ascii "\":" = [quote, colon] := rfl
  have hopen : ascii " [fmt:" = [32, bracket] ++ ascii "fmt:" := rfl
  have hslash : ascii "/" = [slash] := rfl
  have hletter : ascii "x" = [letterX] := rfl
  have hfield : ascii " field:" = 32 :: ascii "field:" := rfl
  have hclose : ascii "]" = [bracketEnd] := rfl
  constructor
  · have hwidth' := length_signed_le hwidth
    have hheight' := length_signed_le hheight
    have hpad' : (ascii (toString pad)).length ≤ 10 :=
      length_decimal_le (by omega) (by omega)
    have hwords : (ascii " [fmt:").length = 6 ∧
        (ascii "YUYV8_2X8").length = 9 ∧ (ascii " field:").length = 7 ∧
        (ascii "none").length = 4 := by decide
    obtain ⟨hfmt, hcode, hword, hnone⟩ := hwords
    simp only [ispFormatText, hquote, hcolon, hslash, hletter, hclose,
      List.length_append, List.length_cons, List.length_nil, hfmt, hcode,
      hword, hnone]
    omega
  · have hblank : Blank [32] := by decide
    have hempty : Blank [] := by decide
    have hmeans : (namedPad [] name pad [32]).Means g ref :=
      namedPad_means hname (by omega) hempty hblank hfound
    have htext : ispFormatText name pad width height =
        (namedPad [] name pad [32]).text ++ (bracket ::
          (joinProperties ((ispProperties width height).map Prod.fst) ++
            ([] ++ [bracketEnd]))) := by
      simp [ispFormatText, PadText.text, EntityText.text, namedPad,
        joinProperties, PropertyText.text, ispProperties, PropertyForm.label,
        PropertyForm.body, FormatWord.label, hquote, hcolon, hopen, hslash,
        hletter, hfield, hclose]
    rw [htext, parsePadFormat_written hmeans
      (ispProperties_written hwidth hheight) hempty]
    rfl

theorem ispFormatText_read_sensor :
    (ispFormatText (ascii "rkisp-isp-subdev") 0 2688 (2 ^ 32 - 1)).length <
        128 ∧
      parsePadFormat sensorGraph
          (ispFormatText (ascii "rkisp-isp-subdev") 0 2688 (2 ^ 32 - 1)) =
        some (.got (⟨0, 0⟩,
          { PadFormat.initial with
            format :=
              { blankFormat with
                width := 2688
                height := 2 ^ 32 - 1
                code := 0x2008
                field := 1 } }) []) :=
  ispFormatText_read (List.all_eq_true.mp (by decide)) (by decide)
    (by decide) (by decide +kernel) (by decide) (by decide)

end RkaiqToolServer
