import RkaiqToolServer.MediaLinkText
import RkaiqToolServer.FormatNames

/-!
# Formats of a pad as text

`v4l2_subdev_parse_pad_format` reads a pad and, between brackets, the
properties of its format in any order.  The first property may leave out its
label.  A code of pixels at the end of the text is the only place from which
it reads on past the end.
-/

namespace RkaiqToolServer

open TextScan ByteCodec

/-- `struct v4l2_mbus_framefmt`. -/
structure MbusFramefmt where
  width : ℕ
  height : ℕ
  code : ℕ
  field : ℕ
  colorspace : ℕ
  ycbcrEnc : ℕ
  quantization : ℕ
  xferFunc : ℕ
  deriving DecidableEq

/-- `struct v4l2_rect`. -/
structure Rect where
  left : ℤ
  top : ℤ
  width : ℕ
  height : ℕ
  deriving DecidableEq

/-- `struct v4l2_fract`. -/
structure Fract where
  numerator : ℕ
  denominator : ℕ
  deriving DecidableEq

/-- What `v4l2_subdev_parse_setup_format` has read. -/
structure PadFormat where
  format : MbusFramefmt
  crop : Rect
  compose : Rect
  interval : Fract
  deriving DecidableEq

def blankFormat : MbusFramefmt := ⟨0, 0, 0, 0, 0, 0, 0, 0⟩

/-- The values before anything has been read: `-1` in every field of a
rectangle. -/
def noRect : Rect := ⟨-1, -1, 2 ^ 32 - 1, 2 ^ 32 - 1⟩

def PadFormat.initial : PadFormat := ⟨blankFormat, noRect, noRect, ⟨0, 0⟩⟩

/-! ## Properties -/

inductive FormatProperty
  | fmt (code width height : ℕ)
  | word (kind : FormatWord) (value : ℕ)
  | crop (rect : Rect)
  | compose (rect : Rect)
  | interval (fract : Fract)
  deriving DecidableEq

def MbusFramefmt.setWord (format : MbusFramefmt) (value : ℕ) :
    FormatWord → MbusFramefmt
  | .field => { format with field := value }
  | .colorspace => { format with colorspace := value }
  | .xfer => { format with xferFunc := value }
  | .ycbcr => { format with ycbcrEnc := value }
  | .quantization => { format with quantization := value }

/-- A size with its code takes the place of the whole format. -/
def FormatProperty.apply (format : PadFormat) : FormatProperty → PadFormat
  | .fmt code width height =>
      { format with format := { blankFormat with width, height, code } }
  | .word kind value =>
      { format with format := format.format.setWord value kind }
  | .crop rect => { format with crop := rect }
  | .compose rect => { format with compose := rect }
  | .interval fract => { format with interval := fract }

/-! ## Reading a property -/

def uint (text : List UInt8) : Scan ℕ :=
  .got (strtouint text).1 (strtouint text).2

def slash : UInt8 := 47
def letterX : UInt8 := 120
def paren : UInt8 := 40
def parenEnd : UInt8 := 41
def at' : UInt8 := 64

/-- A code of pixels ends with a slash or, as of old, with a space. -/
def inCode (byte : UInt8) : Bool := !(byte == slash || byte == 32)

/-- `v4l2_subdev_parse_format`; it goes on behind the byte at which the code
has ended, be it the end of the text. -/
def parseFormat (text : List UInt8) : Scan FormatProperty :=
  let start := skipSpaces text
  match stringToPixelcode (start.takeWhile inCode) with
  | none => .refused
  | some code =>
      match start.dropWhile inCode with
      | [] => .overrun
      | _ :: rest =>
          (uint rest).bind fun width rest =>
            (expect letterX rest).bind fun _ rest =>
              (uint rest).map fun height => .fmt code width height

def parseRectangle (text : List UInt8) : Scan Rect :=
  (expect paren text).bind fun _ rest =>
    (uint rest).bind fun left rest =>
      (expect comma rest).bind fun _ rest =>
        (uint rest).bind fun top rest =>
          (expect parenEnd rest).bind fun _ rest =>
            (expect slash rest).bind fun _ rest =>
              (uint rest).bind fun width rest =>
                (expect letterX rest).bind fun _ rest =>
                  (uint rest).map fun height =>
                    ⟨signed 32 left, signed 32 top, width, height⟩

def parseFrameInterval (text : List UInt8) : Scan Fract :=
  (uint (skipSpaces text)).bind fun numerator rest =>
    (expect slash (skipSpaces rest)).bind fun _ rest =>
      (uint (skipSpaces rest)).map fun denominator =>
        ⟨numerator, denominator⟩

def strhazit (word text : List UInt8) : Option (List UInt8) :=
  if word.isPrefixOf text then some (skipSpaces (text.drop word.length))
  else none

def FormatWord.parse (kind : FormatWord) (text : List UInt8) :
    Scan FormatProperty :=
  match kind.ofString (text.takeWhile kind.accepts) with
  | none => .refused
  | some value => .got (.word kind value) (text.dropWhile kind.accepts)

/-- The words in the order in which they are looked for. -/
def formatWords : List FormatWord :=
  [.field, .colorspace, .xfer, .ycbcr, .quantization]

def parseWord (text : List UInt8) : Option (Scan FormatProperty) :=
  formatWords.findSome? fun kind =>
    (strhazit kind.label text).map kind.parse

/-- A rectangle without a label is for cropping. -/
def parseCrop (text : List UInt8) : Option (Scan FormatProperty) :=
  match strhazit (ascii "crop:") text with
  | some rest => some ((parseRectangle rest).map .crop)
  | none =>
      if text.head? = some paren then
        some ((parseRectangle text).map .crop)
      else none

def parseCompose (text : List UInt8) : Option (Scan FormatProperty) :=
  (strhazit (ascii "compose:") text).map fun rest =>
    (parseRectangle rest).map .compose

def parseInterval (text : List UInt8) : Option (Scan FormatProperty) :=
  match text with
  | [] => none
  | first :: rest =>
      if first = at' then some ((parseFrameInterval rest).map .interval)
      else none

/-- A size, with its label or as the first property. -/
def parseSize (first : Bool) (text : List UInt8) :
    Option (Scan FormatProperty) :=
  match strhazit (ascii "fmt:") text with
  | some rest => some (parseFormat rest)
  | none =>
      if first && text.head?.any isUpper then some (parseFormat text)
      else none

/-- One round of the loop of `v4l2_subdev_parse_pad_format`; no result stands
for the end of the loop. -/
def parseProperty (first : Bool) (text : List UInt8) :
    Option (Scan FormatProperty) :=
  (parseSize first text).or
    ((parseWord text).or
      ((parseCrop text).or ((parseCompose text).or (parseInterval text))))

/-! ## The loop -/

def parsePropertiesFrom :
    ℕ → Bool → List UInt8 → PadFormat → Option (Scan PadFormat)
  | 0, _, _, _ => none
  | fuel + 1, first, text, format =>
      match parseProperty first (skipSpaces text) with
      | none => some (.got format (skipSpaces text))
      | some .overrun => some .overrun
      | some .refused => some .refused
      | some (.got property rest) =>
          parsePropertiesFrom fuel false rest (property.apply format)

def parseProperties (text : List UInt8) : Option (Scan PadFormat) :=
  parsePropertiesFrom (text.length + 1) true text .initial

/-- `v4l2_subdev_parse_pad_format`. -/
def parsePadFormat (g : MediaGraph) (text : List UInt8) :
    Option (Scan (PadRef × PadFormat)) :=
  match mediaParsePad g (skipSpaces text) with
  | .error _ => some .refused
  | .ok (pad, rest) =>
      match expect bracket (skipSpaces rest) with
      | .got _ rest =>
          (parseProperties rest).map fun scan =>
            scan.bind fun format rest =>
              (expect bracketEnd rest).map fun _ => (pad, format)
      | _ => some .refused

/-! ## What is left -/

/-- The codes of pixels as words. -/
def codeWords : List (List UInt8) :=
  mbusFormats.map fun entry => ascii entry.1

section

variable {text rest : List UInt8}

theorem uint_ends (text : List UInt8) : (uint text).Ends codeWords text :=
  strtouint_suffix text

theorem parseRectangle_ends (text : List UInt8) :
    (parseRectangle text).Ends codeWords text ∧
      (parseRectangle text).Progress text := by
  have hrest : ∀ (value : Unit) (rest : List UInt8),
      ((uint rest).bind fun left rest =>
        (expect comma rest).bind fun _ rest =>
          (uint rest).bind fun top rest =>
            (expect parenEnd rest).bind fun _ rest =>
              (expect slash rest).bind fun _ rest =>
                (uint rest).bind fun width rest =>
                  (expect letterX rest).bind fun _ rest =>
                    (uint rest).map fun height =>
                      (⟨signed 32 left, signed 32 top, width, height⟩ :
                        Rect)).Ends codeWords rest := by
    intro _ rest
    apply (uint_ends rest).bind
    intro left rest
    apply (expect_ends comma _ rest).bind
    intro _ rest
    apply (uint_ends rest).bind
    intro top rest
    apply (expect_ends parenEnd _ rest).bind
    intro _ rest
    apply (expect_ends slash _ rest).bind
    intro _ rest
    apply (uint_ends rest).bind
    intro width rest
    apply (expect_ends letterX _ rest).bind
    intro _ rest
    exact (uint_ends rest).map _
  exact ⟨(expect_ends paren _ text).bind hrest,
    (expect_progress paren text).bind hrest⟩

theorem parseFrameInterval_ends (text : List UInt8) :
    (parseFrameInterval text).Ends codeWords text := by
  apply ((uint_ends _).mono (skipSpaces_suffix text)).bind
  intro numerator rest
  apply ((expect_ends slash _ _).mono (skipSpaces_suffix rest)).bind
  intro _ rest
  exact ((uint_ends _).mono (skipSpaces_suffix rest)).map _

theorem mem_codeWords {word : List UInt8} {code : ℕ}
    (hcode : stringToPixelcode word = some code) : word ∈ codeWords := by
  rw [stringToPixelcode, NameTable.valueOf, Option.map_eq_some_iff] at hcode
  obtain ⟨entry, hfound, -⟩ := hcode
  have hsame := List.find?_some hfound
  rw [isSame, beq_iff_eq] at hsame
  rw [codeWords, ← hsame]
  exact List.mem_map_of_mem (List.mem_of_find?_eq_some hfound)

theorem parseFormat_ends (text : List UInt8) :
    (parseFormat text).Ends codeWords text ∧
      (parseFormat text).Progress text := by
  have hskip := skipSpaces_suffix text
  unfold parseFormat
  dsimp only
  split
  · exact ⟨trivial, fun _ _ h => by contradiction⟩
  · rename_i code hcode
    split
    · rename_i hend
      refine ⟨⟨skipSpaces text, ?_, hskip⟩, fun _ _ h => by contradiction⟩
      have hword := List.takeWhile_append_dropWhile
        (p := inCode) (l := skipSpaces text)
      rw [hend, List.append_nil] at hword
      rw [hword] at hcode
      exact mem_codeWords hcode
    · rename_i last rest hrest
      have hdrop : last :: rest <:+ skipSpaces text := by
        rw [← hrest]
        exact List.dropWhile_suffix _
      have hsuffix := ((List.suffix_cons last rest).trans hdrop).trans hskip
      have hlength := (hdrop.trans hskip).length_le
      have hends : ((uint rest).bind fun width rest =>
          (expect letterX rest).bind fun _ rest =>
            (uint rest).map fun height =>
              FormatProperty.fmt code width height).Ends codeWords rest := by
        apply (uint_ends rest).bind
        intro width rest
        apply (expect_ends letterX _ rest).bind
        intro _ rest
        exact (uint_ends rest).map _
      exact ⟨hends.mono hsuffix,
        hends.progress (by rw [List.length_cons] at hlength; omega)⟩

theorem strhazit_spec {word : List UInt8} (hword : word ≠ [])
    (hrest : strhazit word text = some rest) :
    rest <:+ text ∧ rest.length < text.length := by
  unfold strhazit at hrest
  split at hrest
  case isTrue hprefix =>
    rw [Option.some.injEq] at hrest
    subst hrest
    have hle := (List.isPrefixOf_iff_prefix.mp hprefix).length_le
    have hpos := List.length_pos_iff.mpr hword
    have hskip := (skipSpaces_suffix (text.drop word.length)).length_le
    rw [List.length_drop] at hskip
    exact ⟨(skipSpaces_suffix _).trans (List.drop_suffix _ _), by omega⟩
  case isFalse => contradiction

theorem FormatWord.parse_ends {kind : FormatWord} (text : List UInt8) :
    (kind.parse text).Ends codeWords text := by
  unfold FormatWord.parse
  split
  · trivial
  · exact List.dropWhile_suffix _

/-- A round of the loop uses up something, and leaves an end of the text. -/
theorem parseProperty_ends {first : Bool} {scan : Scan FormatProperty}
    (hscan : parseProperty first text = some scan) :
    scan.Ends codeWords text ∧ scan.Progress text := by
  have hlabelled : ∀ {word rest : List UInt8}, word ≠ [] →
      strhazit word text = some rest → ∀ {scan : Scan FormatProperty},
        scan.Ends codeWords rest →
          scan.Ends codeWords text ∧ scan.Progress text := by
    intro word rest hword hrest scan hends
    obtain ⟨hsuffix, hlength⟩ := strhazit_spec hword hrest
    exact ⟨hends.mono hsuffix, hends.progress hlength⟩
  simp only [parseProperty, Option.or_eq_some_iff] at hscan
  rcases hscan with hsize | ⟨-, hword | ⟨-, hcrop | ⟨-, hcompose |
    ⟨-, hinterval⟩⟩⟩⟩
  · unfold parseSize at hsize
    split at hsize
    · rename_i rest hrest
      rw [Option.some.injEq] at hsize
      subst hsize
      exact hlabelled (by decide) hrest (parseFormat_ends rest).1
    · split at hsize
      · rw [Option.some.injEq] at hsize
        subst hsize
        exact parseFormat_ends text
      · contradiction
  · obtain ⟨kind, -, hkind⟩ := List.exists_of_findSome?_eq_some hword
    rw [Option.map_eq_some_iff] at hkind
    obtain ⟨rest, hrest, rfl⟩ := hkind
    have hlabel : kind.label ≠ [] := by
      cases kind <;> decide
    exact hlabelled hlabel hrest (FormatWord.parse_ends rest)
  · unfold parseCrop at hcrop
    split at hcrop
    · rename_i rest hrest
      rw [Option.some.injEq] at hcrop
      subst hcrop
      exact hlabelled (by decide) hrest ((parseRectangle_ends rest).1.map _)
    · split at hcrop
      · rw [Option.some.injEq] at hcrop
        subst hcrop
        exact ⟨(parseRectangle_ends text).1.map _,
          (parseRectangle_ends text).2.map _⟩
      · contradiction
  · rw [parseCompose, Option.map_eq_some_iff] at hcompose
    obtain ⟨rest, hrest, rfl⟩ := hcompose
    exact hlabelled (by decide) hrest ((parseRectangle_ends rest).1.map _)
  · unfold parseInterval at hinterval
    split at hinterval
    · contradiction
    · rename_i sign rest
      split at hinterval
      · rw [Option.some.injEq] at hinterval
        subst hinterval
        have hends := (parseFrameInterval_ends rest).map FormatProperty.interval
        exact ⟨hends.mono (List.suffix_cons _ _),
          hends.progress (by rw [List.length_cons]; omega)⟩
      · contradiction

/-- The loop ends, for every round uses up something of the text. -/
theorem parsePropertiesFrom_ends {fuel : ℕ} (hfuel : text.length < fuel)
    (first : Bool) (format : PadFormat) :
    ∃ scan, parsePropertiesFrom fuel first text format = some scan ∧
      scan.Ends codeWords text := by
  induction fuel generalizing text first format with
  | zero => omega
  | succ fuel ih =>
      have hskip := skipSpaces_suffix text
      rw [parsePropertiesFrom]
      cases hproperty : parseProperty first (skipSpaces text) with
      | none => exact ⟨_, rfl, hskip⟩
      | some scan =>
          obtain ⟨hends, hprogress⟩ := parseProperty_ends hproperty
          cases scan with
          | overrun =>
              exact ⟨_, rfl, Scan.Ends.mono hends hskip⟩
          | refused => exact ⟨_, rfl, trivial⟩
          | got property rest =>
              have hlength := hprogress property rest rfl
              have hle := hskip.length_le
              obtain ⟨last, hlast, hrest⟩ :=
                @ih rest (by omega) false (property.apply format)
              exact ⟨last, hlast,
                hrest.mono (List.IsSuffix.trans hends hskip)⟩

theorem parsePadFormat_ends (g : MediaGraph) (text : List UInt8) :
    ∃ scan, parsePadFormat g text = some scan ∧
      scan.Ends codeWords text := by
  have hskip := skipSpaces_suffix text
  unfold parsePadFormat
  cases hpad : mediaParsePad g (skipSpaces text) with
  | error stop => exact ⟨_, rfl, trivial⟩
  | ok result =>
      obtain ⟨pad, rest⟩ := result
      have hrest := (mediaParsePad_spec hpad).1.trans hskip
      have hopen := (expect_ends bracket codeWords _).mono
        ((skipSpaces_suffix rest).trans hrest)
      dsimp only
      cases hbracket : expect bracket (skipSpaces rest) with
      | overrun => exact ⟨_, rfl, trivial⟩
      | refused => exact ⟨_, rfl, trivial⟩
      | got value body =>
          rw [hbracket] at hopen
          obtain ⟨scan, hscan, hends⟩ :=
            @parsePropertiesFrom_ends body _ (Nat.lt_succ_self body.length)
              true .initial
          dsimp only
          rw [parseProperties, hscan]
          refine ⟨_, rfl, (hends.mono hopen).bind ?_⟩
          intro format rest
          exact (expect_ends bracketEnd codeWords rest).map _

end

end RkaiqToolServer
