import RkaiqToolServer.PadFormat

/-!
# Written formats

The properties of a format written one behind the other, with blanks between
them, are read as what they stand for, in their order; later ones take the
place of earlier ones.  A number may be written with or without a sign, as
long as it fits 32 bits.
-/

namespace RkaiqToolServer

open TextScan ByteCodec

/-! ## Numbers -/

/-- A number of 32 bits, with or without a sign. -/
def Word32 (value : ℤ) : Prop := -2 ^ 31 ≤ value ∧ value < 2 ^ 32

instance Word32.decidable (value : ℤ) : Decidable (Word32 value) :=
  inferInstanceAs (Decidable (_ ∧ _))

def word32 (value : ℤ) : ℕ := (value % 2 ^ 32).toNat

section

variable {text rest blank : List UInt8}

theorem ascii_negSucc (value : ℕ) :
    ascii (toString (Int.negSucc value)) =
      45 :: ascii (toString (value + 1)) := by
  have hminus : toString (Int.negSucc value) =
    "-" ++ toString (value + 1) := rfl
  rw [hminus, ascii, String.toList_append, List.map_append]
  rfl

theorem stops_int (value : ℤ) :
    Stops isSpace (ascii (toString value) ++ rest) := by
  cases value with
  | ofNat value =>
      exact stops_decimal value fun byte => isSpace_eq_false_of_isDigit
  | negSucc value =>
      rw [ascii_negSucc, List.cons_append, stops_cons]
      rfl

theorem uint_int {value : ℤ} (hvalue : Word32 value)
    (hrest : Stops isDigit rest) :
    uint (ascii (toString value) ++ rest) = .got (word32 value) rest := by
  obtain ⟨hlow, hhigh⟩ := hvalue
  have hlimit : (2 : ℕ) ^ 32 ≤ ulongMax := by decide
  have hmodulus : ulongMax + 1 = 2 ^ 32 * 2 ^ 32 := by decide
  cases value with
  | ofNat value =>
      have hsmall : value < 2 ^ 32 := by
        have : ((value : ℕ) : ℤ) < 2 ^ 32 := hhigh
        omega
      have hread := @strtouint_decimal [] rest value hsmall (by simp [Blank])
        hrest
      have hword : word32 (Int.ofNat value) = value := by
        rw [word32, Int.ofNat_eq_natCast]
        omega
      have htext : toString (Int.ofNat value) = toString value := rfl
      rw [uint, htext, hword]
      rw [List.nil_append] at hread
      rw [hread]
  | negSucc value =>
      have hsmall : value + 1 ≤ 2 ^ 31 := by omega
      have hread := @strtoul_minus rest ulongMax (value + 1) (by omega)
        (by omega) hrest
      have hword : word32 (Int.negSucc value) = 2 ^ 32 - (value + 1) := by
        rw [word32]
        omega
      have hmod : (ulongMax + 1 - (value + 1)) % 2 ^ 32 =
          2 ^ 32 - (value + 1) := by
        rw [hmodulus]
        omega
      rw [uint, ascii_negSucc, List.cons_append, strtouint, hread, hword,
        hmod]

end

/-! ## Properties -/

/-- A rectangle as it is written. -/
structure RectText where
  left : ℤ
  top : ℤ
  width : ℤ
  height : ℤ
  deriving DecidableEq

def RectText.text (rect : RectText) : List UInt8 :=
  paren :: (ascii (toString rect.left) ++ (comma ::
    (ascii (toString rect.top) ++ (parenEnd :: slash ::
      (ascii (toString rect.width) ++ (letterX ::
        ascii (toString rect.height)))))))

structure RectText.Fits (rect : RectText) : Prop where
  place : Word32 rect.left ∧ Word32 rect.top
  size : Word32 rect.width ∧ Word32 rect.height

def RectText.rect (rect : RectText) : Rect :=
  ⟨signed 32 (word32 rect.left), signed 32 (word32 rect.top),
    word32 rect.width, word32 rect.height⟩

/-- A property as it is written; the labels of a size and of a rectangle to
crop can be left out. -/
inductive PropertyForm
  | fmt (labelled : Bool) (name : List UInt8) (width height : ℤ)
  | word (kind : FormatWord) (name : List UInt8)
  | crop (labelled : Bool) (area : RectText)
  | compose (area : RectText)
  | interval (numerator denominator : ℤ)

def PropertyForm.label : PropertyForm → List UInt8
  | .fmt labelled _ _ _ => if labelled then ascii "fmt:" else []
  | .word kind _ => kind.label
  | .crop labelled _ => if labelled then ascii "crop:" else []
  | .compose _ => ascii "compose:"
  | .interval _ _ => [at']

def PropertyForm.body : PropertyForm → List UInt8
  | .fmt _ name width height =>
      name ++ (slash :: (ascii (toString width) ++ (letterX ::
        ascii (toString height))))
  | .word _ name => name
  | .crop _ area => area.text
  | .compose area => area.text
  | .interval numerator denominator =>
      ascii (toString numerator) ++ (slash :: ascii (toString denominator))

/-- What a written property stands for. -/
inductive PropertyForm.Means : PropertyForm → FormatProperty → Prop
  | fmt {labelled : Bool} {name : List UInt8} {code : ℕ} {width height : ℤ} :
      stringToPixelcode name = some code → Word32 width → Word32 height →
      Means (.fmt labelled name width height)
        (.fmt code (word32 width) (word32 height))
  | word {kind : FormatWord} {name : List UInt8} {value : ℕ} :
      (∀ byte ∈ name, kind.accepts byte = true) →
      kind.ofString name = some value →
      Means (.word kind name) (.word kind value)
  | crop {labelled : Bool} {area : RectText} : area.Fits →
      Means (.crop labelled area) (.crop area.rect)
  | compose {area : RectText} : area.Fits →
      Means (.compose area) (.compose area.rect)
  | interval {numerator denominator : ℤ} : Word32 numerator →
      Word32 denominator →
      Means (.interval numerator denominator)
        (.interval ⟨word32 numerator, word32 denominator⟩)

/-- Behind a property there is a blank or the bracket. -/
def Behind (rest : List UInt8) : Prop :=
  ∀ byte ∈ rest.head?, isSpace byte = true ∨ byte = bracketEnd

section

variable {rest : List UInt8}

theorem Behind.stops {kind : UInt8 → Bool} (hbehind : Behind rest)
    (hspace : ∀ byte, isSpace byte = true → kind byte = false)
    (hbracket : kind bracketEnd = false) : Stops kind rest := by
  intro byte hbyte
  rcases hbehind byte hbyte with h | rfl
  · exact hspace byte h
  · exact hbracket

theorem Behind.digit (hbehind : Behind rest) : Stops isDigit rest := by
  apply hbehind.stops _ (by decide)
  intro byte hspace
  by_contra hdigit
  rw [Bool.not_eq_false] at hdigit
  rw [isSpace_eq_false_of_isDigit hdigit] at hspace
  contradiction

theorem FormatWord.accepts_space (kind : FormatWord) {byte : UInt8}
    (hspace : isSpace byte = true) : kind.accepts byte = false := by
  have halnum := isAlnum_eq_false_of_isSpace hspace
  have halpha : isAlpha byte = false := by
    rw [isAlnum, Bool.or_eq_false_iff] at halnum
    exact halnum.1
  have hdash : (byte == 45) = false := by
    rw [beq_eq_false_iff_ne]
    rintro rfl
    exact absurd hspace (by decide)
  cases kind <;> simp [FormatWord.accepts, halnum, halpha, hdash]

theorem Behind.accepts (hbehind : Behind rest) (kind : FormatWord) :
    Stops kind.accepts rest := by
  apply hbehind.stops
  · exact fun byte => kind.accepts_space
  · cases kind <;> decide

theorem parseRectangle_text {area : RectText} (hfits : area.Fits)
    (hrest : Stops isDigit rest) :
    parseRectangle (area.text ++ rest) = .got area.rect rest := by
  have htext : area.text ++ rest =
      paren :: (ascii (toString area.left) ++ (comma ::
        (ascii (toString area.top) ++ (parenEnd :: slash ::
          (ascii (toString area.width) ++ (letterX ::
            (ascii (toString area.height) ++ rest))))))) := by
    simp [RectText.text]
  rw [htext, parseRectangle, expect_cons, Scan.got_bind,
    uint_int hfits.place.1 (by rw [stops_cons]; rfl), Scan.got_bind,
    expect_cons, Scan.got_bind,
    uint_int hfits.place.2 (by rw [stops_cons]; rfl), Scan.got_bind,
    expect_cons, Scan.got_bind, expect_cons, Scan.got_bind,
    uint_int hfits.size.1 (by rw [stops_cons]; rfl), Scan.got_bind,
    expect_cons, Scan.got_bind, uint_int hfits.size.2 hrest, Scan.got_map]
  rfl

theorem codeWords_shape : ∀ word ∈ codeWords,
    (∀ byte ∈ word, inCode byte = true) ∧
      word.head?.any isUpper = true := by
  have hall : ∀ word ∈ codeWords, word.all inCode = true ∧
      word.head?.any isUpper = true := by
    decide +kernel
  exact fun word h => ⟨List.all_eq_true.mp (hall word h).1, (hall word h).2⟩

theorem RectText.stops (area : RectText) (text : List UInt8) :
    Stops isSpace (area.text ++ text) := by
  rw [RectText.text, List.cons_append, stops_cons]
  rfl

theorem code_cons {name : List UInt8} {code : ℕ}
    (hname : stringToPixelcode name = some code) :
    ∃ first rest, name = first :: rest ∧ isUpper first = true := by
  have hupper := (codeWords_shape name (mem_codeWords hname)).2
  cases name with
  | nil => contradiction
  | cons first name => exact ⟨first, name, rfl, by simpa using hupper⟩

theorem stops_code {name : List UInt8} {code : ℕ}
    (hname : stringToPixelcode name = some code) (text : List UInt8) :
    Stops isSpace (name ++ text) := by
  obtain ⟨first, name, rfl, hfirst⟩ := code_cons hname
  rw [List.cons_append, stops_cons]
  by_contra hspace
  rw [Bool.not_eq_false] at hspace
  have halnum := isAlnum_eq_false_of_isSpace hspace
  rw [isAlnum, isAlpha, hfirst] at halnum
  contradiction

theorem parseFormat_text {name : List UInt8} {code : ℕ} {width height : ℤ}
    (hname : stringToPixelcode name = some code) (hwidth : Word32 width)
    (hheight : Word32 height) (hrest : Stops isDigit rest) :
    parseFormat (name ++ (slash :: (ascii (toString width) ++ (letterX ::
        (ascii (toString height) ++ rest))))) =
      .got (.fmt code (word32 width) (word32 height)) rest := by
  have hcode := (codeWords_shape name (mem_codeWords hname)).1
  have hstop : ∀ text, Stops inCode (slash :: text) := by
    intro text
    rw [stops_cons]
    rfl
  unfold parseFormat
  dsimp only
  rw [skipSpaces_eq (stops_code hname _),
    takeWhile_append_stops hcode (hstop _),
    dropWhile_append_stops hcode (hstop _), hname]
  dsimp only
  rw [uint_int hwidth (by rw [stops_cons]; rfl), Scan.got_bind, expect_cons,
    Scan.got_bind, uint_int hheight hrest, Scan.got_map]

theorem parseFrameInterval_text {gap : List UInt8} {numerator denominator : ℤ}
    (hgap : Blank gap) (hnumerator : Word32 numerator)
    (hdenominator : Word32 denominator) (hrest : Stops isDigit rest) :
    parseFrameInterval (gap ++ (ascii (toString numerator) ++ (slash ::
        (ascii (toString denominator) ++ rest)))) =
      .got ⟨word32 numerator, word32 denominator⟩ rest := by
  have hslash : skipSpaces (slash :: (ascii (toString denominator) ++ rest)) =
      slash :: (ascii (toString denominator) ++ rest) :=
    skipSpaces_eq (by rw [stops_cons]; rfl)
  rw [parseFrameInterval, skipSpaces_append hgap (stops_int numerator),
    uint_int hnumerator (by rw [stops_cons]; rfl), Scan.got_bind, hslash,
    expect_cons, Scan.got_bind, skipSpaces_eq (stops_int denominator),
    uint_int hdenominator hrest, Scan.got_map]

/-! ## One round of the loop -/

/-- A written property with what is behind it, where the loop begins to look
at it. -/
def PropertyForm.start (form : PropertyForm) (gap rest : List UInt8) :
    List UInt8 :=
  form.label ++ (if form.label = [] then [] else gap) ++ form.body ++ rest

theorem parseWord_label (kind : FormatWord) (text : List UInt8) :
    parseWord (kind.label ++ text) = some (kind.parse (skipSpaces text)) := by
  cases kind <;> rfl

theorem parseSize_label (kind : FormatWord) (first : Bool)
    (text : List UInt8) : parseSize first (kind.label ++ text) = none := by
  cases kind <;> cases first <;> rfl

theorem strhazit_append (word text : List UInt8) :
    strhazit word (word ++ text) = some (skipSpaces text) := by
  have hprefix : word.isPrefixOf (word ++ text) = true :=
    List.isPrefixOf_iff_prefix.mpr (List.prefix_append word text)
  rw [strhazit, if_pos hprefix, List.drop_left]

theorem strhazit_upper {letter : UInt8} (hupper : isUpper letter = true)
    (text : List UInt8) : strhazit (ascii "fmt:") (letter :: text) = none := by
  have hword : ascii "fmt:" = 102 :: ascii "mt:" := rfl
  have hne : (102 == letter) = false := by
    rw [beq_eq_false_iff_ne]
    rintro rfl
    exact absurd hupper (by decide)
  rw [strhazit, hword, List.isPrefixOf_cons_cons, hne, Bool.false_and,
    if_neg Bool.false_ne_true]

/-- A property is read as what it stands for. -/
theorem parseProperty_text {form : PropertyForm} {property : FormatProperty}
    (hmeans : form.Means property) {gap : List UInt8} (hgap : Blank gap)
    {first : Bool}
    (hfirst : ∀ name width height, form = .fmt false name width height →
      first = true)
    (hbehind : Behind rest) :
    parseProperty first (form.start gap rest) = some (.got property rest) := by
  have hdigit := hbehind.digit
  cases hmeans with
  | @fmt labelled name code width height hname hwidth hheight =>
      have hread := @parseFormat_text rest name code width height hname hwidth
        hheight hdigit
      have hsize : parseSize first
          ((PropertyForm.fmt labelled name width height).start gap rest) =
            some (.got (.fmt code (word32 width) (word32 height)) rest) := by
        cases labelled with
        | true =>
            have hstart : (PropertyForm.fmt true name width height).start gap
                  rest =
                ascii "fmt:" ++ (gap ++ (name ++ (slash ::
                  (ascii (toString width) ++ (letterX ::
                    (ascii (toString height) ++ rest)))))) := by
              have hlabel : ¬ ascii "fmt:" = [] := by decide
              simp [PropertyForm.start, PropertyForm.label,
                PropertyForm.body, hlabel]
            rw [hstart, parseSize, strhazit_append,
              skipSpaces_append hgap (stops_code hname _)]
            dsimp only
            rw [hread]
        | false =>
            have hstart : (PropertyForm.fmt false name width height).start gap
                  rest =
                name ++ (slash :: (ascii (toString width) ++ (letterX ::
                  (ascii (toString height) ++ rest)))) := by
              simp [PropertyForm.start, PropertyForm.label, PropertyForm.body]
            obtain ⟨letter, letters, hletters, hupper⟩ := code_cons hname
            rw [hstart, parseSize, hfirst name width height rfl, hletters,
              List.cons_append, strhazit_upper hupper]
            dsimp only
            rw [List.head?_cons, Option.any_some, hupper,
              if_pos (Bool.and_self _), ← List.cons_append, ← hletters, hread]
      rw [parseProperty, hsize]
      rfl
  | @word kind name value haccepts hvalue =>
      have hne : name ≠ [] := by
        rintro rfl
        have hnone : kind.ofString [] = none := by
          cases kind <;> decide +kernel
        rw [hnone] at hvalue
        contradiction
      have hspace : Stops isSpace (name ++ rest) := by
        obtain ⟨letter, letters, rfl⟩ := List.exists_cons_of_ne_nil hne
        rw [List.cons_append, stops_cons]
        by_contra hspace
        rw [Bool.not_eq_false] at hspace
        have hletter := haccepts letter List.mem_cons_self
        rw [kind.accepts_space hspace] at hletter
        contradiction
      have hstart : (PropertyForm.word kind name).start gap rest =
          kind.label ++ (gap ++ (name ++ rest)) := by
        have hlabel : ¬ kind.label = [] := by cases kind <;> decide
        simp [PropertyForm.start, PropertyForm.label, PropertyForm.body,
          hlabel]
      rw [hstart, parseProperty, parseSize_label, parseWord_label,
        skipSpaces_append hgap hspace, FormatWord.parse,
        takeWhile_append_stops haccepts (hbehind.accepts kind),
        dropWhile_append_stops haccepts (hbehind.accepts kind), hvalue]
      rfl
  | @crop labelled area hfits =>
      have hread := parseRectangle_text hfits hdigit
      cases labelled with
      | true =>
          have hstart : (PropertyForm.crop true area).start gap rest =
              ascii "crop:" ++ (gap ++ (area.text ++ rest)) := by
            have hlabel : ¬ ascii "crop:" = [] := by decide
            simp [PropertyForm.start, PropertyForm.label, PropertyForm.body,
              hlabel]
          have hsize : ∀ text, parseSize first (ascii "crop:" ++ text) =
              none := by
            intro text
            cases first <;> rfl
          have hword : ∀ text, parseWord (ascii "crop:" ++ text) = none :=
            fun _ => rfl
          rw [hstart, parseProperty, hsize, hword, parseCrop, strhazit_append,
            skipSpaces_append hgap (area.stops rest)]
          dsimp only
          rw [hread]
          rfl
      | false =>
          have hstart : (PropertyForm.crop false area).start gap rest =
              area.text ++ rest := by
            simp [PropertyForm.start, PropertyForm.label, PropertyForm.body]
          have hsize : parseSize first (area.text ++ rest) = none := by
            cases first <;> rfl
          have hword : parseWord (area.text ++ rest) = none := rfl
          have hcrop : parseCrop (area.text ++ rest) =
            some ((parseRectangle (area.text ++ rest)).map
              FormatProperty.crop) := rfl
          rw [hstart, parseProperty, hsize, hword, hcrop, hread]
          rfl
  | @compose area hfits =>
      have hread := parseRectangle_text hfits hdigit
      have hstart : (PropertyForm.compose area).start gap rest =
          ascii "compose:" ++ (gap ++ (area.text ++ rest)) := by
        have hlabel : ¬ ascii "compose:" = [] := by decide
        simp [PropertyForm.start, PropertyForm.label, PropertyForm.body,
          hlabel]
      have hsize : ∀ text, parseSize first (ascii "compose:" ++ text) =
          none := by
        intro text
        cases first <;> rfl
      have hword : ∀ text, parseWord (ascii "compose:" ++ text) = none :=
        fun _ => rfl
      have hcrop : ∀ text, parseCrop (ascii "compose:" ++ text) = none :=
        fun _ => rfl
      rw [hstart, parseProperty, hsize, hword, hcrop, parseCompose,
        strhazit_append, skipSpaces_append hgap (area.stops rest),
        Option.map_some, hread]
      rfl
  | @interval numerator denominator hnumerator hdenominator =>
      have hread := parseFrameInterval_text hgap hnumerator hdenominator hdigit
      have hstart : (PropertyForm.interval numerator denominator).start gap
            rest =
          at' :: (gap ++ (ascii (toString numerator) ++ (slash ::
            (ascii (toString denominator) ++ rest)))) := by
        simp [PropertyForm.start, PropertyForm.label, PropertyForm.body]
      have hnone : ∀ text, parseSize first (at' :: text) = none ∧
          parseWord (at' :: text) = none ∧ parseCrop (at' :: text) = none ∧
          parseCompose (at' :: text) = none := by
        intro text
        cases first <;> exact ⟨rfl, rfl, rfl, rfl⟩
      obtain ⟨hsize, hword, hcrop, hcompose⟩ := hnone
        (gap ++ (ascii (toString numerator) ++ (slash ::
          (ascii (toString denominator) ++ rest))))
      rw [hstart, parseProperty, hsize, hword, hcrop, hcompose, parseInterval,
        if_pos rfl, hread]
      rfl

/-! ## The loop -/

/-- A property with the blanks before it and behind its label. -/
structure PropertyText where
  before : List UInt8
  gap : List UInt8
  form : PropertyForm

def PropertyText.text (property : PropertyText) : List UInt8 :=
  property.before ++ (property.form.label ++ (property.gap ++
    property.form.body))

structure PropertyText.Means (property : PropertyText)
    (value : FormatProperty) : Prop where
  before : Blank property.before
  gap : Blank property.gap
  form : property.form.Means value

/-- A property that does not come first has a blank before it, and its label
if it is a size. -/
structure PropertyText.Later (property : PropertyText) : Prop where
  before : property.before ≠ []
  labelled : ∀ name width height,
    property.form ≠ .fmt false name width height

theorem PropertyForm.Means.stops {form : PropertyForm}
    {property : FormatProperty} (hmeans : form.Means property)
    {gap : List UInt8} : Stops isSpace (form.start gap rest) := by
  cases hmeans with
  | @fmt labelled name code width height hname =>
      cases labelled with
      | true => exact stops_cons.mpr rfl
      | false =>
          have hstops := stops_code hname (slash :: (ascii (toString width) ++
            (letterX :: ascii (toString height)) ++ rest))
          simpa [PropertyForm.start, PropertyForm.label, PropertyForm.body]
            using hstops
  | @word kind => cases kind <;> exact stops_cons.mpr rfl
  | @crop labelled => cases labelled <;> exact stops_cons.mpr rfl
  | compose => exact stops_cons.mpr rfl
  | interval => exact stops_cons.mpr rfl

theorem PropertyText.Means.length_pos {property : PropertyText}
    {value : FormatProperty} (hmeans : property.Means value) :
    0 < property.text.length := by
  have hne : ∀ {form : PropertyForm}, form.Means value →
      form.label ++ form.body ≠ [] := by
    intro form hform
    cases hform with
    | fmt => simp [PropertyForm.body]
    | @word kind =>
        have hlabel : kind.label ≠ [] := by cases kind <;> decide
        simp [PropertyForm.label, hlabel]
    | crop => simp [PropertyForm.body, RectText.text]
    | compose => simp [PropertyForm.body, RectText.text]
    | interval => simp [PropertyForm.body]
  have hpos := List.length_pos_iff.mpr (hne hmeans.form)
  simp only [PropertyText.text, List.length_append] at hpos ⊢
  omega

theorem PropertyText.Means.skip {property : PropertyText}
    {value : FormatProperty} (hmeans : property.Means value) :
    skipSpaces (property.text ++ rest) =
      property.form.start property.gap rest := by
  have hstops := @PropertyForm.Means.stops rest _ _ hmeans.form property.gap
  by_cases hlabel : property.form.label = []
  · have htext : property.text ++ rest =
        (property.before ++ property.gap) ++
          property.form.start property.gap rest := by
      simp [PropertyText.text, PropertyForm.start, hlabel]
    rw [htext]
    apply skipSpaces_append _ hstops
    intro byte hbyte
    rcases List.mem_append.mp hbyte with hbyte | hbyte
    · exact hmeans.before byte hbyte
    · exact hmeans.gap byte hbyte
  · have htext : property.text ++ rest =
        property.before ++ property.form.start property.gap rest := by
      simp [PropertyText.text, PropertyForm.start, hlabel]
    rw [htext]
    exact skipSpaces_append hmeans.before hstops

def joinProperties (properties : List PropertyText) : List UInt8 :=
  properties.flatMap PropertyText.text

theorem behind_join {properties : List (PropertyText × FormatProperty)}
    (hmeans : ∀ p ∈ properties, p.1.Means p.2)
    (hlater : ∀ p ∈ properties, p.1.Later) (hbehind : Behind rest) :
    Behind (joinProperties (properties.map Prod.fst) ++ rest) := by
  cases properties with
  | nil => exact hbehind
  | cons p properties =>
      have hfirst := hmeans p List.mem_cons_self
      obtain ⟨byte, blank, hblank⟩ := List.exists_cons_of_ne_nil
        (hlater p List.mem_cons_self).before
      intro other hother
      have hhead : other = byte := by
        simpa [joinProperties, PropertyText.text, hblank] using hother.symm
      subst hhead
      exact .inl (hfirst.before other (by rw [hblank]; exact List.mem_cons_self))

theorem parsePropertiesFrom_join
    {properties : List (PropertyText × FormatProperty)}
    (hmeans : ∀ p ∈ properties, p.1.Means p.2)
    (hlater : ∀ p ∈ properties.tail, p.1.Later) {first : Bool}
    (hfirst : first = false → ∀ p ∈ properties, p.1.Later)
    {behind : List UInt8} (hblank : Blank behind) {fuel : ℕ}
    (hfuel : properties.length < fuel) (format : PadFormat) :
    parsePropertiesFrom fuel first
        (joinProperties (properties.map Prod.fst) ++
          (behind ++ bracketEnd :: rest)) format =
      some (.got (properties.foldl (fun format p => p.2.apply format) format)
        (bracketEnd :: rest)) := by
  induction properties generalizing first fuel format with
  | nil =>
      obtain ⟨fuel, rfl⟩ : ∃ less, fuel = less + 1 := ⟨fuel - 1, by omega⟩
      have hskip : skipSpaces (behind ++ bracketEnd :: rest) =
          bracketEnd :: rest :=
        skipSpaces_append hblank (stops_cons.mpr rfl)
      have hnone : parseProperty first (bracketEnd :: rest) = none := by
        cases first <;> rfl
      have hjoin : joinProperties (([] : List (PropertyText ×
          FormatProperty)).map Prod.fst) = [] := rfl
      rw [hjoin, List.nil_append, parsePropertiesFrom, hskip, hnone]
      rfl
  | cons p properties ih =>
      obtain ⟨fuel, rfl⟩ : ∃ less, fuel = less + 1 := ⟨fuel - 1, by omega⟩
      have hp := hmeans p List.mem_cons_self
      have hrest := fun q h => hmeans q (List.mem_cons_of_mem p h)
      have hbracket : Behind (behind ++ bracketEnd :: rest) := by
        intro byte hbyte
        cases behind with
        | nil => exact .inr (Option.some_inj.mp hbyte).symm
        | cons blank behind =>
            rw [← Option.some_inj.mp hbyte]
            exact .inl (hblank blank List.mem_cons_self)
      have hproperty := @parseProperty_text
        (joinProperties (properties.map Prod.fst) ++
          (behind ++ bracketEnd :: rest)) _ _ hp.form _ hp.gap first (by
            intro name width height hform
            cases first with
            | true => rfl
            | false =>
                exact absurd hform ((hfirst rfl p List.mem_cons_self).labelled
                  name width height))
        (behind_join hrest hlater hbracket)
      have hjoin : joinProperties ((p :: properties).map Prod.fst) ++
            (behind ++ bracketEnd :: rest) =
          p.1.text ++ (joinProperties (properties.map Prod.fst) ++
            (behind ++ bracketEnd :: rest)) := by
        simp [joinProperties]
      rw [List.length_cons] at hfuel
      rw [hjoin, parsePropertiesFrom, hp.skip, hproperty]
      exact ih hrest (fun q h => hlater q (List.mem_of_mem_tail h))
        (fun _ => hlater) (by omega) (p.2.apply format)

/-- The properties of a format, one behind the other: the first without its
label, if that can be left out, the others behind a blank. -/
structure Written (properties : List (PropertyText × FormatProperty)) :
    Prop where
  means : ∀ p ∈ properties, p.1.Means p.2
  later : ∀ p ∈ properties.tail, p.1.Later

theorem Written.length_le {properties : List (PropertyText × FormatProperty)}
    (hwritten : Written properties) :
    properties.length ≤
      (joinProperties (properties.map Prod.fst)).length := by
  have hmeans := hwritten.means
  clear hwritten
  induction properties with
  | nil => simp
  | cons p properties ih =>
      have hpos := (hmeans p List.mem_cons_self).length_pos
      have hrest := ih fun q h => hmeans q (List.mem_cons_of_mem p h)
      simp only [joinProperties, List.map_cons, List.flatMap_cons,
        List.length_append, List.length_cons] at hrest ⊢
      omega

theorem mediaParsePad_skip (g : MediaGraph) (text : List UInt8) :
    mediaParsePad g (skipSpaces text) = mediaParsePad g text := by
  rw [mediaParsePad, mediaParsePad, mediaParseEntity, mediaParseEntity,
    skipSpaces_eq (stops_skipSpaces text)]

theorem parsePadFormat_written {g : MediaGraph} {pad : PadText} {ref : PadRef}
    (hpad : pad.Means g ref)
    {properties : List (PropertyText × FormatProperty)}
    (hwritten : Written properties) {behind : List UInt8}
    (hblank : Blank behind) :
    parsePadFormat g (pad.text ++ (bracket ::
        (joinProperties (properties.map Prod.fst) ++
          (behind ++ bracketEnd :: rest)))) =
      some (.got (ref, properties.foldl (fun format p => p.2.apply format)
        .initial) rest) := by
  have hskip : ∀ text, skipSpaces (bracket :: text) = bracket :: text :=
    fun text => skipSpaces_eq (stops_cons.mpr rfl)
  have hlength := hwritten.length_le
  have hloop := @parsePropertiesFrom_join rest properties hwritten.means
    hwritten.later true (fun h => absurd h (by decide)) behind hblank
    ((joinProperties (properties.map Prod.fst) ++
      (behind ++ bracketEnd :: rest)).length + 1)
    (by rw [List.length_append]; omega) .initial
  unfold parsePadFormat
  rw [mediaParsePad_skip,
    mediaParsePad_text hpad (stops_cons.mpr rfl) (stops_cons.mpr rfl)]
  dsimp only
  rw [hskip, expect_cons]
  dsimp only
  rw [parseProperties, hloop, Option.map_some, Scan.got_bind, expect_cons,
    Scan.got_map]

end

end RkaiqToolServer
