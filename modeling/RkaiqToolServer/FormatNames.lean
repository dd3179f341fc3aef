import RkaiqToolServer.Scanner

/-!
# Names of formats

The tables by which a format on a media bus is written and read: the codes of
the pixels, and the words for its other properties, whose case does not count.
-/

namespace RkaiqToolServer

open TextScan ByteCodec

/-- `mbus_formats`; for some codes there is a second name. -/
def mbusFormats : NameTable :=
  [("RGB444_1X12", 0x1016), ("RGB444_2X8_PADHI_BE", 0x1001),
    ("RGB444_2X8_PADHI_LE", 0x1002), ("RGB555_2X8_PADHI_BE", 0x1003),
    ("RGB555_2X8_PADHI_LE", 0x1004), ("RGB565_1X16", 0x1017),
    ("BGR565_2X8_BE", 0x1005), ("BGR565_2X8_LE", 0x1006),
    ("RGB565_2X8_BE", 0x1007), ("RGB565_2X8_LE", 0x1008),
    ("RGB666_1X18", 0x1009), ("RBG888_1X24", 0x100e),
    ("RGB666_1X24_CPADHI", 0x1015), ("RGB666_1X7X3_SPWG", 0x1010),
    ("BGR888_1X24", 0x1013), ("GBR888_1X24", 0x1014), ("RGB888_1X24", 0x100a),
    ("RGB888_2X12_BE", 0x100b), ("RGB888_2X12_LE", 0x100c),
    ("RGB888_1X7X4_SPWG", 0x1011), ("RGB888_1X7X4_JEIDA", 0x1012),
    ("ARGB8888_1X32", 0x100d), ("RGB888_1X32_PADHI", 0x100f),
    ("RGB101010_1X30", 0x1018), ("RGB121212_1X36", 0x1019),
    ("RGB161616_1X48", 0x101a), ("Y8_1X8", 0x2001), ("UV8_1X8", 0x2015),
    ("UYVY8_1_5X8", 0x2002), ("VYUY8_1_5X8", 0x2003), ("YUYV8_1_5X8", 0x2004),
    ("YVYU8_1_5X8", 0x2005), ("UYVY8_2X8", 0x2006), ("VYUY8_2X8", 0x2007),
    ("YUYV8_2X8", 0x2008), ("YVYU8_2X8", 0x2009), ("Y10_1X10", 0x200a),
    ("Y10_2X8_PADHI_LE", 0x202c), ("UYVY10_2X10", 0x2018),
    ("VYUY10_2X10", 0x2019), ("YUYV10_2X10", 0x200b), ("YVYU10_2X10", 0x200c),
    ("Y12_1X12", 0x2013), ("UYVY12_2X12", 0x201c), ("VYUY12_2X12", 0x201d),
    ("YUYV12_2X12", 0x201e), ("YVYU12_2X12", 0x201f), ("UYVY8_1X16", 0x200f),
    ("VYUY8_1X16", 0x2010), ("YUYV8_1X16", 0x2011), ("YVYU8_1X16", 0x2012),
    ("YDYUYDYV8_1X16", 0x2014), ("UYVY10_1X20", 0x201a),
    ("VYUY10_1X20", 0x201b), ("YUYV10_1X20", 0x200d), ("YVYU10_1X20", 0x200e),
    ("VUY8_1X24", 0x2024), ("YUV8_1X24", 0x2025), ("UYYVYY8_0_5X24", 0x2026),
    ("UYVY12_1X24", 0x2020), ("VYUY12_1X24", 0x2021), ("YUYV12_1X24", 0x2022),
    ("YVYU12_1X24", 0x2023), ("YUV10_1X30", 0x2016),
    ("UYYVYY10_0_5X30", 0x2027), ("AYUV8_1X32", 0x2017),
    ("UYYVYY12_0_5X36", 0x2028), ("YUV12_1X36", 0x2029),
    ("YUV16_1X48", 0x202a), ("UYYVYY16_0_5X48", 0x202b),
    ("SBGGR8_1X8", 0x3001), ("SGBRG8_1X8", 0x3013), ("SGRBG8_1X8", 0x3002),
    ("SRGGB8_1X8", 0x3014), ("SBGGR10_ALAW8_1X8", 0x3015),
    ("SGBRG10_ALAW8_1X8", 0x3016), ("SGRBG10_ALAW8_1X8", 0x3017),
    ("SRGGB10_ALAW8_1X8", 0x3018), ("SBGGR10_DPCM8_1X8", 0x300b),
    ("SGBRG10_DPCM8_1X8", 0x300c), ("SGRBG10_DPCM8_1X8", 0x3009),
    ("SRGGB10_DPCM8_1X8", 0x300d), ("SBGGR10_2X8_PADHI_BE", 0x3003),
    ("SBGGR10_2X8_PADHI_LE", 0x3004), ("SBGGR10_2X8_PADLO_BE", 0x3005),
    ("SBGGR10_2X8_PADLO_LE", 0x3006), ("SBGGR10_1X10", 0x3007),
    ("SGBRG10_1X10", 0x300e), ("SGRBG10_1X10", 0x300a),
    ("SRGGB10_1X10", 0x300f), ("SBGGR12_1X12", 0x3008),
    ("SGBRG12_1X12", 0x3010), ("SGRBG12_1X12", 0x3011),
    ("SRGGB12_1X12", 0x3012), ("SBGGR14_1X14", 0x3019),
    ("SGBRG14_1X14", 0x301a), ("SGRBG14_1X14", 0x301b),
    ("SRGGB14_1X14", 0x301c), ("SBGGR16_1X16", 0x301d),
    ("SGBRG16_1X16", 0x301e), ("SGRBG16_1X16", 0x301f),
    ("SRGGB16_1X16", 0x3020), ("JPEG_1X8", 0x4001),
    ("S5C_UYVY_JPEG_1X8", 0x5001), ("AHSV8888_1X32", 0x6001), ("Y8", 0x2001),
    ("Y10", 0x200a), ("Y12", 0x2013), ("YUYV", 0x2011), ("YUYV1_5X8", 0x2004),
    ("YUYV2X8", 0x2008), ("UYVY", 0x200f), ("UYVY1_5X8", 0x2002),
    ("UYVY2X8", 0x2006), ("VUY24", 0x2024), ("SBGGR8", 0x3001),
    ("SGBRG8", 0x3013), ("SGRBG8", 0x3002), ("SRGGB8", 0x3014),
    ("SBGGR10", 0x3007), ("SGBRG10", 0x300e), ("SGRBG10", 0x300a),
    ("SRGGB10", 0x300f), ("SBGGR10_DPCM8", 0x300b), ("SGBRG10_DPCM8", 0x300c),
    ("SGRBG10_DPCM8", 0x3009), ("SRGGB10_DPCM8", 0x300d), ("SBGGR12", 0x3008),
    ("SGBRG12", 0x3010), ("SGRBG12", 0x3011), ("SRGGB12", 0x3012),
    ("AYUV32", 0x2017), ("RBG24", 0x100e), ("RGB32", 0x100f),
    ("ARGB32", 0x100d)]

def fields : NameTable :=
  [("any", 0), ("none", 1), ("top", 2), ("bottom", 3), ("interlaced", 4),
    ("seq-tb", 5), ("seq-bt", 6), ("alternate", 7), ("interlaced-tb", 8),
    ("interlaced-bt", 9)]

def colorspaces : NameTable :=
  [("default", 0), ("smpte170m", 1), ("smpte240m", 2), ("rec709", 3),
    ("470m", 5), ("470bg", 6), ("jpeg", 7), ("srgb", 8), ("oprgb", 9),
    ("bt2020", 10), ("dcip3", 12)]

def xferFuncs : NameTable :=
  [("default", 0), ("709", 1), ("srgb", 2), ("oprgb", 3), ("smpte240m", 4),
    ("smpte2084", 7), ("dcip3", 6), ("none", 5)]

def ycbcrEncs : NameTable :=
  [("default", 0), ("601", 1), ("709", 2), ("xv601", 3), ("xv709", 4),
    ("bt2020", 6), ("bt2020c", 7), ("smpte240m", 8)]

def quantizations : NameTable :=
  [("default", 0), ("full-range", 1), ("lim-range", 2)]

/-! ## Words -/

/-- A property that is written as a word behind a label. -/
inductive FormatWord
  | field
  | colorspace
  | xfer
  | ycbcr
  | quantization
  deriving DecidableEq

def FormatWord.label : FormatWord → List UInt8
  | .field => ascii "field:"
  | .colorspace => ascii "colorspace:"
  | .xfer => ascii "xfer:"
  | .ycbcr => ascii "ycbcr:"
  | .quantization => ascii "quantization:"

def FormatWord.table : FormatWord → NameTable
  | .field => fields
  | .colorspace => colorspaces
  | .xfer => xferFuncs
  | .ycbcr => ycbcrEncs
  | .quantization => quantizations

/-- The bytes of such a word; there is no digit in the name of a field. -/
def FormatWord.accepts (word : FormatWord) (byte : UInt8) : Bool :=
  match word with
  | .field => isAlpha byte || byte == 45
  | _ => isAlnum byte || byte == 45

/-! ## Codes -/

def isSame (word other : List UInt8) : Bool := word == other

/-- `v4l2_subdev_string_to_pixelcode`. -/
def stringToPixelcode (word : List UInt8) : Option ℕ :=
  mbusFormats.valueOf isSame word

/-- `v4l2_subdev_pixelcode_to_string`. -/
def pixelcodeToString (code : ℕ) : String :=
  (mbusFormats.nameOf code).getD "unknown"

/-- `v4l2_subdev_string_to_field` and its likes. -/
def FormatWord.ofString (word : FormatWord) (text : List UInt8) : Option ℕ :=
  word.table.valueOf sameLetters text

/-- `v4l2_subdev_field_to_string` and its likes. -/
def FormatWord.nameOf (word : FormatWord) (value : ℕ) : String :=
  (word.table.nameOf value).getD "unknown"

theorem mbusFormats_readable : mbusFormats.Readable isSame := by
  unfold NameTable.Readable
  decide +kernel

theorem FormatWord.table_readable (word : FormatWord) :
    word.table.Readable sameLetters := by
  unfold NameTable.Readable
  cases word <;> decide +kernel

/-- Values go through their names: what is written for a value is read as that
value if it has a name, and is not read otherwise. -/
theorem formatNames_roundTrip :
    (∀ code, stringToPixelcode (ascii (pixelcodeToString code)) =
      if code ∈ mbusFormats.map Prod.snd then some code else none) ∧
    ∀ (word : FormatWord) value,
      word.ofString (ascii (word.nameOf value)) =
        if value ∈ word.table.map Prod.snd then some value else none := by
  have hcode : stringToPixelcode (ascii "unknown") = none := by
    decide +kernel
  have hword : ∀ word : FormatWord,
      word.ofString (ascii "unknown") = none := by
    intro word
    cases word <;> decide +kernel
  exact ⟨mbusFormats_readable.valueOf_getD hcode,
    fun word => word.table_readable.valueOf_getD (hword word)⟩

end RkaiqToolServer
