import RkaiqToolServer.ByteCodec
import Mathlib.Data.List.TakeWhile
import Mathlib.Tactic

/-!
# Scanning texts of bytes

A scanner reads what it looks for at the beginning of a text and leaves the
rest.  The rest is always an end of the text, so no scanner reads past the
text.  Numbers are read as `strtoul` does: behind blanks and a sign, and never
more than a limit.
-/

namespace TextScan

open ByteCodec

variable {text blank rest : List UInt8}

/-! ## Blanks -/

def isSpace (byte : UInt8) : Bool :=
  byte == 32 || (9 ≤ byte && byte ≤ 13)

def isDigit (byte : UInt8) : Bool :=
  48 ≤ byte && byte ≤ 57

def skipSpaces (text : List UInt8) : List UInt8 :=
  text.dropWhile isSpace

def Blank (text : List UInt8) : Prop :=
  ∀ byte ∈ text, isSpace byte = true

instance Blank.decidable (text : List UInt8) : Decidable (Blank text) :=
  decidable_of_iff (text.all isSpace = true) List.all_eq_true

/-- The text does not begin with a byte of the kind. -/
def Stops (kind : UInt8 → Bool) (text : List UInt8) : Prop :=
  ∀ byte ∈ text.head?, kind byte = false

instance Stops.decidable (kind : UInt8 → Bool) (text : List UInt8) :
    Decidable (Stops kind text) :=
  match text with
  | [] => .isTrue (by simp [Stops])
  | byte :: rest =>
      decidable_of_iff (kind byte = false) (by simp [Stops])

@[simp] theorem stops_nil (kind : UInt8 → Bool) : Stops kind [] := by
  simp [Stops]

@[simp] theorem stops_cons {kind : UInt8 → Bool} {byte : UInt8} :
    Stops kind (byte :: rest) ↔ kind byte = false := by
  simp [Stops]

theorem takeWhile_append_stops {kind : UInt8 → Bool} {word : List UInt8}
    (hword : ∀ byte ∈ word, kind byte = true) (hrest : Stops kind rest) :
    (word ++ rest).takeWhile kind = word := by
  rw [List.takeWhile_append_of_pos hword]
  cases rest with
  | nil => simp
  | cons byte rest =>
      rw [stops_cons] at hrest
      simp [hrest]

theorem dropWhile_append_stops {kind : UInt8 → Bool} {word : List UInt8}
    (hword : ∀ byte ∈ word, kind byte = true) (hrest : Stops kind rest) :
    (word ++ rest).dropWhile kind = rest := by
  rw [List.dropWhile_append_of_pos hword]
  cases rest with
  | nil => rfl
  | cons byte rest =>
      rw [stops_cons] at hrest
      simp [hrest]

theorem skipSpaces_append (hblank : Blank blank) (hrest : Stops isSpace rest) :
    skipSpaces (blank ++ rest) = rest :=
  dropWhile_append_stops hblank hrest

theorem skipSpaces_eq (hrest : Stops isSpace rest) : skipSpaces rest = rest :=
  @skipSpaces_append [] rest (by simp [Blank]) hrest

theorem skipSpaces_suffix (text : List UInt8) : skipSpaces text <:+ text :=
  List.dropWhile_suffix _

theorem stops_skipSpaces (text : List UInt8) :
    Stops isSpace (skipSpaces text) := by
  intro byte hbyte
  have := List.head?_dropWhile_not isSpace text
  rw [skipSpaces] at hbyte
  rw [Option.mem_def.mp hbyte] at this
  simpa using this

theorem isSpace_eq_false_of_isDigit {byte : UInt8}
    (hdigit : isDigit byte = true) : isSpace byte = false := by
  simp only [isDigit, Bool.and_eq_true, decide_eq_true_eq,
    UInt8.le_iff_toNat_le] at hdigit
  simp only [isSpace, Bool.or_eq_false_iff, Bool.and_eq_false_iff,
    beq_eq_false_iff_ne, decide_eq_false_iff_not, ne_eq,
    ← UInt8.toNat_inj, UInt8.le_iff_toNat_le]
  have h48 : (48 : UInt8).toNat = 48 := rfl
  have h32 : (32 : UInt8).toNat = 32 := rfl
  have h13 : (13 : UInt8).toNat = 13 := rfl
  omega

theorem Blank.stops_isDigit (hblank : Blank blank)
    (hrest : Stops isDigit rest) : Stops isDigit (blank ++ rest) := by
  cases blank with
  | nil => exact hrest
  | cons byte blank =>
      rw [List.cons_append, stops_cons]
      have hspace := hblank byte List.mem_cons_self
      by_contra hdigit
      rw [Bool.not_eq_false] at hdigit
      rw [isSpace_eq_false_of_isDigit hdigit] at hspace
      contradiction

/-! ## Numbers -/

def number (digits : List UInt8) : ℕ :=
  digits.foldl (fun value digit => 10 * value + (digit.toNat - 48)) 0

/-- What is behind a sign. -/
def unsigned (text : List UInt8) : List UInt8 :=
  if text.head? = some 43 ∨ text.head? = some 45 then text.tail else text

/-- The number at the beginning of the text and the rest behind it; a number
over the limit counts as the limit, a sign turns the number over. -/
def strtoul (limit : ℕ) (text : List UInt8) : ℕ × List UInt8 :=
  let start := skipSpaces text
  let digits := (unsigned start).takeWhile isDigit
  if digits = [] then (0, text)
  else
    (if limit < number digits then limit
      else if start.head? = some 45 then
        (limit + 1 - number digits) % (limit + 1)
      else number digits,
      (unsigned start).dropWhile isDigit)

theorem unsigned_suffix (text : List UInt8) : unsigned text <:+ text := by
  unfold unsigned
  split
  · exact List.tail_suffix text
  · exact List.suffix_rfl

theorem strtoul_suffix (limit : ℕ) (text : List UInt8) :
    (strtoul limit text).2 <:+ text := by
  unfold strtoul
  dsimp only
  split
  · exact List.suffix_rfl
  · exact ((List.dropWhile_suffix _).trans (unsigned_suffix _)).trans
      (skipSpaces_suffix text)

theorem ascii_toString (value : ℕ) :
    ascii (toString value) =
      (Nat.toDigits 10 value).map fun letter =>
        UInt8.ofNat letter.toNat := by
  have hlist : (toString value).toList = Nat.toDigits 10 value :=
    Nat.toList_repr
  rw [ascii, hlist]

theorem toNat_digit {letter : Char} (hletter : letter.isDigit = true) :
    (UInt8.ofNat letter.toNat).toNat = letter.toNat ∧
      48 ≤ letter.toNat ∧ letter.toNat ≤ 57 := by
  rw [Char.isDigit_iff_toNat] at hletter
  have hrange : 48 ≤ letter.toNat ∧ letter.toNat ≤ 57 := hletter
  rw [UInt8.toNat_ofNat']
  exact ⟨Nat.mod_eq_of_lt (by omega), hrange⟩

theorem isDigit_of_mem_decimal {value : ℕ} {byte : UInt8}
    (hbyte : byte ∈ ascii (toString value)) : isDigit byte = true := by
  rw [ascii_toString] at hbyte
  obtain ⟨letter, hletter, rfl⟩ := List.mem_map.mp hbyte
  obtain ⟨hsame, hlow, hhigh⟩ := toNat_digit
    (Nat.isDigit_of_mem_toDigits (by omega) le_rfl hletter)
  simp only [isDigit, Bool.and_eq_true, decide_eq_true_eq,
    UInt8.le_iff_toNat_le, hsame]
  exact ⟨hlow, hhigh⟩

theorem decimal_ne_nil (value : ℕ) : ascii (toString value) ≠ [] := by
  rw [ascii_toString, ne_eq, List.map_eq_nil_iff]
  exact Nat.toDigits_ne_nil

theorem length_decimal_le {value bound : ℕ} (hbound : 0 < bound)
    (hvalue : value < 10 ^ bound) :
    (ascii (toString value)).length ≤ bound := by
  rw [ascii_toString, List.length_map]
  exact (Nat.length_toDigits_le_iff (by omega) hbound).mpr hvalue

theorem foldl_number_map {letters : List Char}
    (hletters : ∀ letter ∈ letters, letter.isDigit = true) (init : ℕ) :
    (letters.map fun letter => UInt8.ofNat letter.toNat).foldl
        (fun value digit => 10 * value + (digit.toNat - 48)) init =
      Nat.ofDigitChars 10 letters init := by
  induction letters generalizing init with
  | nil => rfl
  | cons letter letters ih =>
      have hsame := (toNat_digit (hletters letter List.mem_cons_self)).1
      rw [List.map_cons, List.foldl_cons, Nat.ofDigitChars_cons, hsame,
        ih fun other hother => hletters other (List.mem_cons_of_mem _ hother)]
      rfl

theorem number_decimal (value : ℕ) :
    number (ascii (toString value)) = value := by
  rw [ascii_toString, number, foldl_number_map fun letter hletter =>
    Nat.isDigit_of_mem_toDigits (by omega) le_rfl hletter]
  exact Nat.ofDigitChars_toDigits (by omega) (by omega)

theorem stops_decimal {kind : UInt8 → Bool} (value : ℕ)
    (hkind : ∀ byte, isDigit byte = true → kind byte = false) :
    Stops kind (ascii (toString value) ++ rest) := by
  obtain ⟨digit, digits, hdigits⟩ :=
    List.exists_cons_of_ne_nil (decimal_ne_nil value)
  rw [hdigits, List.cons_append, stops_cons]
  apply hkind
  apply @isDigit_of_mem_decimal value
  rw [hdigits]
  exact List.mem_cons_self

theorem unsigned_decimal (value : ℕ) :
    unsigned (ascii (toString value) ++ rest) =
        ascii (toString value) ++ rest ∧
      (ascii (toString value) ++ rest).head? ≠ some 45 := by
  have hstops := @stops_decimal rest (fun byte => byte == 43 || byte == 45)
    value (by
      intro byte hdigit
      rw [Bool.or_eq_false_iff]
      constructor
      · rw [beq_eq_false_iff_ne]
        rintro rfl
        exact absurd hdigit (by decide)
      · rw [beq_eq_false_iff_ne]
        rintro rfl
        exact absurd hdigit (by decide))
  have hother : ∀ sign : UInt8, (sign == 43 || sign == 45) = true →
      (ascii (toString value) ++ rest).head? ≠ some sign := by
    intro sign hsign hhead
    have hnot : (sign == 43 || sign == 45) = false := hstops sign hhead
    rw [hsign] at hnot
    contradiction
  constructor
  · unfold unsigned
    rw [if_neg]
    rintro (hhead | hhead)
    · exact hother 43 rfl hhead
    · exact hother 45 rfl hhead
  · exact hother 45 rfl

/-- A number not over the limit is read back behind any blanks. -/
theorem strtoul_decimal {limit value : ℕ} (hvalue : value ≤ limit)
    (hblank : Blank blank) (hrest : Stops isDigit rest) :
    strtoul limit (blank ++ (ascii (toString value) ++ rest)) =
      (value, rest) := by
  have hdigits : ∀ byte ∈ ascii (toString value), isDigit byte = true :=
    fun byte => isDigit_of_mem_decimal
  have hskip : skipSpaces (blank ++ (ascii (toString value) ++ rest)) =
      ascii (toString value) ++ rest :=
    skipSpaces_append hblank
      (stops_decimal value fun byte => isSpace_eq_false_of_isDigit)
  obtain ⟨hunsigned, hsign⟩ := @unsigned_decimal rest value
  unfold strtoul
  dsimp only
  rw [hskip, hunsigned, takeWhile_append_stops hdigits hrest,
    dropWhile_append_stops hdigits hrest, if_neg (decimal_ne_nil value),
    number_decimal, if_neg (by omega), if_neg hsign]

/-- A number with a minus sign is turned over. -/
theorem strtoul_minus {limit value : ℕ} (hpos : 0 < value)
    (hvalue : value ≤ limit) (hrest : Stops isDigit rest) :
    strtoul limit (45 :: (ascii (toString value) ++ rest)) =
      (limit + 1 - value, rest) := by
  have hdigits : ∀ byte ∈ ascii (toString value), isDigit byte = true :=
    fun byte => isDigit_of_mem_decimal
  have hskip : skipSpaces (45 :: (ascii (toString value) ++ rest)) =
      45 :: (ascii (toString value) ++ rest) :=
    skipSpaces_eq (by rw [stops_cons]; rfl)
  have hunsigned : unsigned (45 :: (ascii (toString value) ++ rest)) =
      ascii (toString value) ++ rest := by
    rw [unsigned, if_pos (.inr rfl)]
    rfl
  unfold strtoul
  dsimp only
  rw [hskip, hunsigned, takeWhile_append_stops hdigits hrest,
    dropWhile_append_stops hdigits hrest, if_neg (decimal_ne_nil value),
    number_decimal, if_neg (by omega), if_pos List.head?_cons,
    Nat.mod_eq_of_lt (by omega)]

end TextScan
