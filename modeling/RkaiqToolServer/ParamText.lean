import Mathlib.Data.List.TakeWhile
import Mathlib.Tactic

/-!
# Texts of named values

Settings are passed on as a text of lines, each of them a name and a value
with a sign between the two.  The reader takes the text apart at the ends of
the lines and each line at its first sign; of several values of one name the
last one counts, and a name that does not occur has the empty value.  Numbers
are written in decimal.
-/

namespace ParamText

/-! ## Lines and entries -/

section

variable {α : Type*} [DecidableEq α] (newline sign : α)

/-- The lines of a text; what follows the last end of a line is a line if
there is anything. -/
def lines (text : List α) : List (List α) :=
  if (text.splitOn newline).getLast? = some [] then
    (text.splitOn newline).dropLast
  else text.splitOn newline

def readEntry (line : List α) : List α × List α :=
  (line.takeWhile (· ≠ sign), (line.dropWhile (· ≠ sign)).tail)

def writeEntry (entry : List α × List α) : List α :=
  entry.1 ++ sign :: entry.2

def writeText (entries : List (List α × List α)) : List α :=
  entries.flatMap fun entry => writeEntry sign entry ++ [newline]

def assign (entries : List (List α × List α)) : List α → List α :=
  entries.foldl (fun values entry => Function.update values entry.1 entry.2)
    fun _ => []

def readText (text : List α) : List α → List α :=
  assign ((lines newline text).map (readEntry sign))

/-- Neither the name nor the value breaks its line, and the name does not hold
the sign. -/
structure Writable (entry : List α × List α) : Prop where
  name : sign ∉ entry.1
  line : newline ∉ entry.1 ∧ newline ∉ entry.2

variable {newline sign}

@[simp] theorem lines_nil : lines newline [] = [] := by
  simp [lines]

theorem lines_append {line : List α} (hline : newline ∉ line)
    (rest : List α) :
    lines newline (line ++ newline :: rest) = line :: lines newline rest := by
  have hsplit : (line ++ newline :: rest).splitOn newline =
      line :: rest.splitOn newline :=
    List.splitOn_append_cons_self_of_not_mem hline rest
  obtain ⟨first, more, hrest⟩ :=
    List.exists_cons_of_ne_nil (List.splitOn_ne_nil newline rest)
  unfold lines
  rw [hsplit, hrest, List.getLast?_cons_cons, List.dropLast_cons_cons]
  split <;> rfl

theorem not_mem_of_mem_splitOn {text line : List α}
    (hline : line ∈ text.splitOn newline) : newline ∉ line := by
  induction text generalizing line with
  | nil =>
      rw [List.splitOn_nil, List.mem_singleton] at hline
      rw [hline]
      exact List.not_mem_nil
  | cons letter text ih =>
      rw [List.splitOn_cons_eq_if_modifyHead] at hline
      split at hline
      · rcases List.mem_cons.mp hline with rfl | hrest
        · exact List.not_mem_nil
        · exact ih hrest
      · rename_i hletter
        obtain ⟨first, more, hsplit⟩ :=
          List.exists_cons_of_ne_nil (List.splitOn_ne_nil newline text)
        rw [hsplit, List.modifyHead_cons] at hline
        rw [hsplit] at ih
        rcases List.mem_cons.mp hline with rfl | hrest
        · have hfirst := ih List.mem_cons_self
          simp only [List.mem_cons, not_or]
          exact ⟨fun heq => hletter (by simp [heq]), hfirst⟩
        · exact ih (List.mem_cons_of_mem _ hrest)

/-- No line holds the end of a line. -/
theorem not_mem_of_mem_lines {text line : List α}
    (hline : line ∈ lines newline text) : newline ∉ line := by
  unfold lines at hline
  split at hline
  · exact not_mem_of_mem_splitOn (List.mem_of_mem_dropLast hline)
  · exact not_mem_of_mem_splitOn hline

/-- Parts put together become lines again, an empty last one apart. -/
theorem lines_intercalate {parts : List (List α)} (hparts : parts ≠ [])
    (hnewline : ∀ part ∈ parts, newline ∉ part) :
    lines newline ([newline].intercalate parts) =
      if parts.getLast? = some [] then parts.dropLast else parts := by
  rw [lines, List.splitOn_intercalate newline hnewline hparts]

theorem readEntry_writeEntry {entry : List α × List α}
    (hname : sign ∉ entry.1) :
    readEntry sign (writeEntry sign entry) = entry := by
  have hall : ∀ letter ∈ entry.1, decide (letter ≠ sign) = true := by
    intro letter hletter
    rw [decide_eq_true_eq]
    rintro rfl
    exact hname hletter
  unfold readEntry writeEntry
  rw [List.takeWhile_append_of_pos hall, List.dropWhile_append_of_pos hall]
  simp

omit [DecidableEq α] in
/-- The letters of a text are those of its entries. -/
theorem not_mem_writeText {entries : List (List α × List α)} {letter : α}
    (hnewline : letter ≠ newline) (hsign : letter ≠ sign)
    (hentries : ∀ entry ∈ entries, letter ∉ entry.1 ∧ letter ∉ entry.2) :
    letter ∉ writeText newline sign entries := by
  intro hletter
  obtain ⟨entry, hentry, hmem⟩ := List.mem_flatMap.mp hletter
  obtain ⟨hname, hvalue⟩ := hentries entry hentry
  simp [writeEntry, hname, hvalue, hnewline, hsign] at hmem

theorem lines_writeText {entries : List (List α × List α)}
    (hwritable : ∀ entry ∈ entries, Writable newline sign entry)
    (hsign : newline ≠ sign) :
    lines newline (writeText newline sign entries) =
      entries.map (writeEntry sign) := by
  induction entries with
  | nil => simp [writeText]
  | cons entry entries ih =>
      have hfirst := hwritable entry List.mem_cons_self
      have hline : newline ∉ writeEntry sign entry := by
        simp [writeEntry, hfirst.line, hsign]
      have htext : writeText newline sign (entry :: entries) =
          writeEntry sign entry ++
            newline :: writeText newline sign entries := by
        simp [writeText]
      rw [htext, lines_append hline, List.map_cons,
        ih fun later hlater =>
          hwritable later (List.mem_cons_of_mem entry hlater)]

theorem readText_writeText {entries : List (List α × List α)}
    (hwritable : ∀ entry ∈ entries, Writable newline sign entry)
    (hsign : newline ≠ sign) :
    readText newline sign (writeText newline sign entries) =
      assign entries := by
  rw [readText, lines_writeText hwritable hsign, List.map_map]
  congr 1
  conv_rhs => rw [← List.map_id entries]
  apply List.map_congr_left
  intro entry hentry
  exact readEntry_writeEntry (hwritable entry hentry).name

/-! ## Values by their names -/

theorem assign_concat (entries : List (List α × List α))
    (entry : List α × List α) :
    assign (entries ++ [entry]) =
      Function.update (assign entries) entry.1 entry.2 := by
  simp [assign]

theorem assign_of_not_mem {entries : List (List α × List α)}
    {name : List α} (hname : name ∉ entries.map Prod.fst) :
    assign entries name = [] := by
  induction entries using List.reverseRecOn with
  | nil => rfl
  | append_singleton entries entry ih =>
      rw [List.map_append, List.mem_append, not_or] at hname
      have hother : name ≠ entry.1 := by
        simpa using hname.2
      rw [assign_concat, Function.update_of_ne hother]
      exact ih hname.1

theorem assign_of_mem {entries : List (List α × List α)}
    (hnames : (entries.map Prod.fst).Nodup) {entry : List α × List α}
    (hentry : entry ∈ entries) : assign entries entry.1 = entry.2 := by
  induction entries using List.reverseRecOn with
  | nil => exact absurd hentry List.not_mem_nil
  | append_singleton entries last ih =>
      rw [List.map_append, List.nodup_append] at hnames
      obtain ⟨hinit, -, hdisjoint⟩ := hnames
      rw [assign_concat]
      rcases List.mem_append.mp hentry with hmem | hlast
      · have hother : entry.1 ≠ last.1 :=
          hdisjoint entry.1 (List.mem_map_of_mem hmem) last.1 (by simp)
        rw [Function.update_of_ne hother]
        exact ih hinit hmem
      · rw [List.mem_singleton.mp hlast, Function.update_self]

end

/-! ## Numbers -/

def decimal : ℤ → List Char
  | .ofNat value => Nat.toDigits 10 value
  | .negSucc value => '-' :: Nat.toDigits 10 (value + 1)

def readDigits (text : List Char) : Option ℕ :=
  if text.takeWhile Char.isDigit = [] then none
  else some (Nat.ofDigitChars 10 (text.takeWhile Char.isDigit) 0)

def isSpace (letter : Char) : Bool :=
  letter ∈ [' ', '\t', '\n', '\x0b', '\x0c', '\r']

/-- The number at the beginning of a text, behind blanks and a sign. -/
def readDecimal (text : List Char) : Option ℤ :=
  match text.dropWhile isSpace with
  | '-' :: rest => (readDigits rest).map fun value => -(value : ℤ)
  | '+' :: rest => (readDigits rest).map Nat.cast
  | rest => (readDigits rest).map Nat.cast

theorem isDigit_of_mem_toDigits {value : ℕ} {letter : Char}
    (hletter : letter ∈ Nat.toDigits 10 value) : letter.isDigit = true :=
  Nat.isDigit_of_mem_toDigits (by omega) le_rfl hletter

theorem readDigits_toDigits (value : ℕ) :
    readDigits (Nat.toDigits 10 value) = some value := by
  have hall : (Nat.toDigits 10 value).takeWhile Char.isDigit =
      Nat.toDigits 10 value := by
    rw [List.takeWhile_eq_self_iff]
    intro letter hletter
    exact isDigit_of_mem_toDigits hletter
  rw [readDigits, hall, if_neg Nat.toDigits_ne_nil,
    Nat.ofDigitChars_ten_toDigits]

theorem isDigit_range {letter : Char} (hdigit : letter.isDigit = true) :
    48 ≤ letter.toNat ∧ letter.toNat ≤ 57 := by
  rw [Char.isDigit_iff_toNat] at hdigit
  exact hdigit

theorem readDecimal_digits {text : List Char}
    (hdigits : ∀ letter ∈ text, letter.isDigit = true) :
    readDecimal text = (readDigits text).map Nat.cast := by
  cases text with
  | nil => rfl
  | cons letter rest =>
      have hrange := isDigit_range (hdigits letter List.mem_cons_self)
      have hother : ∀ other : Char, other.toNat < 48 → letter ≠ other := by
        rintro other hother rfl
        omega
      have hblank : isSpace letter = false := by
        simp [isSpace, hother]
      have hdrop : (letter :: rest).dropWhile isSpace = letter :: rest := by
        rw [List.dropWhile_cons, hblank]
        rfl
      rw [readDecimal, hdrop]
      split
      case h_1 heq =>
        exact absurd (List.cons_eq_cons.mp heq).1 (hother '-' (by decide))
      case h_2 heq =>
        exact absurd (List.cons_eq_cons.mp heq).1 (hother '+' (by decide))
      case h_3 => rfl

theorem readDecimal_decimal (value : ℤ) :
    readDecimal (decimal value) = some value := by
  cases value with
  | ofNat value =>
      rw [decimal, readDecimal_digits fun _ => isDigit_of_mem_toDigits,
        readDigits_toDigits]
      rfl
  | negSucc value =>
      rw [decimal, readDecimal]
      have hsign : isSpace '-' = false := by decide
      simp only [List.dropWhile_cons, hsign, Bool.false_eq_true, if_false,
        readDigits_toDigits]
      rfl

/-- The letters of a number. -/
theorem mem_decimal {value : ℤ} {letter : Char}
    (hletter : letter ∈ decimal value) :
    letter = '-' ∨ letter.isDigit = true := by
  cases value with
  | ofNat value => exact .inr (isDigit_of_mem_toDigits hletter)
  | negSucc value =>
      rcases List.mem_cons.mp hletter with hsign | hdigit
      · exact .inl hsign
      · exact .inr (isDigit_of_mem_toDigits hdigit)

theorem not_mem_decimal {letter : Char} (hsign : letter ≠ '-')
    (hdigit : letter.isDigit = false) (value : ℤ) :
    letter ∉ decimal value := by
  intro hletter
  rcases mem_decimal hletter with h | h
  · exact hsign h
  · simp [hdigit] at h

theorem decimal_ne_nil (value : ℤ) : decimal value ≠ [] := by
  cases value with
  | ofNat value => exact Nat.toDigits_ne_nil
  | negSucc value => exact List.cons_ne_nil _ _

theorem length_decimal_le_two_iff {value : ℤ} :
    (decimal value).length ≤ 2 ↔ -9 ≤ value ∧ value ≤ 99 := by
  cases value with
  | ofNat value =>
      rw [decimal, Nat.length_toDigits_le_iff (by omega) (by omega)]
      simp only [Int.ofNat_eq_natCast]
      omega
  | negSucc value =>
      rw [decimal, List.length_cons, Nat.add_le_add_iff_right (k := 1),
        Nat.length_toDigits_le_iff (by omega) (by omega)]
      omega

/-! ## Numbers inside a text -/

/-- The number at the beginning of a text and what is behind it. -/
def scanDigits (text : List Char) : Option (ℕ × List Char) :=
  (readDigits text).map fun value => (value, text.dropWhile Char.isDigit)

/-- As `readDecimal`, with what is behind the number. -/
def scanDecimal (text : List Char) : Option (ℤ × List Char) :=
  match text.dropWhile isSpace with
  | '-' :: rest => (scanDigits rest).map fun read => (-(read.1 : ℤ), read.2)
  | '+' :: rest => (scanDigits rest).map fun read => ((read.1 : ℤ), read.2)
  | rest => (scanDigits rest).map fun read => ((read.1 : ℤ), read.2)

theorem scanDigits_toDigits (value : ℕ) {rest : List Char}
    (hrest : ∀ letter ∈ rest.head?, letter.isDigit = false) :
    scanDigits (Nat.toDigits 10 value ++ rest) = some (value, rest) := by
  have hdigits : ∀ letter ∈ Nat.toDigits 10 value,
      letter.isDigit = true := fun _ => isDigit_of_mem_toDigits
  have hstop : rest.takeWhile Char.isDigit = [] ∧
      rest.dropWhile Char.isDigit = rest := by
    cases rest with
    | nil => exact ⟨rfl, rfl⟩
    | cons letter rest =>
        have hletter := hrest letter rfl
        simp [hletter]
  have htake : (Nat.toDigits 10 value ++ rest).takeWhile Char.isDigit =
      Nat.toDigits 10 value := by
    rw [List.takeWhile_append_of_pos hdigits, hstop.1, List.append_nil]
  rw [scanDigits, readDigits, htake, if_neg Nat.toDigits_ne_nil,
    Nat.ofDigitChars_ten_toDigits, List.dropWhile_append_of_pos hdigits,
    hstop.2]
  rfl

theorem scanDecimal_decimal (value : ℤ) {rest : List Char}
    (hrest : ∀ letter ∈ rest.head?, letter.isDigit = false) :
    scanDecimal (decimal value ++ rest) = some (value, rest) := by
  cases value with
  | ofNat value =>
      obtain ⟨letter, digits, hletters⟩ :=
        List.exists_cons_of_ne_nil (@Nat.toDigits_ne_nil value 10)
      have hdigit : letter.isDigit = true :=
        isDigit_of_mem_toDigits (hletters ▸ List.mem_cons_self)
      have hother : ∀ other : Char, other.toNat < 48 → letter ≠ other := by
        rintro other hother rfl
        have hrange := isDigit_range hdigit
        omega
      have hblank : isSpace letter = false := by
        simp [isSpace, hother]
      have hscan := scanDigits_toDigits value hrest
      rw [decimal, scanDecimal]
      rw [hletters] at hscan ⊢
      rw [List.cons_append] at hscan ⊢
      rw [List.dropWhile_cons, hblank]
      simp only [Bool.false_eq_true, if_false]
      split
      case h_1 heq =>
        exact absurd (List.cons_eq_cons.mp heq).1 (hother '-' (by decide))
      case h_2 heq =>
        exact absurd (List.cons_eq_cons.mp heq).1 (hother '+' (by decide))
      case h_3 =>
        rw [hscan]
        rfl
  | negSucc value =>
      have hsign : isSpace '-' = false := by decide
      rw [decimal, scanDecimal]
      simp only [List.cons_append, List.dropWhile_cons, hsign,
        Bool.false_eq_true, if_false, scanDigits_toDigits (value + 1) hrest]
      rfl

/-! ## Fields -/

/-- The fields between the delimiters that are not empty. -/
def fields (delimiter : Char) (text : List Char) : List (List Char) :=
  (text.splitOn delimiter).filter fun field => field ≠ []

theorem fields_pair {delimiter : Char} {first second : List Char}
    (hfirst : delimiter ∉ first) (hsecond : delimiter ∉ second)
    (hnonempty : first ≠ [] ∧ second ≠ []) :
    fields delimiter (first ++ delimiter :: second) = [first, second] := by
  rw [fields, List.splitOn_append_cons_self_of_not_mem hfirst,
    List.splitOn_eq_singleton hsecond]
  simp [hnonempty]

end ParamText
