import RkaiqToolServer.TextScan

/-!
# Scanners one behind the other

A scanner gives a value and what is left of the text, refuses the text, or
reads past its end.  A sequence of scanners leaves an end of the text if each
of them does, and it reads past the end only where one of them does.  Words
are looked up in tables of names.
-/

namespace TextScan

open ByteCodec

variable {α β : Type*}

/-! ## Results -/

inductive Scan (α : Type*)
  | overrun
  | refused
  | got (value : α) (rest : List UInt8)
  deriving DecidableEq

def Scan.bind (scan : Scan α) (next : α → List UInt8 → Scan β) : Scan β :=
  match scan with
  | .overrun => .overrun
  | .refused => .refused
  | .got value rest => next value rest

def Scan.map (f : α → β) (scan : Scan α) : Scan β :=
  scan.bind fun value rest => .got (f value) rest

@[simp] theorem Scan.got_bind (value : α) (rest : List UInt8)
    (next : α → List UInt8 → Scan β) :
    (Scan.got value rest).bind next = next value rest := rfl

@[simp] theorem Scan.got_map (f : α → β) (value : α) (rest : List UInt8) :
    (Scan.got value rest).map f = .got (f value) rest := rfl

@[simp] theorem Scan.refused_map (f : α → β) :
    (Scan.refused : Scan α).map f = .refused := rfl

@[simp] theorem Scan.overrun_map (f : α → β) :
    (Scan.overrun : Scan α).map f = .overrun := rfl

/-- What is left is an end of the text, and only behind one of the words does
the scanner read past the text. -/
def Scan.Ends (words : List (List UInt8)) (text : List UInt8) :
    Scan α → Prop
  | .overrun => ∃ word ∈ words, word <:+ text
  | .refused => True
  | .got _ rest => rest <:+ text

/-- Something of the text has been used up. -/
def Scan.Progress (text : List UInt8) (scan : Scan α) : Prop :=
  ∀ value rest, scan = .got value rest → rest.length < text.length

section

variable {words : List (List UInt8)} {text rest : List UInt8} {scan : Scan α}
  {next : α → List UInt8 → Scan β}

theorem Scan.Ends.mono (hends : scan.Ends words rest) (hrest : rest <:+ text) :
    scan.Ends words text := by
  cases scan with
  | overrun =>
      obtain ⟨word, hword, hsuffix⟩ := hends
      exact ⟨word, hword, hsuffix.trans hrest⟩
  | refused => trivial
  | got value left => exact List.IsSuffix.trans hends hrest

theorem Scan.Ends.bind (hends : scan.Ends words text)
    (hnext : ∀ value rest, (next value rest).Ends words rest) :
    (scan.bind next).Ends words text := by
  cases scan with
  | overrun => exact hends
  | refused => trivial
  | got value rest => exact (hnext value rest).mono hends

theorem Scan.Ends.map (f : α → β) (hends : scan.Ends words text) :
    (scan.map f).Ends words text :=
  hends.bind fun _ rest => List.suffix_rfl (l := rest)

theorem Scan.Progress.map (f : α → β) (hprogress : scan.Progress text) :
    (scan.map f).Progress text := by
  intro value rest hscan
  cases scan with
  | overrun => contradiction
  | refused => contradiction
  | got first left =>
      rw [Scan.got_map, Scan.got.injEq] at hscan
      rw [← hscan.2]
      exact hprogress first left rfl

theorem Scan.Progress.bind (hprogress : scan.Progress text)
    (hnext : ∀ value rest, (next value rest).Ends words rest) :
    (scan.bind next).Progress text := by
  intro value rest hscan
  cases scan with
  | overrun => contradiction
  | refused => contradiction
  | got first left =>
      rw [Scan.got_bind] at hscan
      have hends := hnext first left
      rw [hscan] at hends
      have hlength := List.IsSuffix.length_le hends
      have := hprogress first left rfl
      omega

/-- A scanner that starts further on has used up what is before it. -/
theorem Scan.Ends.progress (hends : scan.Ends words rest)
    (hrest : rest.length < text.length) : scan.Progress text := by
  intro value left hscan
  rw [hscan] at hends
  have := List.IsSuffix.length_le hends
  omega

end

/-! ## One byte -/

def expect (byte : UInt8) (text : List UInt8) : Scan Unit :=
  match text with
  | [] => .refused
  | first :: rest => if first = byte then .got () rest else .refused

@[simp] theorem expect_cons (byte : UInt8) (rest : List UInt8) :
    expect byte (byte :: rest) = .got () rest := by
  rw [expect, if_pos rfl]

theorem expect_ends (byte : UInt8) (words : List (List UInt8))
    (text : List UInt8) : (expect byte text).Ends words text := by
  cases text with
  | nil => trivial
  | cons first rest =>
      rw [expect]
      split
      · exact List.suffix_cons _ _
      · trivial

theorem expect_progress (byte : UInt8) (text : List UInt8) :
    (expect byte text).Progress text := by
  intro value rest hscan
  cases text with
  | nil => contradiction
  | cons first left =>
      rw [expect] at hscan
      split at hscan
      · rw [Scan.got.injEq] at hscan
        rw [hscan.2, List.length_cons]
        omega
      · contradiction

/-! ## Words -/

def isUpper (byte : UInt8) : Bool := 65 ≤ byte && byte ≤ 90

def isLower (byte : UInt8) : Bool := 97 ≤ byte && byte ≤ 122

def isAlpha (byte : UInt8) : Bool := isUpper byte || isLower byte

def isAlnum (byte : UInt8) : Bool := isAlpha byte || isDigit byte

theorem isAlnum_eq_false_of_isSpace {byte : UInt8}
    (hspace : isSpace byte = true) : isAlnum byte = false := by
  have hle : byte ≤ 32 := by
    rw [UInt8.le_iff_toNat_le]
    have h32 : (32 : UInt8).toNat = 32 := rfl
    have h13 : (13 : UInt8).toNat = 13 := rfl
    simp only [isSpace, Bool.or_eq_true, beq_iff_eq, Bool.and_eq_true,
      decide_eq_true_eq, UInt8.le_iff_toNat_le, ← UInt8.toNat_inj] at hspace
    omega
  have hnot : ∀ bound : UInt8, 32 < bound.toNat →
      (decide (bound ≤ byte)) = false := by
    intro bound hbound
    rw [decide_eq_false_iff_not, UInt8.le_iff_toNat_le]
    have h32 : (32 : UInt8).toNat = 32 := rfl
    rw [UInt8.le_iff_toNat_le] at hle
    omega
  rw [isAlnum, isAlpha, isUpper, isLower, isDigit, hnot 65 (by decide),
    hnot 97 (by decide), hnot 48 (by decide)]
  rfl

def toLower (byte : UInt8) : UInt8 :=
  if isUpper byte then byte + 32 else byte

def sameLetters (word other : List UInt8) : Bool :=
  word.map toLower == other.map toLower

/-- Names with their values; the first entry counts. -/
abbrev NameTable := List (String × ℕ)

section

variable {same : List UInt8 → List UInt8 → Bool} {table : NameTable}

def NameTable.valueOf (table : NameTable)
    (same : List UInt8 → List UInt8 → Bool) (word : List UInt8) : Option ℕ :=
  (table.find? fun entry => same (ascii entry.1) word).map Prod.snd

def NameTable.nameOf (table : NameTable) (value : ℕ) : Option String :=
  (table.find? fun entry => entry.2 = value).map Prod.fst

/-- Every name of the table is read as its value. -/
def NameTable.Readable (table : NameTable)
    (same : List UInt8 → List UInt8 → Bool) : Prop :=
  ∀ entry ∈ table, table.valueOf same (ascii entry.1) = some entry.2

/-- A value that has a name is read back from it. -/
theorem NameTable.Readable.valueOf_nameOf (hreadable : table.Readable same)
    {value : ℕ} {name : String} (hname : table.nameOf value = some name) :
    table.valueOf same (ascii name) = some value := by
  rw [NameTable.nameOf, Option.map_eq_some_iff] at hname
  obtain ⟨entry, hfound, rfl⟩ := hname
  have hvalue := List.find?_some hfound
  rw [decide_eq_true_eq] at hvalue
  rw [← hvalue]
  exact hreadable entry (List.mem_of_find?_eq_some hfound)

/-- With a word for the values without a name that is no name itself, what is
written for a value is read as that value or not at all. -/
theorem NameTable.Readable.valueOf_getD (hreadable : table.Readable same)
    {unknown : String} (hunknown : table.valueOf same (ascii unknown) = none)
    (value : ℕ) :
    table.valueOf same (ascii ((table.nameOf value).getD unknown)) =
      if value ∈ table.map Prod.snd then some value else none := by
  cases hname : table.nameOf value with
  | none =>
      rw [NameTable.nameOf, Option.map_eq_none_iff,
        List.find?_eq_none] at hname
      have hnot : value ∉ table.map Prod.snd := by
        intro hmem
        obtain ⟨entry, hentry, hvalue⟩ := List.mem_map.mp hmem
        exact hname entry hentry (decide_eq_true hvalue)
      rw [if_neg hnot]
      exact hunknown
  | some name =>
      have hread := hreadable.valueOf_nameOf hname
      rw [NameTable.nameOf, Option.map_eq_some_iff] at hname
      obtain ⟨entry, hfound, -⟩ := hname
      have hvalue := List.find?_some hfound
      rw [decide_eq_true_eq] at hvalue
      rw [if_pos (List.mem_map.mpr
        ⟨entry, List.mem_of_find?_eq_some hfound, hvalue⟩)]
      exact hread

end

end TextScan
