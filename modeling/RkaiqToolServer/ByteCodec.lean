import Mathlib.Tactic

/-!
# Fixed-width fields in byte strings

Numbers are laid out least significant byte first, texts are byte strings
ended by a zero byte, and a field of a packed record is a slice of the bytes
that hold the record.  The laws below read back what was written.
-/

namespace ByteCodec

/-! ## Little-endian numbers -/

def leBytes : ℕ → ℕ → List UInt8
  | 0, _ => []
  | width + 1, value => UInt8.ofNat value :: leBytes width (value / 256)

def leNat : List UInt8 → ℕ
  | [] => 0
  | byte :: rest => byte.toNat + 256 * leNat rest

/-- Two's complement reading of a number of `bits` bits. -/
def signed (bits value : ℕ) : ℤ :=
  if value < 2 ^ (bits - 1) then value else (value : ℤ) - 2 ^ bits

@[simp] theorem length_leBytes (width value : ℕ) :
    (leBytes width value).length = width := by
  induction width generalizing value with
  | zero => rfl
  | succ width ih => simp [leBytes, ih]

/-- The lowest bytes of a number are the number modulo a power of 256. -/
theorem leNat_leBytes_mod (width value : ℕ) :
    leNat (leBytes width value) = value % 256 ^ width := by
  induction width generalizing value with
  | zero => simp [leBytes, leNat, Nat.mod_one]
  | succ width ih =>
      have hbyte : (UInt8.ofNat value).toNat = value % 256 := by simp
      rw [leBytes, leNat, ih, hbyte, pow_succ, mul_comm (256 ^ width),
        Nat.mod_mul]

theorem leNat_leBytes {width value : ℕ} (hvalue : value < 256 ^ width) :
    leNat (leBytes width value) = value := by
  rw [leNat_leBytes_mod, Nat.mod_eq_of_lt hvalue]

theorem take_leBytes {count width : ℕ} (hcount : count ≤ width)
    (value : ℕ) : (leBytes width value).take count = leBytes count value := by
  induction count generalizing width value with
  | zero => rfl
  | succ count ih =>
      cases width with
      | zero => omega
      | succ width =>
          rw [leBytes, List.take_succ_cons, ih (by omega), leBytes]

theorem leNat_append (low high : List UInt8) :
    leNat (low ++ high) = leNat low + 256 ^ low.length * leNat high := by
  induction low with
  | nil => simp [leNat]
  | cons byte rest ih =>
      simp only [List.cons_append, leNat, List.length_cons, ih, pow_succ]
      ring

theorem leNat_lt (bytes : List UInt8) :
    leNat bytes < 256 ^ bytes.length := by
  induction bytes with
  | nil => simp [leNat]
  | cons byte rest ih =>
      have hbyte : byte.toNat < 256 := byte.toNat_lt
      simp only [leNat, List.length_cons, pow_succ]
      omega

theorem leBytes_leNat (bytes : List UInt8) :
    leBytes bytes.length (leNat bytes) = bytes := by
  induction bytes with
  | nil => rfl
  | cons byte rest ih =>
      have hbyte : byte.toNat < 256 := byte.toNat_lt
      have hlow : UInt8.ofNat (byte.toNat + 256 * leNat rest) = byte := by
        apply UInt8.toNat_inj.mp
        rw [UInt8.toNat_ofNat']
        omega
      have hhigh : (byte.toNat + 256 * leNat rest) / 256 = leNat rest := by
        omega
      simp only [List.length_cons, leNat, leBytes, hlow, hhigh, ih]

theorem leNat_injective {first second : List UInt8}
    (hlength : first.length = second.length)
    (h : leNat first = leNat second) : first = second := by
  rw [← leBytes_leNat first, ← leBytes_leNat second, hlength, h]

theorem signed_of_lt {bits value : ℕ} (hvalue : value < 2 ^ (bits - 1)) :
    signed bits value = value := if_pos hvalue

theorem signed_injective {first second : ℕ} (hfirst : first < 2 ^ 32)
    (hsecond : second < 2 ^ 32) (h : signed 32 first = signed 32 second) :
    first = second := by
  simp only [signed] at h
  split at h <;> split at h <;> omega

/-- The `int` a value is converted to. -/
def wrapInt (value : ℤ) : ℤ := signed 32 (value % 2 ^ 32).toNat

theorem wrapInt_of_range {value : ℤ} (hlow : -2 ^ 31 ≤ value)
    (hhigh : value < 2 ^ 31) : wrapInt value = value := by
  unfold wrapInt signed
  split
  case isTrue hsmall =>
    norm_num at hsmall
    omega
  case isFalse hlarge =>
    norm_num at hlarge ⊢
    omega

theorem wrapInt_of_overflow {value : ℤ} (hlow : 2 ^ 31 ≤ value)
    (hhigh : value < 2 ^ 32) : wrapInt value = value - 2 ^ 32 := by
  unfold wrapInt signed
  split
  case isTrue hsmall =>
    norm_num at hsmall
    omega
  case isFalse =>
    norm_num
    omega

/-! ## Slices -/

/-- `length` elements from position `offset` on; shorter at the end. -/
def slice {β : Type*} (offset length : ℕ) (bytes : List β) : List β :=
  (bytes.drop offset).take length

theorem length_slice {β : Type*} {offset length : ℕ} {bytes : List β}
    (hbound : offset + length ≤ bytes.length) :
    (slice offset length bytes).length = length := by
  simp only [slice, List.length_take, List.length_drop]
  omega

/-- A slice that ends inside a prefix does not see what follows it. -/
theorem slice_append_left {β : Type*} {offset length : ℕ}
    {bytes more : List β} (hbound : offset + length ≤ bytes.length) :
    slice offset length (bytes ++ more) = slice offset length bytes := by
  unfold slice
  rw [List.drop_append_of_le_length (by omega),
    List.take_append_of_le_length (by simp; omega)]

theorem slice_field {β : Type*} {offset length : ℕ}
    {before field after : List β}
    (hbefore : before.length = offset) (hfield : field.length = length) :
    slice offset length (before ++ (field ++ after)) = field := by
  subst offset
  subst length
  simp [slice]

theorem slice_zero {β : Type*} {length : ℕ} {field after : List β}
    (hfield : field.length = length) :
    slice 0 length (field ++ after) = field := by
  subst length
  simp [slice]

theorem slice_slice {β : Type*} {offset length inner count : ℕ}
    {bytes : List β} (hbound : inner + count ≤ length) :
    slice inner count (slice offset length bytes) =
      slice (offset + inner) count bytes := by
  unfold slice
  rw [List.drop_take, List.take_take, List.drop_drop,
    min_eq_left (by omega)]

theorem slice_append_slice {β : Type*} (offset first second : ℕ)
    (bytes : List β) :
    slice offset first bytes ++ slice (offset + first) second bytes =
      slice offset (first + second) bytes := by
  simp only [slice]
  rw [List.take_add, ← List.drop_drop]

theorem length_flatMap_of_width {α β : Type*} {f : α → List β} {width : ℕ}
    (hwidth : ∀ x, (f x).length = width) (xs : List α) :
    (xs.flatMap f).length = width * xs.length := by
  induction xs with
  | nil => rfl
  | cons x xs ih =>
      rw [List.flatMap_cons, List.length_append, hwidth, ih, List.length_cons]
      ring

/-- A slice inside one of a row of fields of equal width. -/
theorem slice_flatMap {α β : Type*} {f : α → List β} {width : ℕ}
    (hwidth : ∀ x, (f x).length = width) {xs : List α}
    {index offset length : ℕ} (hindex : index < xs.length)
    (hbound : offset + length ≤ width) :
    slice (width * index + offset) length (xs.flatMap f) =
      slice offset length (f xs[index]) := by
  induction xs generalizing index with
  | nil => simp at hindex
  | cons x xs ih =>
      rw [List.flatMap_cons]
      cases index with
      | zero =>
          rw [Nat.mul_zero, Nat.zero_add]
          exact slice_append_left (by rw [hwidth]; exact hbound)
      | succ index =>
          have hskip : slice (width * (index + 1) + offset) length
              (f x ++ xs.flatMap f) =
              slice (width * index + offset) length (xs.flatMap f) := by
            have hdrop : width * (index + 1) + offset =
                (f x).length + (width * index + offset) := by
              rw [hwidth]
              ring
            rw [slice, hdrop, List.drop_length_add_append, slice]
          rw [hskip, ih (by simpa using hindex), List.getElem_cons_succ]

/-- A list in front of a slice, the slice, and what is behind it. -/
theorem eq_take_append_slice_append_drop {β : Type*} (offset length : ℕ)
    (bytes : List β) :
    bytes = bytes.take offset ++
      (slice offset length bytes ++ bytes.drop (offset + length)) := by
  have hdrop : bytes.drop (offset + length) =
      (bytes.drop offset).drop length := by
    rw [List.drop_drop]
  rw [hdrop, slice, List.take_append_drop, List.take_append_drop]

/-- The bytes with `field` written over them from `offset` on. -/
def overlay {β : Type*} (offset : ℕ) (field bytes : List β) : List β :=
  bytes.take offset ++ (field ++ bytes.drop (offset + field.length))

theorem length_overlay {β : Type*} {offset : ℕ} {field bytes : List β}
    (hroom : offset + field.length ≤ bytes.length) :
    (overlay offset field bytes).length = bytes.length := by
  simp only [overlay, List.length_append, List.length_take,
    List.length_drop]
  omega

theorem overlay_zero {β : Type*} (field bytes : List β) :
    overlay 0 field bytes = field ++ bytes.drop field.length := by
  simp [overlay]

theorem overlay_append {β : Type*} {offset : ℕ}
    {before field old after : List β} (hbefore : before.length = offset)
    (hfield : field.length = old.length) :
    overlay offset field (before ++ (old ++ after)) =
      before ++ (field ++ after) := by
  subst offset
  simp [overlay, hfield, List.drop_append]

/-! ## Texts -/

def ascii (text : String) : List UInt8 :=
  text.toList.map fun letter => UInt8.ofNat letter.toNat

/-- The text that starts at the beginning of the bytes: everything before the
first zero byte. -/
def cString (bytes : List UInt8) : List UInt8 :=
  bytes.takeWhile fun byte => byte != 0

theorem cString_append_zero {text rest : List UInt8}
    (htext : ∀ byte ∈ text, byte ≠ 0) :
    cString (text ++ 0 :: rest) = text := by
  unfold cString
  rw [List.takeWhile_append_of_pos (by simpa using htext)]
  simp

/-- A text written into a zeroed field of `size` bytes. -/
def padded (size : ℕ) (text : List UInt8) : List UInt8 :=
  text ++ List.replicate (size - text.length) 0

theorem length_padded {size : ℕ} {text : List UInt8}
    (htext : text.length ≤ size) : (padded size text).length = size := by
  simp only [padded, List.length_append, List.length_replicate]
  omega

theorem cString_padded {size : ℕ} {text rest : List UInt8}
    (hlength : text.length < size) (htext : ∀ byte ∈ text, byte ≠ 0) :
    cString (padded size text ++ rest) = text := by
  have hpad : size - text.length = (size - text.length - 1) + 1 := by omega
  rw [padded, hpad, List.replicate_succ, List.append_assoc,
    List.cons_append]
  exact cString_append_zero htext

end ByteCodec
