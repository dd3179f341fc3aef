import RkaiqToolServer.ByteCodec

/-!
# What the beginning of a buffer decides

A function that reads a buffer of fixed size may look at elements that the
chunk in front of it does not reach.  It is determined by the chunk when what
stands behind the chunk makes no difference.  Functions built from comparisons
of a field with a constant, and from fields that are read, are determined
exactly when the chunk decides every comparison it leads to and holds every
field that is read there.
-/

namespace PrefixReads

open ByteCodec

variable {α β γ : Type*}

/-- A buffer of `size` elements that begins with `chunk`. -/
structure Completes (size : ℕ) (chunk buffer : List β) : Prop where
  length_eq : buffer.length = size
  begins : chunk <+: buffer

/-- Whatever stands behind the chunk, `f` computes the same. -/
def Determined (size : ℕ) (f : List β → α) (chunk : List β) : Prop :=
  ∀ first second, Completes size chunk first →
    Completes size chunk second → f first = f second

def FieldAt (offset : ℕ) (field bytes : List β) : Prop :=
  field <+: bytes.drop offset

instance [DecidableEq β] (offset : ℕ) (field bytes : List β) :
    Decidable (FieldAt offset field bytes) :=
  inferInstanceAs (Decidable (_ <+: _))

/-- The chunk ends before the comparison with `field` is over. -/
def Cut (offset : ℕ) (field chunk : List β) : Prop :=
  chunk.drop offset <+: field ∧ chunk.drop offset ≠ field

instance [DecidableEq β] (offset : ℕ) (field chunk : List β) :
    Decidable (Cut offset field chunk) :=
  inferInstanceAs (Decidable (_ ∧ _))

/-- The chunk decides a comparison, and what the outcome asks for holds. -/
def Decides [DecidableEq β] (offset : ℕ) (field chunk : List β)
    (found missed : Prop) : Prop :=
  ¬ Cut offset field chunk ∧
    if FieldAt offset field chunk then found else missed

instance [DecidableEq β] (offset : ℕ) (field chunk : List β)
    (found missed : Prop) [Decidable found] [Decidable missed] :
    Decidable (Decides offset field chunk found missed) :=
  inferInstanceAs (Decidable (_ ∧ _))

theorem decides_congr [DecidableEq β] {offset : ℕ} {field chunk : List β}
    {found found' missed missed' : Prop} (hfound : found ↔ found')
    (hmissed : missed ↔ missed') :
    Decides offset field chunk found missed ↔
      Decides offset field chunk found' missed' := by
  rw [Decides, Decides, propext hfound, propext hmissed]

/-! ## Buffers with a given field -/

theorem Completes.length_le {size : ℕ} {chunk buffer : List β}
    (h : Completes size chunk buffer) : chunk.length ≤ size :=
  h.length_eq ▸ h.begins.length_le

/-- A buffer that begins with an extended chunk begins with the chunk. -/
theorem Completes.of_extended {size : ℕ} {chunk extended buffer : List β}
    (hextended : chunk <+: extended) (h : Completes size extended buffer) :
    Completes size chunk buffer where
  length_eq := h.length_eq
  begins := hextended.trans h.begins

/-- A field the chunk may still become can be completed behind it. -/
theorem exists_completes [Inhabited β] {size offset : ℕ} {chunk field : List β}
    (hopen : chunk.drop offset <+: field)
    (hfits : offset + field.length ≤ size) :
    ∃ buffer, Completes size chunk buffer ∧ FieldAt offset field buffer := by
  let gap := List.replicate (offset - chunk.length) (default : β)
  let start := chunk.take offset ++ gap
  have hstart : start.length = offset := by
    simp only [start, gap, List.length_append, List.length_take,
      List.length_replicate]
    omega
  refine ⟨start ++ (field ++
    List.replicate (size - (offset + field.length)) default), ⟨?_, ?_⟩, ?_⟩
  · simp only [List.length_append, hstart, List.length_replicate]
    omega
  · by_cases hshort : chunk.length ≤ offset
    · have htake : chunk.take offset = chunk := List.take_of_length_le hshort
      simp only [start, htake, List.append_assoc]
      exact List.prefix_append _ _
    · have hgap : gap = [] := by
        simp only [gap]
        rw [Nat.sub_eq_zero_of_le (by omega), List.replicate_zero]
      simp only [start, hgap, List.append_nil]
      nth_rewrite 1 [← List.take_append_drop offset chunk]
      rw [List.prefix_append_right_inj]
      exact hopen.trans (List.prefix_append _ _)
  · rw [FieldAt, List.drop_append_of_le_length hstart.ge,
      List.drop_of_length_le hstart.le, List.nil_append]
    exact List.prefix_append _ _

theorem FieldAt.eq {offset : ℕ} {field field' bytes : List β}
    (h : FieldAt offset field bytes) (h' : FieldAt offset field' bytes)
    (hlength : field.length = field'.length) : field = field' :=
  (List.prefix_of_prefix_length_le h h' hlength.le).eq_of_length hlength

theorem fieldAt_iff {offset : ℕ} {field bytes : List β} :
    FieldAt offset field bytes ↔
      slice offset field.length bytes = field :=
  List.prefix_iff_eq_take.trans eq_comm

theorem slice_eq_of_take_eq {offset length count : ℕ}
    {first second : List β} (htake : first.take count = second.take count)
    (hbound : offset + length ≤ count) :
    slice offset length first = slice offset length second := by
  have hwithin : ∀ bytes : List β,
      slice offset length bytes = slice offset length (bytes.take count) := by
    intro bytes
    rw [slice, slice, List.drop_take, List.take_take, min_eq_left (by omega)]
  rw [hwithin first, hwithin second, htake]

/-! ## Comparisons -/

/-- `P` compares the field at `offset` with a constant. -/
structure Compares (size offset : ℕ) (field : List β)
    (P : List β → Prop) : Prop where
  holds_iff : ∀ buffer, buffer.length = size →
    (P buffer ↔ FieldAt offset field buffer)
  fits : offset + field.length ≤ size

theorem Compares.fieldAt_iff {size offset : ℕ} {field chunk buffer : List β}
    {P : List β → Prop} (h : Compares size offset field P)
    (hcut : ¬ Cut offset field chunk)
    (hcompletes : Completes size chunk buffer) :
    P buffer ↔ FieldAt offset field chunk := by
  have hbegins := hcompletes.begins.drop offset
  rw [h.holds_iff buffer hcompletes.length_eq]
  constructor
  · intro hfield
    rcases List.prefix_or_prefix_of_prefix hfield hbegins with hin | hout
    · exact hin
    · by_contra hmissed
      refine hcut ⟨hout, fun heq => hmissed ?_⟩
      rw [FieldAt, heq]
  · exact fun hfield => hfield.trans hbegins

/-- Behind a cut comparison, both outcomes are still possible. -/
theorem Compares.both_of_cut [Inhabited β] [Nontrivial β] {size offset : ℕ}
    {field chunk : List β} {P : List β → Prop}
    (h : Compares size offset field P) (hcut : Cut offset field chunk) :
    (∃ buffer, Completes size chunk buffer ∧ P buffer) ∧
      ∃ buffer, Completes size chunk buffer ∧ ¬ P buffer := by
  obtain ⟨⟨rest, hrest⟩, hne⟩ := hcut
  cases rest with
  | nil => exact absurd (by simpa using hrest) hne
  | cons next rest =>
      obtain ⟨other, hother⟩ := exists_ne next
      have hlength : (chunk.drop offset ++ other :: rest).length =
          field.length := by
        simp [← hrest]
      obtain ⟨buffer, hcompletes, hfield⟩ :=
        exists_completes ⟨next :: rest, hrest⟩ h.fits
      have hfits := h.fits
      rw [← hlength] at hfits
      obtain ⟨buffer', hcompletes', hfield'⟩ := exists_completes
        (List.prefix_append (chunk.drop offset) (other :: rest)) hfits
      have hholds := (h.holds_iff _ hcompletes.length_eq).mpr hfield
      refine ⟨⟨buffer, hcompletes, hholds⟩,
        buffer', hcompletes', fun hP => hother ?_⟩
      have hsame := hfield'.eq
        ((h.holds_iff _ hcompletes'.length_eq).mp hP) hlength
      rw [← hrest, List.append_cancel_left_eq] at hsame
      exact (List.cons.inj hsame).1

theorem determined_ite_iff [DecidableEq β] [Inhabited β] [Nontrivial β]
    {size offset : ℕ} {field chunk : List β} {P : List β → Prop}
    [DecidablePred P] {f g : List β → α}
    (hcompares : Compares size offset field P)
    (hseparate : ∀ first second, f first ≠ g second) :
    Determined size (fun buffer => if P buffer then f buffer else g buffer)
        chunk ↔
      Decides offset field chunk (Determined size f chunk)
        (Determined size g chunk) := by
  constructor
  · intro hdetermined
    have hcut : ¬ Cut offset field chunk := by
      intro hcut
      obtain ⟨⟨first, hfirst, hP⟩, second, hsecond, hnot⟩ :=
        hcompares.both_of_cut hcut
      have hsame := hdetermined first second hfirst hsecond
      simp only [if_pos hP, if_neg hnot] at hsame
      exact hseparate first second hsame
    refine ⟨hcut, ?_⟩
    split
    case isTrue hfield =>
      intro first second hfirst hsecond
      have hsame := hdetermined first second hfirst hsecond
      beta_reduce at hsame
      rwa [if_pos ((hcompares.fieldAt_iff hcut hfirst).mpr hfield),
        if_pos ((hcompares.fieldAt_iff hcut hsecond).mpr hfield)] at hsame
    case isFalse hmissed =>
      intro first second hfirst hsecond
      have hsame := hdetermined first second hfirst hsecond
      beta_reduce at hsame
      rwa [if_neg (mt (hcompares.fieldAt_iff hcut hfirst).mp hmissed),
        if_neg (mt (hcompares.fieldAt_iff hcut hsecond).mp hmissed)] at hsame
  · rintro ⟨hcut, hbranch⟩ first second hfirst hsecond
    by_cases hfield : FieldAt offset field chunk
    · rw [if_pos hfield] at hbranch
      simp only [if_pos ((hcompares.fieldAt_iff hcut hfirst).mpr hfield),
        if_pos ((hcompares.fieldAt_iff hcut hsecond).mpr hfield)]
      exact hbranch first second hfirst hsecond
    · rw [if_neg hfield] at hbranch
      simp only [if_neg (mt (hcompares.fieldAt_iff hcut hfirst).mp hfield),
        if_neg (mt (hcompares.fieldAt_iff hcut hsecond).mp hfield)]
      exact hbranch first second hfirst hsecond

/-- A branch, with what each of its outcomes asks for. -/
theorem determined_branch_iff [DecidableEq β] [Inhabited β] [Nontrivial β]
    {size offset : ℕ} {field chunk : List β} {P : List β → Prop}
    [DecidablePred P] {f g : List β → α} {found missed : Prop}
    (hcompares : Compares size offset field P)
    (hseparate : ∀ first second, f first ≠ g second)
    (hfound : Determined size f chunk ↔ found)
    (hmissed : Determined size g chunk ↔ missed) :
    Determined size (fun buffer => if P buffer then f buffer else g buffer)
        chunk ↔ Decides offset field chunk found missed :=
  (determined_ite_iff hcompares hseparate).trans
    (decides_congr hfound hmissed)

/-! ## Fields -/

/-- `f` reads nothing behind the field of `length` elements at `offset`, and
its value gives that field back. -/
structure Reads (size offset length : ℕ) (f : List β → α) : Prop where
  same : ∀ first second, first.length = size → second.length = size →
    first.take (offset + length) = second.take (offset + length) →
      f first = f second
  fixes : ∀ first second, first.length = size → second.length = size →
    f first = f second →
      slice offset length first = slice offset length second
  fits : offset + length ≤ size
  pos : 0 < length

/-- A function that gives back the last field it reads. -/
theorem Reads.of_last {size offset length : ℕ} {f : List β → α}
    {g : List β → γ} (h : Reads size offset length f)
    (hsame : ∀ first second, first.length = size → second.length = size →
      first.take (offset + length) = second.take (offset + length) →
        g first = g second)
    (hlast : ∀ first second, g first = g second → f first = f second) :
    Reads size offset length g where
  same := hsame
  fixes first second hfirst hsecond heq :=
    h.fixes first second hfirst hsecond (hlast first second heq)
  fits := h.fits
  pos := h.pos

theorem determined_iff_le_length [Inhabited β] [Nontrivial β]
    {size offset length : ℕ} {f : List β → α} {chunk : List β}
    (hreads : Reads size offset length f) :
    Determined size f chunk ↔ offset + length ≤ chunk.length := by
  constructor
  · intro hdetermined
    by_contra hshort
    obtain ⟨one, other, hne⟩ := exists_pair_ne β
    let missing := length - (chunk.drop offset).length
    have hmissing : missing ≠ 0 := by
      have hpos := hreads.pos
      simp only [missing, List.length_drop]
      omega
    have hfield : ∀ element : β, ∃ buffer, Completes size chunk buffer ∧
        slice offset length buffer =
          chunk.drop offset ++ List.replicate missing element := by
      intro element
      have hlength : (chunk.drop offset ++
          List.replicate missing element).length = length := by
        simp only [missing, List.length_append, List.length_replicate,
          List.length_drop]
        omega
      have hfits := hreads.fits
      rw [← hlength] at hfits
      obtain ⟨buffer, hcompletes, hfield⟩ := exists_completes
        (List.prefix_append (chunk.drop offset)
          (List.replicate missing element)) hfits
      refine ⟨buffer, hcompletes, ?_⟩
      have hslice := fieldAt_iff.mp hfield
      rwa [hlength] at hslice
    obtain ⟨first, hfirst, hone⟩ := hfield one
    obtain ⟨second, hsecond, hother⟩ := hfield other
    have hsame := hreads.fixes first second hfirst.length_eq
      hsecond.length_eq (hdetermined first second hfirst hsecond)
    rw [hone, hother, List.append_cancel_left_eq,
      List.replicate_right_inj hmissing] at hsame
    exact hne hsame
  · intro hlength first second hfirst hsecond
    refine hreads.same first second hfirst.length_eq hsecond.length_eq ?_
    obtain ⟨rest, rfl⟩ := hfirst.begins
    obtain ⟨rest', rfl⟩ := hsecond.begins
    rw [List.take_append_of_le_length hlength,
      List.take_append_of_le_length hlength]

/-! ## Rules for composed functions -/

theorem determined_const (size : ℕ) (value : α) (chunk : List β) :
    Determined size (fun _ => value) chunk ↔ True :=
  ⟨fun _ => trivial, fun _ _ _ _ _ => rfl⟩

theorem determined_map_iff {size : ℕ} {f : List β → α} {g : α → γ}
    (hg : Function.Injective g) (chunk : List β) :
    Determined size (fun buffer => g (f buffer)) chunk ↔
      Determined size f chunk :=
  ⟨fun h first second hfirst hsecond => hg (h first second hfirst hsecond),
    fun h first second hfirst hsecond =>
      congrArg g (h first second hfirst hsecond)⟩

end PrefixReads
