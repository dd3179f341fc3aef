import Mathlib.Tactic

/-!
# Reads and writes of named buffers

An access names a buffer, the place it starts at and the number of bytes it
touches.  The start is an integer, since a pointer can be moved to before its
buffer.  An access is inside when every byte it touches is; one that touches
no byte is inside wherever it points.
-/

namespace MemoryAccess

variable {β : Type*}

structure Access (β : Type*) where
  buffer : β
  offset : ℤ
  length : ℕ
  deriving DecidableEq

/-- `size` gives the number of bytes of every buffer. -/
def Access.Inside (size : β → ℕ) (access : Access β) : Prop :=
  ∀ i < access.length,
    0 ≤ access.offset + i ∧ access.offset + i < size access.buffer

theorem Access.inside_iff {size : β → ℕ} {access : Access β} :
    access.Inside size ↔ access.length = 0 ∨
      0 ≤ access.offset ∧
        access.offset + access.length ≤ size access.buffer := by
  constructor
  · intro hinside
    by_cases hempty : access.length = 0
    · exact .inl hempty
    · have hfirst := hinside 0 (by omega)
      have hlast := hinside (access.length - 1) (by omega)
      right
      omega
  · intro h i hi
    rcases h with hempty | ⟨hstart, hend⟩ <;> omega

instance (size : β → ℕ) (access : Access β) :
    Decidable (access.Inside size) :=
  decidable_of_iff _ Access.inside_iff.symm

theorem Access.inside_natCast {size : β → ℕ} {buffer : β}
    {offset length : ℕ} (hend : offset + length ≤ size buffer) :
    Access.Inside size ⟨buffer, (offset : ℤ), length⟩ := by
  rw [inside_iff]
  right
  constructor <;> push_cast <;> omega

theorem Access.inside_start_iff {size : β → ℕ} {buffer : β} {length : ℕ} :
    Access.Inside size ⟨buffer, 0, length⟩ ↔ length ≤ size buffer := by
  rw [inside_iff]
  constructor
  · rintro (hempty | ⟨-, hend⟩)
    · exact le_of_eq_of_le hempty (Nat.zero_le _)
    · simpa using hend
  · intro hend
    exact .inr ⟨le_rfl, by simpa using hend⟩

theorem Access.inside_start {size : β → ℕ} {buffer : β} {length : ℕ}
    (hend : length ≤ size buffer) :
    Access.Inside size ⟨buffer, 0, length⟩ :=
  inside_start_iff.mpr hend

def InBounds (size : β → ℕ) (accesses : List (Access β)) : Prop :=
  ∀ access ∈ accesses, access.Inside size

instance (size : β → ℕ) (accesses : List (Access β)) :
    Decidable (InBounds size accesses) :=
  inferInstanceAs (Decidable (∀ access ∈ accesses, _))

variable {size : β → ℕ}

@[simp] theorem inBounds_nil : InBounds size [] := by
  simp [InBounds]

@[simp] theorem inBounds_cons {access : Access β}
    {accesses : List (Access β)} :
    InBounds size (access :: accesses) ↔
      access.Inside size ∧ InBounds size accesses := by
  simp [InBounds]

@[simp] theorem inBounds_append {first second : List (Access β)} :
    InBounds size (first ++ second) ↔
      InBounds size first ∧ InBounds size second := by
  simp [InBounds, or_imp, forall_and]

end MemoryAccess
