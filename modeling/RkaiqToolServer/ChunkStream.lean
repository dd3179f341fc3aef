import Mathlib.Tactic

/-!
# Reading a byte stream that arrives in chunks

A stream socket delivers its bytes as a list of chunks; a read returns at most
one of them, and a read that asks for less leaves the rest of the chunk for
the next read.  `takeExactly` is the loop that reads until a given number of
bytes has arrived.  What it returns depends on the bytes only, never on where
the chunks end.
-/

namespace ChunkStream

variable {β : Type*}

/-- Read until `count` bytes have arrived: the bytes, and the chunks that are
still to be delivered.  `none` when the stream ends before. -/
def takeExactly : ℕ → List (List β) → Option (List β × List (List β))
  | 0, chunks => some ([], chunks)
  | _ + 1, [] => none
  | count + 1, chunk :: chunks =>
      if chunk.length ≤ count + 1 then
        (takeExactly (count + 1 - chunk.length) chunks).map
          fun result => (chunk ++ result.1, result.2)
      else
        some (chunk.take (count + 1), chunk.drop (count + 1) :: chunks)

@[simp] theorem takeExactly_zero (chunks : List (List β)) :
    takeExactly 0 chunks = some ([], chunks) := by
  cases chunks <;> rfl

theorem takeExactly_cons {count : ℕ} (hcount : 0 < count)
    (chunk : List β) (chunks : List (List β)) :
    takeExactly count (chunk :: chunks) =
      if chunk.length ≤ count then
        (takeExactly (count - chunk.length) chunks).map
          fun result => (chunk ++ result.1, result.2)
      else some (chunk.take count, chunk.drop count :: chunks) := by
  cases count with
  | zero => omega
  | succ count => rfl

theorem takeExactly_nil {count : ℕ} (hcount : count ≠ 0) :
    takeExactly count ([] : List (List β)) = none := by
  cases count with
  | zero => contradiction
  | succ count => rfl

/-- The reads of a loop that ended: whole chunks, and at most one chunk of
which a part is left. -/
inductive Taken : ℕ → List (List β) → List β → List (List β) → Prop
  | done (chunks : List (List β)) : Taken 0 chunks [] chunks
  | whole {count : ℕ} {chunk bytes : List β} {chunks rest : List (List β)}
      (hfits : chunk.length ≤ count)
      (h : Taken (count - chunk.length) chunks bytes rest) :
      Taken count (chunk :: chunks) (chunk ++ bytes) rest
  | part {count : ℕ} {chunk : List β} (chunks : List (List β))
      (hlong : count < chunk.length) :
      Taken count (chunk :: chunks) (chunk.take count)
        (chunk.drop count :: chunks)

theorem taken_of_takeExactly {count : ℕ} {chunks rest : List (List β)}
    {bytes : List β} (h : takeExactly count chunks = some (bytes, rest)) :
    Taken count chunks bytes rest := by
  induction chunks generalizing count bytes rest with
  | nil =>
      cases count with
      | zero =>
          simp only [takeExactly_zero, Option.some.injEq,
            Prod.mk.injEq] at h
          obtain ⟨rfl, rfl⟩ := h
          exact .done []
      | succ count => simp [takeExactly] at h
  | cons chunk chunks ih =>
      rcases Nat.eq_zero_or_pos count with hzero | hcount
      · subst count
        simp only [takeExactly_zero, Option.some.injEq, Prod.mk.injEq] at h
        obtain ⟨rfl, rfl⟩ := h
        exact .done _
      · rw [takeExactly_cons hcount] at h
        split at h
        next hfits =>
          simp only [Option.map_eq_some_iff, Prod.exists,
            Prod.mk.injEq] at h
          obtain ⟨more, left, htail, rfl, rfl⟩ := h
          exact .whole hfits (ih htail)
        next hlong =>
          simp only [Option.some.injEq, Prod.mk.injEq] at h
          obtain ⟨rfl, rfl⟩ := h
          exact .part chunks (by omega)

/-- What was read and what is left are the stream. -/
theorem takeExactly_spec {count : ℕ} {chunks rest : List (List β)}
    {bytes : List β} (h : takeExactly count chunks = some (bytes, rest)) :
    bytes.length = count ∧ bytes ++ rest.flatten = chunks.flatten := by
  have htaken := taken_of_takeExactly h
  clear h
  induction htaken with
  | done chunks => simp
  | whole hfits h ih =>
      obtain ⟨hlength, hflatten⟩ := ih
      constructor
      · simp only [List.length_append, hlength]
        omega
      · simp [List.append_assoc, hflatten]
  | part chunks hlong =>
      constructor
      · simp only [List.length_take]
        omega
      · simp [← List.append_assoc]

theorem takeExactly_length_le {count : ℕ} {chunks rest : List (List β)}
    {bytes : List β} (h : takeExactly count chunks = some (bytes, rest)) :
    rest.length ≤ chunks.length := by
  have htaken := taken_of_takeExactly h
  clear h
  induction htaken with
  | done chunks => exact le_rfl
  | whole hfits h ih =>
      rw [List.length_cons]
      omega
  | part chunks hlong => simp

theorem takeExactly_nonempty {count : ℕ} {chunks rest : List (List β)}
    {bytes : List β} (h : takeExactly count chunks = some (bytes, rest))
    (hchunks : ∀ chunk ∈ chunks, chunk ≠ []) :
    ∀ chunk ∈ rest, chunk ≠ [] := by
  have htaken := taken_of_takeExactly h
  clear h
  induction htaken with
  | done chunks => exact hchunks
  | whole hfits h ih =>
      exact ih fun later hlater =>
        hchunks later (List.mem_cons_of_mem _ hlater)
  | part chunks hlong =>
      intro later hlater
      rcases List.mem_cons.mp hlater with hhead | htail
      · rw [hhead]
        intro hnil
        rw [List.drop_eq_nil_iff] at hnil
        omega
      · exact hchunks later (List.mem_cons_of_mem _ htail)

end ChunkStream
