import RkaiqToolServer.ByteCodec
import RkaiqToolServer.MemoryAccess

/-!
# Bytes stored one chunk after the other

A loop that fills a block stores every chunk it receives at some offset.  The
stores are in order when each begins at the number of bytes stored before it,
and then the block holds the received bytes, one after the other.
-/

namespace ByteStores

open ByteCodec MemoryAccess

structure Store where
  offset : ℤ
  bytes : List UInt8
  deriving DecidableEq

def Store.access {β : Type*} (buffer : β) (store : Store) : Access β :=
  ⟨buffer, store.offset, store.bytes.length⟩

/-- The block after the store; bytes before its beginning do not reach it. -/
def Store.apply (store : Store) (block : List UInt8) : List UInt8 :=
  if 0 ≤ store.offset then overlay store.offset.toNat store.bytes block
  else overlay 0 (store.bytes.drop (-store.offset).toNat) block

def storedBytes (stores : List Store) : List UInt8 :=
  stores.flatMap Store.bytes

@[simp] theorem storedBytes_nil : storedBytes [] = [] := rfl

@[simp] theorem storedBytes_cons (store : Store) (stores : List Store) :
    storedBytes (store :: stores) = store.bytes ++ storedBytes stores := rfl

@[simp] theorem storedBytes_append (first second : List Store) :
    storedBytes (first ++ second) =
      storedBytes first ++ storedBytes second := by
  simp [storedBytes]

/-- Every byte is stored at the number of bytes before it; `got` is the number
before the first store. -/
def InOrder : ℕ → List Store → Prop
  | _, [] => True
  | got, store :: stores =>
      store.offset = got ∧ InOrder (got + store.bytes.length) stores

instance : ∀ (got : ℕ) (stores : List Store), Decidable (InOrder got stores)
  | _, [] => .isTrue trivial
  | got, store :: stores =>
      have := instDecidableInOrder (got + store.bytes.length) stores
      inferInstanceAs (Decidable (_ ∧ _))

theorem inOrder_append_single {store : Store} {stores : List Store} :
    ∀ {got : ℕ}, InOrder got (stores ++ [store]) ↔
      InOrder got stores ∧
        store.offset = (got + (storedBytes stores).length : ℕ) := by
  induction stores with
  | nil => simp [InOrder]
  | cons first stores ih =>
      intro got
      rw [List.cons_append, InOrder, InOrder, ih, storedBytes_cons,
        List.length_append, and_assoc, ← Nat.add_assoc]

theorem apply_inOrder {got bytes rest : List UInt8}
    (hroom : bytes.length ≤ rest.length) :
    Store.apply ⟨(got.length : ℤ), bytes⟩ (got ++ rest) =
      (got ++ bytes) ++ rest.drop bytes.length := by
  have hsplit : rest =
      rest.take bytes.length ++ rest.drop bytes.length :=
    (List.take_append_drop bytes.length rest).symm
  rw [Store.apply, if_pos (by positivity), Int.toNat_natCast]
  nth_rewrite 1 [hsplit]
  rw [overlay_append rfl (by simpa using hroom), List.append_assoc]

def applyStores (block : List UInt8) (stores : List Store) : List UInt8 :=
  stores.foldl (fun block store => store.apply block) block

/-- A block filled in order holds the stored bytes. -/
theorem applyStores_inOrder {stores : List Store} :
    ∀ {got rest : List UInt8}, InOrder got.length stores →
      (storedBytes stores).length ≤ rest.length →
        applyStores (got ++ rest) stores =
          (got ++ storedBytes stores) ++
            rest.drop (storedBytes stores).length := by
  induction stores with
  | nil => simp [applyStores]
  | cons store stores ih =>
      obtain ⟨offset, bytes⟩ := store
      rintro got rest ⟨hoffset, hrest⟩ hroom
      rw [storedBytes_cons, List.length_append] at hroom
      simp only at hoffset hrest hroom
      have hlater : InOrder (got ++ bytes).length stores := by
        rwa [List.length_append]
      rw [applyStores, List.foldl_cons, hoffset,
        apply_inOrder (by omega), ← applyStores,
        ih hlater (by rw [List.length_drop]; omega), storedBytes_cons]
      simp [List.drop_drop]

theorem access_inside {β : Type*} {size : β → ℕ} (buffer : β)
    {store : Store} {got : ℕ} (hoffset : store.offset = got)
    (hroom : got + store.bytes.length ≤ size buffer) :
    (store.access buffer).Inside size := by
  obtain ⟨offset, bytes⟩ := store
  simp only at hoffset hroom
  subst offset
  exact Access.inside_natCast hroom

theorem inBounds_of_inOrder {β : Type*} {size : β → ℕ} {buffer : β}
    {stores : List Store} :
    ∀ {got : ℕ}, InOrder got stores →
      got + (storedBytes stores).length ≤ size buffer →
        InBounds size (stores.map (Store.access buffer)) := by
  induction stores with
  | nil => simp
  | cons store stores ih =>
      rintro got ⟨hoffset, hrest⟩ hroom
      rw [storedBytes_cons, List.length_append] at hroom
      rw [List.map_cons, inBounds_cons]
      exact ⟨access_inside buffer hoffset (by omega),
        ih hrest (by omega)⟩

end ByteStores
