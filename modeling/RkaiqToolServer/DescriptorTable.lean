import RkaiqToolServer.StepRun

/-!
# Descriptors kept in fields

A program keeps descriptors in a few fields.  A field can be filled with the
result of an open, set to -1, or closed, either always or only when its value
is positive; a closed field is set to -1.  The table records, next to the
values, the descriptors that are open and which fields hold one.  Setting a
field that holds an open descriptor loses it, and is published.
-/

namespace DescriptorTable

open StepRun

variable {φ : Type*}

/-- `held` says that the field was filled by a successful open and that this
descriptor has not been closed since. -/
structure Slot where
  value : ℤ
  held : Bool
  deriving DecidableEq

structure Table (φ : Type*) where
  slot : φ → Slot
  opened : Finset ℕ

inductive FieldAction (φ : Type*)
  | store (field : φ) (result : ℤ)
  | reset (field : φ)
  | close (field : φ)
  | closePositive (field : φ)

/-- The descriptor of this number is closed; whoever held it holds nothing. -/
def Slot.release (value : ℤ) (slot : Slot) : Slot :=
  if slot.value = value then { slot with held := false } else slot

/-- The field is lost if it still holds an open descriptor. -/
def Table.lost (table : Table φ) (field : φ) : List φ :=
  if (table.slot field).held then [field] else []

theorem lost_eq_nil_iff {table : Table φ} {field : φ} :
    table.lost field = [] ↔ (table.slot field).held = false := by
  unfold Table.lost
  split
  · simp [*]
  · simp [*]

/-- The open descriptors after an open with this result. -/
def openedBy (result : ℤ) (opened : Finset ℕ) : Finset ℕ :=
  if 0 ≤ result then insert result.toNat opened else opened

/-- The open descriptors after a close of this value. -/
def closedBy (value : ℤ) (opened : Finset ℕ) : Finset ℕ :=
  if 0 ≤ value then opened.erase value.toNat else opened

/-- An open does not return a descriptor that is open. -/
def FreshIn (result : ℤ) (opened : Finset ℕ) : Prop :=
  0 ≤ result → result.toNat ∉ opened

instance (result : ℤ) (opened : Finset ℕ) :
    Decidable (FreshIn result opened) :=
  inferInstanceAs (Decidable (_ → _))

variable [DecidableEq φ]

def Table.put (table : Table φ) (field : φ) (slot : Slot) : Table φ :=
  { table with slot := Function.update table.slot field slot }

def Table.close (table : Table φ) (field : φ) : Table φ :=
  let value := (table.slot field).value
  { slot := Function.update (fun other => (table.slot other).release value)
      field ⟨-1, false⟩
    opened := closedBy value table.opened }

def act (table : Table φ) : FieldAction φ → Table φ × List φ
  | .store field result =>
      ({ table.put field ⟨result, decide (0 ≤ result)⟩ with
          opened := openedBy result table.opened },
        table.lost field)
  | .reset field => (table.put field ⟨-1, false⟩, table.lost field)
  | .close field => (table.close field, [])
  | .closePositive field =>
      (if 0 < (table.slot field).value then table.close field else table, [])

def actAll (table : Table φ) (actions : List (FieldAction φ)) :
    Table φ × List φ :=
  (actions.foldl (next act) table, trace act table actions)

def Fresh (table : Table φ) : FieldAction φ → Prop
  | .store _ result => FreshIn result table.opened
  | _ => True

instance (table : Table φ) (action : FieldAction φ) :
    Decidable (Fresh table action) := by
  cases action with
  | store field result => exact inferInstanceAs (Decidable (FreshIn _ _))
  | reset field => exact .isTrue trivial
  | close field => exact .isTrue trivial
  | closePositive field => exact .isTrue trivial

def AllFresh (table : Table φ) (actions : List (FieldAction φ)) : Prop :=
  Steps (next act) Fresh table actions

instance (table : Table φ) (actions : List (FieldAction φ)) :
    Decidable (AllFresh table actions) :=
  inferInstanceAs (Decidable (Steps _ _ _ _))

@[simp] theorem actAll_nil (table : Table φ) :
    actAll table [] = (table, []) := rfl

@[simp] theorem actAll_cons (table : Table φ) (action : FieldAction φ)
    (actions : List (FieldAction φ)) :
    actAll table (action :: actions) =
      ((actAll (act table action).1 actions).1,
        (act table action).2 ++ (actAll (act table action).1 actions).2) := rfl

theorem actAll_append (table : Table φ)
    (before later : List (FieldAction φ)) :
    actAll table (before ++ later) =
      ((actAll (actAll table before).1 later).1,
        (actAll table before).2 ++
          (actAll (actAll table before).1 later).2) := by
  induction before generalizing table with
  | nil => rfl
  | cons action rest ih =>
      rw [List.cons_append, actAll_cons, actAll_cons, ih, List.append_assoc]

/-! ## The values of the fields -/

def Table.values (table : Table φ) (field : φ) : ℤ := (table.slot field).value

def FieldAction.field : FieldAction φ → φ
  | .store field _ | .reset field | .close field | .closePositive field =>
      field

/-- The value an action leaves in its field. -/
def FieldAction.value (old : ℤ) : FieldAction φ → ℤ
  | .store _ result => result
  | .reset _ | .close _ => -1
  | .closePositive _ => if 0 < old then -1 else old

def setValue (values : φ → ℤ) (action : FieldAction φ) : φ → ℤ :=
  Function.update values action.field (action.value (values action.field))

theorem setValue_of_ne (values : φ → ℤ) {action : FieldAction φ} {field : φ}
    (hne : field ≠ action.field) :
    setValue values action field = values field :=
  Function.update_of_ne hne _ _

theorem setValue_closePositive_nonpos (values : φ → ℤ) (field : φ) :
    setValue values (.closePositive field) field ≤ 0 := by
  by_cases hvalue : 0 < values field
  · simp [setValue, FieldAction.field, FieldAction.value, hvalue]
  · simp [setValue, FieldAction.field, FieldAction.value, hvalue,
      not_lt.mp hvalue]

@[simp] theorem release_value (value : ℤ) (slot : Slot) :
    (slot.release value).value = slot.value := by
  unfold Slot.release
  split <;> rfl

theorem put_values (table : Table φ) (field : φ) (slot : Slot) :
    (table.put field slot).values =
      Function.update table.values field slot.value := by
  funext other
  by_cases hother : other = field
  · subst hother
    simp [Table.values, Table.put]
  · simp [Table.values, Table.put, hother]

theorem close_values (table : Table φ) (field : φ) :
    (table.close field).values = Function.update table.values field (-1) := by
  funext other
  by_cases hother : other = field
  · subst hother
    simp [Table.values, Table.close]
  · simp [Table.values, Table.close, hother]

theorem setValue_closePositive (table : Table φ) (field : φ) :
    setValue table.values (.closePositive field) =
      Function.update table.values field
        (if 0 < (table.slot field).value then -1 else table.values field) :=
  rfl

theorem act_values (table : Table φ) (action : FieldAction φ) :
    (act table action).1.values = setValue table.values action := by
  cases action with
  | store field result => exact put_values table field _
  | reset field => exact put_values table field _
  | close field => exact close_values table field
  | closePositive field =>
      by_cases hvalue : 0 < (table.slot field).value
      · have hclosed : (act table (.closePositive field)).1 =
            table.close field := if_pos hvalue
        rw [hclosed, close_values, setValue_closePositive, if_pos hvalue]
      · have hkept : (act table (.closePositive field)).1 = table :=
          if_neg hvalue
        rw [hkept, setValue_closePositive, if_neg hvalue,
          Function.update_eq_self]

theorem actAll_values (table : Table φ) (actions : List (FieldAction φ)) :
    (actAll table actions).1.values =
      actions.foldl setValue table.values := by
  induction actions generalizing table with
  | nil => rfl
  | cons action rest ih =>
      rw [actAll_cons, ih, act_values]
      rfl

/-! ## What an action loses and leaves open -/

@[simp] theorem act_store_lost (table : Table φ) (field : φ) (result : ℤ) :
    (act table (.store field result)).2 = table.lost field := rfl

@[simp] theorem act_reset_lost (table : Table φ) (field : φ) :
    (act table (.reset field)).2 = table.lost field := rfl

@[simp] theorem act_close_lost (table : Table φ) (field : φ) :
    (act table (.close field)).2 = [] := rfl

@[simp] theorem act_closePositive_lost (table : Table φ) (field : φ) :
    (act table (.closePositive field)).2 = [] := rfl

theorem act_store_slot_of_ne (table : Table φ) {field other : φ}
    (hne : other ≠ field) (result : ℤ) :
    (act table (.store field result)).1.slot other = table.slot other := by
  simp [act, Table.put, hne]

@[simp] theorem act_reset_slot_self (table : Table φ) (field : φ) :
    (act table (.reset field)).1.slot field = ⟨-1, false⟩ := by
  simp [act, Table.put]

theorem act_reset_slot_of_ne (table : Table φ) {field other : φ}
    (hne : other ≠ field) :
    (act table (.reset field)).1.slot other = table.slot other := by
  simp [act, Table.put, hne]

@[simp] theorem act_store_slot_self (table : Table φ) (field : φ)
    (result : ℤ) :
    (act table (.store field result)).1.slot field =
      ⟨result, decide (0 ≤ result)⟩ := by
  simp [act, Table.put]

/-- A close takes the descriptor from every field that holds it. -/
theorem act_close_held_iff (table : Table φ) (field other : φ) :
    ((act table (.close field)).1.slot other).held = true ↔
      (table.slot other).held = true ∧
        table.values other ≠ table.values field := by
  unfold Table.values
  by_cases hother : other = field
  · subst hother
    simp [act, Table.close]
  · by_cases hvalue : (table.slot other).value = (table.slot field).value
    · simp [act, Table.close, Slot.release, hother, hvalue]
    · simp [act, Table.close, Slot.release, hother, hvalue]

theorem act_closePositive_held_iff (table : Table φ) (field other : φ) :
    ((act table (.closePositive field)).1.slot other).held = true ↔
      (table.slot other).held = true ∧
        (0 < table.values field →
          table.values other ≠ table.values field) := by
  by_cases hpositive : 0 < table.values field
  · have hclosed : act table (.closePositive field) =
        act table (.close field) := by
      simp [act, show 0 < (table.slot field).value from hpositive]
    rw [hclosed, act_close_held_iff, forall_prop_of_true hpositive]
  · have hkept : (act table (.closePositive field)).1 = table :=
      if_neg hpositive
    rw [hkept]
    simp [hpositive]

/-! ## The open descriptors -/

theorem act_store_opened (table : Table φ) (field : φ) (result : ℤ) :
    (act table (.store field result)).1.opened =
      openedBy result table.opened := rfl

theorem act_close_opened (table : Table φ) (field : φ) :
    (act table (.close field)).1.opened =
      closedBy (table.values field) table.opened := rfl

theorem act_closePositive_opened (table : Table φ) (field : φ) :
    (act table (.closePositive field)).1.opened =
      if 0 < table.values field then
        closedBy (table.values field) table.opened
      else table.opened := by
  rw [act]
  exact apply_ite Table.opened _ _ _

theorem subset_openedBy (result : ℤ) (opened : Finset ℕ) :
    opened ⊆ openedBy result opened := by
  unfold openedBy
  split
  · exact Finset.subset_insert _ _
  · exact Finset.Subset.refl _

theorem FreshIn.mono {result : ℤ} {small large : Finset ℕ}
    (hfresh : FreshIn result large) (hsub : small ⊆ large) :
    FreshIn result small := by
  intro hresult hmem
  exact hfresh hresult (hsub hmem)

theorem openedBy_eq_self_iff {result : ℤ} {opened : Finset ℕ}
    (hfresh : FreshIn result opened) :
    openedBy result opened = opened ↔ result < 0 := by
  unfold openedBy
  by_cases hresult : 0 ≤ result
  · rw [if_pos hresult, Finset.insert_eq_self]
    exact ⟨fun hmem => absurd hmem (hfresh hresult), fun hneg => by omega⟩
  · rw [if_neg hresult]
    exact ⟨fun _ => not_le.mp hresult, fun _ => rfl⟩

theorem closedBy_openedBy {result : ℤ} {opened : Finset ℕ}
    (hfresh : FreshIn result opened) :
    closedBy result (openedBy result opened) = opened := by
  unfold closedBy openedBy
  by_cases hresult : 0 ≤ result
  · rw [if_pos hresult, if_pos hresult]
    exact Finset.erase_insert (hfresh hresult)
  · rw [if_neg hresult, if_neg hresult]

/-- A descriptor opened later does not stand in the way of a close. -/
theorem closedBy_openedBy_openedBy {first second : ℤ} {opened : Finset ℕ}
    (hfirst : FreshIn first opened)
    (hsecond : FreshIn second (openedBy first opened)) :
    closedBy first (openedBy second (openedBy first opened)) =
      openedBy second opened := by
  by_cases hlater : 0 ≤ second
  · by_cases hvalue : 0 ≤ first
    · have hne : second.toNat ≠ first.toNat := by
        intro hsame
        have hmem := hsecond hlater
        rw [openedBy, if_pos hvalue, hsame] at hmem
        exact hmem (Finset.mem_insert_self _ _)
      rw [openedBy, if_pos hlater, openedBy, if_pos hvalue, closedBy,
        if_pos hvalue, Finset.erase_insert_of_ne hne,
        Finset.erase_insert (hfirst hvalue), openedBy, if_pos hlater]
    · rw [closedBy, if_neg hvalue]
      exact congrArg (openedBy second) (if_neg hvalue)
  · have hkept : ∀ set : Finset ℕ, openedBy second set = set :=
      fun set => if_neg hlater
    rw [hkept, hkept]
    exact closedBy_openedBy hfirst

/-- What stays open of a field that is filled and closed if positive: only a
descriptor zero. -/
theorem store_closePositive_opened (table : Table φ) {result : ℤ}
    (hfresh : FreshIn result table.opened) (field : φ) :
    (actAll table [.store field result, .closePositive field]).1.opened =
      openedBy (if 0 < result then -1 else result) table.opened := by
  have hvalue : (act table (.store field result)).1.values field = result :=
    by rw [act_values]; exact Function.update_self _ _ _
  simp only [actAll_cons, actAll_nil, act_closePositive_opened, hvalue,
    act_store_opened]
  split
  · exact closedBy_openedBy hfresh
  · rfl

/-- The same when another field is filled before the close. -/
theorem store_store_closePositive_opened {table : Table φ}
    {result later : ℤ} (hfresh : FreshIn result table.opened)
    (hlater : FreshIn later (openedBy result table.opened)) {field other : φ}
    (hne : field ≠ other) :
    (actAll table [.store field result, .store other later,
        .closePositive field]).1.opened =
      openedBy later
        (openedBy (if 0 < result then -1 else result) table.opened) := by
  have hvalue : (act (act table (.store field result)).1
      (.store other later)).1.values field = result := by
    rw [act_values, act_values]
    simp [setValue, FieldAction.field, FieldAction.value, hne]
  simp only [actAll_cons, actAll_nil, act_closePositive_opened, hvalue,
    act_store_opened]
  split
  · exact closedBy_openedBy_openedBy hfresh hlater
  · rfl

end DescriptorTable
