import Mathlib.Tactic

/-!
# Opening and closing order in a trace of events

A gate names the events that open a phase and the events that close it.
Reading a trace from left to right, the gate is open after an opening event
and closed after a closing one; every other event leaves it as it was.  The
three order properties of a resource are stated by it: selected events occur
only while the gate is open, only while it is closed, and openings and
closings strictly alternate.  Each of them splits over concatenation, which is
how a trace is judged step by step.
-/

namespace EventOrder

variable {ε : Type*}

structure Gate (ε : Type*) where
  opens : ε → Bool
  closes : ε → Bool

def Gate.after (gate : Gate ε) (opened : Bool) (event : ε) : Bool :=
  if gate.opens event then true
  else if gate.closes event then false
  else opened

def Gate.afterAll (gate : Gate ε) (opened : Bool) (trace : List ε) : Bool :=
  trace.foldl gate.after opened

/-- Selected events occur only while the gate is open. -/
def Gate.Inside (gate : Gate ε) (selected : ε → Bool) :
    Bool → List ε → Prop
  | _, [] => True
  | opened, event :: rest =>
      (selected event = true → opened = true) ∧
        gate.Inside selected (gate.after opened event) rest

/-- Selected events occur only while the gate is closed. -/
def Gate.Outside (gate : Gate ε) (selected : ε → Bool) :
    Bool → List ε → Prop
  | _, [] => True
  | opened, event :: rest =>
      (selected event = true → opened = false) ∧
        gate.Outside selected (gate.after opened event) rest

/-- Openings occur only while closed and closings only while open. -/
def Gate.Alternates (gate : Gate ε) (opened : Bool) (trace : List ε) : Prop :=
  gate.Outside gate.opens opened trace ∧ gate.Inside gate.closes opened trace

instance Gate.decidableInside (gate : Gate ε) (selected : ε → Bool) :
    ∀ opened trace, Decidable (gate.Inside selected opened trace)
  | _, [] => .isTrue trivial
  | opened, event :: rest =>
      haveI := decidableInside gate selected (gate.after opened event) rest
      inferInstanceAs (Decidable (_ ∧ _))

instance Gate.decidableOutside (gate : Gate ε) (selected : ε → Bool) :
    ∀ opened trace, Decidable (gate.Outside selected opened trace)
  | _, [] => .isTrue trivial
  | opened, event :: rest =>
      haveI := decidableOutside gate selected (gate.after opened event) rest
      inferInstanceAs (Decidable (_ ∧ _))

instance (gate : Gate ε) (opened : Bool) (trace : List ε) :
    Decidable (gate.Alternates opened trace) :=
  inferInstanceAs (Decidable (_ ∧ _))

@[simp] theorem Gate.afterAll_nil (gate : Gate ε) (opened : Bool) :
    gate.afterAll opened [] = opened := rfl

@[simp] theorem Gate.afterAll_cons
    (gate : Gate ε) (opened : Bool) (event : ε) (rest : List ε) :
    gate.afterAll opened (event :: rest) =
      gate.afterAll (gate.after opened event) rest := rfl

@[simp] theorem Gate.afterAll_append
    (gate : Gate ε) (opened : Bool) (before later : List ε) :
    gate.afterAll opened (before ++ later) =
      gate.afterAll (gate.afterAll opened before) later := by
  simp [afterAll]

@[simp] theorem Gate.inside_nil
    (gate : Gate ε) (selected : ε → Bool) (opened : Bool) :
    gate.Inside selected opened [] := trivial

@[simp] theorem Gate.inside_cons
    (gate : Gate ε) (selected : ε → Bool) (opened : Bool)
    (event : ε) (rest : List ε) :
    gate.Inside selected opened (event :: rest) ↔
      (selected event = true → opened = true) ∧
        gate.Inside selected (gate.after opened event) rest := Iff.rfl

@[simp] theorem Gate.outside_nil
    (gate : Gate ε) (selected : ε → Bool) (opened : Bool) :
    gate.Outside selected opened [] := trivial

@[simp] theorem Gate.outside_cons
    (gate : Gate ε) (selected : ε → Bool) (opened : Bool)
    (event : ε) (rest : List ε) :
    gate.Outside selected opened (event :: rest) ↔
      (selected event = true → opened = false) ∧
        gate.Outside selected (gate.after opened event) rest := Iff.rfl

@[simp] theorem Gate.inside_append
    (gate : Gate ε) (selected : ε → Bool) (opened : Bool)
    (before later : List ε) :
    gate.Inside selected opened (before ++ later) ↔
      gate.Inside selected opened before ∧
        gate.Inside selected (gate.afterAll opened before) later := by
  induction before generalizing opened with
  | nil => simp
  | cons event rest ih => simp [ih, and_assoc]

@[simp] theorem Gate.outside_append
    (gate : Gate ε) (selected : ε → Bool) (opened : Bool)
    (before later : List ε) :
    gate.Outside selected opened (before ++ later) ↔
      gate.Outside selected opened before ∧
        gate.Outside selected (gate.afterAll opened before) later := by
  induction before generalizing opened with
  | nil => simp
  | cons event rest ih => simp [ih, and_assoc]

@[simp] theorem Gate.alternates_append
    (gate : Gate ε) (opened : Bool) (before later : List ε) :
    gate.Alternates opened (before ++ later) ↔
      gate.Alternates opened before ∧
        gate.Alternates (gate.afterAll opened before) later := by
  simp only [Alternates, outside_append, inside_append]
  tauto

/-! ## Events seen through another alphabet -/

theorem Gate.afterAll_map {α : Type*}
    (gate : Gate ε) (inner : Gate α) (wrap : α → ε)
    (hopens : ∀ event, gate.opens (wrap event) = inner.opens event)
    (hcloses : ∀ event, gate.closes (wrap event) = inner.closes event)
    (opened : Bool) (trace : List α) :
    gate.afterAll opened (trace.map wrap) = inner.afterAll opened trace := by
  induction trace generalizing opened with
  | nil => rfl
  | cons event rest ih =>
      have hafter : gate.after opened (wrap event) =
          inner.after opened event := by
        rw [after, after, hopens, hcloses]
      rw [List.map_cons, afterAll_cons, afterAll_cons, hafter, ih]

theorem Gate.outside_of_unselected
    {gate : Gate ε} {selected : ε → Bool} {trace : List ε}
    (hunselected : ∀ event ∈ trace, selected event = false)
    (opened : Bool) : gate.Outside selected opened trace := by
  induction trace generalizing opened with
  | nil => trivial
  | cons event rest ih =>
      have hevent := hunselected event List.mem_cons_self
      rw [outside_cons]
      constructor
      · intro hselected
        rw [hevent] at hselected
        contradiction
      · exact ih (fun later hlater =>
          hunselected later (List.mem_cons_of_mem event hlater)) _

/-! ## Stretches that do not move the gate -/

/-- No event of the stretch opens or closes the gate. -/
def Gate.Still (gate : Gate ε) (trace : List ε) : Prop :=
  ∀ event ∈ trace, gate.opens event = false ∧ gate.closes event = false

theorem Gate.Still.after_eq
    {gate : Gate ε} {event : ε} {rest : List ε}
    (hstill : gate.Still (event :: rest)) (opened : Bool) :
    gate.after opened event = opened := by
  have hevent := hstill event List.mem_cons_self
  simp [after, hevent.1, hevent.2]

theorem Gate.Still.tail
    {gate : Gate ε} {event : ε} {rest : List ε}
    (hstill : gate.Still (event :: rest)) : gate.Still rest :=
  fun later hlater => hstill later (List.mem_cons_of_mem event hlater)

theorem Gate.Still.afterAll_eq
    {gate : Gate ε} {trace : List ε}
    (hstill : gate.Still trace) (opened : Bool) :
    gate.afterAll opened trace = opened := by
  induction trace with
  | nil => rfl
  | cons event rest ih =>
      rw [afterAll_cons, hstill.after_eq, ih hstill.tail]

theorem Gate.Still.inside_iff
    {gate : Gate ε} {trace : List ε} (hstill : gate.Still trace)
    (selected : ε → Bool) (opened : Bool) :
    gate.Inside selected opened trace ↔
      ((∃ event ∈ trace, selected event = true) → opened = true) := by
  induction trace with
  | nil => simp
  | cons event rest ih =>
      rw [inside_cons, hstill.after_eq, ih hstill.tail]
      simp only [List.mem_cons, exists_eq_or_imp]
      exact or_imp.symm

theorem Gate.Still.outside_iff
    {gate : Gate ε} {trace : List ε} (hstill : gate.Still trace)
    (selected : ε → Bool) (opened : Bool) :
    gate.Outside selected opened trace ↔
      ((∃ event ∈ trace, selected event = true) → opened = false) := by
  induction trace with
  | nil => simp
  | cons event rest ih =>
      rw [outside_cons, hstill.after_eq, ih hstill.tail]
      simp only [List.mem_cons, exists_eq_or_imp]
      exact or_imp.symm

theorem Gate.Still.alternates
    {gate : Gate ε} {trace : List ε} (hstill : gate.Still trace)
    (opened : Bool) : gate.Alternates opened trace := by
  constructor
  · rw [hstill.outside_iff]
    rintro ⟨event, hmem, hopens⟩
    simp [(hstill event hmem).1] at hopens
  · rw [hstill.inside_iff]
    rintro ⟨event, hmem, hcloses⟩
    simp [(hstill event hmem).2] at hcloses

/-- A stretch of which one item alone can move the gate. -/
theorem Gate.map_moved_once {α : Type*} (gate : Gate ε) (wrap : α → ε)
    (item : α) {items : List α} (hnodup : items.Nodup)
    (hother : ∀ other, other ≠ item → gate.opens (wrap other) = false ∧
      gate.closes (wrap other) = false) (opened : Bool) :
    (gate.Alternates opened (items.map wrap) ↔
        (item ∈ items → gate.Alternates opened [wrap item])) ∧
      (item ∈ items →
        gate.afterAll opened (items.map wrap) =
          gate.after opened (wrap item)) ∧
      (item ∉ items → gate.afterAll opened (items.map wrap) = opened) := by
  have hstill : ∀ {others : List α}, item ∉ others →
      gate.Still (others.map wrap) := by
    intro others habsent event hmem
    obtain ⟨other, hother', rfl⟩ := List.mem_map.mp hmem
    exact hother other fun hsame => habsent (hsame ▸ hother')
  by_cases hmem : item ∈ items
  · obtain ⟨before, later, rfl⟩ := List.append_of_mem hmem
    -- the items are distinct, so neither part has it again
    rw [List.nodup_middle, List.nodup_cons, List.mem_append, not_or]
      at hnodup
    have hbefore := hstill hnodup.1.1
    have hlater := hstill hnodup.1.2
    have hafter : gate.afterAll opened ((before ++ item :: later).map wrap) =
        gate.after opened (wrap item) := by
      rw [List.map_append, List.map_cons, afterAll_append,
        hbefore.afterAll_eq, afterAll_cons, hlater.afterAll_eq]
    have halternates :
        gate.Alternates opened ((before ++ item :: later).map wrap) ↔
          gate.Alternates opened [wrap item] := by
      have hparts : (before ++ item :: later).map wrap =
          before.map wrap ++ ([wrap item] ++ later.map wrap) := by
        simp
      rw [hparts, alternates_append, alternates_append,
        hbefore.afterAll_eq]
      constructor
      · intro hall
        exact hall.2.1
      · intro hone
        exact ⟨hbefore.alternates opened, hone, hlater.alternates _⟩
    exact ⟨halternates.trans (by simp), fun _ => hafter,
      fun habsent => absurd hmem habsent⟩
  · have hquiet := hstill hmem
    refine ⟨?_, fun h => absurd h hmem, fun _ => hquiet.afterAll_eq opened⟩
    constructor
    · intro _ h
      exact absurd h hmem
    · intro _
      exact hquiet.alternates opened

end EventOrder
