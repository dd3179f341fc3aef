import Mathlib.Tactic

/-!
# Runs of a deterministic step function

A component is given by its state, its inputs and a total step function.  This
file fixes what it means for a predicate to hold in every state of a run and
for a guard to hold at every step of a run, and proves the two rules by which
a fact about one step becomes a fact about all runs.  Steps that publish
observations are covered by `trace`, the concatenation of what each step
published.
-/

namespace StepRun

variable {σ α ε : Type*}

/-- `Good` holds in every state of the run, the first and the last included. -/
def States (step : σ → α → σ) (Good : σ → Prop) : σ → List α → Prop
  | state, [] => Good state
  | state, input :: rest =>
      Good state ∧ States step Good (step state input) rest

/-- `Guard` holds of every input of the run and the state it arrives in. -/
def Steps (step : σ → α → σ) (Guard : σ → α → Prop) : σ → List α → Prop
  | _, [] => True
  | state, input :: rest =>
      Guard state input ∧ Steps step Guard (step state input) rest

instance States.decidable (step : σ → α → σ) (Good : σ → Prop)
    [DecidablePred Good] :
    ∀ (state : σ) (inputs : List α), Decidable (States step Good state inputs)
  | state, [] => inferInstanceAs (Decidable (Good state))
  | state, input :: rest =>
      have := States.decidable step Good (step state input) rest
      inferInstanceAs (Decidable (Good state ∧ _))

instance Steps.decidable (step : σ → α → σ) (Guard : σ → α → Prop)
    [∀ state input, Decidable (Guard state input)] :
    ∀ (state : σ) (inputs : List α), Decidable (Steps step Guard state inputs)
  | _, [] => .isTrue trivial
  | state, input :: rest =>
      have := Steps.decidable step Guard (step state input) rest
      inferInstanceAs (Decidable (Guard state input ∧ _))

@[simp] theorem states_nil
    (step : σ → α → σ) (Good : σ → Prop) (state : σ) :
    States step Good state [] ↔ Good state := Iff.rfl

@[simp] theorem states_cons
    (step : σ → α → σ) (Good : σ → Prop) (state : σ)
    (input : α) (rest : List α) :
    States step Good state (input :: rest) ↔
      Good state ∧ States step Good (step state input) rest := Iff.rfl

@[simp] theorem steps_nil
    (step : σ → α → σ) (Guard : σ → α → Prop) (state : σ) :
    Steps step Guard state [] := trivial

@[simp] theorem steps_cons
    (step : σ → α → σ) (Guard : σ → α → Prop) (state : σ)
    (input : α) (rest : List α) :
    Steps step Guard state (input :: rest) ↔
      Guard state input ∧ Steps step Guard (step state input) rest := Iff.rfl

theorem States.head
    {step : σ → α → σ} {Good : σ → Prop} {state : σ} {inputs : List α}
    (h : States step Good state inputs) : Good state := by
  cases inputs with
  | nil => exact h
  | cons input rest => exact h.1

theorem States.last
    {step : σ → α → σ} {Good : σ → Prop} {state : σ} {inputs : List α}
    (h : States step Good state inputs) : Good (inputs.foldl step state) := by
  induction inputs generalizing state with
  | nil => exact h
  | cons input rest ih => exact ih h.2

theorem States.mono
    {step : σ → α → σ} {Good Better : σ → Prop}
    (himp : ∀ state, Good state → Better state)
    {state : σ} {inputs : List α}
    (h : States step Good state inputs) :
    States step Better state inputs := by
  induction inputs generalizing state with
  | nil => exact himp state h
  | cons input rest ih => exact ⟨himp state h.1, ih h.2⟩

theorem Steps.mono
    {step : σ → α → σ} {Guard Weaker : σ → α → Prop}
    (himp : ∀ state input, Guard state input → Weaker state input)
    {state : σ} {inputs : List α}
    (h : Steps step Guard state inputs) :
    Steps step Weaker state inputs := by
  induction inputs generalizing state with
  | nil => trivial
  | cons input rest ih => exact ⟨himp state input h.1, ih h.2⟩

theorem steps_append
    {step : σ → α → σ} {Guard : σ → α → Prop} {state : σ}
    {inputs more : List α} :
    Steps step Guard state (inputs ++ more) ↔
      Steps step Guard state inputs ∧
        Steps step Guard (inputs.foldl step state) more := by
  induction inputs generalizing state with
  | nil => simp
  | cons input rest ih =>
      rw [List.cons_append, steps_cons, steps_cons, ih, and_assoc]
      rfl

/-- A guard that does not look at the state holds throughout a run of inputs
that all meet it. -/
theorem steps_of_forall
    {step : σ → α → σ} {Guard : α → Prop} {state : σ} {inputs : List α}
    (h : ∀ input ∈ inputs, Guard input) :
    Steps step (fun _ input => Guard input) state inputs := by
  induction inputs generalizing state with
  | nil => trivial
  | cons input rest ih =>
      rw [List.forall_mem_cons] at h
      exact ⟨h.1, ih h.2⟩

/-- The invariant rule: what every guarded step preserves holds in every state
of a run whose steps are all guarded. -/
theorem states_of_steps
    {step : σ → α → σ} {Inv : σ → Prop} {Guard : σ → α → Prop}
    (hstep : ∀ state input, Inv state → Guard state input →
      Inv (step state input))
    {state : σ} {inputs : List α} (hinit : Inv state)
    (hguard : Steps step Guard state inputs) :
    States step Inv state inputs := by
  induction inputs generalizing state with
  | nil => exact hinit
  | cons input rest ih =>
      exact ⟨hinit, ih (hstep state input hinit hguard.1) hguard.2⟩

/-- The invariant rule for steps that need no guard. -/
theorem states_of_step
    {step : σ → α → σ} {Inv : σ → Prop}
    (hstep : ∀ state input, Inv state → Inv (step state input))
    {state : σ} {inputs : List α} (hinit : Inv state) :
    States step Inv state inputs := by
  induction inputs generalizing state with
  | nil => exact hinit
  | cons input rest ih =>
      exact ⟨hinit, ih (hstep state input hinit)⟩

/-- The exactness rule.  If, from a good state, a step keeps the state good
exactly when its guard holds, then a run stays good exactly when all its steps
are guarded. -/
theorem states_iff_steps
    {step : σ → α → σ} {Good : σ → Prop} (Inv : σ → Prop)
    {Guard : σ → α → Prop}
    (hgood : ∀ state, Inv state → Good state)
    (hkeep : ∀ state input, Inv state → Guard state input →
      Inv (step state input))
    (hbreak : ∀ state input, Inv state → Good (step state input) →
      Guard state input)
    {state : σ} {inputs : List α} (hinit : Inv state) :
    States step Good state inputs ↔ Steps step Guard state inputs := by
  constructor
  · intro hstates
    induction inputs generalizing state with
    | nil => trivial
    | cons input rest ih =>
        have hguard : Guard state input :=
          hbreak state input hinit hstates.2.head
        exact ⟨hguard, ih (hkeep state input hinit hguard) hstates.2⟩
  · intro hsteps
    exact (states_of_steps hkeep hinit hsteps).mono hgood

/-- The exactness rule where steps are judged too: `Seen` is what a step has to
show besides leaving a good state. -/
theorem states_and_steps_iff
    {step : σ → α → σ} {Good : σ → Prop} {Seen Guard : σ → α → Prop}
    (Inv : σ → Prop)
    (hgood : ∀ state, Inv state → Good state)
    (hkeep : ∀ state input, Inv state → Guard state input →
      Inv (step state input) ∧ Seen state input)
    (hbreak : ∀ state input, Inv state → Good (step state input) →
      Seen state input → Guard state input)
    {state : σ} {inputs : List α} (hinit : Inv state) :
    States step Good state inputs ∧ Steps step Seen state inputs ↔
      Steps step Guard state inputs := by
  induction inputs generalizing state with
  | nil =>
      simp only [states_nil, steps_nil, and_true, iff_true]
      exact hgood state hinit
  | cons input rest ih =>
      simp only [states_cons, steps_cons]
      constructor
      · rintro ⟨⟨-, hstates⟩, hseen, hsteps⟩
        have hguard : Guard state input :=
          hbreak state input hinit hstates.head hseen
        have hnext := (hkeep state input hinit hguard).1
        exact ⟨hguard, (ih hnext).mp ⟨hstates, hsteps⟩⟩
      · rintro ⟨hguard, hrest⟩
        obtain ⟨hnext, hseen⟩ := hkeep state input hinit hguard
        obtain ⟨hstates, hsteps⟩ := (ih hnext).mpr hrest
        exact ⟨⟨hgood state hinit, hstates⟩, hseen, hsteps⟩

/-! ## Runs that publish observations -/

/-- Two publishing computations, the second from the state the first left. -/
def andThen (first : σ × List ε) (second : σ → σ × List ε) : σ × List ε :=
  ((second first.1).1, first.2 ++ (second first.1).2)

@[simp] theorem andThen_fst
    (first : σ × List ε) (second : σ → σ × List ε) :
    (andThen first second).1 = (second first.1).1 := rfl

@[simp] theorem andThen_snd
    (first : σ × List ε) (second : σ → σ × List ε) :
    (andThen first second).2 = first.2 ++ (second first.1).2 := rfl

def trace (step : σ → α → σ × List ε) : σ → List α → List ε
  | _, [] => []
  | state, input :: rest =>
      (step state input).2 ++ trace step (step state input).1 rest

def next (step : σ → α → σ × List ε) (state : σ) (input : α) : σ :=
  (step state input).1

@[simp] theorem trace_nil (step : σ → α → σ × List ε) (state : σ) :
    trace step state [] = [] := rfl

@[simp] theorem trace_cons
    (step : σ → α → σ × List ε) (state : σ) (input : α) (rest : List α) :
    trace step state (input :: rest) =
      (step state input).2 ++ trace step (next step state input) rest := rfl

theorem trace_append (step : σ → α → σ × List ε) (state : σ)
    (inputs more : List α) :
    trace step state (inputs ++ more) =
      trace step state inputs ++
        trace step (inputs.foldl (next step) state) more := by
  induction inputs generalizing state with
  | nil => rfl
  | cons input rest ih =>
      rw [List.cons_append, trace_cons, trace_cons, ih, List.append_assoc]
      rfl

/-- The exactness rule for properties of the published trace.  `Ok state obs`
judges observations published from `state` on; it splits along a step that is
guarded and fails at a step that is not. -/
theorem trace_iff_steps
    {step : σ → α → σ × List ε} (Inv : σ → Prop)
    (Ok : σ → List ε → Prop) {Guard : σ → α → Prop}
    (hnil : ∀ state, Inv state → Ok state [])
    (hkeep : ∀ state input, Inv state → Guard state input →
      Inv (next step state input) ∧
        ∀ later, Ok (next step state input) later →
          Ok state ((step state input).2 ++ later))
    (hbreak : ∀ state input later, Inv state →
      Ok state ((step state input).2 ++ later) →
        Guard state input ∧ Ok (next step state input) later)
    (state : σ) (hinit : Inv state) (inputs : List α) :
    Ok state (trace step state inputs) ↔
      Steps (next step) Guard state inputs := by
  induction inputs generalizing state with
  | nil =>
      simp only [trace_nil, steps_nil, iff_true]
      exact hnil state hinit
  | cons input rest ih =>
      rw [trace_cons, steps_cons]
      constructor
      · intro hok
        obtain ⟨hguard, hrest⟩ := hbreak state input _ hinit hok
        exact ⟨hguard, (ih _ (hkeep state input hinit hguard).1).mp hrest⟩
      · rintro ⟨hguard, hrest⟩
        obtain ⟨hinv, hcons⟩ := hkeep state input hinit hguard
        exact hcons _ ((ih _ hinv).mpr hrest)

/-- The invariant rule for observations: what every guarded step publishes is
published throughout a run whose steps are all guarded. -/
theorem trace_of_steps
    {step : σ → α → σ × List ε} {Inv : σ → Prop} {Guard : σ → α → Prop}
    {Ok : ε → Prop}
    (hstep : ∀ state input, Inv state → Guard state input →
      Inv (next step state input) ∧
        ∀ event ∈ (step state input).2, Ok event)
    {state : σ} {inputs : List α} (hinit : Inv state)
    (hguard : Steps (next step) Guard state inputs) :
    ∀ event ∈ trace step state inputs, Ok event := by
  induction inputs generalizing state with
  | nil => simp
  | cons input rest ih =>
      obtain ⟨hinv, hpublished⟩ := hstep state input hinit hguard.1
      intro event hevent
      rw [trace_cons, List.mem_append] at hevent
      rcases hevent with hnow | hlater
      · exact hpublished event hnow
      · exact ih hinv hguard.2 event hlater

/-- The refinement rule.  Where the inputs meet the guard of the plan, a
component that lives has published what its plan does; one that has ended
publishes nothing more and has published a beginning of it. -/
theorem trace_of_simulates
    {τ : Type*} {step : σ → α → σ × List ε} {plan : τ → α → τ × List ε}
    (Sim : σ → τ → Prop) (Ended : σ → Prop) (Guard : τ → α → Prop)
    (hended : ∀ state input, Ended state →
      (step state input).2 = [] ∧ Ended (next step state input))
    (hsim : ∀ state planned input, Sim state planned → Guard planned input →
      ((step state input).2 = [] ∧ Ended (next step state input)) ∨
        ((step state input).2 = (plan planned input).2 ∧
          Sim (next step state input) (next plan planned input)))
    {state : σ} {planned : τ} {inputs : List α} (hinit : Sim state planned)
    (hguard : Steps (next plan) Guard planned inputs) :
    trace step state inputs <+: trace plan planned inputs ∧
      (Ended (inputs.foldl (next step) state) ∨
        trace step state inputs = trace plan planned inputs) := by
  have hquiet : ∀ rest ended, Ended ended →
      trace step ended rest = [] ∧ Ended (rest.foldl (next step) ended) := by
    intro rest
    induction rest with
    | nil => exact fun _ hend => ⟨rfl, hend⟩
    | cons input rest ih =>
        intro ended hend
        obtain ⟨hnone, hnext⟩ := hended ended input hend
        obtain ⟨htrace, hlast⟩ := ih _ hnext
        rw [trace_cons, hnone, htrace]
        exact ⟨rfl, hlast⟩
  induction inputs generalizing state planned with
  | nil => exact ⟨List.prefix_refl [], .inr rfl⟩
  | cons input rest ih =>
      rw [trace_cons, trace_cons, List.foldl_cons]
      rcases hsim state planned input hinit hguard.1 with
        ⟨hnone, hend⟩ | ⟨hsame, hnext⟩
      · obtain ⟨htrace, hlast⟩ := hquiet rest _ hend
        rw [hnone, htrace]
        exact ⟨List.nil_prefix, .inl hlast⟩
      · rw [hsame, List.prefix_append_right_inj, List.append_cancel_left_eq]
        exact ih hnext hguard.2

end StepRun
