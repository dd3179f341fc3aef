import Mathlib.Tactic

/-!
# Threads inside a lock

A lock records its holder; each thread is at a place of its program from which
one can tell whether it is inside.  The discipline is that the two agree.  A
step that moves one thread keeps it when the thread stays on its side, enters a
free lock or leaves the lock it is inside.
-/

namespace LockDiscipline

variable {τ κ : Type*}

/-- The holder of the lock is the one thread inside it. -/
def Disciplined (holder : Option τ) (inside : τ → Prop) : Prop :=
  ∀ thread, holder = some thread ↔ inside thread

section Holder

variable {holder : Option τ} {inside : τ → Prop}

theorem Disciplined.exclusive (h : Disciplined holder inside)
    {first second : τ} (hfirst : inside first) (hsecond : inside second) :
    first = second := by
  have hholder := (h first).mpr hfirst
  rw [(h second).mpr hsecond] at hholder
  exact (Option.some.inj hholder).symm

theorem Disciplined.outside (h : Disciplined holder inside)
    (hfree : holder = none) (thread : τ) : ¬ inside thread := by
  intro hinside
  have hholder := (h thread).mpr hinside
  rw [hfree] at hholder
  cases hholder

theorem disciplined_free (houtside : ∀ thread, ¬ inside thread) :
    Disciplined none inside := by
  intro thread
  constructor
  · intro h
    cases h
  · exact fun h => absurd h (houtside thread)

end Holder

section Moves

variable [DecidableEq τ] {holder : Option τ} {place : τ → κ}
  {inside : κ → Prop}
  (h : Disciplined holder fun thread => inside (place thread))
  {me : τ} {next : κ}
include h

theorem Disciplined.stay (hsame : inside next ↔ inside (place me)) :
    Disciplined holder fun thread =>
      inside (Function.update place me next thread) := by
  intro thread
  show _ ↔ inside (Function.update place me next thread)
  by_cases hthread : thread = me
  · subst hthread
    rw [Function.update_self, hsame]
    exact h thread
  · rw [Function.update_of_ne hthread]
    exact h thread

theorem Disciplined.enter (hfree : holder = none) (hin : inside next) :
    Disciplined (some me) fun thread =>
      inside (Function.update place me next thread) := by
  intro thread
  show _ ↔ inside (Function.update place me next thread)
  by_cases hthread : thread = me
  · subst hthread
    rw [Function.update_self]
    exact ⟨fun _ => hin, fun _ => rfl⟩
  · rw [Function.update_of_ne hthread]
    constructor
    · exact fun heq => absurd (Option.some.inj heq).symm hthread
    · exact fun hinside => absurd hinside (h.outside hfree thread)

theorem Disciplined.leave (hin : inside (place me)) (hout : ¬ inside next) :
    Disciplined none fun thread =>
      inside (Function.update place me next thread) := by
  apply disciplined_free
  intro thread
  by_cases hthread : thread = me
  · subst hthread
    rwa [Function.update_self]
  · rw [Function.update_of_ne hthread]
    exact fun hinside => hthread (h.exclusive hinside hin)

end Moves

/-- What a step of `me` does to a lock, told by its holder and by whether `me`
is inside, each before and after the step. -/
inductive Move (me : τ) (holder after : Option τ) (here next : Prop) : Prop
  | stay (hholder : after = holder) (hsame : next ↔ here)
  | enter (hfree : holder = none) (hholder : after = some me) (hin : next)
  | leave (hholder : after = none) (hin : here) (hout : ¬ next)

theorem Disciplined.move [DecidableEq τ] {holder after : Option τ}
    {place : τ → κ} {inside : κ → Prop}
    (h : Disciplined holder fun thread => inside (place thread))
    {me : τ} {next : κ}
    (hmove : Move me holder after (inside (place me)) (inside next)) :
    Disciplined after fun thread =>
      inside (Function.update place me next thread) := by
  cases hmove with
  | stay hholder hsame =>
      rw [hholder]
      exact h.stay hsame
  | enter hfree hholder hin =>
      rw [hholder]
      exact h.enter hfree hin
  | leave hholder hin hout =>
      rw [hholder]
      exact h.leave hin hout

end LockDiscipline
