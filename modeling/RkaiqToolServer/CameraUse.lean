import RkaiqToolServer.CameraBuffers

/-!
# What a command asks of the camera

A command that reaches the camera begins with an `init_device` or finds the
array as earlier commands left it; then it reads frames, and it may end with an
`uninit_device`.  The condition under which such a command keeps to the arrays
is one on the camera before it, the outcome of its `init_device` and the first
buffer its reads are given.
-/

namespace RkaiqToolServer

open StepRun

theorem trace_released_iff {io : IoMethod} {camera : CameraBuffers}
    (hinv : CameraInv io camera) (calls : List CameraCall)
    (later : List BufferEvent) :
    Released camera (trace (cameraStep io) camera calls ++ later) ↔
      Steps (next (cameraStep io)) (CallGuard io) camera calls ∧
        Released (calls.foldl (next (cameraStep io)) camera) later := by
  induction calls generalizing camera with
  | nil => simp
  | cons call rest ih =>
      rw [trace_cons, List.append_assoc, cameraStep_released_iff hinv,
        steps_cons, List.foldl_cons, and_assoc]
      exact and_congr_right fun _ => ih (hinv.step call)

theorem CameraInv.foldl {io : IoMethod} {camera : CameraBuffers}
    (hinv : CameraInv io camera) (calls : List CameraCall) :
    CameraInv io (calls.foldl (next (cameraStep io)) camera) := by
  induction calls generalizing camera with
  | nil => exact hinv
  | cons call rest ih => exact ih (hinv.step call)

/-- What a command asks of the camera: perhaps an `init_device`, then reads,
and perhaps an `uninit_device`. -/
structure CameraUse where
  init : Option InitCalls
  reads : List (Option ℕ)
  stops : Bool

def stopCalls (stops : Bool) : List CameraCall :=
  if stops then [.uninitDevice] else []

def CameraUse.calls (use : CameraUse) : List CameraCall :=
  use.init.toList.map .initDevice ++
    (use.reads.map .readFrame ++ stopCalls use.stops)

/-- The first buffer the reads deliver. -/
def firstDelivered (reads : List (Option ℕ)) : Option ℕ :=
  (reads.filterMap id).head?

/-- One of the reads works with the array. -/
def ReadsWork (io : IoMethod) (camera : CameraBuffers)
    (reads : List (Option ℕ)) : Prop :=
  match io with
  | .read => reads ≠ [] ∧ camera.buffers ≠ .null
  | .mmap => ∃ index ∈ firstDelivered reads, index < camera.mapped.length
  | .userptr => firstDelivered reads ≠ none ∧ camera.mapped ≠ []

theorem steps_ended {io : IoMethod} {camera : CameraBuffers}
    (hended : camera.alive = false) (calls : List CameraCall) :
    Steps (next (cameraStep io)) (CallGuard io) camera calls := by
  induction calls with
  | nil => trivial
  | cons call rest ih =>
      have hsame : next (cameraStep io) camera call = camera := by
        unfold next cameraStep
        rw [if_pos hended]
      refine ⟨fun halive => absurd (halive.symm.trans hended) (by decide), ?_⟩
      rw [hsame]
      exact ih

theorem current_not_freed {camera : CameraBuffers}
    (hcurrent : camera.current = true) : camera.buffers ≠ .freed := by
  intro hfreed
  simp [CameraBuffers.current, hfreed] at hcurrent

/-- A read works with the array, ends the process, or does nothing. -/
inductive ReadCase (io : IoMethod) (camera : CameraBuffers)
    (delivered : Option ℕ) (rest : List (Option ℕ)) :
    CameraBuffers → Prop
  | works (hworks : Works io camera delivered)
      (hall : ReadsWork io camera (delivered :: rest)) :
      ReadCase io camera delivered rest camera
  | ends (after : CameraBuffers) (hworks : ¬ Works io camera delivered)
      (hended : after.alive = false)
      (hall : ¬ ReadsWork io camera (delivered :: rest))
      (hfirst : camera.buffers = .freed →
        firstDelivered (delivered :: rest) ≠ none) :
      ReadCase io camera delivered rest after
  | idle (hworks : ¬ Works io camera delivered)
      (hall : ReadsWork io camera (delivered :: rest) ↔
        ReadsWork io camera rest)
      (hfirst : firstDelivered (delivered :: rest) = firstDelivered rest) :
      ReadCase io camera delivered rest camera

theorem readBuffers_cases {io : IoMethod} (hmethod : io ≠ .userptr)
    (camera : CameraBuffers) (delivered : Option ℕ)
    (rest : List (Option ℕ)) :
    ReadCase io camera delivered rest (readBuffers io camera delivered).1 := by
  unfold readBuffers
  cases io with
  | read =>
      by_cases hnull : camera.buffers = .null
      · rw [if_pos hnull]
        refine .ends _ ?_ rfl ?_ ?_
        · exact fun hworks => hworks hnull
        · exact fun hall => hall.2 hnull
        · intro hfreed
          rw [hnull] at hfreed
          contradiction
      · rw [if_neg hnull]
        exact .works hnull ⟨by simp, hnull⟩
  | mmap =>
      cases delivered with
      | none =>
          have hfirst : firstDelivered (none :: rest) = firstDelivered rest :=
            rfl
          refine .idle ?_ ?_ hfirst
          · rintro ⟨index, hmem, -⟩
            contradiction
          · rw [ReadsWork, ReadsWork, hfirst]
      | some index =>
          have hfirst : firstDelivered (some index :: rest) = some index := rfl
          by_cases hindex : index < camera.mapped.length
          · simp only [hindex, if_true]
            exact .works ⟨index, rfl, hindex⟩ ⟨index, hfirst, hindex⟩
          · simp only [hindex, if_false]
            refine .ends _ ?_ rfl ?_ (fun _ => by simp [hfirst])
            · rintro ⟨other, hmem, hother⟩
              cases hmem
              exact hindex hother
            · rintro ⟨other, hmem, hother⟩
              cases hfirst.symm.trans hmem
              exact hindex hother
  | userptr => exact absurd rfl hmethod

theorem reads_steps_iff {io : IoMethod} (hmethod : io ≠ .userptr)
    {camera : CameraBuffers} (halive : camera.alive = true)
    (reads : List (Option ℕ)) (stops : Bool) :
    Steps (next (cameraStep io)) (CallGuard io) camera
        (reads.map .readFrame ++ stopCalls stops) ↔
      (ReadsWork io camera reads → camera.current = true) ∧
        (camera.buffers = .freed → stops = true →
          firstDelivered reads ≠ none) := by
  induction reads with
  | nil =>
      have hnone : ¬ ReadsWork io camera [] := by
        unfold ReadsWork
        cases io <;> simp [firstDelivered]
      cases stops with
      | false => simp [stopCalls, hnone]
      | true => simp [stopCalls, hnone, CallGuard, halive, firstDelivered]
  | cons delivered rest ih =>
      have hstep : next (cameraStep io) camera (.readFrame delivered) =
          (readBuffers io camera delivered).1 := by
        unfold next cameraStep
        rw [if_neg (by simp [halive])]
      have hcase := readBuffers_cases hmethod camera delivered rest
      rw [List.map_cons, List.cons_append, steps_cons, hstep, CallGuard,
        forall_prop_of_true halive]
      generalize (readBuffers io camera delivered).1 = after at hcase
      cases hcase with
      | works hworks hall =>
          rw [ih, forall_prop_of_true hworks, forall_prop_of_true hall]
          constructor
          · rintro ⟨hcurrent, -⟩
            exact ⟨hcurrent,
              fun hfreed => absurd hfreed (current_not_freed hcurrent)⟩
          · rintro ⟨hcurrent, -⟩
            exact ⟨hcurrent, fun _ => hcurrent,
              fun hfreed => absurd hfreed (current_not_freed hcurrent)⟩
      | ends other hworks hended hall hfirst =>
          exact iff_of_true
            ⟨fun h => absurd h hworks, steps_ended hended _⟩
            ⟨fun h => absurd h hall, fun hfreed _ => hfirst hfreed⟩
      | idle hworks hall hfirst =>
          rw [ih, hall, hfirst]
          exact and_iff_right fun h => absurd h hworks

/-- The array as the reads of a command find it. -/
def CameraUse.opened (use : CameraUse) (io : IoMethod)
    (camera : CameraBuffers) : CameraBuffers :=
  match use.init with
  | none => camera
  | some calls => (initBuffers io camera calls).1

/-- An `init_device` that makes a new array finds none held; the reads work
with no array but the current one; and an array that has been freed is not
given to `uninit_device`, which the reads prevent only by ending the
process. -/
structure KeepsBuffers (io : IoMethod) (camera : CameraBuffers)
    (use : CameraUse) : Prop where
  unheld : ∀ calls ∈ use.init, ∀ mapped,
    initDevice io camera.mapped calls = .ready mapped → camera.holds = false
  worked : (use.opened io camera).alive = true →
    ReadsWork io (use.opened io camera) use.reads →
      (use.opened io camera).current = true
  unfreed : (use.opened io camera).alive = true →
    (use.opened io camera).buffers = .freed → use.stops = true →
      firstDelivered use.reads ≠ none

theorem CameraUse.steps_iff {io : IoMethod} (hmethod : io ≠ .userptr)
    {camera : CameraBuffers} (halive : camera.alive = true)
    (use : CameraUse) :
    Steps (next (cameraStep io)) (CallGuard io) camera use.calls ↔
      KeepsBuffers io camera use := by
  cases hinit : use.init with
  | none =>
      have hopened : use.opened io camera = camera := by
        rw [CameraUse.opened, hinit]
      rw [CameraUse.calls, hinit, Option.toList_none, List.map_nil,
        List.nil_append, reads_steps_iff hmethod halive]
      constructor
      · rintro ⟨hworked, hunfreed⟩
        refine ⟨by simp [hinit], ?_, ?_⟩
        · rw [hopened]
          exact fun _ => hworked
        · rw [hopened]
          exact fun _ => hunfreed
      · rintro ⟨-, hworked, hunfreed⟩
        rw [hopened] at hworked hunfreed
        exact ⟨hworked halive, hunfreed halive⟩
  | some calls =>
      have hopened :
          use.opened io camera = (initBuffers io camera calls).1 := by
        rw [CameraUse.opened, hinit]
      have hstep : next (cameraStep io) camera (.initDevice calls) =
          use.opened io camera := by
        rw [hopened]
        unfold next cameraStep
        rw [if_neg (by simp [halive])]
      rw [CameraUse.calls, hinit, Option.toList_some, List.map_singleton,
        List.singleton_append, steps_cons, hstep, CallGuard,
        forall_prop_of_true halive]
      by_cases hopenedAlive : (use.opened io camera).alive = true
      · rw [reads_steps_iff hmethod hopenedAlive]
        constructor
        · rintro ⟨hunheld, hworked, hunfreed⟩
          refine ⟨?_, fun _ => hworked, fun _ => hunfreed⟩
          rw [hinit]
          rintro other hmem
          cases hmem
          exact hunheld
        · rintro ⟨hunheld, hworked, hunfreed⟩
          exact ⟨hunheld calls hinit, hworked hopenedAlive,
            hunfreed hopenedAlive⟩
      · have hended : (use.opened io camera).alive = false := by
          simpa using hopenedAlive
        constructor
        · rintro ⟨hunheld, -⟩
          refine ⟨?_, fun h => absurd h hopenedAlive,
            fun h => absurd h hopenedAlive⟩
          rw [hinit]
          rintro other hmem
          cases hmem
          exact hunheld
        · rintro ⟨hunheld, -, -⟩
          exact ⟨hunheld calls hinit, steps_ended hended _⟩

end RkaiqToolServer
