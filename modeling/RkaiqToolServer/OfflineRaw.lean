import Mathlib.Data.List.Sort
import RkaiqToolServer.ByteCodec
import RkaiqToolServer.StepRun

/-!
# Offline raw processing

A start message creates a detached thread that runs `offlineRawProcess`; a stop
message clears `startOfflineRawFlag`.  The thread stores the flag itself in its
first step, so a stop that is handled before that step is overwritten, and a
start does not look whether a thread is there already.
-/

namespace RkaiqToolServer

open ByteCodec StepRun

/-- Where a thread is in `offlineRawProcess`: before it stores the flag, at the
test of the outer loop, before it reads the directory, at the next file of the
inner loop, inside the enqueue call with the files after it, or returned. -/
inductive OfflinePc
  | starting
  | testing
  | listing
  | nextFile (rawFiles : List (List UInt8))
  | enqueueing (rawFiles : List (List UInt8))
  | ended
  deriving DecidableEq

inductive OfflineEvent
  | started
  | stopped
  | begun (thread : ℕ) (rawFile : List UInt8)
  deriving DecidableEq

/-- `log` records the handled start and stop messages and the files whose
enqueueing was begun, in their order. -/
structure OfflineState where
  startOfflineRawFlag : ℤ
  threads : List OfflinePc
  log : List OfflineEvent
  deriving DecidableEq

def OfflineState.initial : OfflineState where
  startOfflineRawFlag := 0
  threads := []
  log := []

/-- What the thread's calls give it in a step: the names of the regular files
in the directory, in the order of `readdir`, and the result of the enqueue. -/
structure OfflineCalls where
  regularFiles : List (List UInt8)
  enqueued : ℤ
  deriving DecidableEq

inductive OfflineInput
  | control (offlineRawModeControl : ℤ)
  | thread (index : ℕ) (calls : OfflineCalls)
  deriving DecidableEq

/-! ## Steps -/

/-- The names that contain `.raw`, sorted. -/
def rawFilesOf (regularFiles : List (List UInt8)) : List (List UInt8) :=
  (regularFiles.filter fun name => ascii ".raw" <:+: name).insertionSort
    fun first second => first ≤ second

def OfflineState.record (s : OfflineState) (event : OfflineEvent) :
    OfflineState :=
  { s with log := s.log ++ [event] }

def OfflineState.setThread (s : OfflineState) (index : ℕ) (pc : OfflinePc) :
    OfflineState :=
  { s with threads := s.threads.set index pc }

def handlerOfflineRawProcess (s : OfflineState) (offlineRawModeControl : ℤ) :
    OfflineState :=
  if offlineRawModeControl = 1 then
    OfflineState.record { s with threads := s.threads ++ [.starting] } .started
  else if offlineRawModeControl = 0 then
    OfflineState.record { s with startOfflineRawFlag := 0 } .stopped
  else s

def offlineRawProcess (s : OfflineState) (index : ℕ) (calls : OfflineCalls) :
    OfflinePc → OfflineState
  | .starting =>
      OfflineState.setThread { s with startOfflineRawFlag := 1 } index .testing
  | .testing =>
      s.setThread index (if s.startOfflineRawFlag = 1 then .listing else .ended)
  | .listing =>
      let rawFiles := rawFilesOf calls.regularFiles
      s.setThread index (if rawFiles = [] then .ended else .nextFile rawFiles)
  | .nextFile [] => s.setThread index .testing
  | .nextFile (rawFile :: rest) =>
      if s.startOfflineRawFlag = 0 then s.setThread index .testing
      else (s.setThread index (.enqueueing rest)).record (.begun index rawFile)
  | .enqueueing rest =>
      s.setThread index (if calls.enqueued ≠ 0 then .ended else .nextFile rest)
  | .ended => s

def offlineStep (s : OfflineState) : OfflineInput → OfflineState
  | .control offlineRawModeControl =>
      handlerOfflineRawProcess s offlineRawModeControl
  | .thread index calls =>
      match s.threads[index]? with
      | none => s
      | some pc => offlineRawProcess s index calls pc

/-! ## What is wanted of a run -/

/-- After a stop that no start follows, no file is begun. -/
def StopKept (log : List OfflineEvent) : Prop :=
  ∀ before after, log = before ++ .stopped :: after → .started ∉ after →
    ∀ thread rawFile, .begun thread rawFile ∉ after

def OfflineState.running (s : OfflineState) : ℕ :=
  s.threads.countP fun pc => pc ≠ .ended

def OfflineSafe (s : OfflineState) : Prop :=
  StopKept s.log ∧ s.running ≤ 1

/-- A start comes only when no thread is running, and a stop only when no
created thread has its store of the flag still before it. -/
def ControlAllowed (s : OfflineState) : OfflineInput → Prop
  | .control offlineRawModeControl =>
      (offlineRawModeControl = 1 → s.running = 0) ∧
        (offlineRawModeControl = 0 → .starting ∉ s.threads)
  | .thread _ _ => True

instance (s : OfflineState) :
    ∀ input, Decidable (ControlAllowed s input)
  | .control _ => inferInstanceAs (Decidable (_ ∧ _))
  | .thread _ _ => .isTrue trivial

/-! ## The log -/

def StopPending (log : List OfflineEvent) : Prop :=
  ∃ before after, log = before ++ .stopped :: after ∧ .started ∉ after

theorem append_eq_append_cons {log before after : List OfflineEvent}
    {event first : OfflineEvent}
    (h : log ++ [event] = before ++ first :: after) :
    (after = [] ∧ event = first ∧ log = before) ∨
      ∃ earlier, after = earlier ++ [event] ∧
        log = before ++ first :: earlier := by
  rcases List.eq_nil_or_concat' after with rfl | ⟨earlier, last, rfl⟩
  · obtain ⟨hlog, hevent⟩ := List.append_inj' h rfl
    exact .inl ⟨rfl, by simpa using hevent, hlog⟩
  · rw [← List.cons_append, ← List.append_assoc] at h
    obtain ⟨hlog, hevent⟩ := List.append_inj' h rfl
    exact .inr ⟨earlier, by simpa using hevent.symm, hlog⟩

theorem not_stopPending_started (log : List OfflineEvent) :
    ¬ StopPending (log ++ [.started]) := by
  rintro ⟨before, after, hlog, hstarted⟩
  rcases append_eq_append_cons hlog with ⟨-, hevent, -⟩ | ⟨earlier, rfl, -⟩
  · cases hevent
  · simp at hstarted

theorem StopPending.of_begun {log : List OfflineEvent} {thread : ℕ}
    {rawFile : List UInt8} (h : StopPending (log ++ [.begun thread rawFile])) :
    StopPending log := by
  obtain ⟨before, after, hlog, hstarted⟩ := h
  rcases append_eq_append_cons hlog with ⟨-, hevent, -⟩ | ⟨earlier, rfl, hlog'⟩
  · cases hevent
  · exact ⟨before, earlier, hlog', by simpa using hstarted⟩

theorem StopKept.append {log : List OfflineEvent} {event : OfflineEvent}
    (h : StopKept log)
    (hevent : ∀ thread rawFile, event = .begun thread rawFile →
      ¬ StopPending log) :
    StopKept (log ++ [event]) := by
  intro before after hlog hstarted thread rawFile hbegun
  rcases append_eq_append_cons hlog with ⟨rfl, -, -⟩ | ⟨earlier, rfl, hlog'⟩
  · simp at hbegun
  · have hearlier : .started ∉ earlier := fun hmem =>
      hstarted (List.mem_append_left _ hmem)
    rcases List.mem_append.mp hbegun with hmem | hlast
    · exact h before earlier hlog' hearlier thread rawFile hmem
    · exact hevent thread rawFile (List.mem_singleton.mp hlast).symm
        ⟨before, earlier, hlog', hearlier⟩

/-! ## Running threads -/

theorem OfflineState.running_setThread {s : OfflineState} {index : ℕ}
    {pc : OfflinePc} (hpc : s.threads[index]? = some pc) (hrun : pc ≠ .ended)
    (pc' : OfflinePc) : (s.setThread index pc').running ≤ s.running := by
  obtain ⟨hindex, hget⟩ := List.getElem?_eq_some_iff.mp hpc
  have hcounted : 0 < s.running :=
    List.countP_pos_iff.mpr ⟨pc, List.mem_of_getElem? hpc, by simpa using hrun⟩
  simp only [OfflineState.running, OfflineState.setThread] at hcounted ⊢
  rw [List.countP_set hindex, hget, if_pos (by simpa using hrun)]
  split <;> omega

theorem OfflineState.starting_setThread {s : OfflineState} {index : ℕ}
    {pc : OfflinePc} (hpc : pc ≠ .starting)
    (h : .starting ∉ s.threads) : .starting ∉ (s.setThread index pc).threads := by
  intro hmem
  rcases List.mem_or_eq_of_mem_set hmem with hold | hnew
  · exact h hold
  · exact hpc hnew.symm

/-! ## The invariant -/

structure OfflineInvariant (s : OfflineState) : Prop where
  safe : OfflineSafe s
  quiet : StopPending s.log →
    s.startOfflineRawFlag = 0 ∧ .starting ∉ s.threads

theorem offlineInvariant_initial : OfflineInvariant .initial where
  safe := by
    refine ⟨?_, by decide⟩
    intro before after hlog
    simp [OfflineState.initial] at hlog
  quiet := by
    rintro ⟨before, after, hlog, -⟩
    simp [OfflineState.initial] at hlog

theorem OfflineInvariant.control {s : OfflineState} (h : OfflineInvariant s)
    (offlineRawModeControl : ℤ)
    (hallowed : ControlAllowed s (.control offlineRawModeControl)) :
    OfflineInvariant (handlerOfflineRawProcess s offlineRawModeControl) := by
  rw [handlerOfflineRawProcess]
  split
  case isTrue hstart =>
    refine ⟨⟨h.safe.1.append (by simp), ?_⟩, fun hpending => ?_⟩
    · have hnone := hallowed.1 hstart
      rw [OfflineState.running] at hnone
      rw [OfflineState.running, OfflineState.record, List.countP_append, hnone]
      decide
    · exact absurd hpending (not_stopPending_started s.log)
  case isFalse =>
    split
    case isTrue hstop =>
      exact ⟨⟨h.safe.1.append (by simp), h.safe.2⟩,
        fun _ => ⟨rfl, hallowed.2 hstop⟩⟩
    case isFalse => exact h

/-- A step of a thread that leaves the flag and the log as they are. -/
theorem OfflineInvariant.setThread {s : OfflineState} (h : OfflineInvariant s)
    {index : ℕ} {pc pc' : OfflinePc} (hpc : s.threads[index]? = some pc)
    (hrun : pc ≠ .ended) (hpc' : pc' ≠ .starting) :
    OfflineInvariant (s.setThread index pc') where
  safe := ⟨h.safe.1, (OfflineState.running_setThread hpc hrun pc').trans h.safe.2⟩
  quiet := fun hpending =>
    ⟨(h.quiet hpending).1,
      OfflineState.starting_setThread hpc' (h.quiet hpending).2⟩

theorem OfflineInvariant.thread {s : OfflineState} (h : OfflineInvariant s)
    (index : ℕ) (calls : OfflineCalls) {pc : OfflinePc}
    (hpc : s.threads[index]? = some pc) :
    OfflineInvariant (offlineRawProcess s index calls pc) := by
  cases pc with
  | starting =>
      have hstarting : .starting ∈ s.threads := List.mem_of_getElem? hpc
      refine ⟨⟨h.safe.1, ?_⟩, fun hpending => ?_⟩
      · exact (OfflineState.running_setThread hpc (by decide) .testing).trans
          h.safe.2
      · exact absurd hstarting (h.quiet hpending).2
  | testing =>
      refine h.setThread hpc (by decide) ?_
      split <;> decide
  | listing =>
      refine h.setThread hpc (by decide) ?_
      split <;> simp
  | nextFile rawFiles =>
      cases rawFiles with
      | nil => exact h.setThread hpc (by simp) (by simp)
      | cons rawFile rest =>
          rw [offlineRawProcess]
          split
          case isTrue => exact h.setThread hpc (by simp) (by simp)
          case isFalse hflag =>
            have hnot : ¬ StopPending s.log := fun hpending =>
              hflag (h.quiet hpending).1
            have hset : OfflineInvariant (s.setThread index (.enqueueing rest)) :=
              h.setThread hpc (by simp) (by simp)
            exact ⟨⟨h.safe.1.append fun _ _ _ => hnot, hset.safe.2⟩,
              fun hpending => absurd hpending.of_begun hnot⟩
  | enqueueing rest =>
      refine h.setThread hpc (by simp) ?_
      split <;> simp
  | ended => exact h

theorem OfflineInvariant.step (s : OfflineState) (input : OfflineInput)
    (h : OfflineInvariant s) (hallowed : ControlAllowed s input) :
    OfflineInvariant (offlineStep s input) := by
  cases input with
  | control offlineRawModeControl => exact h.control _ hallowed
  | thread index calls =>
      rw [offlineStep]
      split
      · exact h
      · exact h.thread index calls ‹_›

theorem offlineSafe_of_controlAllowed (inputs : List OfflineInput)
    (hallowed : Steps offlineStep ControlAllowed .initial inputs) :
    States offlineStep OfflineSafe .initial inputs :=
  (states_of_steps OfflineInvariant.step offlineInvariant_initial
    hallowed).mono fun _ h => h.safe

/-- A stop while a file is being enqueued: the file after it is not begun. -/
theorem stopBetweenFiles_safe :
    States offlineStep OfflineSafe .initial
      [.control 1, .thread 0 ⟨[], 0⟩, .thread 0 ⟨[], 0⟩,
        .thread 0 ⟨[ascii "b.raw", ascii "a.raw"], 0⟩, .thread 0 ⟨[], 0⟩,
        .control 0, .thread 0 ⟨[], 0⟩, .thread 0 ⟨[], 0⟩] :=
  offlineSafe_of_controlAllowed _ (by decide)

/-- The stop is handled before the created thread stores the flag. -/
theorem earlyStop_lost :
    ¬ States offlineStep OfflineSafe .initial
      [.control 1, .control 0, .thread 0 ⟨[], 0⟩, .thread 0 ⟨[], 0⟩,
        .thread 0 ⟨[ascii "frame0.raw"], 0⟩, .thread 0 ⟨[], 0⟩] := by
  intro hsafe
  have hlog := hsafe.2.2.2.2.2.2.1
  exact hlog [.started] [.begun 0 (ascii "frame0.raw")] (by decide)
    (by decide) 0 (ascii "frame0.raw") (by decide)

end RkaiqToolServer
