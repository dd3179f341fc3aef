import RkaiqToolServer.LockDiscipline
import RkaiqToolServer.SessionHandoff

/-!
# Who is inside `lock_msg` and `mtx`

A caller is inside `lock_msg` over its whole `sendMessage`, inside `mtx` except
while it waits; the handler takes `mtx` only.
-/

namespace RkaiqToolServer

open LockDiscipline

structure SessionPlace where
  inMsg : Bool
  inMtx : Bool
  deriving DecidableEq

def CallerPc.place : CallerPc → SessionPlace
  | .idle | .lockingMsg _ | .searching _ => ⟨false, false⟩
  | .locking _ | .waiting _ | .relocking _ | .unlockingMsg _ => ⟨true, false⟩
  | .raising _ | .writing _ | .testing _ | .unlocking _ => ⟨true, true⟩

def HandlerPc.place : HandlerPc → SessionPlace
  | .idle | .switching _ | .locking _ => ⟨false, false⟩
  | .clearing _ | .notifying _ | .unlocking _ => ⟨false, true⟩

@[simp] theorem CallerPc.place_wake (pc : CallerPc) :
    pc.wake.place = pc.place := by
  cases pc <;> rfl

namespace SessionState

def place (s : SessionState) : SessionThread → SessionPlace
  | .caller index => (s.callers index).place
  | .handler => s.handler.place

section Fields

variable (s : SessionState)

@[simp] theorem callers_setCaller (index : ℕ) (pc : CallerPc) :
    (s.setCaller index pc).callers = Function.update s.callers index pc := rfl

theorem place_setCaller (index : ℕ) (pc : CallerPc) :
    (s.setCaller index pc).place =
      Function.update s.place (.caller index) pc.place := by
  funext thread
  cases thread with
  | caller other =>
      by_cases h : other = index
      · subst other
        simp [place]
      · simp [place, h]
  | handler => simp [place, setCaller]

theorem place_setHandler (pc : HandlerPc) :
    (s.setHandler pc).place = Function.update s.place .handler pc.place := by
  funext thread
  cases thread <;> simp [place, setHandler]

theorem place_notify : s.notify.place = s.place := by
  funext thread
  cases thread <;> simp [place, notify]

end Fields

end SessionState

def SessionPlace.InMsg (place : SessionPlace) : Prop := place.inMsg = true

def SessionPlace.InMtx (place : SessionPlace) : Prop := place.inMtx = true

structure SessionLocks (s : SessionState) : Prop where
  msg : Disciplined s.lockMsg fun thread => (s.place thread).InMsg
  mtx : Disciplined s.mtx fun thread => (s.place thread).InMtx

theorem sessionLocks_initial (flag : Bool) :
    SessionLocks (.initial flag) where
  msg := by
    refine disciplined_free fun thread hinside => ?_
    cases thread <;> cases hinside
  mtx := by
    refine disciplined_free fun thread hinside => ?_
    cases thread <;> cases hinside

theorem SessionLocks.move {s t : SessionState} (h : SessionLocks s)
    {me : SessionThread} {next : SessionPlace}
    (hplace : t.place = Function.update s.place me next)
    (hmsg : Move me s.lockMsg t.lockMsg (s.place me).InMsg next.InMsg)
    (hmtx : Move me s.mtx t.mtx (s.place me).InMtx next.InMtx) :
    SessionLocks t := by
  constructor
  · rw [hplace]
    exact h.msg.move hmsg
  · rw [hplace]
    exact h.mtx.move hmtx

theorem SessionLocks.notify {s : SessionState} (h : SessionLocks s) :
    SessionLocks s.notify := by
  constructor
  · rw [s.place_notify]
    exact h.msg
  · rw [s.place_notify]
    exact h.mtx

theorem SessionLocks.setCaller {s t : SessionState} (h : SessionLocks s)
    {index : ℕ} {pc next : CallerPc} (hpc : s.callers index = pc)
    (hplace : t.place = s.place)
    (hmsg : Move (.caller index) s.lockMsg t.lockMsg pc.place.InMsg
      next.place.InMsg)
    (hmtx : Move (.caller index) s.mtx t.mtx pc.place.InMtx
      next.place.InMtx) :
    SessionLocks (t.setCaller index next) := by
  subst hpc
  have hmoved : (t.setCaller index next).place =
      Function.update s.place (.caller index) next.place := by
    rw [SessionState.place_setCaller, hplace]
  exact h.move hmoved hmsg hmtx

theorem SessionLocks.setHandler {s t : SessionState} (h : SessionLocks s)
    {pc next : HandlerPc} (hpc : s.handler = pc) (hplace : t.place = s.place)
    (hmsg : Move .handler s.lockMsg t.lockMsg pc.place.InMsg next.place.InMsg)
    (hmtx : Move .handler s.mtx t.mtx pc.place.InMtx next.place.InMtx) :
    SessionLocks (t.setHandler next) := by
  subst hpc
  have hmoved : (t.setHandler next).place =
      Function.update s.place .handler next.place := by
    rw [SessionState.place_setHandler, hplace]
  exact h.move hmoved hmsg hmtx

theorem not_inMsg_out : ¬ SessionPlace.InMsg ⟨false, false⟩ := by
  simp [SessionPlace.InMsg]

theorem not_inMtx_out (inMsg : Bool) : ¬ SessionPlace.InMtx ⟨inMsg, false⟩ := by
  simp [SessionPlace.InMtx]

theorem sessionLocks_sendMessage {s : SessionState} (h : SessionLocks s)
    (index : ℕ) (cmdType : CmdType) (channelName : String) :
    SessionLocks (sendMessage s index cmdType channelName) := by
  rw [sendMessage]
  split
  case isTrue hidle =>
    exact h.setCaller hidle rfl (.stay rfl Iff.rfl) (.stay rfl Iff.rfl)
  case isFalse => exact h

theorem sessionLocks_callerStep {s : SessionState} (h : SessionLocks s)
    (index : ℕ) (written : Bool) :
    SessionLocks (callerStep s index written (s.callers index)) := by
  cases hpc : s.callers index with
  | idle => exact h
  | lockingMsg msg =>
      simp only [callerStep]
      split
      case isTrue hfree =>
        exact h.setCaller hpc rfl (.enter hfree rfl rfl) (.stay rfl Iff.rfl)
      case isFalse => exact h
  | locking msg =>
      simp only [callerStep]
      split
      case isTrue hfree =>
        exact h.setCaller hpc rfl (.stay rfl Iff.rfl) (.enter hfree rfl rfl)
      case isFalse => exact h
  | raising msg =>
      exact h.setCaller hpc rfl (.stay rfl Iff.rfl) (.stay rfl Iff.rfl)
  | writing msg =>
      simp only [callerStep]
      split
      · exact h.setCaller hpc rfl (.stay rfl Iff.rfl) (.stay rfl Iff.rfl)
      · exact h.setCaller hpc rfl (.stay rfl Iff.rfl) (.stay rfl Iff.rfl)
  | testing msg =>
      simp only [callerStep]
      split
      · exact h.setCaller hpc rfl (.stay rfl Iff.rfl)
          (.leave rfl rfl (not_inMtx_out true))
      · exact h.setCaller hpc rfl (.stay rfl Iff.rfl) (.stay rfl Iff.rfl)
  | waiting msg => exact h
  | relocking msg =>
      simp only [callerStep]
      split
      case isTrue hfree =>
        exact h.setCaller hpc rfl (.stay rfl Iff.rfl) (.enter hfree rfl rfl)
      case isFalse => exact h
  | unlocking msg =>
      exact h.setCaller hpc rfl (.stay rfl Iff.rfl)
        (.leave rfl rfl (not_inMtx_out true))
  | unlockingMsg msg =>
      simp only [callerStep]
      split
      · exact h.setCaller hpc rfl (.leave rfl rfl not_inMsg_out)
          (.stay rfl Iff.rfl)
      · exact h.setCaller hpc rfl (.leave rfl rfl not_inMsg_out)
          (.stay rfl Iff.rfl)
  | searching msg =>
      exact h.setCaller hpc rfl (.stay rfl Iff.rfl) (.stay rfl Iff.rfl)

theorem sessionLocks_handlerStep {s : SessionState} (h : SessionLocks s)
    (count : Bool) : SessionLocks (handlerStep s count s.handler) := by
  cases hpc : s.handler with
  | idle =>
      simp only [handlerStep]
      split
      · exact h
      · split
        · exact h.setHandler hpc rfl (.stay rfl Iff.rfl) (.stay rfl Iff.rfl)
        · exact h
  | switching msg =>
      exact h.setHandler hpc rfl (.stay rfl Iff.rfl) (.stay rfl Iff.rfl)
  | locking msg =>
      simp only [handlerStep]
      split
      case isTrue hfree =>
        exact h.setHandler hpc rfl (.stay rfl Iff.rfl) (.enter hfree rfl rfl)
      case isFalse => exact h
  | clearing msg =>
      exact h.setHandler hpc rfl (.stay rfl Iff.rfl) (.stay rfl Iff.rfl)
  | notifying msg =>
      exact h.notify.setHandler hpc rfl (.stay rfl Iff.rfl) (.stay rfl Iff.rfl)
  | unlocking msg =>
      exact h.setHandler hpc rfl (.stay rfl Iff.rfl)
        (.leave rfl rfl (not_inMtx_out false))

theorem sessionLocks_sessionStep {s : SessionState} (h : SessionLocks s)
    (input : SessionInput) : SessionLocks (sessionStep s input) := by
  cases input with
  | createNewChannel index channelName =>
      exact sessionLocks_sendMessage h index .newSession channelName
  | removeChannel index channelName =>
      exact sessionLocks_sendMessage h index .removeSession channelName
  | caller index written => exact sessionLocks_callerStep h index written
  | handler count => exact sessionLocks_handlerStep h count
  | spurious index =>
      have hplace := (s.callers index).place_wake
      refine h.setCaller rfl rfl (.stay rfl ?_) (.stay rfl ?_)
      · rw [hplace]
      · rw [hplace]

end RkaiqToolServer
