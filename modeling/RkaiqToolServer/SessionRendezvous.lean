import RkaiqToolServer.SessionExchange

/-!
# The rendezvous of callers and handler

What each caller knows of the message in flight, by its place in `sendMessage`;
every step of a caller and of the handler keeps it.
-/

namespace RkaiqToolServer

open LockDiscipline StepRun

def CallerPc.awaiting : CallerPc → Option SessionMessage
  | .testing msg | .waiting msg | .relocking msg | .unlocking msg
  | .unlockingMsg msg => some msg
  | _ => none

@[simp] theorem CallerPc.awaiting_wake (pc : CallerPc) :
    pc.wake.awaiting = pc.awaiting := by
  cases pc <;> rfl

structure Rendezvous (s : SessionState) : Prop where
  locks : SessionLocks s
  exchange : ExchangeOk s.exchange
  free : s.lockMsg = none → s.exchange.inFlight = []
  callers : ∀ index, CallerOk s.exchange index (s.callers index)
  returned : ∀ msg ∈ s.returned, msg ∈ s.handled
  held : ∀ msg ∈ s.sent, msg ∈ s.returned ∨
    ∃ index, (s.callers index).awaiting = some msg

/-! ## Callers -/

section Callers

variable {s : SessionState} (h : Rendezvous s) {index : ℕ} {msg : SessionMessage}
include h

theorem Rendezvous.caller {pc : CallerPc} (hpc : s.callers index = pc) :
    CallerOk s.exchange index pc := by
  rw [← hpc]
  exact h.callers index

omit h in
theorem callers_update {x : Exchange} {next : CallerPc}
    (hnext : CallerOk x index next)
    (hothers : ∀ other, other ≠ index → CallerOk x other (s.callers other))
    (other : ℕ) :
    CallerOk x other (Function.update s.callers index next other) := by
  by_cases hother : other = index
  · subst hother
    rw [Function.update_self]
    exact hnext
  · rw [Function.update_of_ne hother]
    exact hothers other hother

omit h in
/-- A call goes on awaiting its message until it returns. -/
theorem held_update {pc next : CallerPc} {sent returned : List SessionMessage}
    (hpc : s.callers index = pc)
    (h : ∀ msg ∈ sent, msg ∈ s.returned ∨
      ∃ index, (s.callers index).awaiting = some msg)
    (hkeep : ∀ msg ∈ s.returned, msg ∈ returned)
    (hnext : ∀ msg, pc.awaiting = some msg →
      next.awaiting = some msg ∨ msg ∈ returned) :
    ∀ msg ∈ sent, msg ∈ returned ∨ ∃ other,
      (Function.update s.callers index next other).awaiting = some msg := by
  intro msg hmsg
  rcases h msg hmsg with hreturned | ⟨other, hawaiting⟩
  · exact .inl (hkeep msg hreturned)
  · by_cases hother : other = index
    · subst hother
      rw [hpc] at hawaiting
      rcases hnext msg hawaiting with hlater | hreturned
      · exact .inr ⟨other, by rwa [Function.update_self]⟩
      · exact .inl hreturned
    · exact .inr ⟨other, by rwa [Function.update_of_ne hother]⟩

/-- The step of a caller that leaves the exchange as it is. -/
theorem Rendezvous.setCaller {t : SessionState} {pc next : CallerPc}
    (hpc : s.callers index = pc)
    (hlocks : SessionLocks (t.setCaller index next))
    (hexchange : t.exchange = s.exchange) (hcallers : t.callers = s.callers)
    (hfree : t.lockMsg = none → s.exchange.inFlight = [])
    (hnext : CallerOk s.exchange index next)
    (hreturned : ∀ other ∈ t.returned, other ∈ s.handled)
    (hkeep : ∀ other ∈ s.returned, other ∈ t.returned)
    (hheld : ∀ other, pc.awaiting = some other →
      next.awaiting = some other ∨ other ∈ t.returned) :
    Rendezvous (t.setCaller index next) where
  locks := hlocks
  exchange := by
    show ExchangeOk t.exchange
    rw [hexchange]
    exact h.exchange
  free := by
    show t.lockMsg = none → t.exchange.inFlight = []
    rw [hexchange]
    exact hfree
  callers := by
    intro other
    show CallerOk t.exchange other _
    rw [hexchange, SessionState.callers_setCaller, hcallers]
    exact callers_update hnext (fun other _ => h.callers other) other
  returned := by
    have hhandled : t.handled = s.handled := congrArg Exchange.handled hexchange
    show ∀ other ∈ t.returned, other ∈ t.handled
    rw [hhandled]
    exact hreturned
  held := by
    have hsent : t.sent = s.sent := congrArg Exchange.sent hexchange
    show ∀ msg ∈ t.sent, msg ∈ t.returned ∨ ∃ other,
      (Function.update t.callers index next other).awaiting = some msg
    rw [hsent, hcallers]
    exact held_update hpc h.held hkeep hheld

theorem Rendezvous.call (index : ℕ) (cmdType : CmdType)
    (channelName : String) :
    Rendezvous (sendMessage s index cmdType channelName) := by
  have hlocks := sessionLocks_sendMessage h.locks index cmdType channelName
  unfold sendMessage at hlocks ⊢
  split
  case isFalse => exact h
  case isTrue hidle =>
    rw [if_pos hidle] at hlocks
    have hexchange := h.exchange
    refine ⟨hlocks, ⟨fun msg hmsg => ?_, hexchange.nodup, hexchange.order,
      hexchange.uncleared, hexchange.cleared⟩, h.free, ?_, h.returned,
      held_update hidle h.held (fun _ => id) fun _ => .inl⟩
    · have hnumber := hexchange.numbered msg hmsg
      show msg.number <
        Function.update s.calls index (s.calls index + 1) msg.sender
      by_cases hsender : msg.sender = index
      · rw [hsender, Function.update_self]
        rw [hsender] at hnumber
        exact Nat.lt_succ_of_lt hnumber
      · rw [Function.update_of_ne hsender]
        exact hnumber
    · apply callers_update
      · refine ⟨rfl, ?_, fun other hother hsender => ?_⟩
        · show s.calls index <
            Function.update s.calls index (s.calls index + 1) index
          rw [Function.update_self]
          exact Nat.lt_succ_self _
        · have hnumber := hexchange.numbered other hother
          rwa [hsender] at hnumber
      · intro other hother
        exact (h.callers other).mono (Function.update_of_ne hother ..) rfl rfl
          rfl (fun _ => id) (.inr id)

/-- Inside `lock_msg` a caller is alone. -/
theorem Rendezvous.others_outside {pc : CallerPc}
    (hpc : s.callers index = pc) (hin : pc.place.InMsg) {other : ℕ}
    (hother : other ≠ index) : ¬ (s.callers other).place.InMsg := by
  intro hinside
  have hme : (s.callers index).place.InMsg := by rwa [hpc]
  have hsame : SessionThread.caller other = .caller index :=
    h.locks.msg.exclusive hinside hme
  cases hsame
  exact hother rfl

theorem Rendezvous.raise (hpc : s.callers index = .raising msg) :
    Rendezvous ((s.setFlag true).setCaller index (.writing msg)) := by
  have hlocks := sessionLocks_callerStep h.locks index false
  rw [hpc, callerStep] at hlocks
  have hown := h.caller hpc
  refine ⟨hlocks, ?_, h.free, ?_, h.returned,
    held_update hpc h.held (fun _ => id) fun _ => .inl⟩
  · have hexchange := h.exchange
    refine ⟨hexchange.numbered, hexchange.nodup, hexchange.order,
      hexchange.uncleared, fun hcleared => ?_⟩
    have hhandler : (s.place .handler).InMtx := by
      show s.handler.place.InMtx
      have hpast : s.handler.cleared = true := hcleared
      cases hpc' : s.handler with
      | notifying other | unlocking other => rfl
      | _ =>
          rw [hpc'] at hpast
          cases hpast
    have hme : (s.place (.caller index)).InMtx := by
      show (s.callers index).place.InMtx
      rw [hpc]
      rfl
    have hsame := h.locks.mtx.exclusive hhandler hme
    cases hsame
  · apply callers_update
    · exact ⟨hown.1.congr rfl rfl, hown.2, rfl⟩
    · intro other hother
      exact (h.callers other).outside (h.others_outside hpc rfl hother) rfl
        fun _ hmem _ => hmem

theorem Rendezvous.write (hpc : s.callers index = .writing msg) :
    Rendezvous ((s.write msg).setCaller index (.testing msg)) := by
  have hlocks := sessionLocks_callerStep h.locks index true
  rw [hpc, callerStep, if_pos rfl] at hlocks
  obtain ⟨hunsent, hflight, hflag⟩ := h.caller hpc
  have hexchange := h.exchange
  refine ⟨hlocks, ⟨?_, ?_, ?_, hexchange.uncleared, hexchange.cleared⟩,
    fun hfree => ?_, ?_, h.returned, fun other hother => ?_⟩
  · intro other hother
    rcases List.mem_append.mp hother with hbefore | hnow
    · exact hexchange.numbered other hbefore
    · rw [List.mem_singleton.mp hnow, hunsent.sender]
      exact hunsent.number
  · show (s.sent ++ [msg]).Nodup
    exact List.nodup_append.mpr ⟨hexchange.nodup, List.nodup_singleton msg,
      fun other hother _ hnow hsame =>
        hunsent.not_mem (List.mem_singleton.mp hnow ▸ hsame ▸ hother)⟩
  · show s.sent ++ [msg] =
      s.handled ++ s.handler.unhandled ++ (s.pipe ++ [msg])
    rw [← List.append_assoc]
    exact congrArg (· ++ [msg]) hexchange.order
  · have hme : (s.callers index).place.InMsg := by
      rw [hpc]
      rfl
    exact absurd hme (h.locks.msg.outside hfree (.caller index))
  · apply callers_update
    · refine .written hflag ?_
      show s.handler.unhandled ++ s.handler.uncleared ++ (s.pipe ++ [msg]) =
        [msg]
      have hnone : s.handler.unhandled ++ s.handler.uncleared ++ s.pipe = [] :=
        hflight
      rw [← List.append_assoc, hnone, List.nil_append]
    · intro other hother
      refine (h.callers other).outside (h.others_outside hpc rfl hother) rfl ?_
      intro newer hnewer hsender
      rcases List.mem_append.mp hnewer with hbefore | hnow
      · exact hbefore
      · rw [List.mem_singleton.mp hnow, hunsent.sender] at hsender
        exact absurd hsender.symm hother
  · rcases List.mem_append.mp hother with hbefore | hnow
    · refine held_update hpc h.held (fun _ => id) (fun msg hmsg => ?_) other
        hbefore
      cases hmsg
    · right
      refine ⟨index, ?_⟩
      rw [SessionState.callers_setCaller, Function.update_self,
        List.mem_singleton.mp hnow]
      rfl

theorem Rendezvous.stepCaller (index : ℕ) (written : Bool) :
    Rendezvous (callerStep s index written (s.callers index)) := by
  have hlocks := sessionLocks_callerStep h.locks index written
  cases hpc : s.callers index with
  | idle => exact h
  | lockingMsg msg =>
      have hown := h.caller hpc
      rw [hpc] at hlocks
      simp only [callerStep] at hlocks ⊢
      split
      case isTrue hfree =>
        rw [if_pos hfree] at hlocks
        refine h.setCaller hpc hlocks rfl rfl (fun hnone => ?_)
          ⟨hown, h.free hfree⟩ h.returned (fun _ => id) fun _ => .inl
        cases hnone
      case isFalse => exact h
  | locking msg =>
      have hown := h.caller hpc
      rw [hpc] at hlocks
      simp only [callerStep] at hlocks ⊢
      split
      case isTrue hfree =>
        rw [if_pos hfree] at hlocks
        exact h.setCaller hpc hlocks rfl rfl h.free hown h.returned
          (fun _ => id) fun _ => .inl
      case isFalse => exact h
  | raising msg => exact h.raise hpc
  | writing msg =>
      obtain ⟨hunsent, hflight, hflag⟩ := h.caller hpc
      rw [hpc] at hlocks
      cases written with
      | true => exact h.write hpc
      | false =>
          exact h.setCaller hpc hlocks rfl rfl h.free
            (.unwritten hflag hflight hunsent.not_mem) h.returned (fun _ => id)
            fun _ hnone => by cases hnone
  | testing msg =>
      have hown : Awaits s.exchange msg := h.caller hpc
      rw [hpc] at hlocks
      simp only [callerStep] at hlocks ⊢
      split
      case isTrue hflag =>
        rw [if_pos hflag] at hlocks
        refine h.setCaller hpc hlocks rfl rfl h.free ⟨hown, fun hfalse => ?_⟩
          h.returned (fun _ => id) fun _ => .inl
        exact absurd (hfalse.symm.trans hflag) Bool.false_ne_true
      case isFalse hflag =>
        rw [if_neg hflag] at hlocks
        refine h.setCaller hpc hlocks rfl rfl h.free ?_ h.returned
          (fun _ => id) fun _ => .inl
        cases hown with
        | written htrue hone => exact absurd htrue hflag
        | unwritten htrue hnone hsent => exact absurd htrue hflag
        | answered hfalse hnone hhandled => exact ⟨hnone, hhandled⟩
  | waiting msg => exact h
  | relocking msg =>
      have hown := h.caller hpc
      rw [hpc] at hlocks
      simp only [callerStep] at hlocks ⊢
      split
      case isTrue hfree =>
        rw [if_pos hfree] at hlocks
        exact h.setCaller hpc hlocks rfl rfl h.free hown h.returned
          (fun _ => id) fun _ => .inl
      case isFalse => exact h
  | unlocking msg =>
      have hown := h.caller hpc
      rw [hpc] at hlocks
      exact h.setCaller hpc hlocks rfl rfl h.free hown h.returned
          (fun _ => id) fun _ => .inl
  | unlockingMsg msg =>
      obtain ⟨hflight, hhandled⟩ := h.caller hpc
      rw [hpc] at hlocks
      refine h.setCaller hpc hlocks rfl rfl (fun _ => hflight) ?_ ?_
        (fun _ => List.mem_append_left _) fun other hother => .inr ?_
      · cases msg.cmdType <;> trivial
      · intro other hother
        rcases List.mem_append.mp hother with hbefore | hnow
        · exact h.returned other hbefore
        · rwa [List.mem_singleton.mp hnow]
      · rw [← Option.some.inj hother]
        exact List.mem_append_right _ (List.mem_singleton_self msg)
  | searching msg =>
      rw [hpc] at hlocks
      exact h.setCaller hpc hlocks rfl rfl h.free trivial h.returned
        (fun _ => id) fun _ => .inl

end Callers

/-! ## The handler -/

section Handler

variable {s : SessionState} (h : Rendezvous s)
include h

theorem Rendezvous.stepHandler (count : Bool) :
    Rendezvous (handlerStep s count s.handler) := by
  have hlocks := sessionLocks_handlerStep h.locks count
  have hexchange := h.exchange
  cases hpc : s.handler with
  | idle =>
      rw [hpc] at hlocks
      simp only [handlerStep] at hlocks ⊢
      split
      case h_1 => exact h
      case h_2 msg rest hpipe =>
        split
        case isTrue hcount =>
          simp only [hpipe, if_pos hcount] at hlocks
          refine ⟨hlocks, hexchange.read hpc hpipe, fun hfree => ?_,
            fun index => (h.callers index).read hpc hpipe, h.returned, h.held⟩
          have hnone := h.free hfree
          simp [Exchange.inFlight, SessionState.exchange, hpipe] at hnone
        case isFalse => exact h
  | switching msg =>
      rw [hpc] at hlocks
      refine ⟨hlocks, hexchange.switch hpc, fun hfree => ?_,
        fun index => (h.callers index).switch hpc, fun other hother => ?_,
        h.held⟩
      · have hnone := h.free hfree
        simp [Exchange.inFlight, SessionState.exchange, HandlerPc.unhandled,
          hpc] at hnone
      · exact List.mem_append_left _ (h.returned other hother)
  | locking msg =>
      rw [hpc] at hlocks
      simp only [handlerStep] at hlocks ⊢
      split
      case isTrue hfree =>
        rw [if_pos hfree] at hlocks
        have hflight : Exchange.inFlight
            { s.exchange with handler := .clearing msg } =
              s.exchange.inFlight :=
          inFlight_setHandler hpc rfl rfl
        refine ⟨hlocks, hexchange.setHandler hpc rfl rfl (fun hnext => ?_),
          fun hnobody => hflight.trans (h.free hnobody),
          fun index => (h.callers index).setHandler hpc rfl rfl (.inr rfl),
          h.returned, h.held⟩
        cases hnext
      case isFalse => exact h
  | clearing msg =>
      have hhandled : msg ∈ s.handled :=
        hexchange.uncleared msg (by
          show msg ∈ s.handler.uncleared
          rw [hpc]
          exact List.mem_singleton_self msg)
      rw [hpc] at hlocks
      refine ⟨hlocks, hexchange.clear hpc, fun hfree => ?_,
        fun index => (h.callers index).clear hpc hhandled, h.returned, h.held⟩
      have hnone := h.free hfree
      simp [Exchange.inFlight, SessionState.exchange, HandlerPc.uncleared,
        hpc] at hnone
  | notifying msg =>
      rw [hpc] at hlocks
      have hflight : Exchange.inFlight
          { s.exchange with handler := .unlocking msg } =
            s.exchange.inFlight :=
        inFlight_setHandler hpc rfl rfl
      refine ⟨hlocks, hexchange.setHandler hpc rfl rfl (fun _ => rfl),
        fun hfree => hflight.trans (h.free hfree),
        fun index => (h.callers index).notify hpc, h.returned,
        fun other hother => ?_⟩
      rcases h.held other hother with hreturned | ⟨index, hawaiting⟩
      · exact .inl hreturned
      · right
        refine ⟨index, ?_⟩
        show (s.callers index).wake.awaiting = some other
        rwa [CallerPc.awaiting_wake]
  | unlocking msg =>
      rw [hpc] at hlocks
      have hflight : Exchange.inFlight { s.exchange with handler := .idle } =
          s.exchange.inFlight :=
        inFlight_setHandler hpc rfl rfl
      refine ⟨hlocks, hexchange.setHandler hpc rfl rfl (fun hnext => ?_),
        fun hfree => hflight.trans (h.free hfree),
        fun index => (h.callers index).setHandler hpc rfl rfl (.inr rfl),
        h.returned, h.held⟩
      cases hnext

end Handler

theorem Rendezvous.step {s : SessionState} (h : Rendezvous s)
    (input : SessionInput) : Rendezvous (sessionStep s input) := by
  cases input with
  | createNewChannel index channelName =>
      exact h.call index .newSession channelName
  | removeChannel index channelName =>
      exact h.call index .removeSession channelName
  | caller index written => exact h.stepCaller index written
  | handler count => exact h.stepHandler count
  | spurious index =>
      have hlocks := sessionLocks_sessionStep h.locks (.spurious index)
      refine h.setCaller rfl hlocks rfl rfl h.free (h.callers index).wake
        h.returned (fun _ => id) fun other hother => .inl ?_
      rwa [CallerPc.awaiting_wake]

theorem rendezvous_initial (flag : Bool) : Rendezvous (.initial flag) where
  locks := sessionLocks_initial flag
  exchange := by
    refine ⟨fun msg hmsg => ?_, List.nodup_nil, rfl, fun msg hmsg => ?_,
      fun hcleared => ?_⟩
    · cases hmsg
    · cases hmsg
    · cases hcleared
  free := fun _ => rfl
  callers := fun index => trivial
  returned := by
    intro msg hmsg
    cases hmsg
  held := by
    intro msg hmsg
    cases hmsg

end RkaiqToolServer
