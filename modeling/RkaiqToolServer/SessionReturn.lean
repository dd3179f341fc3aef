import RkaiqToolServer.SessionRendezvous

/-!
# The return from `sendMessage`

In every reachable state of the hand-off the messages handled are the first
ones sent, in their order; a caller returns from `sendMessage` after its own
message, one that waits is still to be woken, and every call whose message was
sent can come to its end.
-/

namespace RkaiqToolServer

open StepRun

/-- The handler and the caller of `msg` can go on by themselves until its
`sendMessage` returns. -/
def CanReturn (s : SessionState) (index : ℕ) (msg : SessionMessage) : Prop :=
  ∃ inputs : List SessionInput,
    (∀ input ∈ inputs, input = .handler true ∨ input = .caller index true) ∧
      msg ∈ (inputs.foldl sessionStep s).returned

section Return

variable {s : SessionState} {index : ℕ} {msg answer : SessionMessage}

theorem CanReturn.after (input : SessionInput)
    (hinput : input = .handler true ∨ input = .caller index true)
    (h : CanReturn (sessionStep s input) index msg) :
    CanReturn s index msg := by
  obtain ⟨inputs, hgoesOn, hreturned⟩ := h
  refine ⟨input :: inputs, ?_, hreturned⟩
  intro other hother
  rcases List.mem_cons.mp hother with rfl | hlater
  · exact hinput
  · exact hgoesOn other hlater

theorem canReturn_of_unlockingMsg
    (hpc : s.callers index = .unlockingMsg msg) : CanReturn s index msg := by
  apply CanReturn.after (.caller index true) (.inr rfl)
  rw [sessionStep, hpc]
  refine ⟨[], by simp, ?_⟩
  exact List.mem_append_right _ (List.mem_singleton_self msg)

theorem canReturn_of_unlocking (hpc : s.callers index = .unlocking msg) :
    CanReturn s index msg := by
  apply CanReturn.after (.caller index true) (.inr rfl)
  rw [sessionStep, hpc, callerStep]
  exact canReturn_of_unlockingMsg (by simp)

theorem canReturn_of_lowered (hpc : s.callers index = .testing msg)
    (hflag : s.flag = false) : CanReturn s index msg := by
  apply CanReturn.after (.caller index true) (.inr rfl)
  rw [sessionStep, hpc, callerStep, hflag]
  exact canReturn_of_unlocking (by simp)

theorem canReturn_of_relocking (hpc : s.callers index = .relocking msg)
    (hflag : s.flag = false) (hfree : s.mtx = none) :
    CanReturn s index msg := by
  apply CanReturn.after (.caller index true) (.inr rfl)
  rw [sessionStep, hpc, callerStep, if_pos hfree]
  exact canReturn_of_lowered (by simp) hflag

theorem canReturn_of_answered (hhandler : s.handler = .unlocking answer)
    (hpc : s.callers index = .relocking msg) (hflag : s.flag = false) :
    CanReturn s index msg := by
  apply CanReturn.after (.handler true) (.inl rfl)
  rw [sessionStep, hhandler, handlerStep]
  exact canReturn_of_relocking hpc hflag rfl

theorem canReturn_of_notifying (hhandler : s.handler = .notifying answer)
    (hpc : s.callers index = .waiting msg) (hflag : s.flag = false) :
    CanReturn s index msg := by
  apply CanReturn.after (.handler true) (.inl rfl)
  rw [sessionStep, hhandler, handlerStep]
  refine canReturn_of_answered rfl ?_ hflag
  show (s.callers index).wake = .relocking msg
  rw [hpc]
  rfl

theorem canReturn_of_clearing (hhandler : s.handler = .clearing answer)
    (hpc : s.callers index = .waiting msg) : CanReturn s index msg := by
  apply CanReturn.after (.handler true) (.inl rfl)
  rw [sessionStep, hhandler, handlerStep]
  exact canReturn_of_notifying rfl hpc rfl

theorem canReturn_of_locking (hhandler : s.handler = .locking answer)
    (hpc : s.callers index = .waiting msg) (hfree : s.mtx = none) :
    CanReturn s index msg := by
  apply CanReturn.after (.handler true) (.inl rfl)
  rw [sessionStep, hhandler, handlerStep, if_pos hfree]
  exact canReturn_of_clearing rfl hpc

theorem canReturn_of_switching (hhandler : s.handler = .switching answer)
    (hpc : s.callers index = .waiting msg) (hfree : s.mtx = none) :
    CanReturn s index msg := by
  apply CanReturn.after (.handler true) (.inl rfl)
  rw [sessionStep, hhandler, handlerStep]
  exact canReturn_of_locking rfl hpc hfree

theorem canReturn_of_idle (hhandler : s.handler = .idle)
    (hpipe : s.pipe = [answer]) (hpc : s.callers index = .waiting msg)
    (hfree : s.mtx = none) : CanReturn s index msg := by
  apply CanReturn.after (.handler true) (.inl rfl)
  rw [sessionStep, hhandler]
  simp only [handlerStep, hpipe, if_true]
  exact canReturn_of_switching rfl hpc hfree

end Return

/-! ## Every run -/

/-- The places from which the handler goes on to notify. -/
def HandlerPc.notifies : HandlerPc → Bool
  | .locking _ | .clearing _ | .notifying _ => true
  | _ => false

/-- `handled` is a part of `sent` without repetition, in its order. -/
structure HandedOver (s : SessionState) : Prop where
  order : s.sent = s.handled ++ s.handler.unhandled ++ s.pipe
  once : s.sent.Nodup
  single : s.pipe.length ≤ 1
  returned : ∀ msg ∈ s.returned, msg ∈ s.handled
  woken : ∀ index msg, s.callers index = .waiting msg → msg ∈ s.handled →
    s.handler.notifies = true
  answered : ∀ msg ∈ s.sent, msg ∈ s.returned ∨ ∃ index, CanReturn s index msg

section Result

variable {s : SessionState} (h : Rendezvous s) {index : ℕ}
  {msg answer : SessionMessage}
include h

theorem Rendezvous.inFlight_length : s.exchange.inFlight.length ≤ 1 := by
  cases hholder : s.lockMsg with
  | none =>
      rw [h.free hholder]
      exact Nat.zero_le 1
  | some thread =>
      have hinside := (h.locks.msg thread).mp hholder
      cases thread with
      | handler =>
          have hplace : s.handler.place.InMsg := hinside
          cases hpc : s.handler <;> rw [hpc] at hplace <;> cases hplace
      | caller index =>
          exact (h.callers index).inFlight_length hinside

theorem Rendezvous.pipe_length : s.pipe.length ≤ 1 := by
  have hflight := h.inFlight_length
  rw [Exchange.inFlight, List.length_append] at hflight
  exact le_trans (Nat.le_add_left _ _) hflight

/-- The caller inside `lock_msg` leaves `mtx` to the handler only. -/
theorem Rendezvous.mtx_free {pc : CallerPc} (hpc : s.callers index = pc)
    (hin : pc.place.InMsg) (hout : ¬ pc.place.InMtx)
    (hhandler : ¬ s.handler.place.InMtx) : s.mtx = none := by
  cases hholder : s.mtx with
  | none => rfl
  | some thread =>
      have hinside := (h.locks.mtx thread).mp hholder
      cases thread with
      | handler => exact absurd hinside hhandler
      | caller other =>
          have hplace : (s.callers other).place.InMtx := hinside
          have hmsg : (s.callers other).place.InMsg := by
            cases hother : s.callers other <;> rw [hother] at hplace <;>
              first | rfl | cases hplace
          by_cases hother : other = index
          · subst hother
            rw [hpc] at hplace
            exact absurd hplace hout
          · exact absurd hmsg (h.others_outside hpc hin hother)

/-- A message that is read or in the pipe is not yet handled. -/
theorem Rendezvous.not_handled
    (hmem : msg ∈ s.handler.unhandled ++ s.pipe) : msg ∉ s.handled := by
  have hnodup := h.exchange.nodup
  have horder : s.sent = s.handled ++ (s.handler.unhandled ++ s.pipe) := by
    rw [← List.append_assoc]
    exact h.exchange.order
  have hsent : s.sent.Nodup := hnodup
  rw [horder] at hsent
  intro hhandled
  exact (List.nodup_append.mp hsent).2.2 msg hhandled msg hmem rfl

theorem Rendezvous.sent_of_handled (hhandled : msg ∈ s.handled) :
    msg ∈ s.sent := by
  have horder : s.sent = s.handled ++ s.handler.unhandled ++ s.pipe :=
    h.exchange.order
  rw [horder]
  exact List.mem_append_left _ (List.mem_append_left _ hhandled)

theorem Rendezvous.woken (hpc : s.callers index = .waiting msg)
    (hhandled : msg ∈ s.handled) : s.handler.notifies = true := by
  obtain ⟨hawaits, hnotify⟩ := h.caller hpc
  cases hawaits with
  | written hflag hone =>
      have hflight : msg ∈ s.exchange.inFlight := by
        rw [hone]
        exact List.mem_singleton_self msg
      have hmem :
          msg ∈ s.handler.unhandled ++ s.handler.uncleared ++ s.pipe := hflight
      have huncleared : msg ∈ s.handler.uncleared := by
        by_contra hnot
        refine h.not_handled ?_ hhandled
        simpa [hnot] using hmem
      cases hhandler : s.handler with
      | locking answer | clearing answer => rfl
      | _ =>
          rw [hhandler] at huncleared
          cases huncleared
  | unwritten hflag hnone hsent =>
      exact absurd (h.sent_of_handled hhandled) hsent
  | answered hflag hnone hmem =>
      have habout : s.handler.aboutToNotify = true := hnotify hflag
      cases hhandler : s.handler with
      | notifying answer => rfl
      | _ =>
          rw [hhandler] at habout
          cases habout

/-- The handler of a message in flight is on its way, and `mtx` is free for
it. -/
theorem Rendezvous.canReturn_of_written
    (hpc : s.callers index = .waiting msg) (hflag : s.flag = true)
    (hone : s.exchange.inFlight = [msg]) : CanReturn s index msg := by
  have hcleared : s.handler.cleared ≠ true := by
    intro hcleared
    have hfalse : s.flag = false := h.exchange.cleared hcleared
    exact absurd (hfalse.symm.trans hflag) Bool.false_ne_true
  cases hhandler : s.handler with
  | idle =>
      have hfree := h.mtx_free hpc rfl (not_inMtx_out true)
        (by rw [hhandler]; exact not_inMtx_out false)
      have hpipe : s.pipe = [msg] := by
        simpa [Exchange.inFlight, SessionState.exchange, hhandler,
          HandlerPc.unhandled, HandlerPc.uncleared] using hone
      exact canReturn_of_idle hhandler hpipe hpc hfree
  | switching answer =>
      have hfree := h.mtx_free hpc rfl (not_inMtx_out true)
        (by rw [hhandler]; exact not_inMtx_out false)
      exact canReturn_of_switching hhandler hpc hfree
  | locking answer =>
      have hfree := h.mtx_free hpc rfl (not_inMtx_out true)
        (by rw [hhandler]; exact not_inMtx_out false)
      exact canReturn_of_locking hhandler hpc hfree
  | clearing answer => exact canReturn_of_clearing hhandler hpc
  | notifying answer | unlocking answer =>
      rw [hhandler] at hcleared
      exact absurd rfl hcleared

theorem Rendezvous.canReturn_of_waiting
    (hpc : s.callers index = .waiting msg) (hsent : msg ∈ s.sent) :
    CanReturn s index msg := by
  obtain ⟨hawaits, hnotify⟩ := h.caller hpc
  cases hawaits with
  | written hflag hone => exact h.canReturn_of_written hpc hflag hone
  | unwritten hflag hnone hmem => exact absurd hsent hmem
  | answered hflag hnone hmem =>
      have habout : s.handler.aboutToNotify = true := hnotify hflag
      cases hhandler : s.handler with
      | notifying answer => exact canReturn_of_notifying hhandler hpc hflag
      | _ =>
          rw [hhandler] at habout
          cases habout

theorem Rendezvous.canReturn_of_testing
    (hpc : s.callers index = .testing msg) (hsent : msg ∈ s.sent) :
    CanReturn s index msg := by
  cases hflag : s.flag with
  | false => exact canReturn_of_lowered hpc hflag
  | true =>
      apply CanReturn.after (.caller index true) (.inr rfl)
      have hnext := h.step (.caller index true)
      rw [sessionStep, hpc, callerStep, if_pos hflag] at hnext ⊢
      exact hnext.canReturn_of_waiting (by simp) hsent

theorem Rendezvous.canReturn_of_free
    (hpc : s.callers index = .relocking msg) (hsent : msg ∈ s.sent)
    (hfree : s.mtx = none) : CanReturn s index msg := by
  apply CanReturn.after (.caller index true) (.inr rfl)
  have hnext := h.step (.caller index true)
  rw [sessionStep, hpc, callerStep, if_pos hfree] at hnext ⊢
  exact hnext.canReturn_of_testing (by simp) hsent

theorem Rendezvous.canReturn_of_left
    (hhandler : s.handler = .unlocking answer)
    (hpc : s.callers index = .relocking msg) (hsent : msg ∈ s.sent) :
    CanReturn s index msg := by
  apply CanReturn.after (.handler true) (.inl rfl)
  have hnext := h.step (.handler true)
  rw [sessionStep, hhandler, handlerStep] at hnext ⊢
  exact hnext.canReturn_of_free hpc hsent rfl

theorem Rendezvous.canReturn_of_notified
    (hhandler : s.handler = .notifying answer)
    (hpc : s.callers index = .relocking msg) (hsent : msg ∈ s.sent) :
    CanReturn s index msg := by
  apply CanReturn.after (.handler true) (.inl rfl)
  have hnext := h.step (.handler true)
  rw [sessionStep, hhandler, handlerStep] at hnext ⊢
  refine hnext.canReturn_of_left rfl ?_ hsent
  show (s.callers index).wake = .relocking msg
  rw [hpc]
  rfl

theorem Rendezvous.canReturn_of_cleared
    (hhandler : s.handler = .clearing answer)
    (hpc : s.callers index = .relocking msg) (hsent : msg ∈ s.sent) :
    CanReturn s index msg := by
  apply CanReturn.after (.handler true) (.inl rfl)
  have hnext := h.step (.handler true)
  rw [sessionStep, hhandler, handlerStep] at hnext ⊢
  exact hnext.canReturn_of_notified rfl hpc hsent

/-- The call that has sent its message can return, wherever it is. -/
theorem Rendezvous.canReturn
    (hawaiting : (s.callers index).awaiting = some msg)
    (hsent : msg ∈ s.sent) : CanReturn s index msg := by
  cases hpc : s.callers index with
  | testing other =>
      rw [hpc] at hawaiting
      cases hawaiting
      exact h.canReturn_of_testing hpc hsent
  | waiting other =>
      rw [hpc] at hawaiting
      cases hawaiting
      exact h.canReturn_of_waiting hpc hsent
  | relocking other =>
      rw [hpc] at hawaiting
      cases hawaiting
      cases hhandler : s.handler with
      | idle | switching answer | locking answer =>
          have hfree := h.mtx_free hpc rfl (not_inMtx_out true)
            (by rw [hhandler]; exact not_inMtx_out false)
          exact h.canReturn_of_free hpc hsent hfree
      | clearing answer => exact h.canReturn_of_cleared hhandler hpc hsent
      | notifying answer => exact h.canReturn_of_notified hhandler hpc hsent
      | unlocking answer => exact h.canReturn_of_left hhandler hpc hsent
  | unlocking other =>
      rw [hpc] at hawaiting
      cases hawaiting
      exact canReturn_of_unlocking hpc
  | unlockingMsg other =>
      rw [hpc] at hawaiting
      cases hawaiting
      exact canReturn_of_unlockingMsg hpc
  | _ =>
      rw [hpc] at hawaiting
      cases hawaiting

theorem Rendezvous.handedOver : HandedOver s where
  order := h.exchange.order
  once := h.exchange.nodup
  single := h.pipe_length
  returned := h.returned
  woken := fun _ _ hpc hhandled => h.woken hpc hhandled
  answered := by
    intro msg hsent
    rcases h.held msg hsent with hreturned | ⟨index, hawaiting⟩
    · exact .inl hreturned
    · exact .inr ⟨index, h.canReturn hawaiting hsent⟩

end Result

theorem handedOver_run (flag : Bool) (inputs : List SessionInput) :
    States sessionStep HandedOver (.initial flag) inputs :=
  (states_of_step (fun _ input h => h.step input)
    (rendezvous_initial flag)).mono fun _ h => h.handedOver

end RkaiqToolServer
