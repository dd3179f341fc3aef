import RkaiqToolServer.SessionLocks

/-!
# The message in flight

What the callers and the handler agree on, apart from the mutexes: at most one
message is between its write and the clearing of `flag`, and it belongs to the
one caller inside `lock_msg`.
-/

namespace RkaiqToolServer

/-- The part of the state that the hand-off goes by. -/
structure Exchange where
  flag : Bool
  pipe : List SessionMessage
  handler : HandlerPc
  calls : ℕ → ℕ
  sent : List SessionMessage
  handled : List SessionMessage

def SessionState.exchange (s : SessionState) : Exchange where
  flag := s.flag
  pipe := s.pipe
  handler := s.handler
  calls := s.calls
  sent := s.sent
  handled := s.handled

/-- Read from the pipe, not yet handled. -/
def HandlerPc.unhandled : HandlerPc → List SessionMessage
  | .switching msg => [msg]
  | _ => []

/-- Handled, with `flag` not yet cleared. -/
def HandlerPc.uncleared : HandlerPc → List SessionMessage
  | .locking msg | .clearing msg => [msg]
  | _ => []

/-- `flag` is cleared and `mtx` still held. -/
def HandlerPc.cleared : HandlerPc → Bool
  | .notifying _ | .unlocking _ => true
  | _ => false

def HandlerPc.aboutToNotify : HandlerPc → Bool
  | .notifying _ => true
  | _ => false

def Exchange.inFlight (x : Exchange) : List SessionMessage :=
  x.handler.unhandled ++ x.handler.uncleared ++ x.pipe

structure ExchangeOk (x : Exchange) : Prop where
  numbered : ∀ msg ∈ x.sent, msg.number < x.calls msg.sender
  nodup : x.sent.Nodup
  order : x.sent = x.handled ++ x.handler.unhandled ++ x.pipe
  uncleared : ∀ msg ∈ x.handler.uncleared, msg ∈ x.handled
  cleared : x.handler.cleared = true → x.flag = false

/-- The latest call of the caller, with its message not yet written. -/
structure Unsent (x : Exchange) (index : ℕ) (msg : SessionMessage) : Prop where
  sender : msg.sender = index
  number : msg.number < x.calls index
  fresh : ∀ other ∈ x.sent, other.sender = index → other.number < msg.number

/-- What the caller of `msg` finds when it tests `flag`; `unwritten` is after a
failed write. -/
inductive Awaits (x : Exchange) (msg : SessionMessage) : Prop
  | written (hflag : x.flag = true) (hflight : x.inFlight = [msg])
  | unwritten (hflag : x.flag = true) (hflight : x.inFlight = [])
      (hsent : msg ∉ x.sent)
  | answered (hflag : x.flag = false) (hflight : x.inFlight = [])
      (hhandled : msg ∈ x.handled)

def CallerOk (x : Exchange) (index : ℕ) : CallerPc → Prop
  | .idle | .searching _ => True
  | .lockingMsg msg => Unsent x index msg
  | .locking msg | .raising msg => Unsent x index msg ∧ x.inFlight = []
  | .writing msg => Unsent x index msg ∧ x.inFlight = [] ∧ x.flag = true
  | .testing msg | .relocking msg => Awaits x msg
  | .waiting msg =>
      Awaits x msg ∧ (x.flag = false → x.handler.aboutToNotify = true)
  | .unlocking msg | .unlockingMsg msg => x.inFlight = [] ∧ msg ∈ x.handled

/-! ## What the callers keep -/

section Callers

variable {x y : Exchange} {index : ℕ} {pc : CallerPc}

theorem Unsent.not_mem {msg : SessionMessage} (h : Unsent x index msg) :
    msg ∉ x.sent :=
  fun hmem => lt_irrefl _ (h.fresh msg hmem h.sender)

theorem Unsent.congr {msg : SessionMessage} (h : Unsent x index msg)
    (hcalls : y.calls index = x.calls index) (hsent : y.sent = x.sent) :
    Unsent y index msg :=
  ⟨h.sender, hcalls ▸ h.number, hsent ▸ h.fresh⟩

theorem Awaits.mono {msg : SessionMessage} (h : Awaits x msg)
    (hsent : y.sent = x.sent) (hflag : y.flag = x.flag)
    (hflight : y.inFlight = x.inFlight)
    (hhandled : ∀ other ∈ x.handled, other ∈ y.handled) : Awaits y msg := by
  cases h with
  | written htrue hone =>
      exact .written (hflag.trans htrue) (hflight.trans hone)
  | unwritten htrue hnone hmem =>
      exact .unwritten (hflag.trans htrue) (hflight.trans hnone)
        (hsent ▸ hmem)
  | answered hfalse hnone hmem =>
      exact .answered (hflag.trans hfalse) (hflight.trans hnone)
        (hhandled msg hmem)

theorem CallerOk.mono (h : CallerOk x index pc)
    (hcalls : y.calls index = x.calls index) (hsent : y.sent = x.sent)
    (hflag : y.flag = x.flag) (hflight : y.inFlight = x.inFlight)
    (hhandled : ∀ other ∈ x.handled, other ∈ y.handled)
    (hnotify : (∀ msg, pc ≠ .waiting msg) ∨
      (x.handler.aboutToNotify = true → y.handler.aboutToNotify = true)) :
    CallerOk y index pc := by
  cases pc with
  | idle | searching msg => trivial
  | lockingMsg msg => exact Unsent.congr h hcalls hsent
  | locking msg | raising msg =>
      exact ⟨h.1.congr hcalls hsent, hflight.trans h.2⟩
  | writing msg =>
      exact ⟨h.1.congr hcalls hsent, hflight.trans h.2.1, hflag.trans h.2.2⟩
  | testing msg | relocking msg =>
      exact Awaits.mono h hsent hflag hflight hhandled
  | waiting msg =>
      refine ⟨h.1.mono hsent hflag hflight hhandled, fun hfalse => ?_⟩
      rcases hnotify with hnot | hkeep
      · exact absurd rfl (hnot msg)
      · exact hkeep (h.2 (hflag.symm.trans hfalse))
  | unlocking msg | unlockingMsg msg =>
      exact ⟨hflight.trans h.1, hhandled msg h.2⟩

/-- A caller outside `lock_msg` minds its own calls and messages only. -/
theorem CallerOk.outside (h : CallerOk x index pc)
    (hout : ¬ pc.place.InMsg) (hcalls : y.calls index = x.calls index)
    (hsent : ∀ other ∈ y.sent, other.sender = index → other ∈ x.sent) :
    CallerOk y index pc := by
  cases pc with
  | idle | searching msg => trivial
  | lockingMsg msg =>
      have hunsent : Unsent x index msg := h
      exact ⟨hunsent.sender, hcalls ▸ hunsent.number,
        fun other hother hindex =>
          hunsent.fresh other (hsent other hother hindex) hindex⟩
  | _ => exact absurd rfl hout

/-- A caller that is woken has less to know. -/
theorem CallerOk.wake (h : CallerOk x index pc) :
    CallerOk x index pc.wake := by
  cases pc with
  | waiting msg => exact h.1
  | _ => exact h

/-- The caller inside `lock_msg` leaves room for its own message only. -/
theorem CallerOk.inFlight_length (h : CallerOk x index pc)
    (hin : pc.place.InMsg) : x.inFlight.length ≤ 1 := by
  have hnone : x.inFlight = [] → x.inFlight.length ≤ 1 := by
    intro hnone
    rw [hnone]
    exact Nat.zero_le 1
  have hawaits : ∀ msg, Awaits x msg → x.inFlight.length ≤ 1 := by
    intro msg hawaits
    cases hawaits with
    | written hflag hone =>
        rw [hone]
        exact le_refl 1
    | unwritten hflag hflight hsent => exact hnone hflight
    | answered hflag hflight hhandled => exact hnone hflight
  cases pc with
  | idle | lockingMsg msg | searching msg => cases hin
  | locking msg | raising msg => exact hnone h.2
  | writing msg => exact hnone h.2.1
  | testing msg | relocking msg => exact hawaits msg h
  | waiting msg => exact hawaits msg h.1
  | unlocking msg | unlockingMsg msg => exact hnone h.1

end Callers

/-! ## The handler -/

section Handler

variable {x : Exchange} {msg : SessionMessage} {rest : List SessionMessage}
  {index : ℕ} {pc : CallerPc}

/-- The handler goes on without touching what it shares. -/
theorem ExchangeOk.setHandler (h : ExchangeOk x) {here next : HandlerPc}
    (hpc : x.handler = here) (hunhandled : next.unhandled = here.unhandled)
    (huncleared : next.uncleared = here.uncleared)
    (hcleared : next.cleared = true → here.cleared = true) :
    ExchangeOk { x with handler := next } where
  numbered := h.numbered
  nodup := h.nodup
  order := by
    rw [hunhandled, ← hpc]
    exact h.order
  uncleared := by
    rw [huncleared, ← hpc]
    exact h.uncleared
  cleared := by
    intro hnext
    apply h.cleared
    rw [hpc]
    exact hcleared hnext

theorem inFlight_setHandler {here next : HandlerPc}
    (hpc : x.handler = here) (hunhandled : next.unhandled = here.unhandled)
    (huncleared : next.uncleared = here.uncleared) :
    Exchange.inFlight { x with handler := next } = x.inFlight := by
  simp only [Exchange.inFlight, hunhandled, huncleared, hpc]

theorem CallerOk.setHandler (h : CallerOk x index pc) {here next : HandlerPc}
    (hpc : x.handler = here) (hunhandled : next.unhandled = here.unhandled)
    (huncleared : next.uncleared = here.uncleared)
    (hnotify : (∀ msg, pc ≠ .waiting msg) ∨ here.aboutToNotify = false) :
    CallerOk { x with handler := next } index pc := by
  refine h.mono rfl rfl rfl
    (inFlight_setHandler hpc hunhandled huncleared) (fun _ => id) ?_
  rcases hnotify with hnot | hother
  · exact .inl hnot
  · right
    intro htrue
    rw [hpc, hother] at htrue
    cases htrue

theorem ExchangeOk.read (h : ExchangeOk x) (hpc : x.handler = .idle)
    (hpipe : x.pipe = msg :: rest) :
    ExchangeOk { x with pipe := rest, handler := .switching msg } where
  numbered := h.numbered
  nodup := h.nodup
  order := by
    have horder := h.order
    rw [hpc, hpipe] at horder
    simpa [HandlerPc.unhandled] using horder
  uncleared := by
    intro other hother
    cases hother
  cleared := by
    intro hcleared
    cases hcleared

theorem CallerOk.read (h : CallerOk x index pc) (hpc : x.handler = .idle)
    (hpipe : x.pipe = msg :: rest) :
    CallerOk { x with pipe := rest, handler := .switching msg } index pc := by
  refine h.mono rfl rfl rfl ?_ (fun _ => id) (.inr fun hnotify => ?_)
  · simp [Exchange.inFlight, HandlerPc.unhandled, HandlerPc.uncleared, hpc,
      hpipe]
  · rw [hpc] at hnotify
    cases hnotify

theorem ExchangeOk.switch (h : ExchangeOk x)
    (hpc : x.handler = .switching msg) :
    ExchangeOk
      { x with handler := .locking msg, handled := x.handled ++ [msg] } where
  numbered := h.numbered
  nodup := h.nodup
  order := by
    have horder := h.order
    rw [hpc] at horder
    simpa [HandlerPc.unhandled] using horder
  uncleared := by
    intro other hother
    exact List.mem_append_right _ hother
  cleared := by
    intro hcleared
    cases hcleared

theorem CallerOk.switch (h : CallerOk x index pc)
    (hpc : x.handler = .switching msg) :
    CallerOk { x with handler := .locking msg, handled := x.handled ++ [msg] }
      index pc := by
  refine h.mono rfl rfl rfl ?_ (fun _ => List.mem_append_left _)
    (.inr fun hnotify => ?_)
  · simp [Exchange.inFlight, HandlerPc.unhandled, HandlerPc.uncleared, hpc]
  · rw [hpc] at hnotify
    cases hnotify

theorem ExchangeOk.clear (h : ExchangeOk x) (hpc : x.handler = .clearing msg) :
    ExchangeOk { x with flag := false, handler := .notifying msg } where
  numbered := h.numbered
  nodup := h.nodup
  order := by
    have horder := h.order
    rwa [hpc] at horder
  uncleared := by
    intro other hother
    cases hother
  cleared := fun _ => rfl

/-- The one caller that waits finds its own message answered. -/
theorem Awaits.clear {other : SessionMessage} (h : Awaits x other)
    (hpc : x.handler = .clearing msg) (hhandled : msg ∈ x.handled) :
    Awaits { x with flag := false, handler := .notifying msg } other := by
  have hflight : x.inFlight = msg :: x.pipe := by
    rw [Exchange.inFlight, hpc]
    rfl
  cases h with
  | written hflag hone =>
      rw [hflight] at hone
      obtain ⟨hsame, hpipe⟩ := List.cons.inj hone
      exact .answered rfl hpipe (hsame ▸ hhandled)
  | unwritten hflag hnone hsent =>
      rw [hflight] at hnone
      cases hnone
  | answered hflag hnone hmem =>
      rw [hflight] at hnone
      cases hnone

theorem CallerOk.clear (h : CallerOk x index pc)
    (hpc : x.handler = .clearing msg) (hhandled : msg ∈ x.handled) :
    CallerOk { x with flag := false, handler := .notifying msg } index pc := by
  have hflight : x.inFlight ≠ [] := by
    simp [Exchange.inFlight, HandlerPc.uncleared, hpc]
  cases pc with
  | idle | searching other => trivial
  | lockingMsg other => exact Unsent.congr h rfl rfl
  | locking other | raising other => exact absurd h.2 hflight
  | writing other => exact absurd h.2.1 hflight
  | testing other | relocking other => exact Awaits.clear h hpc hhandled
  | waiting other => exact ⟨h.1.clear hpc hhandled, fun _ => rfl⟩
  | unlocking other | unlockingMsg other => exact absurd h.1 hflight

theorem CallerOk.notify (h : CallerOk x index pc)
    (hpc : x.handler = .notifying msg) :
    CallerOk { x with handler := .unlocking msg } index pc.wake := by
  refine h.wake.setHandler hpc rfl rfl (.inl fun other => ?_)
  cases pc <;> simp [CallerPc.wake]

end Handler

end RkaiqToolServer
