import RkaiqToolServer.ListSplits
import RkaiqToolServer.MessageForward

/-!
# The end of the forwarder

`doMessageForward` leaves its loop when the client cannot be sent to, when a
receive fails with an `errno` other than `EAGAIN`, or when another thread has
cleared the flag.  A receive of no bytes is none of these, and a receive
without a socket is judged by the `errno` of an earlier call.
-/

namespace RkaiqToolServer

open ListSplits

/-- The answer of `recv` on the service's socket; no bytes are the end of the
stream. -/
inductive ForwardRecv
  | received (bytes : List UInt8)
  | failed (errno : ℕ)
  deriving DecidableEq

structure SocketReceive where
  client : DomainTCPClient
  errno : ℕ
  ret : ℤ
  bytes : List UInt8

/-- `DomainTCPClient::Receive`: without a socket it returns -1 and leaves
`errno` as it is. -/
def DomainTCPClient.receive (client : DomainTCPClient) (errno : ℕ)
    (recv : ForwardRecv) : SocketReceive :=
  if client.sock < 0 then
    { client := client, errno := errno, ret := -1, bytes := [] }
  else
    match recv with
    | .received bytes =>
        { client := client, errno := errno, ret := bytes.length,
          bytes := bytes }
    | .failed error =>
        { client := if Transient error then client else client.close,
          errno := error, ret := -1, bytes := [] }

/-- What a round of the loop meets: the flag if other threads have written it
since the last test, the connection as they left it, the answer of the
receive, and whether a send to the client fails. -/
structure ForwardRound where
  written : Option Bool
  client : DomainTCPClient
  recv : ForwardRecv
  sendFails : Bool

/-- How the function returns. -/
structure ForwardEnd where
  ret : ℤ
  isRecvRunning : Bool
  client : DomainTCPClient
  closedSocket : Bool
  deriving DecidableEq

/-- The loop from a test on, `none` while it has not been left. -/
def forwardLoop (errno : ℕ) (isRecvRunning : Bool) :
    List ForwardRound → Option ForwardEnd
  | [] => none
  | round :: rest =>
      let isRecvRunning := round.written.getD isRecvRunning
      if isRecvRunning = false then
        some { ret := 0, isRecvRunning := false, client := round.client,
               closedSocket := false }
      else
        let received := round.client.receive errno round.recv
        if 0 < received.ret then
          if round.sendFails then
            some { ret := -1, isRecvRunning := false,
                   client := received.client, closedSocket := true }
          else forwardLoop received.errno isRecvRunning rest
        else if received.ret < 0 ∧ received.errno ≠ eagain then
          some { ret := -1, isRecvRunning := false,
                 client := received.client.close, closedSocket := true }
        else forwardLoop received.errno isRecvRunning rest

/-- The rounds of `doMessageForward`, which sets the flag before its loop. -/
def doMessageForwardRounds (errno : ℕ) (rounds : List ForwardRound) :
    Option ForwardEnd :=
  forwardLoop errno true rounds

/-- Rounds at the end of the stream; `later` is what other threads write. -/
def closedRounds (sock : ℕ) (later : ℕ → Option Bool) (n : ℕ) :
    List ForwardRound :=
  (List.range n).map fun k =>
    { written := later k, client := { sock := sock }, recv := .received [],
      sendFails := false }

/-- After some number of rounds the loop is left with the flag cleared. -/
def ForwarderEnds (errno : ℕ) (rounds : List ForwardRound) (sock : ℕ)
    (later : ℕ → Option Bool) : Prop :=
  ∃ n forwardEnd,
    doMessageForwardRounds errno (rounds ++ closedRounds sock later n) =
      some forwardEnd ∧ forwardEnd.isRecvRunning = false

/-! ## What ends the loop -/

/-- The outcome of a round that leaves the loop. -/
def ForwardRound.Ends (errno : ℕ) (round : ForwardRound) : Prop :=
  if round.client.sock < 0 then errno ≠ eagain
  else
    match round.recv with
    | .received bytes => bytes ≠ [] ∧ round.sendFails = true
    | .failed error => error ≠ eagain

def errnoAfter (errno : ℕ) : List ForwardRound → ℕ
  | [] => errno
  | round :: rest =>
      errnoAfter (round.client.receive errno round.recv).errno rest

def flagAfter (isRecvRunning : Bool) : List ForwardRound → Bool
  | [] => isRecvRunning
  | round :: rest => flagAfter (round.written.getD isRecvRunning) rest

/-- One of the rounds finds the flag cleared or has an outcome that ends the
loop. -/
def SomeRoundEnds (errno : ℕ) (isRecvRunning : Bool)
    (rounds : List ForwardRound) : Prop :=
  ∃ before round after, rounds = before ++ round :: after ∧
    (flagAfter isRecvRunning (before ++ [round]) = false ∨
      round.Ends (errnoAfter errno before))

theorem someRoundEnds_nil (errno : ℕ) (isRecvRunning : Bool) :
    ¬ SomeRoundEnds errno isRecvRunning [] := not_exists_append_nil

theorem someRoundEnds_cons (errno : ℕ) (isRecvRunning : Bool)
    (round : ForwardRound) (rest : List ForwardRound) :
    SomeRoundEnds errno isRecvRunning (round :: rest) ↔
      (round.written.getD isRecvRunning = false ∨ round.Ends errno) ∨
        SomeRoundEnds (round.client.receive errno round.recv).errno
          (round.written.getD isRecvRunning) rest := by
  unfold SomeRoundEnds
  rw [exists_append_cons_cons]
  rfl

theorem someRoundEnds_append (errno : ℕ) (isRecvRunning : Bool)
    (first second : List ForwardRound) :
    SomeRoundEnds errno isRecvRunning (first ++ second) ↔
      SomeRoundEnds errno isRecvRunning first ∨
        SomeRoundEnds (errnoAfter errno first)
          (flagAfter isRecvRunning first) second := by
  induction first generalizing errno isRecvRunning with
  | nil =>
      rw [List.nil_append, or_iff_right (someRoundEnds_nil _ _)]
      rfl
  | cons round rest ih =>
      rw [List.cons_append, someRoundEnds_cons, someRoundEnds_cons, ih,
        ← or_assoc]
      rfl

/-! ## The loop -/

/-- A round that does not end the loop leaves the flag and its `errno` to the
next one. -/
theorem forwardLoop_cons (errno : ℕ) {isRecvRunning : Bool}
    {round : ForwardRound} (rest : List ForwardRound)
    (hflag : round.written.getD isRecvRunning = true)
    (hround : ¬ round.Ends errno) :
    forwardLoop errno isRecvRunning (round :: rest) =
      forwardLoop (round.client.receive errno round.recv).errno true rest := by
  rw [forwardLoop]
  simp only [hflag, Bool.true_eq_false, if_false]
  rw [ForwardRound.Ends] at hround
  split at hround
  · rename_i hsock
    simp only [DomainTCPClient.receive, if_pos hsock]
    simp [not_not.mp hround]
  · rename_i hsock
    cases hrecv : round.recv with
    | received bytes =>
        simp only [hrecv, not_and, Bool.not_eq_true] at hround
        simp only [DomainTCPClient.receive, if_neg hsock]
        cases bytes with
        | nil => simp
        | cons byte bytes =>
            rw [if_pos (by simp), hround (by simp)]
            simp
    | failed error =>
        simp only [hrecv, not_not] at hround
        simp only [DomainTCPClient.receive, if_neg hsock]
        simp [hround]

theorem forwardLoop_ends {errno : ℕ} {isRecvRunning : Bool}
    {round : ForwardRound} (rest : List ForwardRound)
    (hround : round.written.getD isRecvRunning = false ∨ round.Ends errno) :
    ∃ forwardEnd, forwardLoop errno isRecvRunning (round :: rest) =
      some forwardEnd ∧ forwardEnd.isRecvRunning = false := by
  rw [forwardLoop]
  by_cases hflag : round.written.getD isRecvRunning = false
  · exact ⟨_, if_pos hflag, rfl⟩
  have hends := hround.resolve_left hflag
  simp only [if_neg hflag]
  rw [ForwardRound.Ends] at hends
  split at hends
  · rename_i hsock
    simp only [DomainTCPClient.receive, if_pos hsock]
    simp [hends]
  · rename_i hsock
    cases hrecv : round.recv with
    | received bytes =>
        simp only [hrecv] at hends
        have hlength := List.length_pos_of_ne_nil hends.1
        simp only [DomainTCPClient.receive, if_neg hsock, hends.2, if_true]
        exact ⟨_, if_pos (by omega), rfl⟩
    | failed error =>
        simp only [hrecv] at hends
        simp only [DomainTCPClient.receive, if_neg hsock]
        simp [hends]

theorem forwardLoop_ends_iff (errno : ℕ) (isRecvRunning : Bool)
    (rounds : List ForwardRound) :
    (∃ forwardEnd, forwardLoop errno isRecvRunning rounds = some forwardEnd ∧
        forwardEnd.isRecvRunning = false) ↔
      SomeRoundEnds errno isRecvRunning rounds := by
  induction rounds generalizing errno isRecvRunning with
  | nil => exact iff_of_false (by simp [forwardLoop]) (someRoundEnds_nil _ _)
  | cons round rest ih =>
      rw [someRoundEnds_cons]
      by_cases hround :
          round.written.getD isRecvRunning = false ∨ round.Ends errno
      · exact iff_of_true (forwardLoop_ends rest hround) (.inl hround)
      · have hflag : round.written.getD isRecvRunning = true := by
          rw [not_or, Bool.not_eq_false] at hround
          exact hround.1
        rw [forwardLoop_cons errno rest hflag fun hends => hround (.inr hends),
          or_iff_right hround, hflag]
        exact ih _ _

/-! ## The end of the stream -/

theorem closedRounds_succ (sock : ℕ) (later : ℕ → Option Bool) (n : ℕ) :
    closedRounds sock later (n + 1) = closedRounds sock later n ++
      [{ written := later n, client := { sock := sock },
         recv := .received [], sendFails := false }] := by
  rw [closedRounds, List.range_succ, List.map_append]
  rfl

theorem flagAfter_append (isRecvRunning : Bool)
    (first second : List ForwardRound) :
    flagAfter isRecvRunning (first ++ second) =
      flagAfter (flagAfter isRecvRunning first) second := by
  induction first generalizing isRecvRunning with
  | nil => rfl
  | cons round rest ih => exact ih _

/-- At the end of the stream only the flag ends the loop. -/
theorem someRoundEnds_closedRounds (errno : ℕ) (isRecvRunning : Bool)
    (sock : ℕ) (later : ℕ → Option Bool) (n : ℕ) :
    SomeRoundEnds errno isRecvRunning (closedRounds sock later n) ↔
      ∃ k < n, flagAfter isRecvRunning (closedRounds sock later (k + 1)) =
        false := by
  induction n with
  | zero => exact iff_of_false (someRoundEnds_nil _ _) (by simp)
  | succ n ih =>
      rw [closedRounds_succ, someRoundEnds_append, ih, someRoundEnds_cons,
        or_iff_left (someRoundEnds_nil _ _)]
      have hlast : ∀ errno : ℕ, ¬ ForwardRound.Ends errno
          { written := later n, client := { sock := sock },
            recv := .received [], sendFails := false } := by
        intro errno
        simp [ForwardRound.Ends]
      rw [or_iff_left (hlast _)]
      constructor
      · rintro (⟨k, hk, hflag⟩ | hflag)
        · exact ⟨k, by omega, hflag⟩
        · refine ⟨n, by omega, ?_⟩
          rw [closedRounds_succ, flagAfter_append]
          exact hflag
      · rintro ⟨k, hk, hflag⟩
        rcases Nat.lt_succ_iff_lt_or_eq.mp hk with hlt | rfl
        · exact .inl ⟨k, hlt, hflag⟩
        · rw [closedRounds_succ, flagAfter_append] at hflag
          exact .inr hflag

/-- The forwarder ends exactly when one of its receives or sends before the
end of the stream ends it, or another thread clears the flag before a test. -/
theorem forwarder_ends_iff (errno : ℕ) (rounds : List ForwardRound)
    (sock : ℕ) (later : ℕ → Option Bool) :
    ForwarderEnds errno rounds sock later ↔
      SomeRoundEnds errno true rounds ∨
        ∃ n, flagAfter true (rounds ++ closedRounds sock later (n + 1)) =
          false := by
  unfold ForwarderEnds doMessageForwardRounds
  simp only [forwardLoop_ends_iff, someRoundEnds_append,
    someRoundEnds_closedRounds, flagAfter_append]
  constructor
  · rintro ⟨n, hrounds | ⟨k, -, hflag⟩⟩
    · exact .inl hrounds
    · exact .inr ⟨k, hflag⟩
  · rintro (hrounds | ⟨n, hflag⟩)
    · exact ⟨0, .inl hrounds⟩
    · exact ⟨n + 1, .inr ⟨n, by omega, hflag⟩⟩

/-- The service closes its connection and no other thread writes the flag. -/
theorem forwarder_not_ends :
    ¬ ∀ (errno : ℕ) (rounds : List ForwardRound) (sock : ℕ)
      (later : ℕ → Option Bool), ForwarderEnds errno rounds sock later := by
  intro h
  obtain ⟨n, hends⟩ := h 0 [] 5 fun _ => none
  have hflags : ∀ n, flagAfter true (closedRounds 5 (fun _ => none) n) =
      true := by
    intro n
    induction n with
    | zero => rfl
    | succ n ih =>
        rw [closedRounds_succ, flagAfter_append, ih]
        rfl
  rw [List.nil_append, doMessageForwardRounds, forwardLoop_ends_iff,
    someRoundEnds_closedRounds] at hends
  obtain ⟨k, -, hflag⟩ := hends
  rw [hflags] at hflag
  cases hflag

end RkaiqToolServer
