import RkaiqToolServer.ChunkStream
import RkaiqToolServer.ReplyDeterminism

/-!
# The acknowledgement of a UAPI set

`OnLineSet` receives the parameter of a request and adds its bytes, taken as
`char`, to a sum that belongs to its caller; `DoAnswer2` returns the sum to the
tool.  The callers initialise neither the sum nor the result, and the bytes
are sign-extended where `char` is signed.  For the other direction `OnLineGet`
adds the same bytes as unsigned values to a sum that starts at zero.
-/

namespace RkaiqToolServer

open ByteCodec ChunkStream

inductive SetRoute
  | onLine
  | raw
  deriving DecidableEq

/-- The requests on which a handler calls `OnLineSet`. -/
def SetRoute.Accepts (route : SetRoute) (commonCmd : CommandData) : Prop :=
  (route = .onLine ∧ commonCmd.cmdType = cmdTypeUapiSet) ∨
    (commonCmd.cmdType = cmdTypeStreaming ∧ commonCmd.cmdID = 0xffff)

/-- A request with the chunks that follow it on the socket and the parameter
that the receive loop collects from them. -/
structure SetExchange where
  route : SetRoute
  commonCmd : CommandData
  accepted : route.Accepts commonCmd
  chunks : List (List UInt8)
  param : List UInt8
  later : List (List UInt8)
  received : takeExactly commonCmd.paramSize.toNat chunks = some (param, later)

/-- The initial values of the caller's locals. -/
structure SetLocals where
  checkSum : UInt16
  result : UInt32
  deriving DecidableEq

def SetExchange.calls (exchange : SetExchange) (calls : HandlerCalls)
    (charSigned : Bool) (locals : SetLocals) : HandlerCalls :=
  { calls with
    dev := { calls.dev with charSigned := charSigned }
    payload := exchange.param
    checkSum := locals.checkSum
    result := locals.result }

/-- The reply that `DoAnswer2` builds: the last one sent for the request. -/
def SetExchange.acknowledgement (exchange : SetExchange)
    (calls : HandlerCalls) (s : ServerState) (charSigned : Bool)
    (locals : SetLocals) : Option CommandData :=
  let calls := exchange.calls calls charSigned locals
  (sentBy (match exchange.route with
    | .onLine => handlerOnLineMessage calls s exchange.commonCmd
    | .raw => handlerRawCapMessage calls s exchange.commonCmd)).getLast?

/-- The sum of `OnLineGet`, whose `param` is a `uint8_t*`. -/
def onLineGetSum (param : List UInt8) : UInt16 :=
  param.foldl (fun sum byte => sum + UInt16.ofNat byte.toNat) 0

/-- On a platform with this `char` and with every possible initial content of
the locals, the acknowledgement carries the sum of `OnLineGet` and one and the
same status. -/
def SetExchange.Acknowledged (exchange : SetExchange) (calls : HandlerCalls)
    (s : ServerState) (charSigned : Bool) (possible : Set SetLocals) : Prop :=
  ∃ status, ∀ locals ∈ possible, ∃ reply,
    exchange.acknowledgement calls s charSigned locals = some reply ∧
      reply.datAt 0 = status ∧
      [reply.datAt 1, reply.datAt 2] =
        leBytes 2 (onLineGetSum exchange.param).toNat

/-- What the sign extension of its bytes takes off the sum of a parameter. -/
def signExtended (charSigned : Bool) (param : List UInt8) : UInt16 :=
  if charSigned then
    UInt16.ofNat (256 * param.countP fun byte => 128 ≤ byte.toNat)
  else 0

/-- The initial sum makes up for the sign extension, and the initial result is
always zero or never. -/
def LocalsFit (charSigned : Bool) (param : List UInt8)
    (possible : Set SetLocals) : Prop :=
  (∀ locals ∈ possible, locals.checkSum = signExtended charSigned param) ∧
    ∀ first ∈ possible, ∀ second ∈ possible,
      (first.result = 0 ↔ second.result = 0)

/-! ## The sums -/

theorem foldl_add_eq (value : UInt8 → UInt16) (bytes : List UInt8)
    (start : UInt16) :
    bytes.foldl (fun sum byte => sum + value byte) start =
      start + bytes.foldl (fun sum byte => sum + value byte) 0 := by
  induction bytes generalizing start with
  | nil => simp
  | cons byte rest ih =>
      rw [List.foldl_cons, List.foldl_cons, ih (start + value byte),
        ih (0 + value byte)]
      grind

theorem onLineGetSum_cons (byte : UInt8) (rest : List UInt8) :
    onLineGetSum (byte :: rest) =
      UInt16.ofNat byte.toNat + onLineGetSum rest := by
  rw [onLineGetSum, List.foldl_cons, foldl_add_eq, onLineGetSum]
  grind

theorem charSum_cons (charSigned : Bool) (byte : UInt8)
    (rest : List UInt8) :
    charSum charSigned (byte :: rest) =
      charValue charSigned byte + charSum charSigned rest := by
  rw [charSum, List.foldl_cons, foldl_add_eq, charSum]
  grind

/-- A byte from 128 on counts 256 too little where `char` is signed. -/
theorem charValue_add (byte : UInt8) :
    charValue true byte + (if 128 ≤ byte.toNat then 256 else 0) =
      UInt16.ofNat byte.toNat := by
  by_cases hhigh : 128 ≤ byte.toNat
  · simp only [charValue, hhigh, decide_true, Bool.and_self, if_true]
    grind
  · simp [charValue, hhigh]

theorem charSum_add_signExtended (charSigned : Bool) (param : List UInt8) :
    charSum charSigned param + signExtended charSigned param =
      onLineGetSum param := by
  induction param with
  | nil => cases charSigned <;> rfl
  | cons byte rest ih =>
      rw [charSum_cons, onLineGetSum_cons, ← ih]
      cases charSigned with
      | false => simp [signExtended, charValue]
      | true =>
          have hextended : signExtended true (byte :: rest) =
              (if 128 ≤ byte.toNat then 256 else 0) +
                signExtended true rest := by
            by_cases hhigh : 128 ≤ byte.toNat
            · simp only [signExtended, if_true, List.countP_cons, hhigh,
                decide_true, Nat.mul_add, UInt16.ofNat_add]
              grind
            · simp [signExtended, hhigh]
          rw [hextended, ← charValue_add byte]
          grind

/-! ## The acknowledgement -/

theorem onLineSet_sent (calls : HandlerCalls) (s : ServerState)
    (cmd : CommandData) (cmdId : UInt16) :
    sentBy (s, onLineSet calls cmd cmdId) =
      [doCaptureAnswer cmd cmdId ready,
        doAnswer2 zeroCommand cmdId
          (calls.checkSum + charSum calls.dev.charSigned calls.payload)
          (if calls.result ≠ 0 then resFailed else resSuccess)] := by
  rw [charSum, ← foldl_add_eq]
  rfl

theorem SetExchange.acknowledgement_eq (exchange : SetExchange)
    (calls : HandlerCalls) (s : ServerState) (charSigned : Bool)
    (locals : SetLocals) :
    exchange.acknowledgement calls s charSigned locals =
      some (doAnswer2 zeroCommand exchange.commonCmd.cmdID
        (locals.checkSum + charSum charSigned exchange.param)
        (if locals.result ≠ 0 then resFailed else resSuccess)) := by
  have hsent := onLineSet_sent (exchange.calls calls charSigned locals)
  rw [acknowledgement]
  generalize hcalls : exchange.calls calls charSigned locals = callsNow at hsent
  have hanswer : ∀ s cmd,
      (sentBy (s, onLineSet callsNow cmd exchange.commonCmd.cmdID)).getLast? =
        some (doAnswer2 zeroCommand exchange.commonCmd.cmdID
          (locals.checkSum + charSum charSigned exchange.param)
          (if locals.result ≠ 0 then resFailed else resSuccess)) := by
    intro s cmd
    rw [hsent, ← hcalls]
    rfl
  rcases exchange.accepted with ⟨hroute, hset⟩ | ⟨hstreaming, hcmd⟩
  · have hhandler : handlerOnLineMessage callsNow s exchange.commonCmd =
        (s, onLineSet callsNow callsNow.sendCmd exchange.commonCmd.cmdID) := by
      simp only [handlerOnLineMessage, hset]
      rfl
    rw [hroute]
    simp only [hhandler]
    exact hanswer _ _
  · cases exchange.route with
    | onLine =>
        simp only [handlerOnLineMessage, if_pos hstreaming, if_pos hcmd,
          sentBy_andThen, sentBy_switchMode, List.nil_append]
        exact hanswer _ _
    | raw =>
        have hcapture : exchange.commonCmd.cmdType ≠ cmdTypeCapture := by
          rw [hstreaming]
          decide
        simp only [handlerRawCapMessage, if_neg hcapture, if_pos hstreaming,
          if_pos hcmd, sentBy_andThen, sentBy_switchMode, List.nil_append]
        rw [List.getLast?_append, hanswer]
        rfl

theorem datAt_doAnswer2 (cmd : CommandData) (cmdId checkSum : UInt16)
    (result : UInt8) :
    (doAnswer2 cmd cmdId checkSum result).datAt 0 = result ∧
      [(doAnswer2 cmd cmdId checkSum result).datAt 1,
        (doAnswer2 cmd cmdId checkSum result).datAt 2] =
          leBytes 2 checkSum.toNat := by
  have hdat : ∀ index < 48, (doAnswer2 cmd cmdId checkSum result).datAt index =
      ([result] ++ leBytes 2 checkSum.toNat).getD index 0 := by
    intro index hindex
    exact getD_datOf hindex
  rw [hdat 0 (by decide), hdat 1 (by decide), hdat 2 (by decide)]
  exact ⟨rfl, rfl⟩

theorem leBytes_uint16_injective {first second : UInt16}
    (h : leBytes 2 first.toNat = leBytes 2 second.toNat) : first = second := by
  have hread := congrArg leNat h
  rw [leNat_leBytes first.toNat_lt, leNat_leBytes second.toNat_lt] at hread
  exact UInt16.toNat_inj.mp hread

theorem SetExchange.Acknowledged.localsFit {exchange : SetExchange}
    {calls : HandlerCalls} {s : ServerState} {charSigned : Bool}
    {possible : Set SetLocals}
    (h : exchange.Acknowledged calls s charSigned possible) :
    LocalsFit charSigned exchange.param possible := by
  obtain ⟨status, hreplies⟩ := h
  have hreply : ∀ locals ∈ possible,
      (if locals.result ≠ 0 then resFailed else resSuccess) = status ∧
        locals.checkSum + charSum charSigned exchange.param =
          onLineGetSum exchange.param := by
    intro locals hlocals
    obtain ⟨reply, hreply, hstatus, hsum⟩ := hreplies locals hlocals
    rw [exchange.acknowledgement_eq, Option.some.injEq] at hreply
    subst hreply
    obtain ⟨hdat, hdats⟩ := datAt_doAnswer2 zeroCommand exchange.commonCmd.cmdID
      (locals.checkSum + charSum charSigned exchange.param)
      (if locals.result ≠ 0 then resFailed else resSuccess)
    rw [hdat] at hstatus
    rw [hdats] at hsum
    exact ⟨hstatus, leBytes_uint16_injective hsum⟩
  constructor
  · intro locals hlocals
    have hsum := (hreply locals hlocals).2
    rw [← charSum_add_signExtended charSigned] at hsum
    grind
  · intro first hfirst second hsecond
    have hsame := (hreply first hfirst).1.trans (hreply second hsecond).1.symm
    by_cases hzero : first.result = 0 <;>
      by_cases hzero' : second.result = 0 <;>
        simp_all [resFailed, resSuccess]

theorem LocalsFit.acknowledged {exchange : SetExchange}
    {charSigned : Bool} {possible : Set SetLocals}
    (h : LocalsFit charSigned exchange.param possible)
    (calls : HandlerCalls) (s : ServerState) :
    exchange.Acknowledged calls s charSigned possible := by
  classical
  let status := if ∃ locals ∈ possible, locals.result ≠ 0 then resFailed
    else resSuccess
  refine ⟨status, fun locals hlocals => ?_⟩
  obtain ⟨hdat, hdats⟩ := datAt_doAnswer2 zeroCommand exchange.commonCmd.cmdID
    (locals.checkSum + charSum charSigned exchange.param)
    (if locals.result ≠ 0 then resFailed else resSuccess)
  refine ⟨_, exchange.acknowledgement_eq calls s charSigned locals, ?_, ?_⟩
  · have hany : (∃ other ∈ possible, other.result ≠ 0) ↔
        locals.result ≠ 0 := by
      constructor
      · rintro ⟨other, hother, hresult⟩ hzero
        exact hresult ((h.2 locals hlocals other hother).mp hzero)
      · exact fun hresult => ⟨locals, hlocals, hresult⟩
    rw [hdat]
    simp only [status, hany]
  · have hsum : locals.checkSum + charSum charSigned exchange.param =
        onLineGetSum exchange.param := by
      rw [h.1 locals hlocals, ← charSum_add_signExtended charSigned]
      grind
    rw [hdats, hsum]

theorem acknowledged_iff_localsFit (exchange : SetExchange)
    (calls : HandlerCalls) (s : ServerState) (charSigned : Bool)
    (possible : Set SetLocals) :
    exchange.Acknowledged calls s charSigned possible ↔
      LocalsFit charSigned exchange.param possible :=
  ⟨fun h => h.localsFit, fun h => h.acknowledged calls s⟩

/-- With locals that may hold anything no request is acknowledged rightly. -/
theorem not_acknowledged_univ (exchange : SetExchange) (calls : HandlerCalls)
    (s : ServerState) (charSigned : Bool) :
    ¬ exchange.Acknowledged calls s charSigned Set.univ := by
  intro h
  have hsum := h.localsFit.1
  have hzero := hsum ⟨0, 0⟩ (Set.mem_univ _)
  have hone := hsum ⟨1, 0⟩ (Set.mem_univ _)
  exact absurd (hzero.trans hone.symm) (by decide)

/-- A set request whose parameter is the one byte 1. -/
def oneByteSet : SetExchange where
  route := .onLine
  commonCmd :=
    { zeroCommand with
      rkid := strncpy8 rkidIspOn
      cmdType := cmdTypeUapiSet
      cmdID := 0x0200
      datLen := 4
      dat := datOf (leBytes 4 1) }
  accepted := .inl ⟨rfl, rfl⟩
  chunks := [[1]]
  param := [1]
  later := []
  received := by decide

theorem oneByteSet_not_acknowledged :
    ¬ ∀ charSigned, oneByteSet.Acknowledged workingCalls pingedServer charSigned
      Set.univ :=
  fun h => not_acknowledged_univ _ _ _ _ (h false)

end RkaiqToolServer
