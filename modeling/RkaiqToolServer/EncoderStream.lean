import RkaiqToolServer.ByteStores
import RkaiqToolServer.StepRun

/-!
# The encoder's output stream

`RKHWEncApi::getOutStream` copies every packet of the encoder behind a start
code into a buffer of its own; the parameter sets go in front of the first
one.  For that one it adds the length of the parameter sets to the size before
it copies the packet, so the copy reads as much again behind the packet.  The
buffer is sized from the picture, not from the packets.
-/

namespace RkaiqToolServer

open ByteCodec ByteStores MemoryAccess StepRun

def annexbStartCode : List UInt8 := [0, 0, 0, 1]

structure EncCfgInfo where
  width : ℤ
  height : ℤ

/-- What the calls of `RKHWEncApi::init` return; `fresh` is what a new block
holds.  `extradata` are the parameter sets of the codec, `none` for NULL. -/
structure EncInitCalls where
  contextOpened : Bool
  outputAllocated : Bool
  fresh : ℕ → UInt8
  initialized : Bool
  extradata : Option (List UInt8)

structure RKHWEncApi where
  mVpuCtx : Bool
  mOutputBuf : List UInt8
  /-- The bytes of the block behind `mOutputBuf`. -/
  outputSize : ℕ
  mSpsPps : List UInt8
  mFrameCount : ℤ

/-- The argument of the `malloc`, none for a size no block can have. -/
def encOutputBytes (cfg : EncCfgInfo) : ℕ :=
  (wrapInt (cfg.width * cfg.height * 2)).toNat

def spsPpsLimit : ℕ := 2048

def RKHWEncApi.init (cfg : EncCfgInfo) (calls : EncInitCalls) :
    Option RKHWEncApi :=
  if calls.contextOpened = true ∧ calls.initialized = true then
    let outputSize := if calls.outputAllocated then encOutputBytes cfg else 0
    some {
      mVpuCtx := true
      mOutputBuf := (List.range outputSize).map calls.fresh
      outputSize := outputSize
      mSpsPps :=
        match calls.extradata with
        | some extradata =>
            if extradata.length < spsPpsLimit then extradata else []
        | none => []
      mFrameCount := 0 }
  else none

/-- What one `encoder_getstream` leaves: a block of as many bytes as its
`int32_t` size says, none when that is not positive, and what lies behind the
block. -/
structure EncoderOutput where
  ret : ℤ
  data : List UInt8
  size_lt : data.length < 2 ^ 31
  behind : ℕ → UInt8

def EncoderOutput.byte (out : EncoderOutput) (index : ℕ) : UInt8 :=
  if index < out.data.length then out.data.getD index 0
  else out.behind (index - out.data.length)

/-- A frame handed to the caller. -/
structure EncoderOut where
  data : List UInt8
  size : ℤ
  deriving DecidableEq

inductive EncBlock
  | payload
  | spsPps
  | output
  deriving DecidableEq

/-- An `int32_t` as the `size_t` of a `memcpy`. -/
def copyCount (size : ℤ) : ℕ := (size % 2 ^ 64).toNat

/-! ## One call -/

def RKHWEncApi.header (api : RKHWEncApi) : List UInt8 :=
  if api.mFrameCount = 0 ∧ 0 < api.mSpsPps.length then api.mSpsPps else []

/-- The size after the length of the header is added. -/
def RKHWEncApi.sizeWithHeader (api : RKHWEncApi) (out : EncoderOutput) : ℤ :=
  wrapInt (out.data.length + api.header.length)

def RKHWEncApi.copied (api : RKHWEncApi) (out : EncoderOutput) : List UInt8 :=
  (List.range (copyCount (api.sizeWithHeader out))).map out.byte

def RKHWEncApi.stores (api : RKHWEncApi) (out : EncoderOutput) : List Store :=
  [⟨0, api.header⟩, ⟨api.header.length, annexbStartCode⟩,
    ⟨api.header.length + 4, api.copied out⟩]

def EncoderOutput.Delivered (out : EncoderOutput) : Prop :=
  0 ≤ out.ret ∧ out.data ≠ []

instance EncoderOutput.decidableDelivered (out : EncoderOutput) :
    Decidable out.Delivered :=
  inferInstanceAs (Decidable (_ ∧ _))

def RKHWEncApi.getOutStream (api : RKHWEncApi) (out : EncoderOutput) :
    RKHWEncApi × List EncoderOut :=
  if api.mVpuCtx = false then (api, [])
  else if out.Delivered then
    let mOutputBuf := applyStores api.mOutputBuf (api.stores out)
    ({ api with
        mOutputBuf := mOutputBuf
        mFrameCount := wrapInt (api.mFrameCount + 1) },
      [{ data := mOutputBuf
         size := wrapInt (api.sizeWithHeader out + 4) }])
  else (api, [])

/-- What the copies of the call read and write. -/
def RKHWEncApi.accesses (api : RKHWEncApi) (out : EncoderOutput) :
    List (Access EncBlock) :=
  if api.mVpuCtx = true ∧ out.Delivered then
    ⟨.spsPps, 0, api.header.length⟩ ::
      ⟨.payload, 0, (api.copied out).length⟩ ::
        (api.stores out).map (Store.access .output)
  else []

def RKHWEncApi.blockSize (api : RKHWEncApi) (out : EncoderOutput) :
    EncBlock → ℕ
  | .payload => out.data.length
  | .spsPps => spsPpsLimit
  | .output => api.outputSize

/-! ## What a stream should be -/

/-- The packets of the calls that deliver one. -/
def payloadsOf (outputs : List EncoderOutput) : List (List UInt8) :=
  (outputs.filter fun out => decide out.Delivered).map EncoderOutput.data

def streamOf (spsPps : List UInt8) : List (List UInt8) → List (List UInt8)
  | [] => []
  | payload :: rest => (spsPps ++ (annexbStartCode ++ payload)) ::
      rest.map fun payload => annexbStartCode ++ payload

/-- The bytes a frame's size speaks of. -/
def EncoderOut.content (frame : EncoderOut) : List UInt8 :=
  frame.data.take frame.size.toNat

/-- Through the calls of a run the frames are the packets behind their start
codes, the first behind the parameter sets, and no copy leaves its blocks. -/
structure RKHWEncApi.StreamCorrect (api : RKHWEncApi)
    (outputs : List EncoderOutput) : Prop where
  content : (trace getOutStream api outputs).map EncoderOut.content =
    streamOf api.mSpsPps (payloadsOf outputs)
  size : ∀ frame ∈ trace getOutStream api outputs,
    frame.size = frame.content.length
  inside : Steps (next getOutStream)
    (fun api out => InBounds (api.blockSize out) (api.accesses out))
    api outputs

/-! ## Calls that deliver nothing and calls that deliver a frame -/

section Call

variable {api : RKHWEncApi} {out : EncoderOutput}

theorem getOutStream_silent (hnone : ¬ out.Delivered) :
    api.getOutStream out = (api, []) := by
  simp [RKHWEncApi.getOutStream, hnone]

theorem accesses_silent (hnone : ¬ out.Delivered) :
    api.accesses out = [] := by
  simp [RKHWEncApi.accesses, hnone]

theorem getOutStream_frame (hctx : api.mVpuCtx = true)
    (hdelivered : out.Delivered) :
    api.getOutStream out =
      ({ api with
          mOutputBuf := applyStores api.mOutputBuf (api.stores out)
          mFrameCount := wrapInt (api.mFrameCount + 1) },
        [{ data := applyStores api.mOutputBuf (api.stores out)
           size := wrapInt (api.sizeWithHeader out + 4) }]) := by
  simp [RKHWEncApi.getOutStream, hctx, hdelivered]

theorem next_getOutStream_kept (api : RKHWEncApi) (out : EncoderOutput) :
    (next RKHWEncApi.getOutStream api out).mVpuCtx = api.mVpuCtx ∧
      (next RKHWEncApi.getOutStream api out).outputSize = api.outputSize ∧
        (next RKHWEncApi.getOutStream api out).mSpsPps = api.mSpsPps := by
  rw [next, RKHWEncApi.getOutStream]
  split_ifs <;> exact ⟨rfl, rfl, rfl⟩

@[simp] theorem length_copied (api : RKHWEncApi) (out : EncoderOutput) :
    (api.copied out).length = copyCount (api.sizeWithHeader out) := by
  simp [RKHWEncApi.copied]

theorem length_header_le (api : RKHWEncApi) :
    api.header.length ≤ api.mSpsPps.length := by
  rw [RKHWEncApi.header]
  split_ifs <;> simp

/-- The copy never asks for less than the packet and the header together. -/
theorem le_copyCount (out : EncoderOutput)
    (hheader : api.mSpsPps.length < spsPpsLimit) :
    out.data.length + api.header.length ≤
      copyCount (api.sizeWithHeader out) := by
  have hsize := out.size_lt
  have hlength := length_header_le api
  have hlimit : spsPpsLimit = 2048 := rfl
  rw [RKHWEncApi.sizeWithHeader, copyCount]
  rcases lt_or_ge ((out.data.length : ℤ) + api.header.length) (2 ^ 31)
    with hsmall | hlarge
  · rw [wrapInt_of_range (by omega) hsmall]
    omega
  · rw [wrapInt_of_overflow hlarge (by omega)]
    omega

/-- Reads inside the packet leave no room for a header, writes inside the
block none for more than it holds. -/
theorem delivered_inside (hctx : api.mVpuCtx = true)
    (hheader : api.mSpsPps.length < spsPpsLimit)
    (hdelivered : out.Delivered)
    (hinside : InBounds (api.blockSize out) (api.accesses out)) :
    api.header = [] ∧ out.data.length + 4 ≤ api.outputSize := by
  have hcount : out.data.length + api.header.length ≤
      copyCount (api.sizeWithHeader out) := le_copyCount out hheader
  have hdata := List.length_pos_of_ne_nil hdelivered.2
  rw [RKHWEncApi.accesses, if_pos ⟨hctx, hdelivered⟩] at hinside
  have hread : Access.Inside (api.blockSize out)
      ⟨.payload, 0, (api.copied out).length⟩ := hinside _ (by simp)
  have hwrite : Access.Inside (api.blockSize out)
      ⟨.output, api.header.length + 4, (api.copied out).length⟩ :=
    hinside _ (by simp [RKHWEncApi.stores, Store.access])
  rw [Access.inside_iff, length_copied] at hread hwrite
  simp only [RKHWEncApi.blockSize] at hread hwrite
  constructor
  · rw [← List.length_eq_zero_iff]
    omega
  · omega

end Call

/-! ## Runs whose copies stay inside -/

theorem payloadsOf_cons (out : EncoderOutput) (rest : List EncoderOutput) :
    payloadsOf (out :: rest) =
      if out.Delivered then out.data :: payloadsOf rest
      else payloadsOf rest := by
  rw [payloadsOf, List.filter_cons]
  by_cases hdelivered : out.Delivered <;> simp [hdelivered, payloadsOf]

theorem forall_payloadsOf_cons {Fits : List UInt8 → Prop}
    {out : EncoderOutput} {rest : List EncoderOutput} :
    (∀ payload ∈ payloadsOf (out :: rest), Fits payload) ↔
      (out.Delivered → Fits out.data) ∧
        ∀ payload ∈ payloadsOf rest, Fits payload := by
  rw [payloadsOf_cons]
  by_cases hdelivered : out.Delivered
  · simp only [hdelivered, if_true, List.forall_mem_cons, forall_const]
  · simp only [hdelivered, if_false, false_implies, true_and]

theorem streamOf_no_header (payloads : List (List UInt8)) :
    streamOf [] payloads =
      payloads.map fun payload => annexbStartCode ++ payload := by
  cases payloads <;> rfl

theorem content_append (bytes more : List UInt8) :
    EncoderOut.content ⟨bytes ++ more, bytes.length⟩ = bytes := by
  rw [EncoderOut.content, Int.toNat_natCast, List.take_left]

/-- Every packet and its start code fit into the block, and the first packet
has no header in front of it. -/
theorem payloads_of_inside {outputs : List EncoderOutput} :
    ∀ {api : RKHWEncApi}, api.mVpuCtx = true →
      api.mSpsPps.length < spsPpsLimit →
      Steps (next RKHWEncApi.getOutStream)
        (fun api out => InBounds (api.blockSize out) (api.accesses out))
        api outputs →
      (∀ payload ∈ payloadsOf outputs,
        payload.length + 4 ≤ api.outputSize) ∧
      (payloadsOf outputs ≠ [] → api.header = []) := by
  induction outputs with
  | nil => simp [payloadsOf]
  | cons out rest ih =>
      intro api hctx hheader hinside
      obtain ⟨hctx', hsize', hspsPps'⟩ := next_getOutStream_kept api out
      obtain ⟨hfits, hempty⟩ := ih (hctx'.trans hctx)
        (by rwa [hspsPps']) hinside.2
      rw [hsize'] at hfits
      rw [payloadsOf_cons]
      by_cases hdelivered : out.Delivered
      · obtain ⟨hnoHeader, hfit⟩ :=
          delivered_inside hctx hheader hdelivered hinside.1
        rw [if_pos hdelivered, List.forall_mem_cons]
        exact ⟨⟨hfit, hfits⟩, fun _ => hnoHeader⟩
      · rw [if_neg hdelivered]
        rw [next, getOutStream_silent hdelivered] at hempty
        exact ⟨hfits, hempty⟩

/-! ## Frames without a header -/

section Plain

variable {api : RKHWEncApi} {out : EncoderOutput}

theorem header_of_no_spsPps (hempty : api.mSpsPps = []) : api.header = [] := by
  simp [RKHWEncApi.header, hempty]

theorem sizeWithHeader_plain (hempty : api.mSpsPps = []) :
    api.sizeWithHeader out = out.data.length := by
  have hsize := out.size_lt
  rw [RKHWEncApi.sizeWithHeader, header_of_no_spsPps hempty, List.length_nil]
  exact wrapInt_of_range (by omega) (by omega)

theorem copied_plain (hempty : api.mSpsPps = []) :
    api.copied out = out.data := by
  have hcount : copyCount (out.data.length : ℤ) = out.data.length := by
    have hsize := out.size_lt
    rw [copyCount]
    omega
  rw [RKHWEncApi.copied, sizeWithHeader_plain hempty, hcount]
  apply List.ext_getElem (by simp)
  intro index hindex hinside
  simp [EncoderOutput.byte, hinside]

theorem stores_plain (hempty : api.mSpsPps = []) :
    api.stores out = [⟨0, []⟩, ⟨0, annexbStartCode⟩, ⟨4, out.data⟩] := by
  rw [RKHWEncApi.stores, copied_plain hempty, header_of_no_spsPps hempty]
  rfl

theorem storedBytes_plain (hempty : api.mSpsPps = []) :
    storedBytes (api.stores out) = annexbStartCode ++ out.data := by
  simp [stores_plain hempty]

theorem inOrder_plain (hempty : api.mSpsPps = []) :
    InOrder 0 (api.stores out) := by
  simp [stores_plain hempty, InOrder, annexbStartCode]

/-- The frame of a call whose packet fits is the packet behind its start
code. -/
theorem frame_plain (hempty : api.mSpsPps = [])
    (hfits : out.data.length + 4 ≤ api.outputSize)
    (hblock : api.outputSize < 2 ^ 31)
    (hbuffer : api.mOutputBuf.length = api.outputSize) :
    applyStores api.mOutputBuf (api.stores out) =
        (annexbStartCode ++ out.data) ++
          api.mOutputBuf.drop (annexbStartCode ++ out.data).length ∧
      wrapInt (api.sizeWithHeader out + 4) =
        (annexbStartCode ++ out.data).length := by
  have hlength : (annexbStartCode ++ out.data).length =
      out.data.length + 4 := by
    rw [List.length_append, Nat.add_comm]
    rfl
  constructor
  · have hroom : (storedBytes (api.stores out)).length ≤
        api.mOutputBuf.length := by
      rw [storedBytes_plain hempty, hlength, hbuffer]
      exact hfits
    have hwritten : applyStores ([] ++ api.mOutputBuf) (api.stores out) =
        ([] ++ storedBytes (api.stores out)) ++
          api.mOutputBuf.drop (storedBytes (api.stores out)).length :=
      applyStores_inOrder (inOrder_plain hempty) hroom
    rwa [storedBytes_plain hempty, List.nil_append, List.nil_append] at hwritten
  · rw [sizeWithHeader_plain hempty, hlength]
    push_cast
    exact wrapInt_of_range (by omega) (by omega)

theorem inside_plain (hempty : api.mSpsPps = [])
    (hfits : out.Delivered → out.data.length + 4 ≤ api.outputSize) :
    InBounds (api.blockSize out) (api.accesses out) := by
  rw [RKHWEncApi.accesses]
  split_ifs with hcall
  · have hwrites : InBounds (api.blockSize out)
        ((api.stores out).map (Store.access .output)) := by
      refine inBounds_of_inOrder (inOrder_plain hempty) ?_
      rw [storedBytes_plain hempty, List.length_append, Nat.zero_add,
        Nat.add_comm]
      exact hfits hcall.2
    rw [inBounds_cons, inBounds_cons, header_of_no_spsPps hempty,
      copied_plain hempty]
    exact ⟨Access.inside_start (Nat.zero_le _), Access.inside_start le_rfl,
      hwrites⟩
  · exact inBounds_nil

end Plain

/-- What a run needs to stay in order: no header, and a block that every
packet fits into. -/
structure RKHWEncApi.Plain (api : RKHWEncApi) : Prop where
  context : api.mVpuCtx = true
  spsPps : api.mSpsPps = []
  block : api.outputSize < 2 ^ 31
  buffer : api.mOutputBuf.length = api.outputSize

theorem RKHWEncApi.Plain.next {api : RKHWEncApi} (hapi : api.Plain)
    {out : EncoderOutput}
    (hfits : out.Delivered → out.data.length + 4 ≤ api.outputSize) :
    (StepRun.next RKHWEncApi.getOutStream api out).Plain := by
  obtain ⟨hctx, hsize, hspsPps⟩ := next_getOutStream_kept api out
  refine ⟨hctx.trans hapi.context, hspsPps.trans hapi.spsPps,
    by rw [hsize]; exact hapi.block, ?_⟩
  rw [hsize]
  by_cases hdelivered : out.Delivered
  · have hframe := (frame_plain hapi.spsPps (hfits hdelivered) hapi.block
      hapi.buffer).1
    rw [StepRun.next, getOutStream_frame hapi.context hdelivered, hframe]
    have hroom := hfits hdelivered
    have hbuffer := hapi.buffer
    simp only [List.length_append, List.length_drop]
    simp only [annexbStartCode, List.length_cons, List.length_nil]
    omega
  · rw [StepRun.next, getOutStream_silent hdelivered]
    exact hapi.buffer

theorem RKHWEncApi.Plain.frame {api : RKHWEncApi} (hapi : api.Plain)
    {out : EncoderOutput} (hdelivered : out.Delivered)
    (hfits : out.data.length + 4 ≤ api.outputSize) :
    (api.getOutStream out).2 =
      [{ data := (annexbStartCode ++ out.data) ++
          api.mOutputBuf.drop (annexbStartCode ++ out.data).length
         size := (annexbStartCode ++ out.data).length }] := by
  obtain ⟨hbuffer, hsize⟩ :=
    frame_plain hapi.spsPps hfits hapi.block hapi.buffer
  rw [getOutStream_frame hapi.context hdelivered, hbuffer, hsize]

theorem streamCorrect_plain {outputs : List EncoderOutput} :
    ∀ {api : RKHWEncApi}, api.Plain →
      (∀ payload ∈ payloadsOf outputs,
        payload.length + 4 ≤ api.outputSize) →
      api.StreamCorrect outputs := by
  induction outputs with
  | nil =>
      intro api _ _
      exact ⟨rfl, by simp, trivial⟩
  | cons out rest ih =>
      intro api hapi hfits
      obtain ⟨hfit, hrest⟩ := forall_payloadsOf_cons.mp hfits
      obtain ⟨hctx, hsize, hspsPps⟩ := next_getOutStream_kept api out
      have hlater := ih (hapi.next hfit) (by rwa [hsize])
      have hcontent := hlater.content
      rw [hspsPps, hapi.spsPps, streamOf_no_header] at hcontent
      have hinside := inside_plain hapi.spsPps hfit
      by_cases hdelivered : out.Delivered
      · have hstep := hapi.frame hdelivered (hfit hdelivered)
        constructor
        · rw [trace_cons, hstep, List.map_append, hcontent, hapi.spsPps,
            streamOf_no_header, payloadsOf_cons, if_pos hdelivered]
          simp only [List.map_cons, List.map_nil, List.singleton_append,
            content_append]
        · rw [trace_cons, hstep]
          intro frame hframe
          rw [List.singleton_append, List.mem_cons] at hframe
          rcases hframe with hfirst | hother
          · rw [hfirst, content_append]
          · exact hlater.size frame hother
        · exact ⟨hinside, hlater.inside⟩
      · have hstep : (api.getOutStream out).2 = [] := by
          rw [getOutStream_silent hdelivered]
        constructor
        · rw [trace_cons, hstep, List.nil_append, hcontent, hapi.spsPps,
            streamOf_no_header, payloadsOf_cons, if_neg hdelivered]
        · rw [trace_cons, hstep, List.nil_append]
          exact hlater.size
        · exact ⟨hinside, hlater.inside⟩

theorem streamCorrect_silent {outputs : List EncoderOutput} :
    ∀ {api : RKHWEncApi}, payloadsOf outputs = [] →
      api.StreamCorrect outputs := by
  induction outputs with
  | nil =>
      intro api _
      exact ⟨rfl, by simp, trivial⟩
  | cons out rest ih =>
      intro api hnone
      have hsilent : ¬ out.Delivered := by
        intro hdelivered
        rw [payloadsOf_cons, if_pos hdelivered] at hnone
        cases hnone
      rw [payloadsOf_cons, if_neg hsilent] at hnone
      have hlater : api.StreamCorrect rest := ih hnone
      have hnext : next RKHWEncApi.getOutStream api out = api := by
        rw [next, getOutStream_silent hsilent]
      have hstep : (api.getOutStream out).2 = [] := by
        rw [getOutStream_silent hsilent]
      constructor
      · rw [trace_cons, hstep, hnext, List.nil_append, hlater.content,
          payloadsOf_cons, if_neg hsilent]
      · rw [trace_cons, hstep, hnext, List.nil_append]
        exact hlater.size
      · rw [steps_cons, hnext, accesses_silent hsilent]
        exact ⟨inBounds_nil, hlater.inside⟩

/-! ## From a successful start -/

theorem init_encoder {cfg : EncCfgInfo} {calls : EncInitCalls}
    {api : RKHWEncApi} (hinit : RKHWEncApi.init cfg calls = some api) :
    api.mVpuCtx = true ∧ api.mSpsPps.length < spsPpsLimit ∧
      api.mFrameCount = 0 ∧ api.outputSize < 2 ^ 31 ∧
        api.mOutputBuf.length = api.outputSize := by
  have hbytes : encOutputBytes cfg < 2 ^ 31 := by
    rw [encOutputBytes, wrapInt, signed]
    split_ifs with hsmall <;> omega
  have hshort : ∀ extradata : Option (List UInt8),
      (match extradata with
        | some extradata =>
            if extradata.length < spsPpsLimit then extradata else []
        | none => ([] : List UInt8)).length < spsPpsLimit := by
    intro extradata
    cases extradata with
    | none => exact Nat.zero_lt_succ _
    | some extradata =>
        by_cases hlength : extradata.length < spsPpsLimit
        · simp only [if_pos hlength]
          exact hlength
        · simp only [if_neg hlength]
          exact Nat.zero_lt_succ _
  rw [RKHWEncApi.init] at hinit
  split_ifs at hinit with hcalls hallocated
  · injection hinit with hinit
    rw [← hinit]
    exact ⟨rfl, hshort _, rfl, hbytes, by simp⟩
  · injection hinit with hinit
    rw [← hinit]
    exact ⟨rfl, hshort _, rfl, by norm_num, by simp⟩

/-- The stream is right exactly when no packet is ever delivered, or when the
codec has given no parameter sets and every packet fits into the block behind
its start code. -/
theorem streamCorrect_iff {cfg : EncCfgInfo} {calls : EncInitCalls}
    {api : RKHWEncApi} (hinit : RKHWEncApi.init cfg calls = some api)
    (outputs : List EncoderOutput) :
    api.StreamCorrect outputs ↔
      payloadsOf outputs = [] ∨
        (api.mSpsPps = [] ∧ ∀ payload ∈ payloadsOf outputs,
          payload.length + 4 ≤ api.outputSize) := by
  obtain ⟨hctx, hheader, hcount, hblock, hbuffer⟩ := init_encoder hinit
  constructor
  · intro hcorrect
    obtain ⟨hfits, hempty⟩ :=
      payloads_of_inside hctx hheader hcorrect.inside
    by_cases hnone : payloadsOf outputs = []
    · exact .inl hnone
    · right
      have hnoHeader := hempty hnone
      rw [RKHWEncApi.header] at hnoHeader
      split_ifs at hnoHeader with hfirst
      · exact ⟨hnoHeader, hfits⟩
      · rw [not_and, not_lt, Nat.le_zero, List.length_eq_zero_iff] at hfirst
        exact ⟨hfirst hcount, hfits⟩
  · rintro (hnone | ⟨hempty, hfits⟩)
    · exact streamCorrect_silent hnone
    · exact streamCorrect_plain ⟨hctx, hempty, hblock, hbuffer⟩ hfits

def smallPicture : EncCfgInfo where
  width := 4
  height := 4

def encInitCalls (extradata : Option (List UInt8)) : EncInitCalls where
  contextOpened := true
  outputAllocated := true
  fresh := fun _ => 0
  initialized := true
  extradata := extradata

theorem smallPacket_lt : ([0x65, 0x88] : List UInt8).length < 2 ^ 31 := by
  decide

def smallPacket : EncoderOutput where
  ret := 0
  data := [0x65, 0x88]
  size_lt := smallPacket_lt
  behind := fun _ => 0xff

theorem streamCorrect_without_header :
    ∃ api, RKHWEncApi.init smallPicture (encInitCalls none) = some api ∧
      api.StreamCorrect [smallPacket, smallPacket] := by
  have hinit : RKHWEncApi.init smallPicture (encInitCalls none) = some _ := rfl
  exact ⟨_, hinit, (streamCorrect_iff hinit _).mpr (.inr ⟨rfl, by decide⟩)⟩

/-- With a header the first frame's copy reads behind the packet. -/
theorem header_reads_behind_packet :
    ¬ ∀ (cfg : EncCfgInfo) (calls : EncInitCalls) (api : RKHWEncApi)
      (outputs : List EncoderOutput),
      RKHWEncApi.init cfg calls = some api → api.StreamCorrect outputs := by
  intro hcorrect
  have hinside := (hcorrect smallPicture (encInitCalls (some [0x67, 0x42]))
    _ [smallPacket] rfl).inside.1
  exact absurd hinside (by decide)

end RkaiqToolServer
