import RkaiqToolServer.CamCaptureHelper
import RkaiqToolServer.EncoderStream

/-!
# The buffers of the RTSP camera

For every frame of the live source `RtspServer::onDoGetNextFrame` takes a
buffer from the driver, hands it to the encoder and gives it back.  Taking
refuses only the indices above `mPixBufCnt`, which never come back, and giving
back leaves out the index 0.
-/

namespace RkaiqToolServer

open ByteCodec StepRun

/-- What the calls of one `onDoGetNextFrame` return: the index of the buffer
that the driver gives up, if it gives up one, what `encoder_sendframe` returns
and leaves of the size, the packet of `encoder_getstream`, and whether the
driver takes a buffer back. -/
structure FrameCalls where
  dequeued : Option UInt32
  sendRet : ℤ
  sendLeft : ℤ
  output : EncoderOutput
  queued : Bool

inductive DriverEvent
  | dequeued (index : ℕ)
  | queued (index : ℕ) (taken : Bool)
  deriving DecidableEq

structure QMediaBuffer where
  data : ℕ
  size : ℤ
  fd : ℤ
  bufferId : ℤ

/-! ## The camera -/

def CamCaptureHelper.v4l2DequeueBuf (s : CamCaptureHelper)
    (dequeued : Option UInt32) : ℤ × List DriverEvent :=
  if s.mDevfd = 0 then (-1, [])
  else
    match dequeued with
    | none => (-1, [])
    | some index =>
        if mPixBufCnt < index.toNat then (-1, [.dequeued index.toNat])
        else (index.toNat, [.dequeued index.toNat])

def CamCaptureHelper.v4l2QueueBuf (s : CamCaptureHelper) (idx : ℤ)
    (taken : Bool) : List DriverEvent :=
  if s.mDevfd = 0 then []
  else if idx < 0 then []
  else [.queued idx.toNat taken]

def CamCaptureHelper.getCameraBuffer (s : CamCaptureHelper)
    (dequeued : Option UInt32) : Option QMediaBuffer × List DriverEvent :=
  let idx := s.v4l2DequeueBuf dequeued
  if idx.1 < 0 then (none, idx.2)
  else
    let frame := s.mCambuf idx.1.toNat
    (some {
      data := frame.start
      size := wrapInt frame.length
      fd := frame.exportFd
      bufferId := idx.1 }, idx.2)

def CamCaptureHelper.putCameraBuffer (s : CamCaptureHelper)
    (buffer : QMediaBuffer) (taken : Bool) : List DriverEvent :=
  if 0 < buffer.bufferId then s.v4l2QueueBuf buffer.bufferId taken else []

/-! ## One frame -/

def RKHWEncApi.sendFrame (api : RKHWEncApi) (ret left : ℤ) : Bool :=
  if api.mVpuCtx = false then false
  else if ret < 0 then false
  else if left ≠ 0 then false
  else true

structure RtspServer where
  mCamDev : CamCaptureHelper
  mEncoder : RKHWEncApi
  /-- The data of the live source's buffer. -/
  outBuf : Option EncoderOut

def RtspServer.onDoGetNextFrame (server : RtspServer) (calls : FrameCalls) :
    RtspServer × List DriverEvent :=
  let got := server.mCamDev.getCameraBuffer calls.dequeued
  match got.1 with
  | none => (server, got.2)
  | some camBuf =>
      let put := server.mCamDev.putCameraBuffer camBuf calls.queued
      if server.mEncoder.sendFrame calls.sendRet calls.sendLeft = false then
        (server, got.2 ++ put)
      else
        let encoded := server.mEncoder.getOutStream calls.output
        ({ server with
            mEncoder := encoded.1
            outBuf :=
              match encoded.2 with
              | frame :: _ => some frame
              | [] => server.outBuf }, got.2 ++ put)

/-! ## Who holds the buffers -/

def DriverEvent.apply (held : Finset ℕ) : DriverEvent → Finset ℕ
  | .dequeued index => held.erase index
  | .queued index true => insert index held
  | .queued _ false => held

/-- The server and the buffers that the driver holds. -/
structure RtspCamera where
  server : RtspServer
  held : Finset ℕ

def RtspCamera.frame (camera : RtspCamera) (calls : FrameCalls) :
    RtspCamera :=
  let run := camera.server.onDoGetNextFrame calls
  ⟨run.1, run.2.foldl DriverEvent.apply camera.held⟩

/-- After `init` every buffer is queued. -/
def RtspCamera.started (server : RtspServer) : RtspCamera :=
  ⟨server, Finset.range mPixBufCnt⟩

/-- A dequeued buffer is one of the mapped ones and goes back once. -/
def GivenBack (events : List DriverEvent) : Prop :=
  ∀ index, .dequeued index ∈ events →
    index < mPixBufCnt ∧ events.count (.queued index true) = 1

def RtspCamera.DriverHolds (camera : RtspCamera) : Prop :=
  ∀ index < mPixBufCnt, index ∈ camera.held

structure RtspCamera.Conserves (camera : RtspCamera)
    (calls : List FrameCalls) : Prop where
  givenBack : Steps RtspCamera.frame
    (fun camera calls => GivenBack (camera.server.onDoGetNextFrame calls).2)
    camera calls
  held : States RtspCamera.frame RtspCamera.DriverHolds camera calls

/-- The driver gives up no buffer, or one of those that go back, and takes it
again. -/
def FrameCalls.Returns (calls : FrameCalls) : Prop :=
  ∀ index, calls.dequeued = some index →
    1 ≤ index.toNat ∧ index.toNat < mPixBufCnt ∧ calls.queued = true

/-! ## One frame of the camera -/

theorem onDoGetNextFrame_mCamDev (server : RtspServer) (calls : FrameCalls) :
    (server.onDoGetNextFrame calls).1.mCamDev = server.mCamDev := by
  rw [RtspServer.onDoGetNextFrame]
  cases (server.mCamDev.getCameraBuffer calls.dequeued).1 with
  | none => rfl
  | some camBuf =>
      simp only
      split_ifs <;> rfl

/-- Whatever the encoder does, a buffer that was taken is put back by the same
call. -/
theorem onDoGetNextFrame_events (server : RtspServer) (calls : FrameCalls) :
    (server.onDoGetNextFrame calls).2 =
      (server.mCamDev.getCameraBuffer calls.dequeued).2 ++
        match (server.mCamDev.getCameraBuffer calls.dequeued).1 with
        | none => []
        | some camBuf =>
            server.mCamDev.putCameraBuffer camBuf calls.queued := by
  rw [RtspServer.onDoGetNextFrame]
  cases (server.mCamDev.getCameraBuffer calls.dequeued).1 with
  | none => simp
  | some camBuf =>
      simp only
      split_ifs <;> rfl

section Frame

variable {server : RtspServer} {calls : FrameCalls}

theorem events_unopened (hclosed : server.mCamDev.mDevfd = 0) :
    (server.onDoGetNextFrame calls).2 = [] := by
  rw [onDoGetNextFrame_events]
  simp [CamCaptureHelper.getCameraBuffer, CamCaptureHelper.v4l2DequeueBuf,
    hclosed]

theorem events_no_buffer (hnone : calls.dequeued = none) :
    (server.onDoGetNextFrame calls).2 = [] := by
  rw [onDoGetNextFrame_events]
  simp [CamCaptureHelper.getCameraBuffer, CamCaptureHelper.v4l2DequeueBuf,
    hnone]

theorem events_refused {index : UInt32} (hopen : server.mCamDev.mDevfd ≠ 0)
    (hindex : calls.dequeued = some index)
    (hlarge : mPixBufCnt < index.toNat) :
    (server.onDoGetNextFrame calls).2 = [.dequeued index.toNat] := by
  rw [onDoGetNextFrame_events]
  simp [CamCaptureHelper.getCameraBuffer, CamCaptureHelper.v4l2DequeueBuf,
    hindex, hopen, hlarge]

theorem events_first {index : UInt32} (hopen : server.mCamDev.mDevfd ≠ 0)
    (hindex : calls.dequeued = some index) (hzero : index.toNat = 0) :
    (server.onDoGetNextFrame calls).2 = [.dequeued 0] := by
  rw [onDoGetNextFrame_events]
  simp [CamCaptureHelper.getCameraBuffer, CamCaptureHelper.v4l2DequeueBuf,
    CamCaptureHelper.putCameraBuffer, hindex, hopen, hzero]

theorem events_put {index : UInt32} (hopen : server.mCamDev.mDevfd ≠ 0)
    (hindex : calls.dequeued = some index) (hpos : 1 ≤ index.toNat)
    (hsmall : index.toNat ≤ mPixBufCnt) :
    (server.onDoGetNextFrame calls).2 =
      [.dequeued index.toNat, .queued index.toNat calls.queued] := by
  have hnonneg : ¬ (index.toNat : ℤ) < 0 := by omega
  have hput : index.toNat ≠ 0 := by omega
  rw [onDoGetNextFrame_events]
  simp [CamCaptureHelper.getCameraBuffer, CamCaptureHelper.v4l2DequeueBuf,
    CamCaptureHelper.putCameraBuffer, CamCaptureHelper.v4l2QueueBuf, hindex,
    hopen, not_lt.mpr hsmall, hnonneg, hput]

/-- What a call does with the driver's buffers, with every branch of the two
index tests. -/
theorem givenBack_iff (hopen : server.mCamDev.mDevfd ≠ 0) :
    GivenBack (server.onDoGetNextFrame calls).2 ↔ calls.Returns := by
  cases hindex : calls.dequeued with
  | none =>
      simp [GivenBack, FrameCalls.Returns, events_no_buffer hindex, hindex]
  | some index =>
      have hreturns : calls.Returns ↔ 1 ≤ index.toNat ∧
          index.toNat < mPixBufCnt ∧ calls.queued = true := by
        simp [FrameCalls.Returns, hindex]
      rw [hreturns]
      by_cases hlarge : mPixBufCnt < index.toNat
      · rw [events_refused hopen hindex hlarge]
        simp [GivenBack, not_lt.mpr hlarge.le]
      · by_cases hzero : index.toNat = 0
        · rw [events_first hopen hindex hzero]
          simp [GivenBack, hzero]
        · rw [events_put hopen hindex (by omega) (not_lt.mp hlarge)]
          cases htaken : calls.queued <;>
            simp [GivenBack, Nat.one_le_iff_ne_zero, hzero]

theorem held_kept {held : Finset ℕ}
    (hreturns : server.mCamDev.mDevfd = 0 ∨ calls.Returns)
    (hheld : ∀ index < mPixBufCnt, index ∈ held) :
    ∀ index < mPixBufCnt, index ∈
      (server.onDoGetNextFrame calls).2.foldl DriverEvent.apply held := by
  by_cases hclosed : server.mCamDev.mDevfd = 0
  · rw [events_unopened hclosed]
    exact hheld
  · have hcall := hreturns.resolve_left hclosed
    cases hindex : calls.dequeued with
    | none =>
        rw [events_no_buffer hindex]
        exact hheld
    | some index =>
        obtain ⟨hpos, hsmall, htaken⟩ := hcall index hindex
        rw [events_put hclosed hindex hpos hsmall.le, htaken]
        intro other hother
        by_cases hsame : other = index.toNat
        · simp [DriverEvent.apply, hsame]
        · simp [DriverEvent.apply, hsame, hheld other hother]

end Frame

/-! ## Every run of frames -/

theorem conserves_of_held {calls : List FrameCalls} :
    ∀ {camera : RtspCamera}, camera.DriverHolds →
      (camera.Conserves calls ↔
        camera.server.mCamDev.mDevfd = 0 ∨
          ∀ call ∈ calls, call.Returns) := by
  induction calls with
  | nil =>
      intro camera hheld
      simp only [List.not_mem_nil, false_imp_iff, implies_true, or_true,
        iff_true]
      exact ⟨trivial, hheld⟩
  | cons call rest ih =>
      intro camera hheld
      have hfd : (camera.frame call).server.mCamDev.mDevfd =
          camera.server.mCamDev.mDevfd := by
        rw [RtspCamera.frame, onDoGetNextFrame_mCamDev]
      by_cases hclosed : camera.server.mCamDev.mDevfd = 0
      · have hnext : (camera.frame call).DriverHolds :=
          held_kept (.inl hclosed) hheld
        have hrest := (ih hnext).mpr (.inl (hfd.trans hclosed))
        refine iff_of_true ⟨⟨?_, hrest.givenBack⟩, hheld, hrest.held⟩
          (.inl hclosed)
        change GivenBack (camera.server.onDoGetNextFrame call).2
        rw [events_unopened hclosed]
        intro index hindex
        cases hindex
      · rw [or_iff_right hclosed, List.forall_mem_cons]
        constructor
        · intro hconserves
          have hcall := (givenBack_iff hclosed).mp hconserves.givenBack.1
          have hnext : (camera.frame call).DriverHolds :=
            hconserves.held.2.head
          have hrest := (ih hnext).mp
            ⟨hconserves.givenBack.2, hconserves.held.2⟩
          exact ⟨hcall, hrest.resolve_left (by rwa [hfd])⟩
        · rintro ⟨hcall, hothers⟩
          have hnext : (camera.frame call).DriverHolds :=
            held_kept (.inr hcall) hheld
          have hrest := (ih hnext).mpr (.inr hothers)
          exact ⟨⟨(givenBack_iff hclosed).mpr hcall, hrest.givenBack⟩,
            hheld, hrest.held⟩

/-- Between the frames of a run the driver holds every buffer exactly when
each buffer it gives up has one of the indices from 1 to 3 and is taken back,
unless the device descriptor is 0. -/
theorem started_conserves_iff (server : RtspServer)
    (calls : List FrameCalls) :
    (RtspCamera.started server).Conserves calls ↔
      server.mCamDev.mDevfd = 0 ∨ ∀ call ∈ calls, call.Returns :=
  conserves_of_held fun _ hindex => Finset.mem_range.mpr hindex

def rtspServer : RtspServer where
  mCamDev := { newCamCaptureHelper with mDevfd := 5 }
  mEncoder :=
    { mVpuCtx := true, mOutputBuf := [], outputSize := 0, mSpsPps := [],
      mFrameCount := 0 }
  outBuf := none

/-- The driver gives up its first buffer and the encoder keeps the frame. -/
def firstBuffer : FrameCalls where
  dequeued := some 0
  sendRet := 0
  sendLeft := 0
  output := smallPacket
  queued := true

theorem first_buffer_not_given_back :
    ¬ ∀ (server : RtspServer) (calls : List FrameCalls),
      (RtspCamera.started server).Conserves calls := by
  intro hconserves
  have hback : GivenBack (rtspServer.onDoGetNextFrame firstBuffer).2 :=
    (hconserves rtspServer [firstBuffer]).givenBack.1
  rw [events_first (by decide) rfl rfl] at hback
  exact absurd (hback 0 (by decide)).2 (by decide)

end RkaiqToolServer
