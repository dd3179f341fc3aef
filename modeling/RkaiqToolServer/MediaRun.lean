import RkaiqToolServer.MediaLinkText

/-!
# Runs of a media device

A device is enumerated once and then used: links are set up one by one or by a
text, or all of them are reset.  The kernel may refuse what it likes.  In
every state of such a run the graph mirrors the kernel, so what the program
reads from the graph is what the hardware has.
-/

namespace RkaiqToolServer

open TwinArrays StepRun ByteCodec

variable {κ : Type*}

inductive MediaCall
  | setup (setting : LinkSetting)
  | parse (text : List UInt8)
  | reset

/-- Pads given to `media_setup_link` are pads of the device. -/
def MediaCall.OnPads (top : Topology) : MediaCall → Prop
  | .setup setting => ∃ ends, top.HasPad ends.source ∧ top.HasPad ends.sink ∧
      setting.Of top ends
  | .parse _ => True
  | .reset => True

def MediaCall.run (driver : LinkDriver κ) (s : LinkState κ) :
    MediaCall → Option (ℤ × LinkState κ)
  | .setup setting => setting.setup driver s
  | .parse text => mediaParseSetupLinks driver s text
  | .reset => mediaResetLinks driver s

/-- No state stands for the use of a pointer that is not valid. -/
def mediaStep (driver : LinkDriver κ) (state : Option (LinkState κ))
    (call : MediaCall) : Option (LinkState κ) :=
  state.bind fun s => (call.run driver s).map Prod.snd

/-- The graph mirrors the kernel. -/
def InStep (flags : κ → LinkEnds → ℕ) (top : Topology)
    (state : Option (LinkState κ)) : Prop :=
  ∃ s, state = some s ∧ Mirrors s.graph top (flags s.kernel)

section

variable {driver : LinkDriver κ} {flags : κ → LinkEnds → ℕ} {top : Topology}

/-- What one call preserves. -/
theorem InStep.step (hvalid : top.Valid) (hkeeps : driver.Keeps flags)
    {state : Option (LinkState κ)} {call : MediaCall}
    (hstate : InStep flags top state) (hcall : call.OnPads top) :
    InStep flags top (mediaStep driver state call) := by
  obtain ⟨s, rfl, hmirrors⟩ := hstate
  have hrun : ∃ ret t, call.run driver s = some (ret, t) ∧
      Mirrors t.graph top (flags t.kernel) := by
    cases call with
    | setup setting =>
        obtain ⟨ends, hsource, hsink, hof⟩ := hcall
        obtain ⟨ret, t, hrun, hmirror, -⟩ :=
          hmirrors.setup hvalid hkeeps ⟨hsource, hsink⟩ hof
        exact ⟨ret, t, hrun, hmirror⟩
    | parse text =>
        obtain ⟨ret, t, -, -, hrun, hmirror, -⟩ :=
          hmirrors.parseSetupLinksFrom hvalid hkeeps
            (Nat.lt_succ_self text.length)
        exact ⟨ret, t, hrun, hmirror⟩
    | reset =>
        obtain ⟨ret, t, hrun, hmirror, -⟩ := hmirrors.resetLinks hvalid hkeeps
        exact ⟨ret, t, hrun, hmirror⟩
  obtain ⟨ret, t, hrun, hmirror⟩ := hrun
  exact ⟨t, by rw [mediaStep, Option.bind_some, hrun]; rfl, hmirror⟩

/-- From the enumeration of a device on, every use of the device leaves the
graph as the mirror of the kernel. -/
theorem mediaRun_mirrors (hvalid : top.Valid) (hkeeps : driver.Keeps flags)
    {calls : MediaCalls} {k : κ} (hserves : calls.Serves top (flags k))
    {model : List UInt8} (hmodel : calls.deviceInfo = .ok model) (fd : ℤ)
    {run : List MediaCall} (hrun : ∀ call ∈ run, call.OnPads top) :
    ∃ g, mediaDeviceEnumerate calls (.ok fd) (top.length + 1)
          mediaDeviceNew = some (0, g) ∧
      States (mediaStep driver) (InStep flags top) (some ⟨k, g⟩) run := by
  obtain ⟨g, hg, hmirrors, -⟩ :=
    @mediaDeviceEnumerate_mirrors calls top (flags k) hvalid hserves fd model
      hmodel _ (Nat.lt_succ_self _)
  refine ⟨g, hg, ?_⟩
  exact states_of_steps
    (fun state call hstate hcall => hstate.step hvalid hkeeps hcall)
    ⟨_, rfl, hmirrors⟩ (steps_of_forall hrun)

theorem mediaRun_mirrors_rawRead :
    ∃ g, mediaDeviceEnumerate
          (rawReadTopology.calls (fun _ => 0) (ascii "rkisp0")) (.ok 3) 4
          mediaDeviceNew = some (0, g) ∧
      States (mediaStep plainDriver) (InStep id rawReadTopology)
        (some ⟨fun _ => 0, g⟩)
        [.parse (ascii "1:0 -> 3:0[1], 2:0 ->"), .reset,
          .setup ⟨⟨0, 0⟩, ⟨2, 0⟩, 1⟩] :=
  @mediaRun_mirrors _ plainDriver id rawReadTopology rawReadTopology_valid
    plainDriver_obeys.toKeeps
    (rawReadTopology.calls (fun _ => 0) (ascii "rkisp0")) (fun _ => 0)
    (rawReadTopology_valid.calls_serves _ _) (ascii "rkisp0") rfl 3
    [.parse (ascii "1:0 -> 3:0[1], 2:0 ->"), .reset,
      .setup ⟨⟨0, 0⟩, ⟨2, 0⟩, 1⟩] (by
      intro call hcall
      simp only [List.mem_cons, List.not_mem_nil, or_false] at hcall
      rcases hcall with rfl | rfl | rfl
      · trivial
      · trivial
      · obtain ⟨hsource, hsink, -⟩ :=
          rawReadTopology_valid.ends ⟨⟨1, 0⟩, ⟨3, 0⟩⟩ (by decide)
        exact ⟨⟨⟨1, 0⟩, ⟨3, 0⟩⟩, hsource, hsink, rfl, rfl⟩)

/-- A reset enables nothing and leaves immutable links alone; when it reports
success, no other link is enabled, neither for the kernel nor in the graph. -/
theorem mediaResetLinks_disables {s : LinkState κ}
    (hmirrors : Mirrors s.graph top (flags s.kernel)) (hvalid : top.Valid)
    (hobeys : driver.Obeys flags) :
    ∃ ret t, mediaResetLinks driver s = some (ret, t) ∧ ret ≤ 0 ∧
      (∀ ends, Immutable (flags s.kernel ends) →
        flags t.kernel ends = flags s.kernel ends) ∧
      (∀ ends, Enabled (flags t.kernel ends) →
        flags t.kernel ends = flags s.kernel ends) ∧
      (ret = 0 → (∀ ends ∈ top.links, Enabled (flags t.kernel ends) →
          Immutable (flags s.kernel ends)) ∧
        ∀ p cell, TwinArrays.read t.graph.links p = some cell →
          Enabled cell.value.flags → Immutable cell.value.flags) := by
  obtain ⟨ret, t, hrun, hmirror, hall⟩ :=
    hmirrors.resetLinks hvalid hobeys.toKeeps
  obtain ⟨hlowered, hret, hall⟩ := hall hobeys
  refine ⟨ret, t, hrun, hret, ?_, ?_, ?_⟩
  · intro ends himmutable
    rcases hlowered ends with hsame | ⟨hnot, -⟩
    · exact hsame
    · exact absurd himmutable hnot
  · intro ends henabled
    rcases hlowered ends with hsame | ⟨-, hnot, -⟩
    · exact hsame
    · exact absurd henabled hnot
  · intro hzero
    have hkernel : ∀ ends ∈ top.links, Enabled (flags t.kernel ends) →
        Immutable (flags s.kernel ends) := by
      intro ends hends henabled
      by_contra himmutable
      exact hall (by omega) ends hends himmutable henabled
    refine ⟨hkernel, ?_⟩
    intro p cell hp henabled
    obtain ⟨ends, hends, hvalue, -⟩ := hmirror.value_eq hp
    have hflags : cell.value.flags = flags t.kernel ends := by
      rw [hvalue]
      rfl
    rw [hflags] at henabled ⊢
    rcases hlowered ends with hsame | ⟨-, hnot, -⟩
    · rw [hsame]
      exact hkernel ends hends henabled
    · exact absurd henabled hnot

/-- The link of the first reader is enabled, that of the second is enabled for
good. -/
theorem mediaResetLinks_disables_rawRead :
    let flags : LinkEnds → ℕ := fun ends =>
      if ends.source.entity = 1 then 1 else 3
    ∃ g, mediaDeviceEnumerate
          (rawReadTopology.calls flags (ascii "rkisp0")) (.ok 3) 4
          mediaDeviceNew = some (0, g) ∧
      ∃ ret t, mediaResetLinks plainDriver ⟨flags, g⟩ = some (ret, t) ∧
        t.kernel ⟨⟨2, 0⟩, ⟨3, 0⟩⟩ = 3 ∧
        (ret = 0 → ¬ Enabled (t.kernel ⟨⟨1, 0⟩, ⟨3, 0⟩⟩)) := by
  intro flags
  obtain ⟨g, hg, hmirrors⟩ := rawReadTopology_enumerated flags
  obtain ⟨ret, t, hrun, -, hkept, -, hall⟩ :=
    @mediaResetLinks_disables _ plainDriver id rawReadTopology
      ⟨flags, g⟩ hmirrors rawReadTopology_valid plainDriver_obeys
  have himmutable : Immutable (flags ⟨⟨2, 0⟩, ⟨3, 0⟩⟩) := by decide
  have hmutable : ¬ Immutable (flags ⟨⟨1, 0⟩, ⟨3, 0⟩⟩) := by decide
  refine ⟨g, hg, ret, t, hrun, hkept _ himmutable, fun hzero henabled => ?_⟩
  exact hmutable ((hall hzero).1 _ (by decide) henabled)

end

end RkaiqToolServer
