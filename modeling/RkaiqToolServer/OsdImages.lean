import RkaiqToolServer.OsdRegions
import RkaiqToolServer.StepRun

/-!
# The images of the on-screen display

As long as no buffer is refused, the images of the enabled regions lie apart
from each other in the buffer and stay what they were set to.  A refused buffer
leaves the new places entered over the old buffer, which is harmless only where
the old buffer reads the same at both.
-/

namespace RkaiqToolServer

open StepRun MemoryBlocks

/-! ## What has to hold -/

def MppEncOSDData.Enabled (osd : MppEncOSDData) (i : ℕ) : Prop :=
  i < osdRegionsCnt ∧ (osd.region i).enable = true

/-- One more than the highest enabled region, 0 if there is none. -/
structure RegionsCounted (osd : MppEncOSDData) : Prop where
  below : ∀ i, osd.Enabled i → i < osd.numRegion
  last : osd.numRegion = 0 ∨ osd.Enabled (osd.numRegion - 1)

def OsdRun.block (run : OsdRun) (i : ℕ) : Block UInt8 where
  place := (run.osd.region i).bufOffset
  size := (run.osd.region i).bytes
  content := run.images i

structure ImagesLaidOut (run : OsdRun) : Prop where
  disjoint : ∀ i j, run.osd.Enabled i → run.osd.Enabled j → i ≠ j →
    (run.block i).Disjoint (run.block j)
  held : ∀ i, run.osd.Enabled i → ∃ buf, run.osd.buf = some buf ∧
    (run.block i).stop ≤ buf.size ∧ (run.block i).HeldIn buf.memory
  counted : RegionsCounted run.osd

/-- `none` outside the buffer. -/
def MppEncOSDData.byteAt (osd : MppEncOSDData) (address : ℕ) : Option UInt8 :=
  osd.buf.bind fun buf =>
    if address < buf.size then some (buf.memory address) else none

/-- What is found at the range of a region. -/
def MppEncOSDData.imageAt (osd : MppEncOSDData) (i : ℕ) :
    List (Option UInt8) :=
  (List.range (osd.region i).bytes).map fun k =>
    osd.byteAt ((osd.region i).bufOffset + k)

/-- A call that returns -1 leaves the images of the other regions. -/
def FailureKeeps (asserts : Bool) (run : OsdRun) (call : OsdCall) : Prop :=
  ∀ next,
    run.osd.osdRegionSet asserts (some call.rdata) call.got =
        some (next, -1) →
      ∀ i, i ≠ call.rdata.regionId → run.osd.Enabled i →
        next.Enabled i ∧ next.imageAt i = run.osd.imageAt i

/-! ## When a failure is harmless -/

/-- The call needs a buffer. -/
structure Reallocates (asserts : Bool) (osd : MppEncOSDData)
    (rdata : OsdRegionData) : Prop where
  regionId : rdata.regionId < osdRegionsCnt
  enable : rdata.enable = true
  image : rdata.buffer ≠ none
  fits : asserts = true →
    ((osd.region rdata.regionId).update rdata).fits = true
  larger : osd.oldSize rdata.regionId < rdata.newSize

/-- The bytes of the enabled regions before `i`, the one to be set with its
new size. -/
def placeAfter (osd : MppEncOSDData) (rdata : OsdRegionData) (i : ℕ) : ℕ :=
  offset (fun j => if j = rdata.regionId then rdata.newSize
    else enabledBytes osd.region j) i

/-- A higher region is enabled, and every other one finds in the old buffer
what it had there, at the new place as at the old one. -/
structure SameAtNewPlaces (osd : MppEncOSDData) (rdata : OsdRegionData) :
    Prop where
  higher : ∃ i, rdata.regionId < i ∧ osd.Enabled i
  inside : ∀ i, i ≠ rdata.regionId → osd.Enabled i → ∀ buf,
    osd.buf = some buf →
      placeAfter osd rdata i + (osd.region i).bytes ≤ buf.size
  same : ∀ i, i ≠ rdata.regionId → osd.Enabled i → ∀ buf,
    osd.buf = some buf → ∀ k < (osd.region i).bytes,
      buf.memory (placeAfter osd rdata i + k) =
        buf.memory ((osd.region i).bufOffset + k)

def FailsHarmlessly (asserts : Bool) (run : OsdRun) (call : OsdCall) : Prop :=
  call.got = none → Reallocates asserts run.osd call.rdata.aligned →
    SameAtNewPlaces run.osd call.rdata.aligned

/-! ## The data of a call -/

theorem upAlignTo16_of_aligned {value : ℕ} (haligned : value % 16 = 0)
    (hsmall : value ≤ 4096) : upAlignTo16 value = value := by
  rw [upAlignTo16, Nat.mod_eq_of_lt (by omega)]
  omega

section Data

variable {rdata : OsdRegionData}

@[simp] theorem aligned_regionId : rdata.aligned.regionId = rdata.regionId := by
  rw [OsdRegionData.aligned]
  split <;> rfl

@[simp] theorem aligned_enable : rdata.aligned.enable = rdata.enable := by
  rw [OsdRegionData.aligned]
  split <;> rfl

@[simp] theorem aligned_buffer : rdata.aligned.buffer = rdata.buffer := by
  rw [OsdRegionData.aligned]
  split <;> rfl

/-- Sides that are 16-aligned are not changed with the position. -/
theorem aligned_sides (hwidth : OsdSide rdata.width)
    (hheight : OsdSide rdata.height) :
    OsdSide rdata.aligned.width ∧ OsdSide rdata.aligned.height := by
  rw [OsdRegionData.aligned]
  split
  case isTrue =>
    dsimp only
    rw [upAlignTo16_of_aligned hwidth.2.1 hwidth.2.2,
      upAlignTo16_of_aligned hheight.2.1 hheight.2.2]
    exact ⟨hwidth, hheight⟩
  case isFalse => exact ⟨hwidth, hheight⟩

variable (hwidth : OsdSide rdata.width) (hheight : OsdSide rdata.height)

include hwidth hheight

theorem newSize_eq : rdata.newSize = rdata.width * rdata.height := by
  have hle : rdata.width * rdata.height ≤ 4096 * 4096 :=
    Nat.mul_le_mul hwidth.2.2 hheight.2.2
  rw [OsdRegionData.newSize, Nat.mod_eq_of_lt (by omega)]

theorem newSize_pos : 0 < rdata.newSize := by
  rw [newSize_eq hwidth hheight]
  exact Nat.mul_pos hwidth.1 hheight.1

theorem bytes_update (region : MppEncOSDRegion) :
    (region.update rdata).bytes = rdata.newSize := by
  have hw : rdata.width = 16 * (rdata.width / 16) := by
    have haligned := hwidth.2.1
    omega
  have hh : rdata.height = 16 * (rdata.height / 16) := by
    have haligned := hheight.2.1
    omega
  have hproduct : rdata.width / 16 * (rdata.height / 16) * 256 =
      rdata.width * rdata.height := by
    calc rdata.width / 16 * (rdata.height / 16) * 256 =
        16 * (rdata.width / 16) * (16 * (rdata.height / 16)) := by ring
      _ = rdata.width * rdata.height := by rw [← hw, ← hh]
  rw [MppEncOSDRegion.bytes, OsdRegionData.newSize, ← hproduct]
  rfl

end Data

/-! ## Counting the regions -/

theorem regionsCounted_of_count {osd : MppEncOSDData}
    {region : ℕ → MppEncOSDRegion}
    (hcount : osd.numRegion = countRegions region osdRegionsCnt)
    (hsame : ∀ i < osdRegionsCnt,
      (osd.region i).enable = (region i).enable) :
    RegionsCounted osd where
  below i henabled := by
    rw [hcount]
    exact lt_countRegions henabled.1
      (hsame i henabled.1 ▸ henabled.2)
  last := by
    rw [hcount]
    exact (countRegions_last osdRegionsCnt).imp_right fun hlast =>
      ⟨hlast.1, (hsame _ hlast.1).trans hlast.2⟩

/-! ## The regions as they are updated -/

section Updated

variable {osd : MppEncOSDData} {rdata : OsdRegionData}

theorem updateRegion_self :
    (osd.updateRegion rdata).region rdata.regionId =
      (osd.region rdata.regionId).update rdata :=
  Function.update_self _ _ _

theorem updateRegion_of_ne {i : ℕ} (hne : i ≠ rdata.regionId) :
    (osd.updateRegion rdata).region i = osd.region i :=
  Function.update_of_ne hne _ _

theorem updateRegion_enabled {i : ℕ} (hid : rdata.regionId < osdRegionsCnt) :
    (osd.updateRegion rdata).Enabled i ↔
      i = rdata.regionId ∨ osd.Enabled i := by
  by_cases hi : i = rdata.regionId
  · subst hi
    simp [MppEncOSDData.Enabled, updateRegion_self, hid,
      MppEncOSDRegion.update]
  · simp [MppEncOSDData.Enabled, updateRegion_of_ne hi, hi]

end Updated

/-! ## One call -/

section Calls

variable {run : OsdRun}

theorem disable_enabled {osd : MppEncOSDData} {rid i : ℕ} :
    (osd.disable rid).Enabled i ↔ i ≠ rid ∧ osd.Enabled i := by
  rw [MppEncOSDData.Enabled, MppEncOSDData.disable]
  by_cases hi : i = rid
  · subst hi
    simp
  · simp [hi, MppEncOSDData.Enabled]

theorem ImagesLaidOut.disable (hlaid : ImagesLaidOut run) (rid : ℕ) :
    ImagesLaidOut ⟨run.osd.disable rid, run.images⟩ := by
  have hblock : ∀ i, i ≠ rid →
      OsdRun.block ⟨run.osd.disable rid, run.images⟩ i = run.block i := by
    intro i hi
    simp only [OsdRun.block, MppEncOSDData.disable, Function.update_of_ne hi]
  refine ⟨fun i j hi hj hne => ?_, fun i hi => ?_,
    regionsCounted_of_count rfl fun _ _ => rfl⟩
  · obtain ⟨hine, hi⟩ := disable_enabled.mp hi
    obtain ⟨hjne, hj⟩ := disable_enabled.mp hj
    rw [hblock i hine, hblock j hjne]
    exact hlaid.disjoint i j hi hj hne
  · obtain ⟨hine, hi⟩ := disable_enabled.mp hi
    rw [hblock i hine]
    exact hlaid.held i hi

/-- The run once the image of a region is set. -/
def OsdRun.drawn (run : OsdRun) (osd : MppEncOSDData) (rid : ℕ)
    (image : ℕ → UInt8) : OsdRun :=
  ⟨osd, Function.update run.images rid image⟩

section Drawn

variable {osd : MppEncOSDData} {rdata : OsdRegionData}

theorem drawn_block_self (image : ℕ → UInt8) (hwidth : OsdSide rdata.width)
    (hheight : OsdSide rdata.height)
    (hregion : osd.region = (run.osd.updateRegion rdata).region) :
    (run.drawn osd rdata.regionId image).block rdata.regionId =
      ⟨(run.osd.region rdata.regionId).bufOffset, rdata.newSize, image⟩ := by
  simp only [OsdRun.block, OsdRun.drawn, hregion, updateRegion_self,
    bytes_update hwidth hheight, Function.update_self]
  rfl

theorem drawn_block_of_ne (image : ℕ → UInt8) {i : ℕ}
    (hi : i ≠ rdata.regionId)
    (hregion : osd.region = (run.osd.updateRegion rdata).region) :
    (run.drawn osd rdata.regionId image).block i = run.block i := by
  simp only [OsdRun.block, OsdRun.drawn, hregion, updateRegion_of_ne hi,
    Function.update_of_ne hi]

theorem enabled_of_updated (hrid : run.osd.Enabled rdata.regionId)
    (hregion : osd.region = (run.osd.updateRegion rdata).region) (i : ℕ) :
    osd.Enabled i ↔ run.osd.Enabled i := by
  have hupdated : (run.osd.updateRegion rdata).Enabled i ↔
      i = rdata.regionId ∨ run.osd.Enabled i := updateRegion_enabled hrid.1
  rw [MppEncOSDData.Enabled, hregion]
  refine hupdated.trans ⟨?_, .inr⟩
  rintro (rfl | henabled)
  · exact hrid
  · exact henabled

theorem enabled_of_newSize_le (hid : rdata.regionId < osdRegionsCnt)
    (hwidth : OsdSide rdata.width) (hheight : OsdSide rdata.height)
    (hfits : rdata.newSize ≤ osd.oldSize rdata.regionId) :
    osd.Enabled rdata.regionId ∧
      rdata.newSize ≤ (osd.region rdata.regionId).bytes := by
  have hpos := newSize_pos hwidth hheight
  rw [MppEncOSDData.oldSize] at hfits
  split at hfits
  case isTrue henabled => exact ⟨⟨hid, henabled⟩, hfits⟩
  case isFalse => omega

end Drawn

/-- An image is written within the place of the one before. -/
theorem ImagesLaidOut.overwrite (hlaid : ImagesLaidOut run)
    {rdata : OsdRegionData} {image : ℕ → UInt8} {next : MppEncOSDData}
    (hid : rdata.regionId < osdRegionsCnt)
    (hwidth : OsdSide rdata.width) (hheight : OsdSide rdata.height)
    (hfits : rdata.newSize ≤ run.osd.oldSize rdata.regionId)
    (hnext : (run.osd.updateRegion rdata).overwrite rdata.regionId image
      rdata.newSize = some next) :
    ImagesLaidOut (run.drawn next rdata.regionId image) := by
  obtain ⟨hrid, hsize⟩ := enabled_of_newSize_le hid hwidth hheight hfits
  obtain ⟨buf, hbuf, hnext⟩ := Option.map_eq_some_iff.mp hnext
  have hregion : next.region = (run.osd.updateRegion rdata).region := by
    rw [← hnext]
  have henabled := enabled_of_updated hrid hregion
  have hself := drawn_block_self image hwidth hheight hregion
  have hother := fun i (hi : i ≠ rdata.regionId) =>
    drawn_block_of_ne image hi hregion
  have hwritten : next.buf = some
      { buf with
        memory := write buf.memory
          ((run.drawn next rdata.regionId image).block rdata.regionId) } := by
    rw [hself, ← hnext, updateRegion_self]
    rfl
  have hapart : ∀ i, i ≠ rdata.regionId → run.osd.Enabled i →
      ((run.drawn next rdata.regionId image).block
        rdata.regionId).Disjoint (run.block i) := by
    intro i hi hienabled
    rw [hself]
    exact (hlaid.disjoint _ i hrid hienabled hi.symm).shrink rfl hsize
  refine ⟨fun i j hi hj hne => ?_, fun i hi => ?_, ?_⟩
  · replace hi := (henabled i).mp hi
    replace hj := (henabled j).mp hj
    by_cases hirid : i = rdata.regionId
    · subst hirid
      rw [hother j hne.symm]
      exact hapart j hne.symm hj
    · rw [hother i hirid]
      by_cases hjrid : j = rdata.regionId
      · subst hjrid
        exact (hapart i hne hi).symm
      · rw [hother j hjrid]
        exact hlaid.disjoint i j hi hj hne
  · replace hi := (henabled i).mp hi
    obtain ⟨old, hold, hstop, hheld⟩ := hlaid.held i hi
    obtain rfl : buf = old := Option.some.inj (hbuf.symm.trans hold)
    refine ⟨_, hwritten, ?_⟩
    by_cases hirid : i = rdata.regionId
    · subst hirid
      refine ⟨?_, heldIn_write⟩
      have hroom : (run.block rdata.regionId).stop ≤ buf.size := hstop
      rw [hself, Block.stop]
      rw [Block.stop, OsdRun.block] at hroom
      dsimp only at hroom ⊢
      omega
    · rw [hother i hirid]
      exact ⟨hstop, (hapart i hirid hi).symm.heldIn_write hheld⟩
  · have hcount : next.numRegion = run.osd.numRegion := by
      rw [← hnext]
      rfl
    refine ⟨fun i hi => ?_, ?_⟩
    · rw [OsdRun.drawn, hcount]
      exact hlaid.counted.below i ((henabled i).mp hi)
    · rw [OsdRun.drawn, hcount]
      exact hlaid.counted.last.imp_right (henabled _).mpr

/-! ## Calls that need a buffer -/

/-- The sides of the enabled regions are at most 4096. -/
def RegionsFit (osd : MppEncOSDData) : Prop :=
  ∀ i, osd.Enabled i →
    (osd.region i).numMbX ≤ 256 ∧ (osd.region i).numMbY ≤ 256

theorem bytes_le {region : MppEncOSDRegion} (hx : region.numMbX ≤ 256)
    (hy : region.numMbY ≤ 256) : region.bytes ≤ 2 ^ 24 := by
  have hle : region.numMbX * region.numMbY ≤ 256 * 256 :=
    Nat.mul_le_mul hx hy
  rw [MppEncOSDRegion.bytes]
  exact (Nat.mod_le _ _).trans (by omega)

/-- The new places do not leave the 32-bit words. -/
theorem RegionsFit.newPlace_lt {osd : MppEncOSDData} (hfit : RegionsFit osd) :
    newPlace osd.region osdRegionsCnt < 2 ^ 32 := by
  have hbound : ∀ i < osdRegionsCnt, enabledBytes osd.region i ≤ 2 ^ 24 := by
    intro i hi
    rw [enabledBytes]
    split
    case isTrue henabled =>
      obtain ⟨hx, hy⟩ := hfit i ⟨hi, henabled⟩
      exact bytes_le hx hy
    case isFalse => exact Nat.zero_le _
  calc newPlace osd.region osdRegionsCnt ≤ osdRegionsCnt * 2 ^ 24 :=
        offset_le_mul _ hbound
    _ < 2 ^ 32 := by decide

theorem RegionsFit.updateRegion {osd : MppEncOSDData} (hfit : RegionsFit osd)
    {rdata : OsdRegionData} (hid : rdata.regionId < osdRegionsCnt)
    (hwidth : OsdSide rdata.width) (hheight : OsdSide rdata.height) :
    RegionsFit (osd.updateRegion rdata) := by
  intro i hi
  by_cases hirid : i = rdata.regionId
  · subst hirid
    have hw := hwidth.2.2
    have hh := hheight.2.2
    rw [updateRegion_self, MppEncOSDRegion.update]
    dsimp only
    omega
  · rw [updateRegion_of_ne hirid]
    rcases (updateRegion_enabled hid).mp hi with heq | henabled
    · exact absurd heq hirid
    · exact hfit i henabled

theorem placedRegion_enable (region : ℕ → MppEncOSDRegion) (i : ℕ) :
    (placedRegion region i).enable = (region i).enable := by
  rw [placedRegion]
  split <;> rfl

theorem placedRegion_fits {region : ℕ → MppEncOSDRegion} {i : ℕ}
    (henabled : (region i).enable = true) :
    (placedRegion region i).numMbX = (region i).numMbX ∧
      (placedRegion region i).numMbY = (region i).numMbY := by
  rw [placedRegion, if_pos henabled]
  exact ⟨rfl, rfl⟩

theorem placed_block {osd : MppEncOSDData} {images : ℕ → ℕ → UInt8}
    {region : ℕ → MppEncOSDRegion} {i : ℕ}
    (hregion : osd.region i = placedRegion region i)
    (henabled : (region i).enable = true) :
    OsdRun.block ⟨osd, images⟩ i =
      packed (enabledBytes region) images i := by
  simp only [OsdRun.block, hregion, placedRegion, if_pos henabled, packed,
    enabledBytes, newPlace]
  rfl

theorem placeAfter_eq {osd : MppEncOSDData} {rdata : OsdRegionData}
    (hwidth : OsdSide rdata.width) (hheight : OsdSide rdata.height) (i : ℕ) :
    newPlace (osd.updateRegion rdata).region i = placeAfter osd rdata i := by
  rw [newPlace, placeAfter]
  congr 1
  funext j
  by_cases hj : j = rdata.regionId
  · subst hj
    rw [if_pos rfl, enabledBytes, updateRegion_self,
      bytes_update hwidth hheight]
    exact if_pos rfl
  · rw [if_neg hj, enabledBytes, updateRegion_of_ne hj]
    rfl

/-! ## Calls that get their buffer -/

/-- What the call leaves when there is a buffer for it. -/
def MppEncOSDData.granted (osd : MppEncOSDData) (rdata : OsdRegionData)
    (image fresh : ℕ → UInt8) : MppEncOSDData :=
  let region := (osd.updateRegion rdata).region
  { buf := some
      { size := newPlace region osdRegionsCnt
        memory := pack (enabledBytes region)
          (OsdLayout.source region osd.buf rdata.regionId image) fresh
          osdRegionsCnt }
    numRegion := countRegions region osdRegionsCnt
    region := (OsdLayout.placed region osdRegionsCnt).region }

section Granted

variable {osd : MppEncOSDData} {rdata : OsdRegionData}
  {image fresh : ℕ → UInt8}

theorem resize_some (hfit : RegionsFit osd)
    (hid : rdata.regionId < osdRegionsCnt)
    (hwidth : OsdSide rdata.width) (hheight : OsdSide rdata.height)
    (hold : ∀ i, osd.Enabled i → osd.buf.isSome = true) :
    (osd.updateRegion rdata).resize rdata.regionId image rdata.newSize
        (some fresh) = some (osd.granted rdata image fresh, 0) := by
  have hfits := hfit.updateRegion hid hwidth hheight
  have hsize : ((osd.updateRegion rdata).region rdata.regionId).bytes =
      rdata.newSize := by
    rw [updateRegion_self, bytes_update hwidth hheight]
  have hothers : ∀ i < osdRegionsCnt, i ≠ rdata.regionId →
      ((osd.updateRegion rdata).region i).enable = true →
        (osd.updateRegion rdata).buf.isSome = true := by
    intro i hi hne henabled
    rw [updateRegion_of_ne hne] at henabled
    exact hold i ⟨hi, henabled⟩
  rw [MppEncOSDData.resize, OsdLayout.placeRegions_eq hfits.newPlace_lt,
    OsdLayout.copyRegions_placed image fresh le_rfl hsize hothers]
  rfl

theorem granted_buf :
    (osd.granted rdata image fresh).buf = some
      { size := newPlace (osd.updateRegion rdata).region osdRegionsCnt
        memory := pack (enabledBytes (osd.updateRegion rdata).region)
          (OsdLayout.source (osd.updateRegion rdata).region osd.buf
            rdata.regionId image) fresh osdRegionsCnt } := rfl

theorem granted_region {i : ℕ} (hi : i < osdRegionsCnt) :
    (osd.granted rdata image fresh).region i =
      placedRegion (osd.updateRegion rdata).region i := if_pos hi

theorem granted_enabled {i : ℕ} :
    (osd.granted rdata image fresh).Enabled i ↔
      (osd.updateRegion rdata).Enabled i := by
  refine and_congr_right fun hi => ?_
  rw [granted_region hi, placedRegion_enable]

theorem granted_fits (hfit : RegionsFit osd)
    (hid : rdata.regionId < osdRegionsCnt)
    (hwidth : OsdSide rdata.width) (hheight : OsdSide rdata.height) :
    RegionsFit (osd.granted rdata image fresh) := by
  intro i hi
  have henabled := granted_enabled.mp hi
  obtain ⟨hx, hy⟩ := placedRegion_fits henabled.2
  rw [granted_region hi.1, hx, hy]
  exact hfit.updateRegion hid hwidth hheight i henabled

end Granted

/-- What is copied for a region is the image that was last set for it. -/
theorem ImagesLaidOut.images_eq_source (hlaid : ImagesLaidOut run)
    {rdata : OsdRegionData} {image : ℕ → UInt8} {i k : ℕ}
    (hid : rdata.regionId < osdRegionsCnt)
    (henabled : (run.osd.updateRegion rdata).Enabled i)
    (hk : k < enabledBytes (run.osd.updateRegion rdata).region i) :
    Function.update run.images rdata.regionId image i k =
      OsdLayout.source (run.osd.updateRegion rdata).region
        (run.osd.updateRegion rdata).buf rdata.regionId image i k := by
  by_cases hirid : i = rdata.regionId
  · subst hirid
    rw [OsdLayout.source_self, Function.update_self]
  · have hbefore : run.osd.Enabled i :=
      ((updateRegion_enabled hid).mp henabled).resolve_left hirid
    obtain ⟨buf, hbuf, -, hheld⟩ := hlaid.held i hbefore
    have hsame : (run.osd.updateRegion rdata).buf = some buf := hbuf
    rw [enabledBytes, if_pos henabled.2, updateRegion_of_ne hirid] at hk
    rw [Function.update_of_ne hirid, hsame, OsdLayout.source_of_ne _ _ hirid,
      updateRegion_of_ne hirid]
    exact (hheld k hk).symm

theorem ImagesLaidOut.granted (hlaid : ImagesLaidOut run)
    {rdata : OsdRegionData} {image fresh : ℕ → UInt8}
    (hid : rdata.regionId < osdRegionsCnt) :
    ImagesLaidOut (run.drawn (run.osd.granted rdata image fresh)
      rdata.regionId image) := by
  have hblock : ∀ i, (run.osd.granted rdata image fresh).Enabled i →
      (run.drawn (run.osd.granted rdata image fresh)
          rdata.regionId image).block i =
        packed (enabledBytes (run.osd.updateRegion rdata).region)
          (Function.update run.images rdata.regionId image) i :=
    fun i hi => placed_block (granted_region hi.1) (granted_enabled.mp hi).2
  refine ⟨fun i j hi hj hne => ?_, fun i hi => ⟨_, granted_buf, ?_, ?_⟩, ?_⟩
  · rw [hblock i hi, hblock j hj]
    exact packed_disjoint hne
  · rw [hblock i hi]
    exact packed_stop_le hi.1
  · rw [hblock i hi]
    dsimp only
    exact (heldIn_pack hi.1).congr rfl rfl fun k hk =>
      hlaid.images_eq_source hid (granted_enabled.mp hi) hk
  · refine regionsCounted_of_count rfl fun i hi => ?_
    rw [OsdRun.drawn, granted_region hi, placedRegion_enable]

/-! ## Calls that get no buffer -/

/-- What the call leaves when there is no buffer for it. -/
def MppEncOSDData.failed (osd : MppEncOSDData) (rdata : OsdRegionData) :
    MppEncOSDData :=
  let region := (osd.updateRegion rdata).region
  { buf := osd.buf
    numRegion := countRegions region osdRegionsCnt
    region := Function.update (OsdLayout.placed region osdRegionsCnt).region
      rdata.regionId (placedRegion region rdata.regionId).reset }

section Failed

variable {osd : MppEncOSDData} {rdata : OsdRegionData}

theorem resize_none (hfit : RegionsFit osd) (image : ℕ → UInt8)
    (hid : rdata.regionId < osdRegionsCnt)
    (hwidth : OsdSide rdata.width) (hheight : OsdSide rdata.height) :
    (osd.updateRegion rdata).resize rdata.regionId image rdata.newSize none =
      some (osd.failed rdata, -1) := by
  have hfits := hfit.updateRegion hid hwidth hheight
  have hrid : (OsdLayout.placed (osd.updateRegion rdata).region
      osdRegionsCnt).region rdata.regionId =
        placedRegion (osd.updateRegion rdata).region rdata.regionId :=
    if_pos hid
  rw [MppEncOSDData.resize, OsdLayout.placeRegions_eq hfits.newPlace_lt, hrid]
  rfl

theorem failed_region_of_ne {i : ℕ} (hi : i < osdRegionsCnt)
    (hne : i ≠ rdata.regionId) :
    (osd.failed rdata).region i =
      placedRegion (osd.updateRegion rdata).region i := by
  rw [MppEncOSDData.failed]
  dsimp only
  rw [Function.update_of_ne hne]
  exact if_pos hi

theorem failed_enabled {i : ℕ} :
    (osd.failed rdata).Enabled i ↔ i ≠ rdata.regionId ∧ osd.Enabled i := by
  by_cases hi : i = rdata.regionId
  · subst hi
    simp [MppEncOSDData.Enabled, MppEncOSDData.failed, MppEncOSDRegion.reset]
  · simp only [ne_eq, hi, not_false_eq_true, true_and]
    refine and_congr_right fun hbelow => ?_
    rw [failed_region_of_ne hbelow hi, placedRegion_enable,
      updateRegion_of_ne hi]

theorem failed_place {i : ℕ} (hwidth : OsdSide rdata.width)
    (hheight : OsdSide rdata.height) (hne : i ≠ rdata.regionId)
    (henabled : osd.Enabled i) :
    (osd.failed rdata).region i =
      { osd.region i with bufOffset := placeAfter osd rdata i } := by
  rw [failed_region_of_ne henabled.1 hne, placedRegion,
    placeAfter_eq hwidth hheight, updateRegion_of_ne hne,
    if_pos henabled.2]

theorem failed_fits (hfit : RegionsFit osd) (hwidth : OsdSide rdata.width)
    (hheight : OsdSide rdata.height) : RegionsFit (osd.failed rdata) := by
  intro i hi
  obtain ⟨hne, henabled⟩ := failed_enabled.mp hi
  rw [failed_place hwidth hheight hne henabled]
  exact hfit i henabled

/-- The count goes on including the region, so that it is right only if there
is a higher one. -/
theorem failed_counted (hid : rdata.regionId < osdRegionsCnt) :
    RegionsCounted (osd.failed rdata) ↔
      ∃ i, rdata.regionId < i ∧ osd.Enabled i := by
  have hupdated : ∀ i, (osd.updateRegion rdata).Enabled i ↔
      i = rdata.regionId ∨ osd.Enabled i :=
    fun i => updateRegion_enabled hid
  have hself := (hupdated rdata.regionId).mpr (.inl rfl)
  have habove : rdata.regionId < (osd.failed rdata).numRegion :=
    lt_countRegions hself.1 hself.2
  constructor
  · intro hcounted
    have hlast := hcounted.last.resolve_left (by omega)
    obtain ⟨hne, henabled⟩ := failed_enabled.mp hlast
    exact ⟨_, by omega, henabled⟩
  · rintro ⟨i, hi, henabled⟩
    have hfirst := (hupdated i).mpr (.inr henabled)
    have hcount : i < (osd.failed rdata).numRegion :=
      lt_countRegions hfirst.1 hfirst.2
    refine ⟨fun j hj => ?_, .inr ?_⟩
    · have hlater := (hupdated j).mpr (.inr (failed_enabled.mp hj).2)
      exact lt_countRegions hlater.1 hlater.2
    · obtain hnone | hlast :=
        @countRegions_last (osd.updateRegion rdata).region osdRegionsCnt
      · exact absurd hnone (Nat.ne_zero_of_lt hcount)
      · have hne : (osd.failed rdata).numRegion - 1 ≠ rdata.regionId := by
          omega
        exact failed_enabled.mpr
          ⟨hne, ((hupdated _).mp hlast).resolve_left hne⟩

theorem failed_block {images : ℕ → ℕ → UInt8} {i : ℕ}
    (hwidth : OsdSide rdata.width) (hheight : OsdSide rdata.height)
    (hne : i ≠ rdata.regionId) (henabled : osd.Enabled i) :
    OsdRun.block ⟨osd.failed rdata, images⟩ i =
      ⟨placeAfter osd rdata i, (osd.region i).bytes, images i⟩ := by
  simp only [OsdRun.block, failed_place hwidth hheight hne henabled]
  rfl

theorem failed_disjoint {images : ℕ → ℕ → UInt8} {i j : ℕ}
    (hi : (osd.failed rdata).Enabled i) (hj : (osd.failed rdata).Enabled j)
    (hne : i ≠ j) :
    (OsdRun.block ⟨osd.failed rdata, images⟩ i).Disjoint
      (OsdRun.block ⟨osd.failed rdata, images⟩ j) := by
  have hblock : ∀ i, (osd.failed rdata).Enabled i →
      OsdRun.block ⟨osd.failed rdata, images⟩ i =
        packed (enabledBytes (osd.updateRegion rdata).region) images i := by
    intro i henabled
    obtain ⟨hrid, hbefore⟩ := failed_enabled.mp henabled
    refine placed_block (failed_region_of_ne hbefore.1 hrid) ?_
    rw [updateRegion_of_ne hrid]
    exact hbefore.2
  rw [hblock i hi, hblock j hj]
  exact packed_disjoint hne

end Failed

theorem ImagesLaidOut.failed_iff (hlaid : ImagesLaidOut run)
    {rdata : OsdRegionData} (hid : rdata.regionId < osdRegionsCnt)
    (hwidth : OsdSide rdata.width) (hheight : OsdSide rdata.height) :
    ImagesLaidOut ⟨run.osd.failed rdata, run.images⟩ ↔
      SameAtNewPlaces run.osd rdata := by
  have hblock := fun i (hne : i ≠ rdata.regionId)
      (henabled : run.osd.Enabled i) =>
    @failed_block run.osd rdata run.images i hwidth hheight hne henabled
  constructor
  · intro hnext
    have hheld : ∀ i, i ≠ rdata.regionId → run.osd.Enabled i → ∀ buf,
        run.osd.buf = some buf →
          placeAfter run.osd rdata i + (run.osd.region i).bytes ≤ buf.size ∧
            ∀ k < (run.osd.region i).bytes,
              buf.memory (placeAfter run.osd rdata i + k) =
                run.images i k := by
      intro i hne henabled buf hbuf
      obtain ⟨old, hold, hstop, hheld⟩ :=
        hnext.held i (failed_enabled.mpr ⟨hne, henabled⟩)
      obtain rfl : buf = old := Option.some.inj (hbuf.symm.trans hold)
      rw [hblock i hne henabled] at hstop hheld
      exact ⟨hstop, hheld⟩
    refine ⟨(failed_counted hid).mp hnext.counted,
      fun i hne henabled buf hbuf => (hheld i hne henabled buf hbuf).1,
      fun i hne henabled buf hbuf k hk => ?_⟩
    obtain ⟨old, hold, -, hbefore⟩ := hlaid.held i henabled
    obtain rfl : buf = old := Option.some.inj (hbuf.symm.trans hold)
    exact ((hheld i hne henabled buf hbuf).2 k hk).trans (hbefore k hk).symm
  · intro hsame
    refine ⟨fun i j hi hj hne => failed_disjoint hi hj hne,
      fun i hi => ?_, (failed_counted hid).mpr hsame.higher⟩
    obtain ⟨hne, henabled⟩ := failed_enabled.mp hi
    obtain ⟨buf, hbuf, -, hheld⟩ := hlaid.held i henabled
    refine ⟨buf, hbuf, ?_⟩
    rw [hblock i hne henabled]
    exact ⟨hsame.inside i hne henabled buf hbuf, fun k hk =>
      (hsame.same i hne henabled buf hbuf k hk).trans (hheld k hk)⟩

theorem ImagesLaidOut.failed_keeps (hlaid : ImagesLaidOut run)
    {rdata : OsdRegionData} (hwidth : OsdSide rdata.width)
    (hheight : OsdSide rdata.height)
    (hsame : SameAtNewPlaces run.osd rdata) {i : ℕ}
    (hne : i ≠ rdata.regionId) (henabled : run.osd.Enabled i) :
    (run.osd.failed rdata).imageAt i = run.osd.imageAt i := by
  obtain ⟨buf, hbuf, hstop, -⟩ := hlaid.held i henabled
  have hinside : (run.osd.region i).bufOffset +
      (run.osd.region i).bytes ≤ buf.size := hstop
  have hplace := hsame.inside i hne henabled buf hbuf
  have hafter : (run.osd.failed rdata).buf = some buf := hbuf
  rw [MppEncOSDData.imageAt, MppEncOSDData.imageAt,
    failed_place hwidth hheight hne henabled]
  refine List.map_congr_left fun k hk => ?_
  replace hk : k < (run.osd.region i).bytes := List.mem_range.mp hk
  have hnew : placeAfter run.osd rdata i + k < buf.size := by omega
  have hold : (run.osd.region i).bufOffset + k < buf.size := by omega
  rw [MppEncOSDData.byteAt, MppEncOSDData.byteAt, hafter, hbuf,
    Option.bind_some, Option.bind_some, if_pos hnew, if_pos hold,
    hsame.same i hne henabled buf hbuf k hk]

end Calls

/-! ## All runs -/

/-- What a call can come to. -/
inductive SetOutcome (asserts : Bool) (osd : MppEncOSDData)
    (rdata : OsdRegionData) (got : Option (ℕ → UInt8)) :
    Option (MppEncOSDData × ℤ) → Prop
  | refused : SetOutcome asserts osd rdata got (some (osd, -einval))
  | ended : SetOutcome asserts osd rdata got none
  | disabled (henable : rdata.enable = false) :
      SetOutcome asserts osd rdata got (some (osd.disable rdata.regionId, 0))
  | overwritten (next : MppEncOSDData) (image : ℕ → UInt8)
      (hid : rdata.regionId < osdRegionsCnt) (henable : rdata.enable = true)
      (himage : rdata.buffer = some image)
      (hfits : rdata.aligned.newSize ≤ osd.oldSize rdata.regionId)
      (hnext : (osd.updateRegion rdata.aligned).overwrite rdata.regionId image
        rdata.aligned.newSize = some next) :
      SetOutcome asserts osd rdata got (some (next, 0))
  | resized (result : Option (MppEncOSDData × ℤ)) (image : ℕ → UInt8)
      (himage : rdata.buffer = some image)
      (hneeds : Reallocates asserts osd rdata.aligned)
      (hresult : (osd.updateRegion rdata.aligned).resize rdata.regionId image
        rdata.aligned.newSize got = result) :
      SetOutcome asserts osd rdata got result

theorem osdRegionSet_outcome (asserts : Bool) (osd : MppEncOSDData)
    (rdata : OsdRegionData) (got : Option (ℕ → UInt8)) :
    SetOutcome asserts osd rdata got
      (osd.osdRegionSet asserts (some rdata) got) := by
  rw [MppEncOSDData.osdRegionSet]
  split
  case isTrue => exact .refused
  case isFalse hid =>
  split
  case isTrue => exact .refused
  case isFalse =>
  rw [MppEncOSDData.osdUpdateRegionInfo]
  simp only [aligned_enable, aligned_regionId, aligned_buffer]
  split
  case isTrue henable => exact .disabled henable
  case isFalse henable =>
  split
  case isTrue => exact .ended
  case isFalse hfits =>
  split
  case h_1 => exact .ended
  case h_2 image himage =>
  rw [Bool.not_eq_false] at henable
  split
  case isTrue hsize =>
    cases hnext : (osd.updateRegion rdata.aligned).overwrite rdata.regionId
        image rdata.aligned.newSize with
    | none => exact .ended
    | some next =>
        exact .overwritten next image (not_le.mp hid) henable himage hsize hnext
  case isFalse hsize =>
    refine .resized _ image himage ⟨?_, ?_, ?_, ?_, ?_⟩ rfl
    · simpa using hid
    · simpa using henable
    · simp [himage]
    · intro hasserts
      have hself := @updateRegion_self osd rdata.aligned
      rw [aligned_regionId] at hself ⊢
      simpa [hasserts, hself] using hfits
    · simpa using hsize

theorem osdRegionSet_of_reallocates {asserts : Bool} {osd : MppEncOSDData}
    {rdata : OsdRegionData} {image : ℕ → UInt8} (got : Option (ℕ → UInt8))
    (himage : rdata.buffer = some image)
    (hneeds : Reallocates asserts osd rdata.aligned) :
    osd.osdRegionSet asserts (some rdata) got =
      (osd.updateRegion rdata.aligned).resize rdata.regionId image
        rdata.aligned.newSize got := by
  obtain ⟨hid, henable, -, hfits, hlarger⟩ := hneeds
  have hself := @updateRegion_self osd rdata.aligned
  rw [aligned_regionId] at hid hfits hlarger hself
  rw [aligned_enable] at henable
  have hpasses : ¬ (asserts && !((osd.updateRegion rdata.aligned).region
      rdata.regionId).fits) = true := by
    cases asserts with
    | false => simp
    | true => simp [hself, hfits rfl]
  rw [MppEncOSDData.osdRegionSet, if_neg (not_le.mpr hid), if_neg (by simp [himage]),
    MppEncOSDData.osdUpdateRegionInfo]
  simp only [aligned_enable, aligned_regionId, aligned_buffer]
  rw [if_neg (by simp [henable]), if_neg hpasses, himage]
  exact if_neg (not_le.mpr hlarger)

section After

variable {run : OsdRun} {rdata : OsdRegionData} {osd : MppEncOSDData}

theorem after_of_ne_zero {ret : ℤ} (hret : ret ≠ 0) :
    run.after rdata (some (osd, ret)) = ⟨osd, run.images⟩ := by
  rw [OsdRun.after]
  split
  case h_1 => rw [if_neg hret]
  case h_2 => rfl

theorem after_of_disabled {ret : ℤ} (henable : rdata.enable = false) :
    run.after rdata (some (osd, ret)) = ⟨osd, run.images⟩ := by
  rw [OsdRun.after, henable]

theorem after_of_drawn {image : ℕ → UInt8} (henable : rdata.enable = true)
    (himage : rdata.buffer = some image) :
    run.after rdata (some (osd, 0)) = run.drawn osd rdata.regionId image := by
  rw [OsdRun.after, henable, himage]
  rfl

end After

/-- Laid out, and with sides that keep the sizes small. -/
structure OsdReady (run : OsdRun) : Prop where
  laidOut : ImagesLaidOut run
  fit : RegionsFit run.osd

section Step

variable {asserts : Bool} {run : OsdRun} {call : OsdCall}

theorem Reallocates.sides
    (hneeds : Reallocates asserts run.osd call.rdata.aligned) :
    OsdSide call.rdata.aligned.width ∧ OsdSide call.rdata.aligned.height := by
  have henable : call.rdata.enable = true := by
    rw [← aligned_enable]
    exact hneeds.enable
  obtain ⟨hwidth, hheight⟩ := call.sides henable
  exact aligned_sides hwidth hheight

theorem OsdReady.failed (hready : OsdReady run) (hgot : call.got = none)
    (hneeds : Reallocates asserts run.osd call.rdata.aligned) :
    run.osd.osdRegionSet asserts (some call.rdata) call.got =
        some (run.osd.failed call.rdata.aligned, -1) ∧
      osdStep asserts run call =
        ⟨run.osd.failed call.rdata.aligned, run.images⟩ := by
  obtain ⟨hwidth, hheight⟩ := hneeds.sides
  obtain ⟨image, himage⟩ := Option.ne_none_iff_exists'.mp hneeds.image
  rw [aligned_buffer] at himage
  have hresize := resize_none hready.fit image hneeds.regionId hwidth hheight
  rw [aligned_regionId] at hresize
  have hresult : run.osd.osdRegionSet asserts (some call.rdata) call.got =
      some (run.osd.failed call.rdata.aligned, -1) := by
    rw [osdRegionSet_of_reallocates call.got himage hneeds, hgot, hresize]
  refine ⟨hresult, ?_⟩
  rw [osdStep, hresult, after_of_ne_zero (by decide)]

/-- A call that is not refused a buffer keeps the images and does not return
-1. -/
theorem OsdReady.step (hready : OsdReady run)
    (hserved : call.got = none →
      ¬ Reallocates asserts run.osd call.rdata.aligned) :
    OsdReady (osdStep asserts run call) ∧
      ∀ next, run.osd.osdRegionSet asserts (some call.rdata) call.got ≠
        some (next, -1) := by
  have houtcome := osdRegionSet_outcome asserts run.osd call.rdata call.got
  rw [osdStep]
  generalize run.osd.osdRegionSet asserts (some call.rdata) call.got = result
    at houtcome
  cases houtcome with
  | refused =>
      rw [after_of_ne_zero (by decide)]
      exact ⟨hready, by simp [einval]⟩
  | ended => exact ⟨hready, by simp⟩
  | disabled henable =>
      rw [after_of_disabled henable]
      refine ⟨⟨hready.laidOut.disable _, fun i hi => ?_⟩, by simp⟩
      obtain ⟨hne, henabled⟩ := disable_enabled.mp hi
      have hsame : (run.osd.disable call.rdata.regionId).region i =
          run.osd.region i := Function.update_of_ne hne _ _
      rw [hsame]
      exact hready.fit i henabled
  | overwritten next image hid henable himage hfits hnext =>
      obtain ⟨hwidth, hheight⟩ := call.sides henable
      obtain ⟨hwidth, hheight⟩ := aligned_sides hwidth hheight
      rw [after_of_drawn henable himage]
      rw [← @aligned_regionId call.rdata] at hid hfits hnext ⊢
      refine ⟨⟨hready.laidOut.overwrite hid hwidth hheight hfits hnext,
        fun i hi => ?_⟩, by simp⟩
      have hregion : next.region =
          (run.osd.updateRegion call.rdata.aligned).region := by
        obtain ⟨buf, -, hnext⟩ := Option.map_eq_some_iff.mp hnext
        rw [← hnext]
      have hfit := hready.fit.updateRegion hid hwidth hheight i
      rw [OsdRun.drawn, MppEncOSDData.Enabled, hregion] at hi
      rw [OsdRun.drawn, hregion]
      exact hfit hi
  | resized result image himage hneeds hresult =>
      have henable : call.rdata.enable = true := by
        rw [← aligned_enable]
        exact hneeds.enable
      obtain ⟨hwidth, hheight⟩ := hneeds.sides
      obtain ⟨fresh, hgot⟩ := Option.ne_none_iff_exists'.mp
        fun hnone => hserved hnone hneeds
      have hold : ∀ i, run.osd.Enabled i → run.osd.buf.isSome = true := by
        intro i hi
        obtain ⟨buf, hbuf, -⟩ := hready.laidOut.held i hi
        rw [hbuf]
        rfl
      rw [hgot, ← @aligned_regionId call.rdata,
        resize_some hready.fit hneeds.regionId hwidth hheight hold] at hresult
      rw [← hresult, after_of_drawn henable himage,
        ← @aligned_regionId call.rdata]
      exact ⟨⟨hready.laidOut.granted hneeds.regionId,
        granted_fits hready.fit hneeds.regionId hwidth hheight⟩, by simp⟩

theorem OsdReady.keeps (hready : OsdReady run)
    (hguard : FailsHarmlessly asserts run call) :
    OsdReady (osdStep asserts run call) ∧ FailureKeeps asserts run call := by
  by_cases hfails : call.got = none ∧
      Reallocates asserts run.osd call.rdata.aligned
  · obtain ⟨hgot, hneeds⟩ := hfails
    have hsame := hguard hgot hneeds
    obtain ⟨hwidth, hheight⟩ := hneeds.sides
    obtain ⟨hresult, hstep⟩ := hready.failed hgot hneeds
    rw [hstep]
    refine ⟨⟨(hready.laidOut.failed_iff hneeds.regionId hwidth hheight).mpr
      hsame, failed_fits hready.fit hwidth hheight⟩, ?_⟩
    intro next hnext i hne henabled
    rw [hresult, Option.some.injEq, Prod.mk.injEq] at hnext
    obtain ⟨rfl, -⟩ := hnext
    rw [← @aligned_regionId call.rdata] at hne
    exact ⟨failed_enabled.mpr ⟨hne, henabled⟩,
      hready.laidOut.failed_keeps hwidth hheight hsame hne henabled⟩
  · obtain ⟨hnext, hreturns⟩ :=
      hready.step fun hgot hneeds => hfails ⟨hgot, hneeds⟩
    exact ⟨hnext, fun next hfailed => absurd hfailed (hreturns next)⟩

theorem OsdReady.harmless (hready : OsdReady run)
    (hnext : ImagesLaidOut (osdStep asserts run call)) :
    FailsHarmlessly asserts run call := by
  intro hgot hneeds
  obtain ⟨hwidth, hheight⟩ := hneeds.sides
  rw [(hready.failed hgot hneeds).2] at hnext
  exact (hready.laidOut.failed_iff hneeds.regionId hwidth hheight).mp hnext

end Step

theorem OsdRun.init_ready : OsdReady .init := by
  have hnone : ∀ i, ¬ OsdRun.init.osd.Enabled i := by
    rintro i ⟨-, henabled⟩
    cases henabled
  exact ⟨⟨fun i _ hi => absurd hi (hnone i), fun i hi => absurd hi (hnone i),
    fun i hi => absurd hi (hnone i), .inl rfl⟩,
    fun i hi => absurd hi (hnone i)⟩

theorem osd_images_iff (asserts : Bool) (calls : List OsdCall) :
    States (osdStep asserts) ImagesLaidOut .init calls ∧
        Steps (osdStep asserts) (FailureKeeps asserts) .init calls ↔
      Steps (osdStep asserts) (FailsHarmlessly asserts) .init calls :=
  states_and_steps_iff OsdReady
    (fun _ hready => hready.laidOut)
    (fun _ _ hready hguard => hready.keeps hguard)
    (fun _ _ hready hnext _ => hready.harmless hnext)
    OsdRun.init_ready

def osdTile (rid : ℕ) : OsdRegionData :=
  ⟨some fun _ => 7, 0, 0, 16, 16, 0, rid, true⟩

theorem osdTile_sides (rid : ℕ) (_henable : (osdTile rid).enable = true) :
    OsdSide (osdTile rid).width ∧ OsdSide (osdTile rid).height := by
  change OsdSide 16 ∧ OsdSide 16
  decide

/-- A tile for region 1, and one for region 0 that gets no buffer. -/
def refusedTile : List OsdCall :=
  [⟨osdTile 1, some fun _ => 0, osdTile_sides 1⟩,
    ⟨osdTile 0, none, osdTile_sides 0⟩]

/-- The range of region 1 is moved behind the end of the buffer. -/
theorem refused_buffer_moves_region :
    ¬ States (osdStep true) ImagesLaidOut .init refusedTile ∧
      (refusedTile.foldl (osdStep true) .init).osd.Enabled 1 ∧
      ((refusedTile.foldl (osdStep true) .init).osd.region 1).bufOffset =
        256 ∧
      (refusedTile.foldl (osdStep true) .init).osd.buf.map OsdBuffer.size =
        some 256 := by
  have henabled : (refusedTile.foldl (osdStep true) .init).osd.Enabled 1 :=
    ⟨by decide, by decide⟩
  have hoffset : ((refusedTile.foldl (osdStep true) .init).osd.region
      1).bufOffset = 256 := by decide
  have hsize : (refusedTile.foldl (osdStep true) .init).osd.buf.map
      OsdBuffer.size = some 256 := by decide
  refine ⟨fun hstates => ?_, henabled, hoffset, hsize⟩
  obtain ⟨buf, hbuf, hstop, -⟩ := hstates.last.held 1 henabled
  rw [hbuf, Option.map_some, Option.some.injEq] at hsize
  have hbytes : ((refusedTile.foldl (osdStep true) .init).osd.region
      1).bytes = 256 := by decide
  rw [Block.stop, OsdRun.block] at hstop
  dsimp only at hstop
  omega

end RkaiqToolServer
