import RkaiqToolServer.MemoryBlocks
import Mathlib.Tactic

/-!
# The regions of the on-screen display

The encoder keeps the images of its regions in one buffer.  An image that fits
in the place of the one it replaces is written over it; for any other the
regions are given new places, and their images are copied to a new buffer.  The
new places are entered before the new buffer is asked for.
-/

namespace RkaiqToolServer

open MemoryBlocks

def osdRegionsCnt : ℕ := 8

def einval : ℤ := 22

/-- `UPALIGNTO16` on 32-bit words. -/
def upAlignTo16 (value : ℕ) : ℕ := (value + 15) % 2 ^ 32 / 16 * 16

/-- `buffer` is the memory from the pointer on, `none` for a null pointer. -/
structure OsdRegionData where
  buffer : Option (ℕ → UInt8)
  posX : ℕ
  posY : ℕ
  width : ℕ
  height : ℕ
  inverse : ℕ
  regionId : ℕ
  enable : Bool

structure MppEncOSDRegion where
  enable : Bool
  inverse : ℕ
  startMbX : ℕ
  startMbY : ℕ
  numMbX : ℕ
  numMbY : ℕ
  bufOffset : ℕ

structure OsdBuffer where
  size : ℕ
  memory : ℕ → UInt8

structure MppEncOSDData where
  buf : Option OsdBuffer
  numRegion : ℕ
  region : ℕ → MppEncOSDRegion

namespace OsdRegionData

variable (rdata : OsdRegionData)

def newSize : ℕ := rdata.width * rdata.height % 2 ^ 32

def aligned : OsdRegionData :=
  if rdata.width % 16 ≠ 0 ∨ rdata.height % 16 ≠ 0 ∨ rdata.posX % 16 ≠ 0 ∨
      rdata.posY % 16 ≠ 0 then
    { rdata with
      width := upAlignTo16 rdata.width
      height := upAlignTo16 rdata.height
      posX := upAlignTo16 rdata.posX
      posY := upAlignTo16 rdata.posY }
  else rdata

end OsdRegionData

namespace MppEncOSDRegion

variable (region : MppEncOSDRegion)

def bytes : ℕ := region.numMbX * region.numMbY * 256 % 2 ^ 32

def update (rdata : OsdRegionData) : MppEncOSDRegion :=
  { region with
    enable := true
    inverse := rdata.inverse
    startMbX := rdata.posX / 16
    startMbY := rdata.posY / 16
    numMbX := rdata.width / 16
    numMbY := rdata.height / 16 }

/-- The assertions on a region. -/
def fits : Bool :=
  decide (region.startMbX ≤ 256) && decide (region.startMbY ≤ 256) &&
    decide (region.numMbX ≤ 256) && decide (region.numMbY ≤ 256)

def cleared : MppEncOSDRegion :=
  { region with
    startMbX := 0
    startMbY := 0
    bufOffset := 0
    numMbX := 0
    numMbY := 0 }

/-- What a region is set to when there is no buffer for it. -/
def reset : MppEncOSDRegion :=
  { region with
    enable := false
    startMbX := 0
    startMbY := 0
    bufOffset := 0 }

end MppEncOSDRegion

/-! ## Giving the regions their places -/

/-- The loop of `OsdUpdateRegionInfo` that counts the regions, over the first
`n` of them. -/
def countRegions (region : ℕ → MppEncOSDRegion) (n : ℕ) : ℕ :=
  (List.range n).foldl
    (fun count i => if (region i).enable then i + 1 else count) 0

/-- The regions and the local variables of the loop that places them. -/
structure OsdLayout where
  region : ℕ → MppEncOSDRegion
  oldOffset : ℕ → ℕ
  totalSize : ℕ
  numRegion : ℕ

namespace OsdLayout

def place (layout : OsdLayout) (i : ℕ) : OsdLayout :=
  let region := layout.region i
  if region.enable then
    { region := Function.update layout.region i
        { region with bufOffset := layout.totalSize }
      oldOffset := Function.update layout.oldOffset i region.bufOffset
      totalSize := (layout.totalSize + region.bytes) % 2 ^ 32
      numRegion := i + 1 }
  else
    { layout with
      region := Function.update layout.region i region.cleared }

def placeRegions (region : ℕ → MppEncOSDRegion) (n : ℕ) : OsdLayout :=
  (List.range n).foldl place ⟨region, fun _ => 0, 0, 0⟩

/-- One round of the copying loop; a copy from no buffer ends the process. -/
def copyRegion (layout : OsdLayout) (oldBuff : Option OsdBuffer) (rid : ℕ)
    (image : ℕ → UInt8) (newSize : ℕ) (memory : ℕ → UInt8) (i : ℕ) :
    Option (ℕ → UInt8) :=
  let region := layout.region i
  if region.enable = false then some memory
  else if i = rid then
    some (write memory ⟨region.bufOffset, newSize, image⟩)
  else
    oldBuff.map fun old =>
      write memory ⟨region.bufOffset, region.bytes,
        fun k => old.memory (layout.oldOffset i + k)⟩

def copyRegions (layout : OsdLayout) (oldBuff : Option OsdBuffer) (rid : ℕ)
    (image : ℕ → UInt8) (newSize : ℕ) (memory : ℕ → UInt8) (n : ℕ) :
    Option (ℕ → UInt8) :=
  (List.range n).foldlM (copyRegion layout oldBuff rid image newSize) memory

end OsdLayout

/-! ## Setting a region -/

namespace MppEncOSDData

def init : MppEncOSDData :=
  ⟨none, 0, fun _ => ⟨false, 0, 0, 0, 0, 0, 0⟩⟩

variable (osd : MppEncOSDData)

def oldSize (rid : ℕ) : ℕ :=
  if (osd.region rid).enable then (osd.region rid).bytes else 0

def disable (rid : ℕ) : MppEncOSDData :=
  let region := Function.update osd.region rid
    { osd.region rid with enable := false }
  { osd with region := region, numRegion := countRegions region osdRegionsCnt }

def updateRegion (rdata : OsdRegionData) : MppEncOSDData :=
  { osd with
    region := Function.update osd.region rdata.regionId
      ((osd.region rdata.regionId).update rdata) }

/-- The image is written over the one of the region. -/
def overwrite (rid : ℕ) (image : ℕ → UInt8) (newSize : ℕ) :
    Option MppEncOSDData :=
  osd.buf.map fun buf =>
    { osd with
      buf := some { buf with
        memory := write buf.memory
          ⟨(osd.region rid).bufOffset, newSize, image⟩ } }

/-- `got` is what the new buffer reads as, `none` when there is none. -/
def resize (rid : ℕ) (image : ℕ → UInt8) (newSize : ℕ)
    (got : Option (ℕ → UInt8)) : Option (MppEncOSDData × ℤ) :=
  let layout := OsdLayout.placeRegions osd.region osdRegionsCnt
  match got with
  | none =>
      some
        ({ osd with
            numRegion := layout.numRegion
            region := Function.update layout.region rid
              (layout.region rid).reset }, -1)
  | some fresh =>
      (layout.copyRegions osd.buf rid image newSize fresh osdRegionsCnt).map
        fun memory =>
          (⟨some ⟨layout.totalSize, memory⟩, layout.numRegion,
            layout.region⟩, 0)

/-- `none` when the process ends by an assertion or a null pointer. -/
def osdUpdateRegionInfo (asserts : Bool) (rdata : OsdRegionData)
    (got : Option (ℕ → UInt8)) : Option (MppEncOSDData × ℤ) :=
  if rdata.enable = false then some (osd.disable rdata.regionId, 0)
  else
    let updated := osd.updateRegion rdata
    if asserts && !(updated.region rdata.regionId).fits then none
    else
      match rdata.buffer with
      | none => none
      | some image =>
          if rdata.newSize ≤ osd.oldSize rdata.regionId then
            (updated.overwrite rdata.regionId image rdata.newSize).map
              fun next => (next, 0)
          else updated.resize rdata.regionId image rdata.newSize got

def osdRegionSet (asserts : Bool) (rdata : Option OsdRegionData)
    (got : Option (ℕ → UInt8)) : Option (MppEncOSDData × ℤ) :=
  match rdata with
  | none => some (osd, -einval)
  | some rdata =>
      if osdRegionsCnt ≤ rdata.regionId then some (osd, -einval)
      else if rdata.enable && rdata.buffer.isNone then some (osd, -einval)
      else osd.osdUpdateRegionInfo asserts rdata.aligned got

end MppEncOSDData

/-! ## Calls -/

/-- A side of an image: positive, 16-aligned and at most 4096. -/
def OsdSide (side : ℕ) : Prop := 0 < side ∧ side % 16 = 0 ∧ side ≤ 4096

instance OsdSide.decidable (side : ℕ) : Decidable (OsdSide side) :=
  inferInstanceAs (Decidable (_ ∧ _))

/-- `got` is what `mpp_buffer_get` would give the call. -/
structure OsdCall where
  rdata : OsdRegionData
  got : Option (ℕ → UInt8)
  sides : rdata.enable = true → OsdSide rdata.width ∧ OsdSide rdata.height

/-- `images` are those that were last set successfully. -/
structure OsdRun where
  osd : MppEncOSDData
  images : ℕ → ℕ → UInt8

def OsdRun.init : OsdRun := ⟨.init, fun _ _ => 0⟩

/-- What a call leaves that came to this result. -/
def OsdRun.after (run : OsdRun) (rdata : OsdRegionData) :
    Option (MppEncOSDData × ℤ) → OsdRun
  | none => run
  | some (osd, ret) =>
      { osd := osd
        images :=
          match rdata.enable, rdata.buffer with
          | true, some image =>
              if ret = 0 then Function.update run.images rdata.regionId image
              else run.images
          | _, _ => run.images }

def osdStep (asserts : Bool) (run : OsdRun) (call : OsdCall) : OsdRun :=
  run.after call.rdata
    (run.osd.osdRegionSet asserts (some call.rdata) call.got)

/-! ## What the loops compute -/

/-- The room a region takes in a new buffer. -/
def enabledBytes (region : ℕ → MppEncOSDRegion) (i : ℕ) : ℕ :=
  if (region i).enable then (region i).bytes else 0

def newPlace (region : ℕ → MppEncOSDRegion) (i : ℕ) : ℕ :=
  offset (enabledBytes region) i

def placedRegion (region : ℕ → MppEncOSDRegion) (i : ℕ) : MppEncOSDRegion :=
  if (region i).enable then
    { region i with bufOffset := newPlace region i }
  else (region i).cleared

def oldPlace (region : ℕ → MppEncOSDRegion) (i : ℕ) : ℕ :=
  if (region i).enable then (region i).bufOffset else 0

section Loops

variable {region : ℕ → MppEncOSDRegion}

theorem countRegions_succ (n : ℕ) :
    countRegions region (n + 1) =
      if (region n).enable then n + 1 else countRegions region n := by
  rw [countRegions, List.range_succ, List.foldl_append]
  rfl

theorem lt_countRegions {n i : ℕ} (hi : i < n)
    (henabled : (region i).enable = true) : i < countRegions region n := by
  induction n with
  | zero => omega
  | succ n ih =>
      rw [countRegions_succ]
      split
      case isTrue => exact hi
      case isFalse hdisabled =>
        have hne : i ≠ n := fun heq => hdisabled (heq ▸ henabled)
        exact ih (by omega)

theorem countRegions_last (n : ℕ) :
    countRegions region n = 0 ∨
      countRegions region n - 1 < n ∧
        (region (countRegions region n - 1)).enable = true := by
  induction n with
  | zero => exact .inl rfl
  | succ n ih =>
      rw [countRegions_succ]
      split
      case isTrue henabled => exact .inr ⟨by omega, henabled⟩
      case isFalse => exact ih.imp_right fun h => ⟨by omega, h.2⟩

theorem newPlace_succ (n : ℕ) :
    newPlace region (n + 1) = newPlace region n + enabledBytes region n :=
  offset_succ (enabledBytes region) n

theorem update_below {α : Type} (new old : ℕ → α) (n : ℕ) :
    Function.update (fun i => if i < n then new i else old i) n (new n) =
      fun i => if i < n + 1 then new i else old i := by
  funext i
  by_cases hi : i = n
  · subst hi
    simp
  · have hlt : i < n + 1 ↔ i < n := by omega
    rw [Function.update_of_ne hi]
    simp only [hlt]

namespace OsdLayout

theorem place_of_enabled {layout : OsdLayout} {i : ℕ}
    (henabled : (layout.region i).enable = true) :
    layout.place i =
      { region := Function.update layout.region i
          { layout.region i with bufOffset := layout.totalSize }
        oldOffset :=
          Function.update layout.oldOffset i (layout.region i).bufOffset
        totalSize := (layout.totalSize + (layout.region i).bytes) % 2 ^ 32
        numRegion := i + 1 } := by
  rw [place]
  exact if_pos henabled

theorem place_of_disabled {layout : OsdLayout} {i : ℕ}
    (hdisabled : (layout.region i).enable = false) :
    layout.place i =
      { layout with
        region :=
          Function.update layout.region i (layout.region i).cleared } := by
  rw [place]
  exact if_neg (by simp [hdisabled])

/-- The loop after its first `n` rounds. -/
def placed (region : ℕ → MppEncOSDRegion) (n : ℕ) : OsdLayout where
  region i := if i < n then placedRegion region i else region i
  oldOffset i := if i < n then oldPlace region i else 0
  totalSize := newPlace region n
  numRegion := countRegions region n

theorem placed_region_self (n : ℕ) :
    (placed region n).region n = region n := by
  rw [placed]
  exact if_neg (lt_irrefl n)

theorem place_placed {n : ℕ} (hsmall : newPlace region (n + 1) < 2 ^ 32) :
    (placed region n).place n = placed region (n + 1) := by
  have hregions := update_below (placedRegion region) region n
  have hoffsets := update_below (oldPlace region) (fun _ => 0) n
  have htotal : newPlace region (n + 1) = newPlace region n + enabledBytes region n :=
    newPlace_succ n
  cases henabled : (region n).enable with
  | true =>
      have hplaced : placedRegion region n =
          { region n with bufOffset := newPlace region n } := by
        rw [placedRegion, if_pos henabled]
      have hold : oldPlace region n = (region n).bufOffset := by
        rw [oldPlace, if_pos henabled]
      rw [enabledBytes, if_pos henabled] at htotal
      rw [place_of_enabled (by rw [placed_region_self, henabled]),
        placed_region_self, placed, placed, ← hregions, ← hoffsets, hplaced,
        hold, countRegions_succ, if_pos henabled, htotal]
      simp only [mk.injEq, true_and, and_true]
      exact Nat.mod_eq_of_lt (by omega)
  | false =>
      have hplaced : placedRegion region n = (region n).cleared := by
        rw [placedRegion, if_neg (by simp [henabled])]
      have hold : oldPlace region n = 0 := by
        rw [oldPlace, if_neg (by simp [henabled])]
      rw [enabledBytes, if_neg (by simp [henabled]), Nat.add_zero] at htotal
      rw [place_of_disabled (by rw [placed_region_self, henabled]),
        placed_region_self, placed, placed, ← hregions, ← hoffsets, hplaced,
        hold, countRegions_succ, if_neg (by simp [henabled]), htotal]
      have hsame : Function.update
          (fun i => if i < n then oldPlace region i else 0) n 0 =
            fun i => if i < n then oldPlace region i else 0 :=
        Function.update_eq_self_iff.mpr (if_neg (lt_irrefl n)).symm
      rw [hsame]
      rfl

theorem placeRegions_eq {n : ℕ} (hsmall : newPlace region n < 2 ^ 32) :
    placeRegions region n = placed region n := by
  induction n with
  | zero => rfl
  | succ n ih =>
      have hbefore : newPlace region n < 2 ^ 32 := by
        rw [newPlace_succ] at hsmall
        omega
      rw [placeRegions, List.range_succ, List.foldl_append,
        ← placeRegions, ih hbefore]
      exact place_placed hsmall

theorem copyRegions_succ (layout : OsdLayout) (oldBuff : Option OsdBuffer)
    (rid : ℕ) (image : ℕ → UInt8) (newSize : ℕ) (memory : ℕ → UInt8)
    (n : ℕ) :
    layout.copyRegions oldBuff rid image newSize memory (n + 1) =
      (layout.copyRegions oldBuff rid image newSize memory n).bind
        fun copied =>
          layout.copyRegion oldBuff rid image newSize copied n := by
  rw [copyRegions, List.range_succ, List.foldlM_append]
  simp only [List.foldlM_cons, List.foldlM_nil, bind_pure]
  rfl

/-- What is copied for a region: its new image, or what the old buffer reads
as at its old place. -/
def source (region : ℕ → MppEncOSDRegion) (oldBuff : Option OsdBuffer)
    (rid : ℕ) (image : ℕ → UInt8) (i k : ℕ) : UInt8 :=
  if i = rid then image k
  else
    match oldBuff with
    | none => 0
    | some old => old.memory ((region i).bufOffset + k)

theorem source_self (oldBuff : Option OsdBuffer) (rid : ℕ)
    (image : ℕ → UInt8) : source region oldBuff rid image rid = image := by
  funext k
  exact if_pos rfl

theorem source_of_ne (old : OsdBuffer) {rid i : ℕ} (image : ℕ → UInt8)
    (hne : i ≠ rid) :
    source region (some old) rid image i =
      fun k => old.memory ((region i).bufOffset + k) := by
  funext k
  exact if_neg hne

theorem copyRegion_placed {oldBuff : Option OsdBuffer} {rid newSize n i : ℕ}
    (image memory : ℕ → UInt8) (hi : i < n)
    (hsize : (region rid).bytes = newSize)
    (hold : i ≠ rid → (region i).enable = true → oldBuff.isSome = true) :
    (placed region n).copyRegion oldBuff rid image newSize memory i =
      some (write memory
        (packed (enabledBytes region) (source region oldBuff rid image)
          i)) := by
  have hregion : (placed region n).region i = placedRegion region i :=
    if_pos hi
  have hoffset : (placed region n).oldOffset i = oldPlace region i :=
    if_pos hi
  rw [copyRegion, hregion, hoffset]
  cases henabled : (region i).enable with
  | false =>
      have hplaced : placedRegion region i = (region i).cleared := by
        rw [placedRegion, if_neg (by simp [henabled])]
      have hempty : (packed (enabledBytes region)
          (source region oldBuff rid image) i).size = 0 := by
        rw [packed, enabledBytes, if_neg (by simp [henabled])]
      rw [hplaced, write_empty hempty]
      exact if_pos henabled
  | true =>
      have hplaced : placedRegion region i =
          { region i with bufOffset := newPlace region i } := by
        rw [placedRegion, if_pos henabled]
      have hroom : enabledBytes region i = (region i).bytes := by
        rw [enabledBytes, if_pos henabled]
      rw [hplaced, oldPlace, if_pos henabled, packed, hroom,
        if_neg (by simp [henabled])]
      by_cases hrid : i = rid
      · subst hrid
        rw [if_pos rfl, source_self, hsize]
        rfl
      · obtain ⟨old, rfl⟩ := Option.isSome_iff_exists.mp (hold hrid henabled)
        rw [if_neg hrid, source_of_ne old image hrid]
        rfl

theorem copyRegions_placed {oldBuff : Option OsdBuffer} {rid newSize n m : ℕ}
    (image memory : ℕ → UInt8) (hm : m ≤ n)
    (hsize : (region rid).bytes = newSize)
    (hold : ∀ i < n, i ≠ rid → (region i).enable = true →
      oldBuff.isSome = true) :
    (placed region n).copyRegions oldBuff rid image newSize memory m =
      some (pack (enabledBytes region) (source region oldBuff rid image)
        memory m) := by
  induction m with
  | zero => rfl
  | succ m ih =>
      rw [copyRegions_succ, ih (by omega), Option.bind_some,
        copyRegion_placed image _ hm hsize (hold m hm), pack_succ]

end OsdLayout

end Loops

end RkaiqToolServer
