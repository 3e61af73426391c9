/-
SpecStyle/Generation/Preprocess.lean

The geometry of preprocessing an input image.

An image that is admitted is scaled to the size of the plan, and then padded or
cropped.  Over exact rationals a padded image never leaves the canvas and a
crop box never leaves the image.  But the shorter side of a padded image may be
rounded to nothing, and an image without pixels is refused; `placed_iff` says
for which inputs.

Pixels, formats of the pixels and the processor pin do not decide the geometry
and are left out.  Pillow makes the images; its calls are a parameter, of which
the sizes and the exceptions are known (`Pillow.Documented`).
-/
import SpecStyle.Domain.Values
import SpecStyle.Lib.Checks
import Mathlib.Algebra.Order.Floor.Ring
import Mathlib.Data.Rat.Floor
import Mathlib.Tactic.FieldSimp
import Mathlib.Tactic.Linarith

namespace SpecStyle

open PyLib

/-! ### Plans -/

/-- `Image.size` -/
structure Size where
  width : Int
  height : Int
  deriving DecidableEq

/-- `PreprocessPlan.resize_mode` -/
inductive ResizeMode where
  | containPad | coverCenter
  deriving DecidableEq

/-- The bounds of one side of `target_size`. -/
def validEdge (edge : Int) : Bool := 64 ≤ edge && edge ≤ 4096 && edge % 8 == 0

/-- `PreprocessPlan` -/
structure PreprocessPlan where
  targetSize : Size
  resizeMode : ResizeMode
  /-- "invalid target size" -/
  valid : (validEdge targetSize.width && validEdge targetSize.height) = true

theorem PreprocessPlan.positive (plan : PreprocessPlan) :
    64 ≤ plan.targetSize.width ∧ 64 ≤ plan.targetSize.height := by
  have hvalid := plan.valid
  unfold validEdge at hvalid
  simp only [Bool.and_eq_true, decide_eq_true_eq] at hvalid
  exact ⟨hvalid.1.1.1, hvalid.2.1.1⟩

/-! ### Admitted images -/

/-- What Pillow tells of the orientation. -/
inductive Exif where
  | absent
  | unreadable
  | tag (orientation : Int)

/-- An image as Pillow opens it; it has a pixel at least. -/
structure OpenedImage where
  format : Text
  frames : Nat
  size : Size
  mode : Text
  iccProfile : Bool
  exif : Exif
  positive : 0 < size.width ∧ 0 < size.height

/-- `_FORMATS` -/
def imageFormats : List Text := [py "PNG", py "JPEG", py "WEBP"]

/-- `_MODES` -/
def imageModes : List Text := [py "1", py "L", py "LA", py "P", py "RGB", py "RGBA", py "CMYK"]

/-- `_MAX_EDGE` -/
def maxEdge : Int := 16384

/-- `_MAX_PIXELS` -/
def maxPixels : Int := 25000000

/-- `_orientation` -/
def orientation : Exif → Except Raised Int
  | .absent => .ok 1
  | .unreadable => .error (.domain "invalid EXIF orientation")
  | .tag n => if 1 ≤ n ∧ n ≤ 8 then .ok n else .error (.domain "invalid EXIF orientation")

/-- What `_check_image` returns. -/
structure ImageDetails where
  format : Text
  mode : Text
  size : Size
  orientation : Int

/-- `_check_image` -/
def checkImage (image : OpenedImage) : Except Raised ImageDetails :=
  if image.format ∉ imageFormats ∨ image.frames ≠ 1 then
    .error (.domain "input must be a single-frame PNG, JPEG, or WEBP")
  else if image.size.width > maxEdge ∨ image.size.height > maxEdge ∨
      image.size.width * image.size.height > maxPixels then
    .error (.domain "input image exceeds limits")
  else if image.mode ∉ imageModes then .error (.domain "unsupported input image mode")
  else if image.iccProfile then .error (.domain "ICC profile is not allowed")
  else do
    let orientation ← orientation image.exif
    return ⟨image.format, image.mode, image.size, orientation⟩

/-- The size after `_apply_orientation`: the last four orientations exchange the sides. -/
def ImageDetails.oriented (details : ImageDetails) : Size :=
  if 5 ≤ details.orientation then ⟨details.size.height, details.size.width⟩ else details.size

/-! ### Resizing -/

/-- `_round`, over exact rationals. -/
def roundHalfUp (value : Rat) : Int := ⌊value + 1 / 2⌋

/-- Where the scaled image goes: it is pasted into the canvas, or the canvas is
cropped out of it. -/
inductive Placement where
  | padded (resized : Size) (left top : Int)
  | cropped (resized : Size) (left top right bottom : Int)
  deriving DecidableEq

/-- An image of this size has a pixel. -/
def Size.HasPixels (size : Size) : Prop := 1 ≤ size.width ∧ 1 ≤ size.height

instance (size : Size) : Decidable size.HasPixels := by unfold Size.HasPixels; infer_instance

/-- What a call of Pillow raises: `ValueError`, `OSError`, `MemoryError`, or another exception. -/
inductive ImageError where
  | value | os | memory | other
  deriving DecidableEq

/-- A box of pixels, the right and the lower bound excluded. -/
structure Box where
  left : Int
  top : Int
  right : Int
  bottom : Int

/-- The calls of Pillow that make an image in `_resize`: from the size of the
image and what is asked for, the size of the new image. -/
structure Pillow where
  /-- `image.resize(size, Image.Resampling.LANCZOS)` -/
  resize : Size → Size → Except ImageError Size
  /-- `Image.new("RGB", size, background)` -/
  new : Size → Except ImageError Size
  /-- `image.crop(box)` -/
  crop : Size → Box → Except ImageError Size

/-- What Pillow documents of them.  Whether the memory is enough is left open. -/
structure Pillow.Documented (pillow : Pillow) : Prop where
  /-- "height and width must be > 0" -/
  empty : ∀ size target, ¬ target.HasPixels → pillow.resize size target = .error .value
  resizes : ∀ size target, target.HasPixels →
    pillow.resize size target = .ok target ∨ pillow.resize size target = .error .memory
  makes : ∀ size, size.HasPixels → pillow.new size = .ok size ∨ pillow.new size = .error .memory
  crops : ∀ size box, box.left ≤ box.right → box.top ≤ box.bottom →
    pillow.crop size box = .ok ⟨box.right - box.left, box.bottom - box.top⟩ ∨
      pillow.crop size box = .error .memory

/-- The size to which an image is scaled. -/
def Size.scaled (size : Size) (scale : Rat) : Size :=
  ⟨roundHalfUp (size.width * scale), roundHalfUp (size.height * scale)⟩

/-- `scale` -/
def PreprocessPlan.scale (plan : PreprocessPlan) (size : Size) : Rat :=
  match plan.resizeMode with
  | .containPad =>
    min ((plan.targetSize.width : Rat) / size.width) ((plan.targetSize.height : Rat) / size.height)
  | .coverCenter =>
    max ((plan.targetSize.width : Rat) / size.width) ((plan.targetSize.height : Rat) / size.height)

/-- The size that Pillow is asked for. -/
def PreprocessPlan.resized (plan : PreprocessPlan) (size : Size) : Size :=
  size.scaled (plan.scale size)

/-- The box that is cropped out of an image. -/
def PreprocessPlan.cropBox (plan : PreprocessPlan) (resized : Size) : Box :=
  let left := (resized.width - plan.targetSize.width) / 2
  let top := (resized.height - plan.targetSize.height) / 2
  ⟨left, top, left + plan.targetSize.width, top + plan.targetSize.height⟩

section Calls

variable (pillow : Pillow)

/-- `_resize`; nothing is raised by pasting. -/
def resize (size : Size) (plan : PreprocessPlan) : Except ImageError Placement :=
  let target := plan.targetSize
  match plan.resizeMode with
  | .containPad => do
    let resized ← pillow.resize size (plan.resized size)
    let _ ← pillow.new target
    return .padded resized ((target.width - resized.width) / 2) ((target.height - resized.height) / 2)
  | .coverCenter => do
    let resized ← pillow.resize size (plan.resized size)
    let box := plan.cropBox resized
    let _ ← pillow.crop resized box
    return .cropped resized box.left box.top box.right box.bottom

/-- The `except` clauses of `preprocess_image` -/
def preprocessError : ImageError → Raised
  | .memory => .infrastructure "image processing failed"
  | .os => .domain "invalid input image"
  | .value => .domain "invalid input image"
  | .other => .infrastructure "image processing failed"

/-- The part of `preprocess_image` that decides the geometry. -/
def placeInput (image : OpenedImage) (plan : PreprocessPlan) : Except Raised Placement := do
  let details ← checkImage image
  (resize pillow details.oriented plan).mapError preprocessError

/-- No call of Pillow in `_resize` runs out of memory. -/
def Pillow.Affords (size : Size) (plan : PreprocessPlan) : Prop :=
  pillow.resize size (plan.resized size) ≠ .error .memory ∧
    match plan.resizeMode with
    | .containPad => pillow.new plan.targetSize ≠ .error .memory
    | .coverCenter =>
      pillow.crop (plan.resized size) (plan.cropBox (plan.resized size)) ≠ .error .memory

end Calls

/-! ### What is well placed -/

/-- A padded image has pixels, fills one side of the canvas and stays inside; a
cropped one covers the canvas, has one side of it, and the box stays inside. -/
def Placement.Fits (target : Size) : Placement → Prop
  | .padded resized left top =>
    (1 ≤ resized.width ∧ resized.width ≤ target.width) ∧
      (1 ≤ resized.height ∧ resized.height ≤ target.height) ∧
      (resized.width = target.width ∨ resized.height = target.height) ∧
      (0 ≤ left ∧ left + resized.width ≤ target.width) ∧
      (0 ≤ top ∧ top + resized.height ≤ target.height)
  | .cropped resized left top right bottom =>
    (target.width ≤ resized.width ∧ target.height ≤ resized.height) ∧
      (resized.width = target.width ∨ resized.height = target.height) ∧
      (0 ≤ left ∧ right = left + target.width ∧ right ≤ resized.width) ∧
      (0 ≤ top ∧ bottom = top + target.height ∧ bottom ≤ resized.height)

/-- The placement is of the kind that the mode asks for. -/
def Placement.Of (mode : ResizeMode) : Placement → Prop
  | .padded _ _ _ => mode = .containPad
  | .cropped _ _ _ _ _ => mode = .coverCenter

section Rounding

variable {x y : Rat} {n : Int}

theorem roundHalfUp_int (n : Int) : roundHalfUp n = n := by
  unfold roundHalfUp
  rw [Int.floor_eq_iff]
  constructor <;> linarith

theorem roundHalfUp_mono (h : x ≤ y) : roundHalfUp x ≤ roundHalfUp y :=
  Int.floor_le_floor (by linarith)

theorem roundHalfUp_le (h : x ≤ n) : roundHalfUp x ≤ n := by
  have hmono := roundHalfUp_mono h
  rwa [roundHalfUp_int] at hmono

theorem le_roundHalfUp (h : (n : Rat) ≤ x) : n ≤ roundHalfUp x := by
  have hmono := roundHalfUp_mono h
  rwa [roundHalfUp_int] at hmono

theorem one_le_roundHalfUp : 1 ≤ roundHalfUp x ↔ 1 / 2 ≤ x := by
  unfold roundHalfUp
  rw [Int.le_floor]
  constructor <;> intro h <;> push_cast at h ⊢ <;> linarith

end Rounding

section Scale

variable {w h a b : Int}

/-- A side under the smaller of the two scales. -/
theorem mul_min_scale (hw : 0 < w) :
    (w : Rat) * min ((a : Rat) / w) ((b : Rat) / h) = min (a : Rat) (w * b / h) := by
  have hw' : (0 : Rat) < w := Int.cast_pos.mpr hw
  rw [mul_min_of_nonneg _ _ hw'.le, mul_div_cancel₀ _ hw'.ne', mul_div_assoc]

/-- A side under the larger of the two scales. -/
theorem mul_max_scale (hw : 0 < w) :
    (w : Rat) * max ((a : Rat) / w) ((b : Rat) / h) = max (a : Rat) (w * b / h) := by
  have hw' : (0 : Rat) < w := Int.cast_pos.mpr hw
  rw [mul_max_of_nonneg _ _ hw'.le, mul_div_cancel₀ _ hw'.ne', mul_div_assoc]

/-- The other side keeps half a pixel. -/
theorem half_le_iff (hh : 0 < h) : (1 : Rat) / 2 ≤ w * b / h ↔ h ≤ 2 * w * b := by
  have hh' : (0 : Rat) < h := Int.cast_pos.mpr hh
  rw [le_div_iff₀ hh', ← @Int.cast_le Rat]
  push_cast
  constructor <;> intro hle <;> linarith

end Scale

/-! ### The two modes -/

/-- The condition under which neither side of a padded image is rounded to nothing. -/
def Size.keepsPixels (size target : Size) : Prop :=
  size.width ≤ 2 * size.height * target.width ∧ size.height ≤ 2 * size.width * target.height

section Modes

variable {size target : Size}

/-- A padded image is at most as large as the canvas and fills one side of it. -/
theorem contain_scaled (hw : 0 < size.width) (hh : 0 < size.height) (htw : 1 ≤ target.width)
    (hth : 1 ≤ target.height) {resized : Size}
    (hr : resized = size.scaled (min ((target.width : Rat) / size.width)
      ((target.height : Rat) / size.height))) :
    resized.width ≤ target.width ∧ resized.height ≤ target.height ∧
      (resized.width = target.width ∨ resized.height = target.height) ∧
      (1 ≤ resized.width ∧ 1 ≤ resized.height ↔ size.keepsPixels target) := by
  have hwidth : resized.width = roundHalfUp (min (target.width : Rat)
      (size.width * target.height / size.height)) := by
    rw [hr, ← mul_min_scale hw]
    rfl
  have hheight : resized.height = roundHalfUp (min (target.height : Rat)
      (size.height * target.width / size.width)) := by
    rw [hr, ← mul_min_scale hh, min_comm]
    rfl
  have htw' : (1 : Rat) / 2 ≤ target.width := by
    have h : (1 : Rat) ≤ target.width := by exact_mod_cast htw
    linarith
  have hth' : (1 : Rat) / 2 ≤ target.height := by
    have h : (1 : Rat) ≤ target.height := by exact_mod_cast hth
    linarith
  refine ⟨?_, ?_, ?_, ?_⟩
  · rw [hwidth]
    exact roundHalfUp_le (min_le_left _ _)
  · rw [hheight]
    exact roundHalfUp_le (min_le_left _ _)
  · -- the side that decides the scale is met exactly
    rcases le_total ((target.width : Rat) / size.width) ((target.height : Rat) / size.height)
      with hle | hle
    · left
      rw [hr, min_eq_left hle]
      show roundHalfUp (size.width * ((target.width : Rat) / size.width)) = _
      rw [mul_div_cancel₀ _ (Int.cast_ne_zero.mpr hw.ne'), roundHalfUp_int]
    · right
      rw [hr, min_eq_right hle]
      show roundHalfUp (size.height * ((target.height : Rat) / size.height)) = _
      rw [mul_div_cancel₀ _ (Int.cast_ne_zero.mpr hh.ne'), roundHalfUp_int]
  · rw [hwidth, hheight, one_le_roundHalfUp, one_le_roundHalfUp, le_min_iff, le_min_iff,
      half_le_iff hh, half_le_iff hw]
    unfold Size.keepsPixels
    exact ⟨fun h => ⟨h.2.2, h.1.2⟩, fun h => ⟨⟨htw', h.2⟩, hth', h.1⟩⟩

/-- A cropped image covers the canvas and has one side of it. -/
theorem cover_scaled (hw : 0 < size.width) (hh : 0 < size.height) {resized : Size}
    (hr : resized = size.scaled (max ((target.width : Rat) / size.width)
      ((target.height : Rat) / size.height))) :
    target.width ≤ resized.width ∧ target.height ≤ resized.height ∧
      (resized.width = target.width ∨ resized.height = target.height) := by
  refine ⟨?_, ?_, ?_⟩
  · have hwidth : resized.width = roundHalfUp (max (target.width : Rat)
        (size.width * target.height / size.height)) := by
      rw [hr, ← mul_max_scale hw]
      rfl
    rw [hwidth]
    exact le_roundHalfUp (le_max_left _ _)
  · have hheight : resized.height = roundHalfUp (max (target.height : Rat)
        (size.height * target.width / size.width)) := by
      rw [hr, ← mul_max_scale hh, max_comm]
      rfl
    rw [hheight]
    exact le_roundHalfUp (le_max_left _ _)
  · rcases le_total ((target.width : Rat) / size.width) ((target.height : Rat) / size.height)
      with hle | hle
    · right
      rw [hr, max_eq_right hle]
      show roundHalfUp (size.height * ((target.height : Rat) / size.height)) = _
      rw [mul_div_cancel₀ _ (Int.cast_ne_zero.mpr hh.ne'), roundHalfUp_int]
    · left
      rw [hr, max_eq_left hle]
      show roundHalfUp (size.width * ((target.width : Rat) / size.width)) = _
      rw [mul_div_cancel₀ _ (Int.cast_ne_zero.mpr hw.ne'), roundHalfUp_int]

end Modes

section Resize

variable {pillow : Pillow} {size : Size} {plan : PreprocessPlan}

/-- **Padding** goes well exactly if neither side is rounded to nothing and the
memory is enough; in the first case the image is refused. -/
theorem resize_contain (hpillow : pillow.Documented) (hw : 0 < size.width) (hh : 0 < size.height)
    (hmode : plan.resizeMode = .containPad) :
    (size.keepsPixels plan.targetSize → pillow.Affords size plan →
      ∃ p, resize pillow size plan = .ok p ∧ p.Of plan.resizeMode ∧ p.Fits plan.targetSize) ∧
      (size.keepsPixels plan.targetSize → ¬ pillow.Affords size plan →
        resize pillow size plan = .error .memory) ∧
      (¬ size.keepsPixels plan.targetSize → resize pillow size plan = .error .value) := by
  obtain ⟨htw, hth⟩ := plan.positive
  have hscaled : plan.resized size = size.scaled (min ((plan.targetSize.width : Rat) / size.width)
      ((plan.targetSize.height : Rat) / size.height)) := by
    unfold PreprocessPlan.resized PreprocessPlan.scale
    rw [hmode]
  obtain ⟨hle1, hle2, hone, hiff⟩ := contain_scaled hw hh (by omega) (by omega) hscaled
  have haffords : pillow.Affords size plan ↔ pillow.resize size (plan.resized size) ≠
      .error .memory ∧ pillow.new plan.targetSize ≠ .error .memory := by
    unfold Pillow.Affords
    rw [hmode]
  have hcanvas := hpillow.makes plan.targetSize ⟨by omega, by omega⟩
  unfold resize
  simp only [hmode]
  refine ⟨fun hkeeps hmemory => ?_, fun hkeeps hshort => ?_, fun hkeeps => ?_⟩
  · obtain ⟨hmemory, hmemory'⟩ := haffords.mp hmemory
    have hpixels := hiff.mpr hkeeps
    rw [(hpillow.resizes size _ hpixels).resolve_right hmemory, hcanvas.resolve_right hmemory']
    refine ⟨_, rfl, rfl, ?_⟩
    show (_ ∧ _) ∧ (_ ∧ _) ∧ _ ∧ (_ ∧ _) ∧ (_ ∧ _)
    refine ⟨⟨hpixels.1, hle1⟩, ⟨hpixels.2, hle2⟩, hone, ?_, ?_⟩ <;> omega
  · rcases hpillow.resizes size _ (hiff.mpr hkeeps) with hok | hmemory
    · rcases hcanvas with hok' | hmemory
      · exact absurd (haffords.mpr ⟨by simp [hok], by simp [hok']⟩) hshort
      · rw [hok, hmemory]
        rfl
    · rw [hmemory]
      rfl
  · rw [hpillow.empty size _ fun hpixels => hkeeps (hiff.mp hpixels)]
    rfl

/-- **Cropping** goes well exactly if the memory is enough. -/
theorem resize_cover (hpillow : pillow.Documented) (hw : 0 < size.width) (hh : 0 < size.height)
    (hmode : plan.resizeMode = .coverCenter) :
    (pillow.Affords size plan →
      ∃ p, resize pillow size plan = .ok p ∧ p.Of plan.resizeMode ∧ p.Fits plan.targetSize) ∧
      (¬ pillow.Affords size plan → resize pillow size plan = .error .memory) := by
  obtain ⟨htw, hth⟩ := plan.positive
  have hscaled : plan.resized size = size.scaled (max ((plan.targetSize.width : Rat) / size.width)
      ((plan.targetSize.height : Rat) / size.height)) := by
    unfold PreprocessPlan.resized PreprocessPlan.scale
    rw [hmode]
  obtain ⟨hle1, hle2, hone⟩ := cover_scaled hw hh hscaled
  have haffords : pillow.Affords size plan ↔ pillow.resize size (plan.resized size) ≠
      .error .memory ∧
      pillow.crop (plan.resized size) (plan.cropBox (plan.resized size)) ≠ .error .memory := by
    unfold Pillow.Affords
    rw [hmode]
  have hresized := hpillow.resizes size (plan.resized size) ⟨by omega, by omega⟩
  have hcropped := hpillow.crops (plan.resized size) (plan.cropBox (plan.resized size))
    (by unfold PreprocessPlan.cropBox; simp only; omega)
    (by unfold PreprocessPlan.cropBox; simp only; omega)
  unfold resize
  simp only [hmode]
  refine ⟨fun hmemory => ?_, fun hshort => ?_⟩
  · obtain ⟨hmemory, hmemory'⟩ := haffords.mp hmemory
    rw [hresized.resolve_right hmemory]
    simp only [ok_bind]
    rw [hcropped.resolve_right hmemory']
    refine ⟨_, rfl, rfl, ?_⟩
    show (_ ∧ _) ∧ _ ∧ (_ ∧ _ ∧ _) ∧ (_ ∧ _ ∧ _)
    unfold PreprocessPlan.cropBox
    refine ⟨⟨hle1, hle2⟩, hone, ⟨?_, rfl, ?_⟩, ⟨?_, rfl, ?_⟩⟩ <;> simp only <;> omega
  · rcases hresized with hok | hmemory
    · rcases hcropped with hok' | hmemory
      · exact absurd (haffords.mpr ⟨by simp [hok], by simp [hok']⟩) hshort
      · rw [hok]
        simp only [ok_bind]
        rw [hmemory]
        rfl
    · rw [hmemory]
      rfl

end Resize

/-! ### The theorem -/

theorem checkImage_size {image : OpenedImage} {details : ImageDetails}
    (h : checkImage image = .ok details) : details.size = image.size := by
  unfold checkImage at h
  split_ifs at h
  rcases ho : orientation image.exif with e | n
  · rw [ho] at h
    cases h
  · rw [ho] at h
    cases h
    rfl

theorem oriented_positive {image : OpenedImage} {details : ImageDetails}
    (h : checkImage image = .ok details) :
    0 < details.oriented.width ∧ 0 < details.oriented.height := by
  have hpos := image.positive
  unfold ImageDetails.oriented
  rw [checkImage_size h]
  split_ifs
  · exact hpos.symm
  · exact hpos

/-- **Geometry.**  An admitted image is placed, and placed well, exactly if the
plan crops it, or pads it without rounding one of its sides to nothing, and
Pillow does not run out of memory. -/
theorem placed_iff {pillow : Pillow} (hpillow : pillow.Documented) {image : OpenedImage}
    {details : ImageDetails} (h : checkImage image = .ok details) (plan : PreprocessPlan) :
    (∃ p, placeInput pillow image plan = .ok p ∧ p.Of plan.resizeMode ∧ p.Fits plan.targetSize) ↔
      (plan.resizeMode = .containPad → details.oriented.keepsPixels plan.targetSize) ∧
        pillow.Affords details.oriented plan := by
  obtain ⟨hw, hh⟩ := oriented_positive h
  have hplace : placeInput pillow image plan =
      (resize pillow details.oriented plan).mapError preprocessError := by
    unfold placeInput
    rw [h]
    rfl
  have hrefused : ∀ {e}, resize pillow details.oriented plan = .error e →
      ¬ ∃ p, placeInput pillow image plan = .ok p ∧ p.Of plan.resizeMode ∧
        p.Fits plan.targetSize := by
    rintro e he ⟨p, hp, -⟩
    rw [hplace, he] at hp
    cases hp
  by_cases hmemory : pillow.Affords details.oriented plan
  · rcases hmode : plan.resizeMode with - | -
    · obtain ⟨hgood, -, hbad⟩ := resize_contain hpillow hw hh hmode
      constructor
      · intro hp
        refine ⟨fun _ => ?_, hmemory⟩
        by_contra hkeeps
        rw [← hmode] at hp
        exact hrefused (hbad hkeeps) hp
      · rintro ⟨hkeeps, -⟩
        obtain ⟨p, hp, hrest⟩ := hgood (hkeeps rfl) hmemory
        rw [hmode] at hrest
        rw [hplace, hp]
        exact ⟨p, rfl, hrest⟩
    · obtain ⟨p, hp, hrest⟩ := (resize_cover hpillow hw hh hmode).1 hmemory
      rw [hmode] at hrest
      rw [hplace, hp]
      refine ⟨fun _ => ⟨fun hc => ?_, hmemory⟩, fun _ => ⟨p, rfl, hrest⟩⟩
      cases hc
  · refine ⟨fun hp => absurd hp ?_, fun hp => absurd hp.2 hmemory⟩
    rcases hmode : plan.resizeMode with - | -
    · obtain ⟨-, hshort, hbad⟩ := resize_contain hpillow hw hh hmode
      rw [← hmode]
      by_cases hkeeps : details.oriented.keepsPixels plan.targetSize
      · exact hrefused (hshort hkeeps hmemory)
      · exact hrefused (hbad hkeeps)
    · rw [← hmode]
      exact hrefused ((resize_cover hpillow hw hh hmode).2 hmemory)

/-- A Pillow with memory enough: what it refuses is a side without pixels, and one
beyond what its resampling filter can address. -/
def roomyPillow : Pillow where
  resize _ target :=
    if ¬ target.HasPixels then .error .value
    else if 38347922 < target.width ∨ 38347922 < target.height then .error .memory
    else .ok target
  new size := .ok size
  crop _ box := .ok ⟨box.right - box.left, box.bottom - box.top⟩

theorem roomyPillow_documented : roomyPillow.Documented where
  empty _ _ hempty := if_pos hempty
  resizes size target hpixels := by
    unfold roomyPillow
    simp only
    rw [if_neg (not_not.mpr hpixels)]
    split
    · exact .inr rfl
    · exact .inl rfl
  makes _ _ := .inl rfl
  crops _ _ _ _ := .inl rfl

/-- A line of 16384 pixels. -/
def lineImage : OpenedImage := ⟨py "PNG", 1, ⟨16384, 1⟩, py "RGB", false, .absent, by decide⟩

/-- A picture that lies on its side. -/
def turnedImage : OpenedImage := ⟨py "JPEG", 1, ⟨300, 200⟩, py "L", false, .tag 6, by decide⟩

def squarePlan (mode : ResizeMode) : PreprocessPlan := ⟨⟨64, 64⟩, mode, by decide⟩

theorem lineImage_admitted :
    checkImage lineImage = .ok ⟨py "PNG", py "RGB", ⟨16384, 1⟩, 1⟩ := rfl

theorem turnedImage_admitted :
    checkImage turnedImage = .ok ⟨py "JPEG", py "L", ⟨300, 200⟩, 6⟩ := rfl

/-- The line is placed by a plan that crops, and not by one that pads; the other
picture is padded. -/
theorem placed_iff_line :
    (∃ p, placeInput roomyPillow lineImage (squarePlan .coverCenter) = .ok p ∧
      p.Of .coverCenter ∧ p.Fits ⟨64, 64⟩) ∧
    (∃ p, placeInput roomyPillow turnedImage (squarePlan .containPad) = .ok p ∧
      p.Of .containPad ∧ p.Fits ⟨64, 64⟩) ∧
    ¬ ∃ p, placeInput roomyPillow lineImage (squarePlan .containPad) = .ok p ∧
      p.Of .containPad ∧ p.Fits ⟨64, 64⟩ := by
  refine ⟨?_, ?_, fun hp => ?_⟩
  · refine (placed_iff roomyPillow_documented lineImage_admitted (squarePlan .coverCenter)).mpr ?_
    exact ⟨fun hc => (by cases hc), by decide +kernel, fun hc => by cases hc⟩
  · refine (placed_iff roomyPillow_documented turnedImage_admitted (squarePlan .containPad)).mpr ?_
    exact ⟨fun _ => ⟨by decide, by decide⟩, by decide +kernel, fun hc => by cases hc⟩
  · have hkeeps := ((placed_iff roomyPillow_documented lineImage_admitted
      (squarePlan .containPad)).mp hp).1 rfl
    exact absurd hkeeps.1 (by decide)

/-- The line is admitted, and refused when it is to be padded into 64 x 64
pixels: its height becomes 64 / 16384, which is rounded to nothing. -/
theorem line_refused :
    (∃ details, checkImage lineImage = .ok details) ∧
      placeInput roomyPillow lineImage (squarePlan .containPad) =
        .error (.domain "invalid input image") := by
  refine ⟨⟨_, lineImage_admitted⟩, ?_⟩
  have hresize := (@resize_contain roomyPillow ⟨16384, 1⟩ (squarePlan .containPad)
    roomyPillow_documented (by decide) (by decide) rfl).2.2 fun hkeeps =>
      absurd hkeeps.1 (by decide)
  unfold placeInput
  rw [lineImage_admitted]
  exact congrArg (Except.mapError preprocessError) hresize

end SpecStyle
