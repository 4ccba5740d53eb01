import Iconsmith.Proofs.Bitmap.Pixels
import Iconsmith.Proofs.Canvas.Composition

/-! Colours that cannot be seen. A pixel without opacity still has colour bytes.
A kernel works on colours multiplied with opacity, so these bytes end there:
whatever the weights are, what is resampled does not depend on them. -/
namespace Iconsmith

/-- Two pixels look the same: they are equally opaque, and equal unless they
have no opacity at all. -/
def Pixel.SameVisible (p q : Pixel) : Prop := p.a = q.a ∧ (p.a ≠ 0 → p = q)

/-- Two images of the same size look the same at every place. -/
structure Bitmap.SameVisible (a b : Bitmap) : Prop where
  size_eq : a.size = b.size
  pixel : ∀ x y, x < a.width.toNat → y < a.height.toNat →
    (a.pixel x y).SameVisible (b.pixel x y)

/-- No place of the image has any opacity. -/
def Bitmap.Transparent (b : Bitmap) : Prop :=
  ∀ x y, x < b.width.toNat → y < b.height.toNat → (b.pixel x y).a = 0

namespace Resample

/-- A colour without opacity counts nothing. -/
theorem premultiply_zero (c : UInt8) : premultiply c 0 = 0 := by
  simp [premultiply]

theorem unpremultiply_zero (c : UInt8) : unpremultiply c 0 = 0 := by
  simp [unpremultiply, reciprocal]

/-- What a kernel is given of a pixel depends on what can be seen of it. -/
theorem premultiply_of_sameVisible {p q : Pixel} (h : p.SameVisible q) (channel : Pixel → UInt8) :
    premultiply (channel p) p.a = premultiply (channel q) q.a := by
  obtain ⟨hAlpha, hColour⟩ := h
  by_cases hZero : p.a = 0
  · rw [← hAlpha, hZero, premultiply_zero, premultiply_zero]
  · rw [hColour hZero]

section Planes

variable {a b : Bitmap}

/-- Premultiplied colours are the same where what can be seen is. -/
theorem colourPlane_eq (h : a.SameVisible b) (channel : Pixel → UInt8) :
    colourPlane channel a = colourPlane channel b := by
  have hPixels : (a.pixels.map fun p => premultiply (channel p) p.a) =
      b.pixels.map fun p => premultiply (channel p) p.a :=
    Bitmap.map_pixels_congr h.size_eq fun x y hx hy =>
      premultiply_of_sameVisible (h.pixel x y hx hy) channel
  have hWidth : a.width = b.width := congrArg Size.width h.size_eq
  have hHeight : a.height = b.height := congrArg Size.height h.size_eq
  simp only [colourPlane, hPixels, hWidth, hHeight]

/-- Opacities are a part of what can be seen. -/
theorem alphaPlane_eq (h : a.SameVisible b) : alphaPlane a = alphaPlane b := by
  have hPixels : a.pixels.map Pixel.a = b.pixels.map Pixel.a :=
    Bitmap.map_pixels_congr h.size_eq fun x y hx hy => (h.pixel x y hx hy).1
  have hWidth : a.width = b.width := congrArg Size.width h.size_eq
  have hHeight : a.height = b.height := congrArg Size.height h.size_eq
  simp only [alphaPlane, hPixels, hWidth, hHeight]

/-- No kernel tells two images apart that look the same. -/
theorem convolveBitmap_eq (h : a.SameVisible b) (kernel : Kernel) (width height : UInt32) :
    convolveBitmap kernel a width height = convolveBitmap kernel b width height := by
  simp only [convolveBitmap, colourPlane_eq h, alphaPlane_eq h]

end Planes

/-! ### Images without opacity -/

/-- Every sample is zero. -/
def Plane.IsZero (p : Plane) : Prop := ∀ v ∈ p.samples, v = 0

theorem Plane.IsZero.sample {p : Plane} (h : p.IsZero) (x y : Nat) : p.sample x y = 0 := by
  unfold Plane.sample
  cases hSample : p.samples[y * p.width + x]? with
  | none => rfl
  | some v => exact h v (Array.mem_of_getElem? hSample)

theorem isZero_ofFn {width height : Nat} {f : Nat → Nat → UInt8} (h : ∀ x y, f x y = 0) :
    (Plane.ofFn width height f).IsZero := by
  intro v hMem
  obtain ⟨i, -, rfl⟩ := Array.mem_ofFn.mp hMem
  exact h _ _

theorem go_zero (weights : List Int) (start : Nat) (acc : Int) :
    blend.go (fun _ => 0) weights start acc = acc := by
  induction weights generalizing start with
  | nil => rfl
  | cons c cs ih => simpa [blend.go] using ih (start + 1)

/-- The half that rounds a sum does not make up a unit. -/
theorem blend_zero (precision : Nat) (w : Window Int) : blend precision w (fun _ => 0) = 0 := by
  simp only [blend, go_zero]
  cases precision with
  | zero => rfl
  | succ n =>
      have hHalf : ((1 <<< n : Nat) : Int) >>> (n + 1) = 0 := by
        rw [Int.shiftRight_eq_div_pow, Nat.shiftLeft_eq, one_mul]
        exact Int.ediv_eq_zero_of_lt (by positivity)
          (by exact_mod_cast Nat.pow_lt_pow_right one_lt_two (Nat.lt_succ_self n))
      simp only [Nat.add_one_ne_zero, if_false, Nat.add_sub_cancel, hHalf]
      rfl

theorem isZero_resampleRows (ws : Windows) (height : Nat) {p : Plane} (h : p.IsZero) :
    (resampleRows ws height p).IsZero := by
  refine isZero_ofFn fun x y => ?_
  simp only [h.sample, blend_zero]

theorem isZero_resampleColumns (ws : Windows) (width : Nat) {p : Plane} (h : p.IsZero) :
    (resampleColumns ws width p).IsZero := by
  refine isZero_ofFn fun x y => ?_
  simp only [h.sample, blend_zero]

/-- Both passes keep a plane of zeros. -/
theorem isZero_convolve (kernel : Kernel) (width height : Nat) {p : Plane} (h : p.IsZero) :
    (convolve kernel width height p).IsZero := by
  have hRows : (if p.height = height then p
      else resampleRows (windows kernel p.height height) height p).IsZero := by
    split_ifs
    · exact h
    · exact isZero_resampleRows _ _ h
  unfold convolve
  dsimp only
  split_ifs at hRows ⊢
  · exact hRows
  · exact isZero_resampleColumns _ _ hRows
  · exact hRows
  · exact isZero_resampleColumns _ _ hRows

theorem isZero_alphaPlane {b : Bitmap} (h : b.Transparent) : (alphaPlane b).IsZero := by
  intro v hMem
  obtain ⟨p, hPixel, rfl⟩ := Array.mem_map.mp hMem
  obtain ⟨i, hi, rfl⟩ := Array.mem_iff_getElem.mp hPixel
  obtain ⟨hx, hy⟩ := b.mod_lt_width hi
  rw [← b.pixel_mod_div hi]
  exact h _ _ hx hy

/-- Nothing becomes visible where nothing was. -/
theorem convolveBitmap_of_transparent (kernel : Kernel) {b : Bitmap} (h : b.Transparent)
    (width height : UInt32) :
    convolveBitmap kernel b width height = .ofFn width height fun _ _ => .clear := by
  have hAlpha := isZero_convolve kernel width.toNat height.toNat (isZero_alphaPlane h)
  simp only [convolveBitmap, hAlpha.sample, unpremultiply_zero]
  rfl

end Resample

namespace Filter

variable {f : Filter} {a b : Bitmap} {size : Size}

/-- A filter that mixes pixels resamples by one of the kernels. -/
theorem exists_kernel (hFilter : f ≠ .nearest) : ∃ kernel, ∀ (b : Bitmap) (size : Size),
    b.size ≠ size → f.resize b size = Resample.convolveBitmap kernel b size.width size.height := by
  cases f with
  | nearest => exact absurd rfl hFilter
  | triangle => exact ⟨.triangle, fun b size h => if_neg h⟩
  | catmullRom => exact ⟨.catmullRom, fun b size h => if_neg h⟩
  | lanczos3 => exact ⟨.lanczos3, fun b size h => if_neg h⟩

end Filter

namespace Canvas

variable {s : Settings} {a b : Bitmap} {plan : FitPlan}

/-- So images that look alike give the same canvas, if they are resampled by mixing. -/
theorem compose_of_sameVisible (hFilter : s.filter ≠ .nearest) (hSame : a.SameVisible b)
    (hNew : plan.newSize ≠ a.size) : compose s a plan = compose s b plan := by
  obtain ⟨kernel, hResize⟩ := Filter.exists_kernel hFilter
  unfold compose
  rw [hResize a _ hNew.symm, hResize b _ (hSame.size_eq ▸ hNew.symm),
    Resample.convolveBitmap_eq hSame]

/-- A clear image on a clear square leaves it clear. -/
theorem compose_of_transparent (hFilter : s.filter ≠ .nearest) (hImage : a.Transparent)
    (hNew : plan.newSize ≠ a.size) :
    compose s a plan = .ofFn s.canvasSize s.canvasSize fun _ _ => .clear := by
  obtain ⟨kernel, hResize⟩ := Filter.exists_kernel hFilter
  unfold compose
  rw [hResize a _ hNew.symm, Resample.convolveBitmap_of_transparent kernel hImage, place]
  refine Bitmap.ofFn_congr fun x y _ _ => ?_
  split_ifs with hInside
  · obtain ⟨hLeft, hRight, hTop, hBottom⟩ := hInside
    exact Bitmap.pixel_ofFn (Nat.sub_lt_left_of_lt_add hLeft hRight)
      (Nat.sub_lt_left_of_lt_add hTop hBottom)
  · rfl

/-- Settings with a filter that mixes pixels, and an image that is not kept in
its size: the whole run, its canvas, its plan and its reports, depends only on
what can be seen of the image. If that is nothing, the canvas is clear. -/
theorem fit_of_sameVisible (s : ValidSettings) (image : Bitmap) {plan : FitPlan}
    (hFilter : s.val.filter ≠ .nearest)
    (hPlan : FitPlan.of? image.size s.val.canvasSize s.val.allowUpscale = some plan)
    (hNew : plan.newSize ≠ image.size) :
    (∀ other : Bitmap, image.SameVisible other →
      (fit s.val image).perform = (fit s.val other).perform) ∧
    (image.Transparent → ∀ w canvas plan' w',
      (fit s.val image).perform w = (.done (canvas, plan'), w') →
        canvas = .ofFn s.val.canvasSize s.val.canvasSize fun _ _ => ⟨0, 0, 0, 0⟩) := by
  constructor
  · intro other hSame
    have hSize := hSame.size_eq
    have hWidth : image.width = other.width := congrArg Size.width hSize
    have hHeight : image.height = other.height := congrArg Size.height hSize
    funext w
    by_cases hEmpty : image.width = 0 ∨ image.height = 0
    · rw [perform_fit_empty w hEmpty, hSize, perform_fit_empty w (hWidth ▸ hHeight ▸ hEmpty)]
    rw [not_or] at hEmpty
    have hCrash : crash? s.val image plan = crash? s.val other plan := by
      simp only [crash?, hSize]
    rw [perform_fit w hEmpty.1 hEmpty.2 hPlan,
      perform_fit w (hWidth ▸ hEmpty.1) (hHeight ▸ hEmpty.2) (hSize ▸ hPlan), hCrash, hSize,
      compose_of_sameVisible hFilter hSame hNew]
  · intro hImage w canvas plan' w' hDone
    obtain ⟨hPlan', -, rfl⟩ := done_of_fit hDone
    obtain rfl := Option.some.inj (hPlan.symm.trans hPlan')
    exact compose_of_transparent hFilter hImage hNew

/-- A red and a green pixel without opacity, enlarged to the same clear canvas. -/
theorem fit_of_sameVisible_twoColours :
    ∃ s : ValidSettings, s.val.filter = .lanczos3 ∧
      (fit s.val (.ofFn 1 1 fun _ _ => ⟨255, 0, 0, 0⟩)).perform =
        (fit s.val (.ofFn 1 1 fun _ _ => ⟨0, 255, 0, 0⟩)).perform ∧
      ∃ canvas plan w, (fit s.val (.ofFn 1 1 fun _ _ => ⟨255, 0, 0, 0⟩)).perform ⟨.empty, []⟩ =
        (.done (canvas, plan), w) ∧ canvas = .ofFn 2 2 fun _ _ => ⟨0, 0, 0, 0⟩ := by
  let s : ValidSettings :=
    ⟨{ Settings.default with canvasSize := 2, allowUpscale := true }, by decide⟩
  let red : Bitmap := .ofFn 1 1 fun _ _ => ⟨255, 0, 0, 0⟩
  let plan : FitPlan := ⟨.finite ⟨1 <<< 52, -51⟩, ⟨2, 2⟩, 0, 0⟩
  have hPlan : FitPlan.of? red.size s.val.canvasSize s.val.allowUpscale = some plan := by
    decide
  have hRoom : crash? s.val red plan = none := by decide
  have hPixel {x y : Nat} (hx : x < 1) (hy : y < 1) (p : Pixel) :
      (Bitmap.ofFn 1 1 fun _ _ => p).pixel x y = p := Bitmap.pixel_ofFn hx hy
  have hSame : red.SameVisible (.ofFn 1 1 fun _ _ => ⟨0, 255, 0, 0⟩) := by
    refine ⟨rfl, fun x y hx hy => ?_⟩
    rw [hPixel hx hy, hPixel hx hy]
    exact ⟨rfl, fun hOpaque => absurd rfl hOpaque⟩
  have hClear : red.Transparent := fun x y hx hy => by rw [hPixel hx hy]
  obtain ⟨hRun, hCanvas⟩ := fit_of_sameVisible s red (by decide) hPlan (by decide)
  have hDone := perform_fit ⟨.empty, []⟩ (by decide) (by decide) hPlan
  rw [hRoom] at hDone
  exact ⟨s, rfl, hRun _ hSame, _, _, _, hDone, hCanvas hClear _ _ _ _ hDone⟩

end Canvas
end Iconsmith
