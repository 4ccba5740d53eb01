import Iconsmith.Proofs.Canvas.HiddenColours

/-! Channels that stay apart. Resampling and placing make the opacities of an image
from opacities alone, and each colour from that colour and the opacities, all three in
the same way; so an exchange of colours can be made before or after. -/
namespace Iconsmith

open Resample (Plane Kernel convolve convolveBitmap)

/-- One of the three colours that a pixel is made of. -/
inductive Colour where
  | red
  | green
  | blue
deriving DecidableEq, Repr

/-- The byte of a colour. -/
def Colour.of : Colour → Pixel → UInt8
  | red => Pixel.r
  | green => Pixel.g
  | blue => Pixel.b

/-- A pixel with its colours exchanged. -/
def Pixel.recolour (σ : Equiv.Perm Colour) (p : Pixel) : Pixel :=
  ⟨(σ .red).of p, (σ .green).of p, (σ .blue).of p, p.a⟩

namespace Bitmap

/-- An image with its colours exchanged. -/
def recolour (σ : Equiv.Perm Colour) (b : Bitmap) : Bitmap where
  width := b.width
  height := b.height
  pixels := b.pixels.map (Pixel.recolour σ)
  size_eq := by rw [Array.size_map, b.size_eq]

/-- One channel of an image as it is, with the sides of the image. -/
def plane (channel : Pixel → UInt8) (b : Bitmap) : Plane where
  width := b.width.toNat
  height := b.height.toNat
  samples := b.pixels.map channel

variable {a b : Bitmap} {p q : Pixel → UInt8}

/-- A channel of an image that is made by a function is made by the channel of that function. -/
theorem plane_ofFn (channel : Pixel → UInt8) (width height : UInt32) (f : Nat → Nat → Pixel) :
    (ofFn width height f).plane channel =
      .ofFn width.toNat height.toNat fun x y => channel (f x y) := by
  simp only [plane, ofFn, Plane.ofFn, Array.map_ofFn]
  rfl

theorem size_of_plane (h : a.plane p = b.plane q) : a.size = b.size :=
  congrArg₂ Size.mk (UInt32.toNat_inj.mp (congrArg Plane.width h))
    (UInt32.toNat_inj.mp (congrArg Plane.height h))

theorem width_of_plane (h : a.plane p = b.plane q) : a.width = b.width :=
  congrArg Size.width (size_of_plane h)

theorem height_of_plane (h : a.plane p = b.plane q) : a.height = b.height :=
  congrArg Size.height (size_of_plane h)

/-- Images that have a channel in common have it at every place. -/
theorem channel_pixel (hClear : p .clear = q .clear) (h : a.plane p = b.plane q) (x y : Nat) :
    p (a.pixel x y) = q (b.pixel x y) := by
  have hSamples : a.pixels.map p = b.pixels.map q := congrArg Plane.samples h
  have hSample := congrArg (fun samples => samples[y * b.width.toNat + x]?) hSamples
  simp only [Array.getElem?_map] at hSample
  unfold pixel
  rw [width_of_plane h]
  split
  · rw [← Option.getD_map p, hSample, hClear, Option.getD_map]
  · exact hClear

/-- Colours of an image that is made by a function are exchanged pixel by pixel. -/
theorem recolour_ofFn (σ : Equiv.Perm Colour) (width height : UInt32) (f : Nat → Nat → Pixel) :
    (ofFn width height f).recolour σ = .ofFn width height fun x y => (f x y).recolour σ := by
  refine ext_pixels rfl rfl ?_
  simp only [recolour, ofFn, Array.map_ofFn]
  rfl

/-- After colours are exchanged each is where the exchange takes it from. -/
theorem plane_recolour (σ : Equiv.Perm Colour) (b : Bitmap) (c : Colour) :
    (b.recolour σ).plane c.of = b.plane (σ c).of := by
  have hByte (p : Pixel) : c.of (p.recolour σ) = (σ c).of p := by cases c <;> rfl
  simp only [plane, recolour, Array.map_map, Function.comp_def, hByte]

theorem alpha_recolour (σ : Equiv.Perm Colour) (b : Bitmap) :
    (b.recolour σ).plane Pixel.a = b.plane Pixel.a := by
  simp only [plane, recolour, Array.map_map, Function.comp_def]
  rfl

/-- An image is made of its channels. -/
theorem ext_planes (hAlpha : a.plane Pixel.a = b.plane Pixel.a)
    (hColour : ∀ c : Colour, a.plane c.of = b.plane c.of) : a = b := by
  have hPixel : a.pixel = b.pixel := by
    funext x y
    have hRed : (a.pixel x y).r = (b.pixel x y).r := channel_pixel rfl (hColour .red) x y
    have hGreen : (a.pixel x y).g = (b.pixel x y).g := channel_pixel rfl (hColour .green) x y
    have hBlue : (a.pixel x y).b = (b.pixel x y).b := channel_pixel rfl (hColour .blue) x y
    have hOpacity : (a.pixel x y).a = (b.pixel x y).a := channel_pixel rfl hAlpha x y
    exact Pixel.mk.injEq .. ▸ ⟨hRed, hGreen, hBlue, hOpacity⟩
  rw [← a.ofFn_pixel, ← b.ofFn_pixel, hPixel, width_of_plane hAlpha, height_of_plane hAlpha]

end Bitmap

/-- An operation on images keeps their channels apart: the opacities of its result
depend on the opacities alone, and each colour on that colour and the opacities, in the
same way whichever of the three it is. Sides are part of a channel. -/
structure KeepsApart (op : Bitmap → Bitmap) : Prop where
  alpha : ∀ {a b : Bitmap}, a.plane Pixel.a = b.plane Pixel.a →
    (op a).plane Pixel.a = (op b).plane Pixel.a
  colour : ∀ {a b : Bitmap} {c d : Colour}, a.plane Pixel.a = b.plane Pixel.a →
    a.plane c.of = b.plane d.of → (op a).plane c.of = (op b).plane d.of

namespace KeepsApart

variable {op : Bitmap → Bitmap}

theorem id : KeepsApart fun b => b := ⟨fun hAlpha => hAlpha, fun _ hColour => hColour⟩

/-- Two operations in a row keep channels apart if both do. -/
theorem comp {next : Bitmap → Bitmap} (hNext : KeepsApart next) (h : KeepsApart op) :
    KeepsApart fun b => next (op b) where
  alpha hAlpha := hNext.alpha (h.alpha hAlpha)
  colour hAlpha hColour := hNext.colour (h.alpha hAlpha) (h.colour hAlpha hColour)

/-- What is done may depend on the sides, as every channel has them. -/
theorem of_size (route : Size → Bitmap → Bitmap) (h : ∀ size, KeepsApart (route size)) :
    KeepsApart fun b => route b.size b where
  alpha hAlpha := by
    rw [Bitmap.size_of_plane hAlpha]
    exact (h _).alpha hAlpha
  colour hAlpha hColour := by
    rw [Bitmap.size_of_plane hAlpha]
    exact (h _).colour hAlpha hColour

/-- What each channel depends on, as functions. -/
theorem exists_functions (h : KeepsApart op) :
    ∃ (alphaOf : Plane → Plane) (colourOf : Plane → Plane → Plane), ∀ b : Bitmap,
      (op b).plane Pixel.a = alphaOf (b.plane Pixel.a) ∧
      ∀ c : Colour, (op b).plane c.of = colourOf (b.plane Pixel.a) (b.plane c.of) := by
  have hAlpha : Function.FactorsThrough (fun b => (op b).plane Pixel.a)
      (fun b => b.plane Pixel.a) := fun _ _ => h.alpha
  have hColour : Function.FactorsThrough (fun s : Bitmap × Colour => (op s.1).plane s.2.of)
      (fun s => (s.1.plane Pixel.a, s.1.plane s.2.of)) := fun _ _ hSame =>
    h.colour (congrArg Prod.fst hSame) (congrArg Prod.snd hSame)
  have : Nonempty Plane := ⟨⟨0, 0, #[]⟩⟩
  obtain ⟨alphaOf, hAlphaOf⟩ := (Function.factorsThrough_iff _).mp hAlpha
  obtain ⟨colourOf, hColourOf⟩ := (Function.factorsThrough_iff _).mp hColour
  exact ⟨alphaOf, fun alpha colour => colourOf (alpha, colour), fun b =>
    ⟨congrFun hAlphaOf b, fun c => congrFun hColourOf (b, c)⟩⟩

/-- Colours may be exchanged before or after. -/
theorem recolour (h : KeepsApart op) (σ : Equiv.Perm Colour) (b : Bitmap) :
    op (b.recolour σ) = (op b).recolour σ := by
  refine Bitmap.ext_planes ?_ fun c => ?_
  · rw [Bitmap.alpha_recolour]
    exact h.alpha (b.alpha_recolour σ)
  · rw [Bitmap.plane_recolour]
    exact h.colour (b.alpha_recolour σ) (b.plane_recolour σ c)

end KeepsApart

/-! ### The routes of an image -/

/-- All colours of a clear pixel are the same. -/
theorem Colour.of_clear (c d : Colour) : c.of .clear = d.of .clear := by
  cases c <;> cases d <;> rfl

/-- Pixels that are only moved: a channel of the result is made of that channel,
whichever it is. -/
theorem keepsApart_ofFn {width height : UInt32} {f : Bitmap → Nat → Nat → Pixel}
    (hMoved : ∀ {p q : Pixel → UInt8}, p .clear = q .clear → ∀ {a b : Bitmap},
      a.plane p = b.plane q → ∀ x y, p (f a x y) = q (f b x y)) :
    KeepsApart fun b => .ofFn width height (f b) where
  alpha hAlpha := by simp only [Bitmap.plane_ofFn, hMoved rfl hAlpha]
  colour _ hColour := by
    simp only [Bitmap.plane_ofFn, hMoved (Colour.of_clear _ _) hColour]

namespace Resample

/-- To take over pixels is to take over each of their channels. -/
theorem keepsApart_nearest (width height : UInt32) :
    KeepsApart fun b => nearest b width height := by
  unfold nearest
  refine keepsApart_ofFn fun hClear a b hSame x y => ?_
  rw [Bitmap.width_of_plane hSame, Bitmap.height_of_plane hSame]
  exact Bitmap.channel_pixel hClear hSame _ _

/-- The colour that a kernel is given is made of the colour and the opacities. -/
theorem colourPlane_of_planes {a b : Bitmap} {c d : Pixel → UInt8}
    (hAlpha : a.plane Pixel.a = b.plane Pixel.a) (hColour : a.plane c = b.plane d) :
    colourPlane c a = colourPlane d b := by
  have hPairs (b : Bitmap) (c : Pixel → UInt8) : colourPlane c b =
      ⟨(b.plane c).width, (b.plane c).height,
        Array.zipWith premultiply (b.plane c).samples (b.plane Pixel.a).samples⟩ := by
    simp [colourPlane, Bitmap.plane]
  rw [hPairs, hPairs, hColour, hAlpha]

/-- Premultiplying couples each colour with the opacity only, and the same sums are made for
all. -/
theorem keepsApart_convolveBitmap (kernel : Kernel) (width height : UInt32) :
    KeepsApart fun b => convolveBitmap kernel b width height := by
  have hAlpha (b : Bitmap) : (convolveBitmap kernel b width height).plane Pixel.a =
      .ofFn width.toNat height.toNat fun x y =>
        (convolve kernel width.toNat height.toNat (b.plane Pixel.a)).sample x y :=
    Bitmap.plane_ofFn _ _ _ _
  have hColour (b : Bitmap) (c : Colour) : (convolveBitmap kernel b width height).plane c.of =
      .ofFn width.toNat height.toNat fun x y => unpremultiply
        ((convolve kernel width.toNat height.toNat (colourPlane c.of b)).sample x y)
        ((convolve kernel width.toNat height.toNat (b.plane Pixel.a)).sample x y) := by
    cases c <;> exact Bitmap.plane_ofFn _ _ _ _
  constructor
  · intro a b hSame
    rw [hAlpha, hAlpha, hSame]
  · intro a b c d hSame hSameColour
    rw [hColour, hColour, hSame, colourPlane_of_planes hSame hSameColour]

end Resample

/-- All three routes keep the channels apart: the copy of an image that has the wanted
size, the filter that mixes no pixels, and the kernels. -/
theorem Filter.keepsApart_resize (f : Filter) (size : Size) :
    KeepsApart fun b => f.resize b size := by
  have hUnlessCopied {op : Bitmap → Bitmap} (h : KeepsApart op) :
      KeepsApart fun b => if b.size = size then b else op b :=
    .of_size (fun old b => if old = size then b else op b) fun old => by
      split_ifs
      · exact .id
      · exact h
  cases f with
  | nearest => exact hUnlessCopied (Resample.keepsApart_nearest _ _)
  | triangle => exact hUnlessCopied (Resample.keepsApart_convolveBitmap _ _ _)
  | catmullRom => exact hUnlessCopied (Resample.keepsApart_convolveBitmap _ _ _)
  | lanczos3 => exact hUnlessCopied (Resample.keepsApart_convolveBitmap _ _ _)

namespace Canvas

/-- Placing on a clear canvas takes over pixels or leaves them clear. -/
theorem keepsApart_place (side left top : UInt32) :
    KeepsApart fun b => place side b left top := by
  unfold place
  refine keepsApart_ofFn fun hClear a b hSame x y => ?_
  rw [Bitmap.width_of_plane hSame, Bitmap.height_of_plane hSame]
  split
  · exact Bitmap.channel_pixel hClear hSame _ _
  · exact hClear

theorem keepsApart_compose (s : Settings) (plan : FitPlan) :
    KeepsApart fun b => compose s b plan :=
  (keepsApart_place s.canvasSize plan.offsetX plan.offsetY).comp
    (s.filter.keepsApart_resize plan.newSize)

/-- The canvas of an image for its own plan. -/
theorem keepsApart_planned (s : Settings) :
    KeepsApart fun b => (FitPlan.of? b.size s.canvasSize s.allowUpscale).elim b (compose s b) :=
  .of_size (fun size b => (FitPlan.of? size s.canvasSize s.allowUpscale).elim b (compose s b))
    fun size => by
      cases FitPlan.of? size s.canvasSize s.allowUpscale with
      | none => exact .id
      | some plan => exact keepsApart_compose s plan

/-- For valid settings the opacities of a canvas are made of the image's opacities, and
each of its colours of that colour and the opacities, by one function for all three. So
the run of an image whose colours are exchanged is the run of the image: same reports,
same plan, and colours exchanged on the canvas. -/
theorem fit_channels (s : ValidSettings) :
    (∃ (alphaOf : Plane → Plane) (colourOf : Plane → Plane → Plane),
      ∀ (image canvas : Bitmap) (plan : FitPlan) (w w' : World),
        (fit s.val image).perform w = (.done (canvas, plan), w') →
        canvas.plane Pixel.a = alphaOf (image.plane Pixel.a) ∧
        ∀ c : Colour, canvas.plane c.of = colourOf (image.plane Pixel.a) (image.plane c.of)) ∧
    ∀ (σ : Equiv.Perm Colour) (image : Bitmap),
      (fit s.val (image.recolour σ)).perform = (do
        let (canvas, plan) ← fit s.val image
        return (canvas.recolour σ, plan)).perform := by
  constructor
  · obtain ⟨alphaOf, colourOf, hPlanes⟩ := (keepsApart_planned s.val).exists_functions
    refine ⟨alphaOf, colourOf, fun image canvas plan w w' hDone => ?_⟩
    obtain ⟨hPlan, -, rfl⟩ := done_of_fit hDone
    have hImage := hPlanes image
    rw [hPlan] at hImage
    exact hImage
  · intro σ image
    funext w
    rw [Action.perform_bind]
    by_cases hEmpty : image.width = 0 ∨ image.height = 0
    · rw [perform_fit_empty w hEmpty]
      exact perform_fit_empty w hEmpty
    rw [not_or] at hEmpty
    obtain ⟨plan, hPlan, -⟩ := exists_plan s image
    have hCrash : crash? s.val (image.recolour σ) plan = crash? s.val image plan := rfl
    have hRun := perform_fit w hEmpty.1 hEmpty.2 hPlan
    have hExchanged : (fit s.val (image.recolour σ)).perform w = _ :=
      perform_fit w hEmpty.1 hEmpty.2 hPlan
    rw [hExchanged, hRun, hCrash, (keepsApart_compose s.val plan).recolour σ image]
    cases crash? s.val image plan <;> rfl

/-- A half-transparent pixel whose red and blue are the same, enlarged by a kernel: they
are the same on its canvas, and with red and green exchanged it gets the canvas with red
and green exchanged. -/
theorem fit_channels_twoColours :
    ∃ (s : ValidSettings) (canvas : Bitmap) (plan : FitPlan) (w : World),
      s.val.filter = .lanczos3 ∧ plan.newSize = ⟨2, 2⟩ ∧
      (fit s.val (.ofFn 1 1 fun _ _ => ⟨200, 9, 200, 128⟩)).perform ⟨.empty, []⟩ =
        (.done (canvas, plan), w) ∧
      canvas.plane Pixel.r = canvas.plane Pixel.b ∧
      (fit s.val (.ofFn 1 1 fun _ _ => ⟨9, 200, 200, 128⟩)).perform ⟨.empty, []⟩ =
        (.done (canvas.recolour (Equiv.swap .red .green), plan), w) := by
  let s : ValidSettings :=
    ⟨{ Settings.default with canvasSize := 2, allowUpscale := true }, by decide⟩
  let image : Bitmap := .ofFn 1 1 fun _ _ => ⟨200, 9, 200, 128⟩
  let plan : FitPlan := ⟨.finite ⟨1 <<< 52, -51⟩, ⟨2, 2⟩, 0, 0⟩
  have hPlan : FitPlan.of? image.size s.val.canvasSize s.val.allowUpscale = some plan := by
    decide
  have hRoom : crash? s.val image plan = none := by decide
  have hDone := perform_fit ⟨.empty, []⟩ (by decide) (by decide) hPlan
  rw [hRoom] at hDone
  obtain ⟨⟨alphaOf, colourOf, hPlanes⟩, hExchange⟩ := fit_channels s
  obtain ⟨-, hColour⟩ := hPlanes _ _ _ _ _ hDone
  have hSame : image.plane Pixel.r = image.plane Pixel.b := by
    rw [Bitmap.plane_ofFn, Bitmap.plane_ofFn]
  have hRedBlue : (compose s.val image plan).plane Pixel.r =
      (compose s.val image plan).plane Pixel.b :=
    calc (compose s.val image plan).plane Pixel.r
        = colourOf (image.plane Pixel.a) (image.plane Pixel.r) := hColour .red
      _ = colourOf (image.plane Pixel.a) (image.plane Pixel.b) := by rw [hSame]
      _ = (compose s.val image plan).plane Pixel.b := (hColour .blue).symm
  have hRun := congrFun (hExchange (Equiv.swap .red .green) image) ⟨.empty, []⟩
  rw [Action.perform_bind, hDone, Bitmap.recolour_ofFn] at hRun
  exact ⟨s, _, plan, _, rfl, rfl, hDone, hRedBlue, hRun⟩

end Canvas
end Iconsmith
