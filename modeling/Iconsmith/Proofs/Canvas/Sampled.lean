import Iconsmith.Proofs.Binary64.Accuracy
import Iconsmith.Proofs.Canvas.Memory
import Iconsmith.Resample
import Mathlib.Algebra.Order.Floor.Semifield

/-! Canvases of the filter that mixes no pixels. Each pixel in the planned area is
one pixel of the image with all of its bytes; which one is told from the sides alone,
for columns and rows apart, by the middles of target samples in source samples. A
column's middle is computed with three roundings, a row's middle with one more for
each row above it. Up to `2 ^ 24` samples neither leads out of the source, backwards,
or farther than to a neighbour of the sample in which the exact middle lies. -/
namespace Iconsmith.Resample

open Binary64 (Rounds Off Representable off_self)

/-- The middle of target sample `i` in source samples. -/
def exactCenter (source target i : ℕ) : ℚ := ((2 * i + 1) * source : ℕ) / (2 * target : ℕ)

/-- Source samples for target samples: there are such samples, none lies in front of
the one before, and each is the sample of the exact middle or a neighbour of it. -/
structure CenterSampling (source target : ℕ) (index : ℕ → ℕ) : Prop where
  inside : ∀ i < target, index i < source
  monotone : MonotoneOn index (Set.Iio target)
  near : ∀ i < target, Adjacent (index i) ((2 * i + 1) * source / (2 * target))

theorem exactCenter_nonneg (source target i : ℕ) : 0 ≤ exactCenter source target i :=
  div_nonneg (Nat.cast_nonneg _) (Nat.cast_nonneg _)

theorem floor_exactCenter (source target i : ℕ) :
    ⌊exactCenter source target i⌋₊ = (2 * i + 1) * source / (2 * target) :=
  Nat.floor_div_eq_div _ _

/-- The exact middle is half a step and as many whole steps as there are samples before. -/
theorem exactCenter_eq (source : ℕ) {target : ℕ} (hTarget : 0 < target) (i : ℕ) :
    exactCenter source target i = 1 / 2 * (source / target) + i * (source / target) := by
  have hPos : (0 : ℚ) < target := by exact_mod_cast hTarget
  rw [exactCenter]
  push_cast
  field_simp
  ring

/-! ### Computed middles -/

section Computed

variable (source : ℕ) {target : ℕ} (hTarget : 0 < target)

include hTarget

theorem off_step : Off 1 (source / target : ℚ) (Binary64.ofRatio source target).value :=
  (off_self _).rounds (Binary64.rounds_ofRatio source hTarget) (by positivity) (by norm_num)

/-- Halving is exact, so half a step is no further off. -/
theorem off_half_step :
    Off 1 (1 / 2 * (source / target) : ℚ) (Binary64.ofRatio source target).half.value := by
  have hHalf : (Binary64.ofRatio source target).half.value =
      1 / 2 * (Binary64.ofRatio source target).value := by
    rw [Binary64.value_half]
    ring
  rw [hHalf]
  exact (off_step source hTarget).scale (by norm_num)

variable {source}

/-- A column's middle is a sum of a half and a product. -/
theorem off_columnCenter {i : ℕ} (hi : i < 2 ^ 53) :
    Off 3 (exactCenter source target i) (columnCenter source target i).value := by
  have hStep : (0 : ℚ) ≤ source / target := by positivity
  have hProduct : Off 2 (i * (source / target) : ℚ)
      ((Binary64.ofRatio source target).mul (.ofNat i)).value := by
    have hRounds := Binary64.rounds_mul (Binary64.ofRatio source target) (.ofNat i)
    rw [Binary64.value_ofNat hi, mul_comm] at hRounds
    exact ((off_step source hTarget).scale (Nat.cast_nonneg i)).rounds hRounds (by positivity)
      (by norm_num)
  have hHalf := (off_half_step source hTarget).mono (by positivity) one_le_two
  have hSum := hHalf.add hProduct
  rw [← exactCenter_eq source hTarget] at hSum
  exact hSum.rounds (Binary64.rounds_add _ _) (exactCenter_nonneg _ _ _) (by norm_num)

/-- Induction on the rows: each addition of the step adds one rounding. -/
theorem off_rowCenter (i : ℕ) (hi : i < 2 ^ 52) :
    Off (i + 1) (exactCenter source target i) (rowCenter source target i).value := by
  induction i with
  | zero =>
      rw [exactCenter_eq source hTarget, Nat.cast_zero, zero_mul, add_zero]
      exact off_half_step source hTarget
  | succ i ih =>
      have hNext : exactCenter source target (i + 1) =
          exactCenter source target i + source / target := by
        rw [exactCenter_eq source hTarget, exactCenter_eq source hTarget]
        push_cast
        ring
      have hStep := (off_step source hTarget).mono (by positivity)
        (by omega : 1 ≤ i + 1)
      have hSum := (ih (by omega)).add hStep
      rw [← hNext] at hSum
      exact hSum.rounds (Binary64.rounds_add _ _) (exactCenter_nonneg _ _ _) (by omega)

omit hTarget in
/-- Columns are computed one by one, and rounding keeps their order. -/
theorem columnCenter_mono {i j : ℕ} (hLe : i ≤ j) (hj : j < 2 ^ 53) :
    (columnCenter source target i).value ≤ (columnCenter source target j).value := by
  have hProduct : ((Binary64.ofRatio source target).mul (.ofNat i)).value ≤
      ((Binary64.ofRatio source target).mul (.ofNat j)).value := by
    refine (Binary64.rounds_mul _ _).mono (Binary64.rounds_mul _ _) ?_
    rw [Binary64.value_ofNat (hLe.trans_lt hj), Binary64.value_ofNat hj]
    exact mul_le_mul_of_nonneg_left (by exact_mod_cast hLe) (Binary64.value_nonneg _)
  exact (Binary64.rounds_add _ _).mono (Binary64.rounds_add _ _) (by linarith)

theorem representable_rowCenter (i : ℕ) : Representable (rowCenter source target i).value := by
  cases i with
  | zero =>
      rw [rowCenter, Binary64.value_half]
      exact (Binary64.rounds_ofRatio source hTarget).representable.half
  | succ i => exact (Binary64.rounds_add _ _).representable

/-- Rows are computed by adding steps, and no sum is less than what was added to. -/
theorem rowCenter_mono : Monotone fun i => (rowCenter source target i).value := by
  refine monotone_nat_of_le_succ fun i => ?_
  refine (representable_rowCenter hTarget i).rounds_self.mono (Binary64.rounds_add _ _) ?_
  have := Binary64.value_nonneg (Binary64.ofRatio source target)
  linarith

end Computed

/-! ### Samples of the computed middles -/

section Samples

variable {source target i : ℕ} {v : ℚ}

/-- The last middle is half a step in front of the end, and `2 ^ 24` parts in `2 ^ 52`
do not bridge it. -/
theorem lt_of_off (hSource : 0 < source) (hTarget : target < 2 ^ 24) (hi : i < target)
    (hOff : Off (2 ^ 24) (exactCenter source target i) v) : v < source := by
  have hPos : (0 : ℚ) < target := by exact_mod_cast (by omega : 0 < target)
  have hFew : (target : ℚ) < 2 ^ 24 := by exact_mod_cast hTarget
  have hSome : (0 : ℚ) < source := by exact_mod_cast hSource
  have hBefore : (2 * i + 1 : ℚ) ≤ 2 * target - 1 := by
    have : ((2 * i + 2 : ℕ) : ℚ) ≤ (2 * target : ℕ) := by exact_mod_cast (by omega)
    push_cast at this
    linarith
  have hCenter : exactCenter source target i * (2 * target) ≤ (2 * target - 1) * source := by
    rw [exactCenter]
    push_cast
    rw [div_mul_cancel₀ _ (by positivity)]
    exact mul_le_mul_of_nonneg_right hBefore hSome.le
  have hError := (abs_le.mp hOff).2
  push_cast at hError
  have hBound : v * (2 * target) < source * (2 * target) := by nlinarith
  exact lt_of_mul_lt_mul_right hBound (by positivity)

/-- Middles that are computed well enough, and in order, fall on the right samples. -/
theorem centerSampling_floor {center : ℕ → Binary64} (hSource : 0 < source)
    (hSourceSmall : source < 2 ^ 24) (hTarget : target < 2 ^ 24)
    (hOff : ∀ i < target, Off (2 ^ 24) (exactCenter source target i) (center i).value)
    (hMono : ∀ i j, i ≤ j → j < target → (center i).value ≤ (center j).value) :
    CenterSampling source target fun i => (center i).floor where
  inside i hi := by
    rw [Binary64.floor_eq, Nat.floor_lt (Binary64.value_nonneg _)]
    exact lt_of_off hSource hTarget hi (hOff i hi)
  monotone i hi j hj hLe := by
    simp only [Binary64.floor_eq]
    exact Nat.floor_le_floor (hMono i j hLe hj)
  near i hi := by
    have hNonneg := exactCenter_nonneg source target i
    have hLt := lt_of_off hSource hTarget hi ((off_self _).mono hNonneg (Nat.zero_le _))
    have hFew : (source : ℚ) < 2 ^ 24 := by exact_mod_cast hSourceSmall
    rw [Binary64.floor_eq, ← floor_exactCenter]
    refine (hOff i hi).adjacent_floor hNonneg (Binary64.value_nonneg _) ?_
    push_cast
    linarith

/-- Between as many samples each middle falls on its own sample. -/
theorem floor_of_off_self {n : ℕ} (hi : i < n) (hn : n < 2 ^ 24)
    (hOff : Off (2 ^ 24) (exactCenter n n i) v) : ⌊v⌋₊ = i := by
  have hPos : (n : ℚ) ≠ 0 := by exact_mod_cast (by omega : n ≠ 0)
  have hCenter : exactCenter n n i = i + 1 / 2 := by
    rw [exactCenter_eq n (by omega), div_self hPos]
    ring
  have hFew : (i : ℚ) < 2 ^ 24 := by exact_mod_cast hi.trans hn
  obtain ⟨hLow, hHigh⟩ := abs_le.mp hOff
  rw [hCenter] at hLow hHigh
  push_cast at hLow hHigh
  rw [Nat.floor_eq_iff (by linarith)]
  constructor <;> linarith

variable (hTarget : target < 2 ^ 24) (hi : i < target)

include hTarget hi

/-- With few enough columns the middles are off by little. -/
theorem off_columnCenter_small :
    Off (2 ^ 24) (exactCenter source target i) (columnCenter source target i).value :=
  (off_columnCenter (by omega) (by omega)).mono (exactCenter_nonneg _ _ _) (by norm_num)

/-- With few enough rows the errors of all sums together are small too. -/
theorem off_rowCenter_small :
    Off (2 ^ 24) (exactCenter source target i) (rowCenter source target i).value :=
  (off_rowCenter (by omega) i (by omega)).mono (exactCenter_nonneg _ _ _) (by omega)

end Samples

section Sides

variable {source target : ℕ} (hSource : 0 < source) (hSourceSmall : source < 2 ^ 24)
  (hTarget : target < 2 ^ 24)

include hSource hSourceSmall hTarget

/-- So the columns that are taken are those of the exact middles, up to ties. -/
theorem centerSampling_columns :
    CenterSampling source target fun i => (columnCenter source target i).floor :=
  centerSampling_floor hSource hSourceSmall hTarget
    (fun _ hi => off_columnCenter_small hTarget hi)
    fun _ _ hLe hj => columnCenter_mono hLe (by omega)

theorem centerSampling_rows :
    CenterSampling source target fun i => (rowCenter source target i).floor := by
  refine centerSampling_floor hSource hSourceSmall hTarget
    (fun _ hi => off_rowCenter_small hTarget hi) fun i j hLe hj => ?_
  exact rowCenter_mono (by omega) hLe

end Sides

/-! ### Sampled images -/

/-- The rows are counted on from any row. -/
theorem rowCenters_eq (source target count i : ℕ) :
    rowCenters (Binary64.ofRatio source target) count (rowCenter source target i) =
      (List.range' i count).map (rowCenter source target) := by
  induction count generalizing i with
  | zero => rfl
  | succ count ih =>
      rw [rowCenters, List.range'_succ, List.map_cons, ← ih (i + 1)]
      rfl

/-- A row of the result is taken from the row of its middle. -/
theorem getElem?_nearestRows (source : ℕ) {target i : ℕ} (hi : i < target) :
    (nearestRows source target)[i]? = some (min (rowCenter source target i).floor (source - 1)) := by
  have hRows : rowCenters (Binary64.ofRatio source target) target
      (Binary64.ofRatio source target).half = (List.range' 0 target).map (rowCenter source target) :=
    rowCenters_eq source target target 0
  simp [nearestRows, hRows, hi]

end Iconsmith.Resample

namespace Iconsmith

open Resample (columnCenter rowCenter CenterSampling)

/-- The pixels of a sampled image, as long as the middles lie inside of the source. -/
theorem Resample.pixel_nearest (b : Bitmap) {width height : UInt32} {x y : ℕ}
    (hx : x < width.toNat) (hy : y < height.toNat)
    (hColumn : (columnCenter b.width.toNat width.toNat x).floor < b.width.toNat)
    (hRow : (rowCenter b.height.toNat height.toNat y).floor < b.height.toNat) :
    (nearest b width height).pixel x y =
      b.pixel (columnCenter b.width.toNat width.toNat x).floor
        (rowCenter b.height.toNat height.toNat y).floor := by
  have hColumns : ((Array.range width.toNat).map
      (nearestColumn b.width.toNat width.toNat))[x]? =
        some (columnCenter b.width.toNat width.toNat x).floor := by
    rw [Array.getElem?_map, Array.getElem?_range, if_pos hx, Option.map_some, nearestColumn,
      min_eq_left (Nat.le_sub_one_of_lt hColumn)]
  have hRows := getElem?_nearestRows b.height.toNat hy
  rw [min_eq_left (Nat.le_sub_one_of_lt hRow)] at hRows
  rw [nearest, Bitmap.pixel_ofFn hx hy, hColumns, hRows, Option.getD_some, Option.getD_some]

section Small

variable {b : Bitmap} {size : Size} (hWidth : b.width ≠ 0) (hHeight : b.height ≠ 0)
  (hWidthSmall : b.width.toNat < 2 ^ 24) (hHeightSmall : b.height.toNat < 2 ^ 24)
  (hNewWidth : size.width.toNat < 2 ^ 24) (hNewHeight : size.height.toNat < 2 ^ 24)

include hWidth hHeight hWidthSmall hHeightSmall hNewWidth hNewHeight

/-- An image that is copied because it has the wanted size already is sampled in the
same way: each middle is that of its own pixel. -/
theorem Filter.pixel_resize_nearest {x y : ℕ} (hx : x < size.width.toNat)
    (hy : y < size.height.toNat) :
    (Filter.nearest.resize b size).pixel x y =
      b.pixel (columnCenter b.width.toNat size.width.toNat x).floor
        (rowCenter b.height.toNat size.height.toNat y).floor := by
  by_cases hSize : b.size = size
  · obtain rfl := hSize
    have hColumn : (columnCenter b.width.toNat b.size.width.toNat x).floor = x := by
      rw [Binary64.floor_eq]
      exact Resample.floor_of_off_self hx hWidthSmall
        (Resample.off_columnCenter_small hNewWidth hx)
    have hRow : (rowCenter b.height.toNat b.size.height.toNat y).floor = y := by
      rw [Binary64.floor_eq]
      exact Resample.floor_of_off_self hy hHeightSmall
        (Resample.off_rowCenter_small hNewHeight hy)
    rw [Filter.resize, if_pos rfl, hColumn, hRow]
  · have hColumns := Resample.centerSampling_columns (FitPlan.toNat_pos_of_ne_zero hWidth)
      hWidthSmall hNewWidth
    have hRows := Resample.centerSampling_rows (FitPlan.toNat_pos_of_ne_zero hHeight)
      hHeightSmall hNewHeight
    rw [Filter.resize, if_neg hSize]
    exact Resample.pixel_nearest b hx hy (hColumns.inside x hx) (hRows.inside y hy)

end Small

namespace Canvas

/-- With the filter that mixes no pixels, and sides below `2 ^ 24`, every image with
pixels gets a canvas. Its columns and rows are sampled near the exact middles and in
order, by indices that depend on the old and the new side only, and each pixel of the
planned area is the image's pixel of its column and row. -/
theorem fit_sampled (s : ValidSettings) (image : Bitmap) (w : World)
    (hFilter : s.val.filter = .nearest) (hWidthSmall : image.width.toNat < 2 ^ 24)
    (hHeightSmall : image.height.toNat < 2 ^ 24) (hCanvas : s.val.canvasSize.toNat < 2 ^ 24) :
    (image.width ≠ 0 → image.height ≠ 0 →
      ∃ canvas plan w', (fit s.val image).perform w = (.done (canvas, plan), w')) ∧
    ∀ canvas plan w', (fit s.val image).perform w = (.done (canvas, plan), w') →
      CenterSampling image.width.toNat plan.newSize.width.toNat
        (fun x => (columnCenter image.width.toNat plan.newSize.width.toNat x).floor) ∧
      CenterSampling image.height.toNat plan.newSize.height.toNat
        (fun y => (rowCenter image.height.toNat plan.newSize.height.toNat y).floor) ∧
      ∀ x y, x < plan.newSize.width.toNat → y < plan.newSize.height.toNat →
        canvas.pixel (plan.offsetX.toNat + x) (plan.offsetY.toNat + y) =
          image.pixel (columnCenter image.width.toNat plan.newSize.width.toNat x).floor
            (rowCenter image.height.toNat plan.newSize.height.toNat y).floor := by
  refine ⟨fun hWidth hHeight => exists_fit s image w hWidth hHeight (by omega), ?_⟩
  intro canvas plan w' hDone
  obtain ⟨hWidth, hHeight⟩ := sides_of_fit hDone
  obtain ⟨hPlan, -, -⟩ := done_of_fit hDone
  obtain ⟨hX, hY⟩ := centred_of_plan hPlan
  have hNewWidth := hX.le_canvas.trans_lt hCanvas
  have hNewHeight := hY.le_canvas.trans_lt hCanvas
  refine ⟨Resample.centerSampling_columns (FitPlan.toNat_pos_of_ne_zero hWidth) hWidthSmall
    hNewWidth, Resample.centerSampling_rows (FitPlan.toNat_pos_of_ne_zero hHeight) hHeightSmall
    hNewHeight, fun x y hx hy => ?_⟩
  rw [(pixel_of_fit hDone hx hy).2, hFilter]
  exact Filter.pixel_resize_nearest hWidth hHeight hWidthSmall hHeightSmall hNewWidth hNewHeight
    hx hy

/-- Two by two pixels, enlarged to seven by seven. The exact middle of the fourth
column, as of the fourth row, lies between the two; the computed one falls on the second
column, but on the first row. -/
theorem fit_sampled_sevenBySeven :
    ∃ s : ValidSettings, s.val.filter = .nearest ∧ s.val.canvasSize = 7 ∧ ∃ canvas plan w,
      (fit s.val (.ofFn 2 2 fun x y => ⟨x.toUInt8, y.toUInt8, 9, 0⟩)).perform ⟨.empty, []⟩ =
        (.done (canvas, plan), w) ∧ canvas.pixel 3 3 = ⟨1, 0, 9, 0⟩ := by
  let s : ValidSettings :=
    ⟨{ Settings.default with canvasSize := 7, filter := .nearest }, by decide⟩
  let image : Bitmap := .ofFn 2 2 fun x y => ⟨x.toUInt8, y.toUInt8, 9, 0⟩
  obtain ⟨hExists, hEvery⟩ :=
    fit_sampled s image ⟨.empty, []⟩ rfl (by decide) (by decide) (by decide)
  obtain ⟨canvas, plan, w, hDone⟩ := hExists (by decide) (by decide)
  obtain ⟨-, -, hPixel⟩ := hEvery canvas plan w hDone
  obtain ⟨hPlan, -, -⟩ := done_of_fit hDone
  have hSeven : FitPlan.of? image.size s.val.canvasSize s.val.allowUpscale =
      some ⟨.finite ⟨7 <<< 50, -51⟩, ⟨7, 7⟩, 0, 0⟩ := by decide
  obtain rfl := Option.some.inj (hPlan.symm.trans hSeven)
  have hColumn : (columnCenter 2 7 3).floor = 1 := by decide
  have hRow : (rowCenter 2 7 3).floor = 0 := by decide
  have hMiddle : canvas.pixel 3 3 =
      image.pixel (columnCenter 2 7 3).floor (rowCenter 2 7 3).floor :=
    hPixel 3 3 (by decide) (by decide)
  rw [hColumn, hRow] at hMiddle
  exact ⟨s, rfl, rfl, canvas, _, w, hDone, hMiddle⟩

end Canvas
end Iconsmith
