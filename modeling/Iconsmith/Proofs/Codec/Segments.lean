import Iconsmith.Jpeg.Decoder
import Iconsmith.Proofs.Codec.Outcome

/-! The frame of a JPEG file among its segments. Its pixels are counted by the
frame that has been read last, which is the first one: there is no second. -/
namespace Iconsmith.Jpeg

open Codec

/-- Tables leave the frame as it is, by induction on the steps. -/
theorem yields_readQuantization (steps left : Nat) (h : Header) :
    (readQuantization steps left h).Yields fun h' => h'.frame = h.frame := by
  induction steps generalizing left h with
  | zero => exact Reading.yields_pure rfl
  | succ steps ih =>
      rw [readQuantization]
      split
      · exact Reading.yields_pure rfl
      · refine Reading.yields_bind fun info => ?_
        refine Reading.yields_guard fun _ => ?_
        dsimp only
        split
        all_goals
          refine Reading.yields_bind fun values => ?_
          refine Reading.yields_guard fun _ => ?_
          exact ih _ { h with quantization := _ }

theorem yields_readCodes (steps left : Nat) (h : Header) :
    (readCodes steps left h).Yields fun h' => h'.frame = h.frame := by
  induction steps generalizing left h with
  | zero => exact Reading.yields_pure rfl
  | succ steps ih =>
      rw [readCodes]
      split
      · exact Reading.yields_guard fun _ => Reading.yields_pure rfl
      · refine Reading.yields_bind fun info => ?_
        refine Reading.yields_guard fun _ => Reading.yields_guard fun _ => ?_
        refine Reading.yields_bind fun counts => ?_
        refine Reading.yields_guard fun _ => Reading.yields_guard fun _ => ?_
        refine Reading.yields_bind fun symbols => ?_
        split
        · exact ih _ { h with firstCodes := _ }
        · exact ih _ { h with otherCodes := _ }

theorem yields_readScan (h : Header) : (readScan h).Yields fun h' => h'.frame = h.frame := by
  refine Reading.yields_bind fun length => Reading.yields_bind fun count => ?_
  refine Reading.yields_guard fun _ => Reading.yields_guard fun _ => ?_
  refine Reading.yields_guard fun _ => ?_
  refine Reading.yields_bind fun parts => Reading.yields_bind fun low => ?_
  refine Reading.yields_bind fun high => Reading.yields_bind fun bits => ?_
  refine Reading.yields_bind fun _ => Reading.yields_bind fun _ => ?_
  refine Reading.yields_bind fun _ => Reading.yields_bind fun _ => ?_
  exact Reading.yields_bind fun start => Reading.yields_pure rfl

theorem yields_readApplication (h : Header) :
    (readApplication h).Yields fun h' => h'.frame = h.frame := by
  refine Reading.yields_bind fun n => Reading.yields_bind fun start => ?_
  refine Reading.yields_bind fun b => Reading.yields_bind fun _ => ?_
  split
  · split
    · exact Reading.yields_pure rfl
    · exact Reading.yields_pure rfl
    · exact Reading.yields_pure rfl
    · exact Reading.yields_throw_bind _ _
  · exact Reading.yields_pure rfl

/-- A second frame is refused, and no other segment changes the frame. -/
theorem yields_readSegment (marker : Nat) {h : Header} {f : Frame} (hFrame : h.frame = some f) :
    (readSegment marker h).Yields fun r => r.1.frame = some f := by
  refine Reading.yields_bind fun most => ?_
  dsimp only
  -- The segments in the order of the cases: a frame, codes, quantization, restarts, a scan,
  -- an application, markers without content, the end, and those that are not supported.
  split
  · refine Reading.yields_guard fun hFresh => ?_
    simp [hFrame] at hFresh
  split
  · refine Reading.yields_bind fun length => ?_
    exact (yields_readCodes _ _ h).bind fun h' hSame => Reading.yields_pure (hSame.trans hFrame)
  split
  · refine Reading.yields_bind fun length => ?_
    exact (yields_readQuantization _ _ h).bind fun h' hSame =>
      Reading.yields_pure (hSame.trans hFrame)
  split
  · refine Reading.yields_bind fun n => Reading.yields_guard fun _ => ?_
    exact Reading.yields_bind fun restart => Reading.yields_pure hFrame
  split
  · exact (yields_readScan h).bind fun h' hSame => Reading.yields_pure (hSame.trans hFrame)
  split
  · exact (yields_readApplication h).bind fun h' hSame => Reading.yields_pure (hSame.trans hFrame)
  split
  · exact Reading.yields_pure hFrame
  split
  · exact Reading.yields_throw _
  split
  · exact Reading.yields_throw _
  · exact Reading.yields_bind fun _ => Reading.yields_pure hFrame

/-- From one scan to the next, the segments between them keep the frame. -/
theorem yields_readNext (steps : Nat) {h : Header} {f : Frame} (hFrame : h.frame = some f) :
    (readNext steps h).Yields fun next => ∀ h', next = some h' → h'.frame = some f := by
  induction steps generalizing h with
  | zero => exact Reading.yields_pure nofun
  | succ steps ih =>
      rw [readNext]
      refine Reading.yields_bind fun b => Reading.yields_bind fun i => ?_
      split
      · exact Reading.yields_pure nofun
      · exact Reading.yields_pure nofun
      · refine Reading.yields_bind fun _ => (yields_readSegment _ hFrame).bind fun r hr => ?_
        obtain ⟨h', isScan⟩ := r
        dsimp only
        split
        · refine Reading.yields_pure fun k hk => ?_
          obtain rfl := Option.some.inj hk
          exact hr
        · exact ih hr

/-- All scans together keep the frame that stands before them. -/
theorem frame_of_readScans {b : ByteArray} {f : Frame} {units : Units} {steps : Nat}
    {seen : List Scan} {h h' : Header} {stores stores' : Array Coefficients}
    (hFrame : h.frame = some f)
    (hScans : readScans b f units steps seen h stores = .ok (h', stores')) :
    h'.frame = some f := by
  induction steps generalizing seen h stores with
  | zero =>
      cases hScans
      exact hFrame
  | succ steps ih =>
      rw [readScans] at hScans
      dsimp only at hScans
      split at hScans
      · split at hScans
        · cases hScans
          exact hFrame
        · cases hScans
      · split at hScans
        · cases hScans
          exact hFrame
        · obtain ⟨next, hNext, hRest⟩ := bind_eq_ok.mp hScans
          have hKept := (yields_readNext _ hFrame).result_eq_ok hNext
          cases next with
          | none =>
              cases hRest
              exact hFrame
          | some k => exact ih (hKept k rfl) hRest

/-- The image is cut to the sides of the one frame. -/
theorem size_pixels {b : ByteArray} {size : Size} {out : Array Pixel}
    (hSize : dimensions b = .ok size) (hPixels : pixels b = .ok out) : out.size = size.area := by
  obtain ⟨h, -, rfl, hRest⟩ := exists_of_shared hSize hPixels
  split at hRest
  · next f hFrame =>
    replace ⟨_, _, hRest⟩ := bind_eq_ok.mp hRest
    replace ⟨_, _, hRest⟩ := bind_eq_ok.mp hRest
    replace hRest := ok_of_optional hRest
    replace ⟨_, hRest⟩ := guard_eq_ok.mp hRest
    obtain ⟨⟨h', stores⟩, hScans, hRest⟩ := bind_eq_ok.mp hRest
    replace ⟨_, _, hRest⟩ := bind_eq_ok.mp hRest
    obtain rfl := Except.ok.inj hRest
    have hKept : h'.frame = some f := frame_of_readScans hFrame hScans
    rw [Array.size_ofFn, Header.size, Header.size, hKept, hFrame]
  · cases hRest

end Iconsmith.Jpeg
