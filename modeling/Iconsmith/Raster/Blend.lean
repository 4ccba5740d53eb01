import Iconsmith.Raster.Layer

/-!
Ways to put a source on what is there already. Colours are multiplied by their alpha.
-/

namespace Iconsmith.Raster

inductive BlendMode where
  | clear
  | source
  | sourceOver
  | sourceIn
  | sourceOut
  | sourceAtop
  | destinationIn
  | xor
  | plus
  | multiply
  | screen
  | overlay
  | darken
  | lighten
  | colorDodge
  | colorBurn
  | hardLight
  | softLight
  | difference
  | exclusion
  | hue
  | saturation
  | color
  | luminosity
deriving DecidableEq, Repr

namespace BlendMode

/-- Partial coverage is taken of the source; with the other modes it mixes the result with what was
there. -/
def scalesSource : BlendMode → Bool
  | sourceOver => true
  | sourceAtop => true
  | xor => true
  | plus => true
  | _ => false

/-- The part that is missing to one. -/
@[inline]
def inv (x : Float32) : Float32 := 1 - x

/-- Modes that treat each part of the colour by itself, alpha included. -/
@[inline]
def eachPart (f : Float32 → Float32 → Float32 → Float32 → Float32) (s d : Rgba) : Rgba :=
  ⟨f s.r d.r s.a d.a, f s.g d.g s.a d.a, f s.b d.b s.a d.a, f s.a d.a s.a d.a⟩

/-- Modes that treat each colour by itself and put alpha above what is below. -/
@[inline]
def eachColor (f : Float32 → Float32 → Float32 → Float32 → Float32) (s d : Rgba) : Rgba :=
  ⟨f s.r d.r s.a d.a, f s.g d.g s.a d.a, f s.b d.b s.a d.a, d.a * inv s.a + s.a⟩

def brightness (r g b : Float32) : Float32 := r * 0.30 + g * 0.59 + b * 0.11

def spread (r g b : Float32) : Float32 := max r (max g b) - min r (min g b)

def withSpread (r g b s : Float32) : Float32 × Float32 × Float32 :=
  let low := min r (min g b)
  let range := max r (max g b) - low
  let f := fun c : Float32 => if range == 0 then 0 else (c - low) * s / range
  (f r, f g, f b)

def withBrightness (r g b l : Float32) : Float32 × Float32 × Float32 :=
  let d := l - brightness r g b
  (r + d, g + d, b + d)

/-- Pull colours between zero and an alpha without changing the brightness. -/
def inGamut (r g b a : Float32) : Float32 × Float32 × Float32 :=
  let low := min r (min g b)
  let high := max r (max g b)
  let l := brightness r g b
  let f := fun c : Float32 =>
    let c := if low ≥ 0 then c else l + (c - l) * l / (l - low)
    let c := if high > a then l + (c - l) * (a - l) / (high - l) else c
    max c 0
  (f r, f g, f b)

/-- The four modes that take hue, saturation or brightness from one side. -/
def mixed (s d : Rgba) (colors : Float32 × Float32 × Float32) : Rgba :=
  let a := s.a * d.a
  let (r, g, b) := colors
  let (r, g, b) := inGamut r g b a
  let f := fun s' d' c : Float32 => s' * inv d.a + d' * inv s.a + c
  ⟨f s.r d.r r, f s.g d.g g, f s.b d.b b, s.a + d.a - a⟩

def softLightPart (s d sa da : Float32) : Float32 :=
  let m := if da > 0 then d / da else 0
  let s2 := s + s
  let m4 := m + m + (m + m)
  let darkSource := d * (sa + (s2 - sa) * (1 - m))
  let darkBelow := (m4 * m4 + m4) * (m - 1) + 7 * m
  let lightBelow := m.sqrt - m
  let lightSource := d * sa + da * (s2 - sa) *
    (if d + d + (d + d) ≤ da then darkBelow else lightBelow)
  s * inv da + d * inv sa + (if s2 ≤ sa then darkSource else lightSource)

def hardLightPart (s d sa da : Float32) : Float32 :=
  s * inv da + d * inv sa +
    (if s + s ≤ sa then (s + s) * d else sa * da - ((da - d) * (sa - s) + (da - d) * (sa - s)))

def overlayPart (s d sa da : Float32) : Float32 :=
  s * inv da + d * inv sa +
    (if d + d ≤ da then (s * d) + (s * d)
     else sa * da - ((da - d) * (sa - s) + (da - d) * (sa - s)))

def apply (m : BlendMode) (s d : Rgba) : Rgba :=
  match m with
  | clear => .clear
  | source => s
  | sourceOver => eachPart (fun s d sa _ => d * inv sa + s) s d
  | sourceIn => eachPart (fun s _ _ da => s * da) s d
  | sourceOut => eachPart (fun s _ _ da => s * inv da) s d
  | sourceAtop => eachPart (fun s d sa da => s * da + d * inv sa) s d
  | destinationIn => eachPart (fun _ d sa _ => d * sa) s d
  | xor => eachPart (fun s d sa da => s * inv da + d * inv sa) s d
  | plus => eachPart (fun s d _ _ => min (s + d) 1) s d
  | multiply => eachPart (fun s d sa da => s * inv da + d * inv sa + s * d) s d
  | screen => eachPart (fun s d _ _ => s + d - s * d) s d
  | overlay => eachColor overlayPart s d
  | darken => eachColor (fun s d sa da => s + d - max (s * da) (d * sa)) s d
  | lighten => eachColor (fun s d sa da => s + d - min (s * da) (d * sa)) s d
  | colorDodge => eachColor (fun s d sa da =>
      if d == 0 then s * inv da
      else if s == sa then s + d * inv sa
      else sa * min da ((d * sa) * (1 / (sa - s))) + s * inv da + d * inv sa) s d
  | colorBurn => eachColor (fun s d sa da =>
      if d == da then d + s * inv da
      else if s == 0 then d * inv sa
      else sa * (da - min da ((da - d) * sa * (1 / s))) + s * inv da + d * inv sa) s d
  | hardLight => eachColor hardLightPart s d
  | softLight => eachColor softLightPart s d
  | difference => eachColor (fun s d sa da => s + d - 2 * min (s * da) (d * sa)) s d
  | exclusion => eachColor (fun s d _ _ => s + d - 2 * (s * d)) s d
  | hue =>
    let (r, g, b) := withSpread (s.r * s.a) (s.g * s.a) (s.b * s.a) (spread d.r d.g d.b * s.a)
    mixed s d (withBrightness r g b (brightness d.r d.g d.b * s.a))
  | saturation =>
    let (r, g, b) := withSpread (d.r * s.a) (d.g * s.a) (d.b * s.a) (spread s.r s.g s.b * d.a)
    mixed s d (withBrightness r g b (brightness d.r d.g d.b * s.a))
  | color =>
    mixed s d (withBrightness (s.r * d.a) (s.g * d.a) (s.b * d.a) (brightness d.r d.g d.b * s.a))
  | luminosity =>
    mixed s d (withBrightness (d.r * s.a) (d.g * s.a) (d.b * s.a) (brightness s.r s.g s.b * d.a))

/-- Combine in 255ths; only for the modes that areas are drawn with. -/
@[inline]
def applyLanes (m : BlendMode) (s d : Lanes) : Lanes :=
  match m with
  | clear => .clear
  | source => s
  | destinationIn => d.scale s.a
  | xor => Lanes.zip (fun s' d' => Lanes.share (s' * (255 - d.a) + d' * (255 - s.a))) s d
  | _ => Lanes.zip (fun s' d' => s' + Lanes.share (d' * (255 - s.a))) s d

end BlendMode
end Iconsmith.Raster
