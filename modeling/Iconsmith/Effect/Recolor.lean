import Iconsmith.Effect.ColorSpace

/-!
Effects that change each colour by itself: matrices, and functions of single parts. They work on colours
that are not multiplied by their alpha.
-/

namespace Iconsmith.Effect

open Raster

inductive Transfer where
  | identity
  /-- Values at equal distances, joined by lines. -/
  | table (values : List Float32)
  /-- Values at equal distances, each up to the next. -/
  | discrete (values : List Float32)
  | linear (slope intercept : Float32)
  | gamma (amplitude exponent offset : Float32)
deriving Repr

namespace Transfer

def eval : Transfer → Float32 → Float32
  | identity, c => c
  | table values, c =>
    let n := values.length - 1
    let k := min (c * Float32.ofNat n).toUInt32.toNat n
    let low := values.getD k 0
    if k = n then low
    else
      let scale := Float32.ofNat n
      low + (c - Float32.ofNat k / scale) * scale * (values.getD (k + 1) 0 - low)
  | discrete values, c =>
    let n := values.length
    values.getD (min (c * Float32.ofNat n).toUInt32.toNat (n - 1)) 0
  | linear slope intercept, c => slope * c + intercept
  | gamma amplitude exponent offset, c => amplitude * c.pow exponent + offset

/-- The function of a part. Without values it changes nothing. -/
def apply (t : Transfer) (v : UInt32) : UInt32 :=
  match t with
  | identity => v
  | table [] => v
  | discrete [] => v
  | t => ofFraction (t.eval (fraction v))

end Transfer

inductive ColorMatrix where
  /-- Four rows with a coefficient for each part and a constant. -/
  | full (rows : List Float32)
  | saturate (amount : Float32)
  | hueRotate (degrees : Float32)
  | luminanceToAlpha
deriving Repr

namespace ColorMatrix

def identity : ColorMatrix :=
  full [1, 0, 0, 0, 0, 0, 1, 0, 0, 0, 0, 0, 1, 0, 0, 0, 0, 0, 1, 0]

def ofSaturation (v : Float32) : List Float32 :=
  [0.213 + 0.787 * v, 0.715 - 0.715 * v, 0.072 - 0.072 * v, 0.213 - 0.213 * v, 0.715 + 0.285 * v,
    0.072 - 0.072 * v, 0.213 - 0.213 * v, 0.715 - 0.715 * v, 0.072 + 0.928 * v]

def ofTurn (degrees : Float32) : List Float32 :=
  let angle := degrees * 0.017453292
  let c := angle.cos
  let s := angle.sin
  [0.213 + 0.787 * c - 0.213 * s, 0.715 - 0.715 * c - 0.715 * s, 0.072 - 0.072 * c + 0.928 * s,
    0.213 - 0.213 * c + 0.143 * s, 0.715 + 0.285 * c + 0.140 * s, 0.072 - 0.072 * c - 0.283 * s,
    0.213 - 0.213 * c - 0.787 * s, 0.715 - 0.715 * c + 0.715 * s, 0.072 + 0.928 * c + 0.072 * s]

def mixColors (m : List Float32) (c : Lanes) : Lanes :=
  let k := fun i => m.getD i 0
  let r := fraction c.r
  let g := fraction c.g
  let b := fraction c.b
  let row := fun i : Nat => ofFraction (r * k i + g * k (i + 1) + b * k (i + 2))
  ⟨row 0, row 3, row 6, c.a⟩

/-- Mix a colour that is not multiplied by its alpha. -/
def apply : ColorMatrix → Lanes → Lanes
  | full m, c =>
    let k := fun i => m.getD i 0
    let r := fraction c.r
    let g := fraction c.g
    let b := fraction c.b
    let a := fraction c.a
    let row := fun i : Nat =>
      ofFraction (r * k i + g * k (i + 1) + b * k (i + 2) + a * k (i + 3) + k (i + 4))
    ⟨row 0, row 5, row 10, row 15⟩
  | saturate v, c => mixColors (ofSaturation v) c
  | hueRotate degrees, c => mixColors (ofTurn degrees) c
  | luminanceToAlpha, c =>
    ⟨0, 0, 0, ofFraction (fraction c.r * 0.2125 + fraction c.g * 0.7154 + fraction c.b * 0.0721)⟩

end ColorMatrix

def recolor (m : ColorMatrix) (l : Layer) : Layer := l.map fun c => multiplied (m.apply (straight c))

def transfer (r g b a : Transfer) (l : Layer) : Layer :=
  l.map fun c =>
    let c := straight c
    multiplied ⟨r.apply c.r, g.apply c.g, b.apply c.b, a.apply c.a⟩

/-- Combine two layers pixel by pixel: `k₁ x y + k₂ x + k₃ y + k₄`. No part exceeds the alpha. -/
def arithmetic (k₁ k₂ k₃ k₄ : Float32) (l m : Layer) : Layer :=
  l.mapIdx fun n c =>
    let d := m.lanes n 0
    let f := fun (v w : UInt32) (high : Float32) =>
      let x := fraction v
      let y := fraction w
      clamp 0 (k₁ * x * y + k₂ * x + k₃ * y + k₄) high
    let a := f c.a d.a 1
    if a == 0 then .clear
    else
      let byte := fun x : Float32 => (x * 255).toUInt8.toUInt32
      ⟨byte (f c.r d.r a), byte (f c.g d.g a), byte (f c.b d.b a), byte a⟩

end Iconsmith.Effect
