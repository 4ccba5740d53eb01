import Iconsmith.Effect.ColorSpace

/-!
Effects that look at the pixels around each pixel: weighted sums, the darkest or lightest of a
rectangle, and colours fetched from elsewhere.
-/

namespace Iconsmith.Effect

open Raster

/-- What stands for pixels outside of a layer. -/
inductive Edge where
  | nothing
  | nearest
  /-- The layer again. -/
  | wrapped
deriving DecidableEq, Repr

namespace Edge

def place? (e : Edge) (size : Nat) (i : Int) : Option Nat :=
  match e with
  | nothing => if 0 ≤ i ∧ i < size then some i.toNat else none
  | nearest => some (max 0 (min i (size - 1))).toNat
  | wrapped => some (i.emod size).toNat

end Edge

/-- Weights for the pixels around one. -/
structure Kernel where
  columns : Nat
  rows : Nat
  targetX : Nat
  targetY : Nat
  /-- Row by row; the weights are applied to the pixels in reverse order. -/
  weights : List Float32
  divisor : Float32
  bias : Float32
  edge : Edge
  /-- Only the colours change. -/
  keepsAlpha : Bool
deriving Repr

namespace Kernel

def sums (k : Kernel) (weights : Array Float32) (l : Layer) (x y : Nat) : Rgba :=
  (List.range (k.rows * k.columns)).foldl (fun sum n =>
    let ox := n % k.columns
    let oy := n / k.columns
    let x? := k.edge.place? l.width ((x : Int) - k.targetX + ox)
    let y? := k.edge.place? l.height ((y : Int) - k.targetY + oy)
    match x?, y? with
    | some tx, some ty =>
      let w := weights.getD (k.columns * k.rows - 1 - n) 0
      let c := l.lanes tx ty
      ⟨sum.r + fraction c.r * w, sum.g + fraction c.g * w, sum.b + fraction c.b * w,
        sum.a + fraction c.a * w⟩
    | _, _ => sum) Rgba.clear

def apply (k : Kernel) (weights : Array Float32) (l : Layer) (x y : Nat) : Lanes :=
  let sum := k.sums weights l x y
  let alpha := if k.keepsAlpha then fraction (l.lanes x y).a else sum.a / k.divisor + k.bias
  let bounded := clamp 0 alpha 1
  let byte := fun v : Float32 => (v * 255 + 0.5).toUInt8.toUInt32
  let part := fun v : Float32 =>
    let v := v / k.divisor + k.bias * alpha
    byte (if k.keepsAlpha then clamp 0 v 1 * bounded else clamp 0 v bounded)
  ⟨part sum.r, part sum.g, part sum.b, byte bounded⟩

end Kernel

/-- Weigh the pixels around each pixel. Where alpha is kept, straight colours are weighed. -/
def convolve (k : Kernel) (l : Layer) : Layer :=
  let l := if k.keepsAlpha then l.map straight else l
  .ofFn l.width l.height (k.apply k.weights.toArray l)

/-- Take the least part of each rectangle around a pixel, or the greatest one. -/
def spreadOut (widen : Bool) (rx ry : Float32) (l : Layer) : Layer :=
  let columns := min (rx.ceil.toUInt32.toNat * 2) l.width
  let rows := min (ry.ceil.toUInt32.toNat * 2) l.height
  let pick := Lanes.zip fun v w => if widen then max v w else min v w
  let extreme : Lanes := if widen then .clear else ⟨255, 255, 255, 255⟩
  .ofFn l.width l.height fun x y =>
    (List.range (rows * columns)).foldl (fun c n =>
      let ox : Nat := n % columns
      let oy : Nat := n / columns
      let left : Nat := columns / 2
      let top : Nat := rows / 2
      let tx := Edge.nothing.place? l.width ((x : Int) - left + ox)
      let ty := Edge.nothing.place? l.height ((y : Int) - top + oy)
      match tx, ty with
      | some tx, some ty => pick (l.lanes tx ty) c
      | _, _ => if widen then c else .clear) extreme

inductive Channel where
  | red
  | green
  | blue
  | alpha
deriving DecidableEq, Repr

def Channel.of (c : Channel) (v : Lanes) : UInt32 :=
  match c with
  | red => v.r
  | green => v.g
  | blue => v.b
  | alpha => v.a

/-- Fetch each pixel from where a map sends it; a part of one half does not move it. -/
def displace (sx sy : Float32) (across down : Channel) (l map : Layer) : Layer :=
  .ofFn l.width l.height fun x y =>
    let c := map.lanes x y
    let move := fun (at' : Nat) (channel : Channel) (scale : Float32) =>
      (Float32.ofNat at' + (fraction (channel.of c) - 0.5) * scale).round.toInt32.toInt
    match Edge.nothing.place? l.width (move x across sx),
        Edge.nothing.place? l.height (move y down sy) with
    | some fx, some fy => l.lanes fx fy
    | _, _ => .clear

end Iconsmith.Effect
