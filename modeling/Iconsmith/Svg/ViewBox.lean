import Iconsmith.Svg.Lengths

/-!
The part of the plane that is seen, and how it is fitted into a rectangle.
-/

namespace Iconsmith.Svg

open Iconsmith.Geometry

/-- Where something smaller lies in a range. -/
inductive Align where
  | low
  | middle
  | high
deriving DecidableEq, Repr

/-- How a picture is fitted into a rectangle of another shape. -/
structure Aspect where
  /-- Without an alignment the picture is stretched. -/
  align : Option (Align × Align)
  /-- The rectangle is filled; else all of the picture is seen. -/
  slice : Bool
deriving DecidableEq, Repr

namespace Aspect

/-- In the middle, all of it. -/
def default : Aspect := ⟨some (.middle, .middle), false⟩

def alignments : List (String × Option (Align × Align)) :=
  [("none", none), ("xMinYMin", some (.low, .low)), ("xMidYMin", some (.middle, .low)),
    ("xMaxYMin", some (.high, .low)), ("xMinYMid", some (.low, .middle)),
    ("xMidYMid", some (.middle, .middle)), ("xMaxYMid", some (.high, .middle)),
    ("xMinYMax", some (.low, .high)), ("xMidYMax", some (.middle, .high)),
    ("xMaxYMax", some (.high, .high))]

def parse? (text : String) : Option Aspect := do
  let s := skipBlanks text.toList
  let s ← match after? "defer" s with
    | some rest => (expect ' ' rest).map skipBlanks
    | none => some s
  let (word, rest) := readWord s
  let align ← alignments.lookup word
  let (fit, _) := readWord (skipBlanks rest)
  if fit == "slice" then return ⟨align, true⟩
  else if fit == "meet" || fit == "" then return ⟨align, false⟩
  else none

def ofNode (n : Node) : Aspect :=
  ((n.get? "preserveAspectRatio").bind parse?).getD default

/-- Where something begins that leaves some room in a range. -/
def shift (a : Align) (start room : Float32) : Float32 :=
  match a with
  | .low => start
  | .middle => start + room / 2
  | .high => start + room

def corner (a : Aspect) (x y roomX roomY : Float32) : Float32 × Float32 :=
  match a.align with
  | none => (x, y)
  | some (h, v) => (shift h x roomX, shift v y roomY)

end Aspect

/-- A visible part and how it is fitted. -/
structure ViewBox where
  rect : Rect
  aspect : Aspect
deriving Repr

namespace ViewBox

/-- The visible part that an element asks for, if it has an area. -/
def rectOf? (n : Node) : Option Rect := do
  let text ← n.get? "viewBox"
  let (x, rest) ← readListNumber text.toList
  let (y, rest) ← readListNumber rest
  let (w, rest) ← readListNumber rest
  let (h, _) ← readListNumber rest
  if w ≤ 0 || h ≤ 0 then none
  else (Rect.ofSize? x.toFloat32 y.toFloat32 w.toFloat32 h.toFloat32).bind Rect.nonempty?

def ofNode? (n : Node) : Option ViewBox := (rectOf? n).map (⟨·, .ofNode n⟩)

def toTransform (v : ViewBox) (width height : Float32) : Transform :=
  let sx := width / v.rect.width
  let sy := height / v.rect.height
  let (sx, sy) :=
    if v.aspect.align.isNone then (sx, sy)
    else
      let s := if v.aspect.slice then (if sx < sy then sy else sx) else if sx > sy then sy else sx
      (s, s)
  let x := -v.rect.left * sx
  let y := -v.rect.top * sy
  let (tx, ty) := v.aspect.corner x y (width - v.rect.width * sx) (height - v.rect.height * sy)
  ⟨sx, 0, 0, sy, tx, ty⟩

end ViewBox
end Iconsmith.Svg
