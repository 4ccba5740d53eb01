import Iconsmith.Geometry.Transform

/-!
Paths of lines and curves. A path is a row of contours; each begins with a move and may be closed.
Drawing on a path whose last contour is closed, or on an empty one, begins a new contour where the
last one began.
-/

namespace Iconsmith.Geometry

/-- One step of a path, with its end as the last point. -/
inductive Segment where
  | move (p : Point)
  | line (p : Point)
  | quad (c p : Point)
  | cubic (c d p : Point)
  | close
deriving BEq, Inhabited, Repr

namespace Segment

def points : Segment → List Point
  | move p => [p]
  | line p => [p]
  | quad c p => [c, p]
  | cubic c d p => [c, d, p]
  | close => []

/-- The point where a step ends, unless it closes a contour. -/
def finish? : Segment → Option Point
  | move p => some p
  | line p => some p
  | quad _ p => some p
  | cubic _ _ p => some p
  | close => none

def map (f : Point → Point) : Segment → Segment
  | move p => move (f p)
  | line p => line (f p)
  | quad c p => quad (f c) (f p)
  | cubic c d p => cubic (f c) (f d) (f p)
  | close => close

end Segment

/-- A path; `start` is where its last contour began. -/
structure Path where
  segments : Array Segment
  start : Point
deriving Inhabited, Repr

namespace Path

def empty : Path := ⟨#[], .zero⟩

def isEmpty (p : Path) : Bool := p.segments.isEmpty

def points (p : Path) : Array Point := p.segments.flatMap fun s => s.points.toArray

/-- Begin a contour. A contour of a move alone is replaced. -/
def moveTo (path : Path) (p : Point) : Path :=
  match path.segments.back? with
  | some (.move _) => ⟨path.segments.pop.push (.move p), p⟩
  | _ => ⟨path.segments.push (.move p), p⟩

def isOpen (path : Path) : Bool :=
  match path.segments.back? with
  | none => false
  | some .close => false
  | some _ => true

def opened (path : Path) : Path := if path.isOpen then path else path.moveTo path.start

def push (path : Path) (s : Segment) : Path :=
  let path := path.opened
  { path with segments := path.segments.push s }

def lineTo (path : Path) (p : Point) : Path := path.push (.line p)

def quadTo (path : Path) (c p : Point) : Path := path.push (.quad c p)

def cubicTo (path : Path) (c d p : Point) : Path := path.push (.cubic c d p)

def close (path : Path) : Path :=
  if path.isOpen then { path with segments := path.segments.push .close } else path

def lastPointOf (segments : Array Segment) : Nat → Option Point
  | 0 => none
  | count + 1 =>
    match segments[count]?.bind Segment.finish? with
    | some p => some p
    | none => lastPointOf segments count

def lastPoint? (path : Path) : Option Point := lastPointOf path.segments path.segments.size

def setLastPoint (path : Path) (p : Point) : Path :=
  match path.segments.back? with
  | some (.move _) => { path with segments := path.segments.pop.push (.move p) }
  | some (.line _) => { path with segments := path.segments.pop.push (.line p) }
  | some (.quad c _) => { path with segments := path.segments.pop.push (.quad c p) }
  | some (.cubic c d _) => { path with segments := path.segments.pop.push (.cubic c d p) }
  | some .close => path
  | none => path.moveTo p

def append (path other : Path) : Path :=
  if other.isEmpty then path else ⟨path.segments ++ other.segments, other.start⟩

/-- Draw the last contour of another path backwards; its last point is left out. -/
def reverseTo (path other : Path) : Path :=
  let rec go : List Segment → Path → Path
    | [], path => path
    | .move _ :: _, path => path
    | s :: rest, path =>
      let p := (rest.findSome? Segment.finish?).getD .zero
      go rest <| match s with
        | .line _ => path.lineTo p
        | .quad c _ => path.quadTo c p
        | .cubic c d _ => path.cubicTo d c p
        | _ => path
  go other.segments.toList.reverse path

def ofRect (r : Rect) : Path :=
  ((((empty.moveTo ⟨r.left, r.top⟩).lineTo ⟨r.right, r.top⟩).lineTo ⟨r.right, r.bottom⟩).lineTo
    ⟨r.left, r.bottom⟩).close

/-- The path, unless it is a single move or nothing, or not finite. -/
def drawable? (path : Path) : Option Path :=
  if path.segments.size < 2 ∨ (Rect.ofPoints? path.points).isNone then none else some path

def bounds? (path : Path) : Option Rect := Rect.ofPoints? path.points

def map (path : Path) (t : Transform) : Path :=
  if t.isIdentity then path
  else ⟨path.segments.map (Segment.map t.apply), t.apply path.start⟩

/-- A line or curve with both ends. -/
inductive Piece where
  | line (p q : Point)
  | quad (p c q : Point)
  | cubic (p c d q : Point)
deriving Inhabited, Repr

/-- The lines and curves that enclose the filled area: an open contour is closed by a line. -/
def pieces (path : Path) : Array Piece :=
  let rec go : List Segment → Point → Point → Bool → Array Piece → Array Piece
    | [], start, here, drawn, out => if drawn then out.push (.line here start) else out
    | s :: rest, start, here, drawn, out =>
      match s with
      | .move p => go rest p p false (if drawn then out.push (.line here start) else out)
      | .close => go rest start here false (if drawn then out.push (.line here start) else out)
      | .line p => go rest start p true (out.push (.line here p))
      | .quad c p => go rest start p true (out.push (.quad here c p))
      | .cubic c d p => go rest start p true (out.push (.cubic here c d p))
  go path.segments.toList .zero .zero false #[]

end Path
end Iconsmith.Geometry
