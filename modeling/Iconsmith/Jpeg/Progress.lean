import Iconsmith.Jpeg.Block

/-!
The coefficients of an image as its scans fill them in. A sequential image has all coefficients of a
component in one scan; a progressive one spreads them over several, first coefficients before others
and high bits before low ones. What follows a scan that cannot be read is left out.
-/

namespace Iconsmith.Jpeg

open Codec

/-- Split packed data at the restart markers, up to any other marker, whose position is given with
the parts. A zero behind a byte of ones does not count. -/
def splitData (b : ByteArray) : Nat → Nat → ByteArray → List ByteArray → List ByteArray × Nat
  | 0, i, part, parts => ((part :: parts).reverse, i)
  | steps + 1, i, part, parts =>
    if b.size ≤ i then ((part :: parts).reverse, i)
    else
      let v := Bytes.byte b i
      if v ≠ 0xFF then splitData b steps (i + 1) (part.push v) parts
      else
        let m := Bytes.nat b (i + 1)
        if m = 0 then splitData b steps (i + 2) (part.push v) parts
        else if 0xD0 ≤ m ∧ m ≤ 0xD7 then splitData b steps (i + 2) .empty (part :: parts)
        else if m = 0xFF then splitData b steps (i + 1) part parts
        else ((part :: parts).reverse, i)

/-- The blocks of a component: how many a unit has in both directions, how many there are in a row of
units, and how many columns and rows of them the image covers. -/
structure Grid where
  across : Nat
  down : Nat
  stride : Nat
  columns : Nat
  rows : Nat

namespace Grid

def place (g : Grid) (x y : Nat) : Nat := 64 * (y * g.stride + x)

def placesOf (g : Grid) (ux uy : Nat) : List Nat :=
  (List.range g.down).flatMap fun j => (List.range g.across).map fun i =>
    g.place (ux * g.across + i) (uy * g.down + j)

end Grid

structure Units where
  columns : Nat
  rows : Nat
  grids : Array Grid

structure Source where
  component : Nat
  first : Code
  others : Code

/-- Coefficients being filled in: those of each component, its last first coefficient, how many blocks
have nothing more in this scan, and the place in the packed data. -/
structure Progress where
  stores : Array Coefficients
  last : Array Int
  idle : Nat
  cursor : Cursor

namespace Progress

/-- Start anew with other packed data. -/
def restart (p : Progress) (data : ByteArray) : Progress :=
  { p with last := p.last.map fun _ => 0, idle := 0, cursor := ⟨data, 0⟩ }

def readBlock (p : Progress) (progressive : Bool) (s : Source) (b : Block) : Progress :=
  let k := s.component
  let a := (p.stores[k]?).getD #[]
  let stores := p.stores.setIfInBounds k #[]
  if b.scan.low = 0 then
    if b.scan.refines then
      let (a, c) := b.refineFirst a p.cursor
      { p with stores := stores.setIfInBounds k a, cursor := c }
    else
      let (a, v, c) := b.readFirst s.first ((p.last[k]?).getD 0) a p.cursor
      let (a, _, c) := b.readOthers false s.others 64 1 a c
      { p with stores := stores.setIfInBounds k a, last := p.last.setIfInBounds k v, cursor := c }
  else if p.idle ≠ 0 then
    let (a, c) := if b.scan.refines then b.refineRest b.scan.low a p.cursor else (a, p.cursor)
    { p with stores := stores.setIfInBounds k a, idle := p.idle - 1, cursor := c }
  else
    let (a, idle, c) :=
      if b.scan.refines then b.refineOthers s.others 64 b.scan.low a p.cursor
      else b.readOthers progressive s.others 64 b.scan.low a p.cursor
    { p with stores := stores.setIfInBounds k a, idle := idle, cursor := c }

/-- Read units, between which the packed data may start anew. `blocks` are the blocks of a unit. -/
def readUnits (progressive : Bool) (scan : Scan) (every : Nat) (parts : Array ByteArray)
    (blocks : Nat → List (Source × Nat)) : List Nat → Progress → Progress
  | [], p => p
  | n :: rest, p =>
    let p := if every ≠ 0 ∧ n ≠ 0 ∧ n % every = 0 then
      p.restart ((parts[n / every]?).getD .empty) else p
    readUnits progressive scan every parts blocks rest
      ((blocks n).foldl (fun p (s, base) => p.readBlock progressive s ⟨base, scan⟩) p)

end Progress

def lookUp {α : Type} (tables : List (Nat × α)) (n : Nat) : Option α :=
  (tables.find? fun t => t.1 == n).map Prod.snd

def componentName (k : Nat) : String := (["Y", "Cb", "Cr", "Q"][k]?).getD ""

/-- The components of the latest scan. A sequential scan needs both codes for each of them, a
progressive one the code for what it holds. -/
def sources (h : Header) (progressive : Bool) : Except Fault (List Source) :=
  let s := h.scan
  let missing (kind : String) (k : Nat) : Fault :=
    malformed ("Error decoding huffman values: No " ++ kind ++ " table for component " ++
      componentName k)
  s.parts.mapM fun p =>
    let first := lookUp h.firstCodes p.first
    let others := lookUp h.otherCodes p.others
    if first.isNone && (!progressive || s.low = 0 && !s.refines) then
      .error (missing "DC" p.component)
    else if others.isNone && (!progressive || s.low ≠ 0) then .error (missing "AC" p.component)
    else .ok ⟨p.component, first.getD [], others.getD []⟩

/-- Read the latest scan. The position behind its packed data is given with the coefficients. A scan
with one component has single blocks for units, as many as the image covers. -/
def readScanData (b : ByteArray) (h : Header) (progressive : Bool) (units : Units)
    (stores : Array Coefficients) : Except Fault (Array Coefficients × Nat) := do
  let all ← sources h progressive
  let (parts, stop) := splitData b b.size h.scan.dataAt .empty []
  let parts := parts.toArray
  let scan := if progressive then h.scan else { h.scan with low := 0, high := 63, refines := false, shift := 0 }
  let start : Progress := ⟨stores, stores.map fun _ => 0, 0, ⟨(parts[0]?).getD .empty, 0⟩⟩
  let gridOf (s : Source) : Grid := (units.grids[s.component]?).getD ⟨1, 1, 1, 1, 1⟩
  let done := match all with
    | [s] =>
      let g := gridOf s
      start.readUnits progressive scan h.restart parts
        (fun n => [(s, g.place (n % g.columns) (n / g.columns))]) (List.range (g.columns * g.rows))
    | _ =>
      start.readUnits progressive scan h.restart parts
        (fun n => all.flatMap fun s =>
          ((gridOf s).placesOf (n % units.columns) (n / units.columns)).map fun base => (s, base))
        (List.range (units.columns * units.rows))
  return (done.stores, stop)

/-- The next marker from a position on, and the position behind it. -/
def marker? (b : ByteArray) : Nat → Nat → Option (Nat × Nat)
  | 0, _ => none
  | steps + 1, i =>
    if b.size ≤ i + 1 then none
    else
      let m := Bytes.nat b (i + 1)
      if Bytes.nat b i = 0xFF ∧ m ≠ 0 ∧ m ≠ 0xFF then some (m, i + 2) else marker? b steps (i + 1)

def readNext : Nat → Header → Reading (Option Header)
  | 0, _ => return none
  | steps + 1, h => do
    let b ← Reading.file
    match marker? b b.size (← Reading.position) with
    | none => return none
    | some (0xD9, _) => return none
    | some (m, next) =>
      Reading.goTo next
      let (h, isScan) ← readSegment m h
      if isScan then return some h else readNext steps h

/-- All components occur in one of these scans. -/
def isCovered (f : Frame) (seen : List Scan) : Bool :=
  (List.range f.components.length).all fun k =>
    seen.any fun s => s.parts.any fun p => p.component == k

/-- Read scans. A sequential image ends with the scan that completes its components. -/
def readScans (b : ByteArray) (f : Frame) (units : Units) :
    Nat → List Scan → Header → Array Coefficients → Except Fault (Header × Array Coefficients)
  | 0, _, h, stores => return (h, stores)
  | steps + 1, seen, h, stores => do
    let isMixed := f.progressive && h.scan.low = 0 && h.scan.high ≠ 0
    match if isMixed then .ok (stores, 0) else readScanData b h f.progressive units stores with
    | .error fault => if f.progressive then return (h, stores) else throw fault
    | .ok (stores, stop) =>
      let seen := h.scan :: seen
      if isMixed || !f.progressive && isCovered f seen then return (h, stores)
      else
        match ← (readNext b.size h).result b stop with
        | none => return (h, stores)
        | some next => readScans b f units steps seen next stores

end Iconsmith.Jpeg
