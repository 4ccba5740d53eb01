import Iconsmith.Deflate.Huffman

/-!
Expanding compressed data: blocks of stored bytes, and blocks of literals and back references
under prefix codes that are fixed or come with the block.
-/

namespace Iconsmith.Deflate

structure Codes where
  literal : Code
  distance : Code

def fixedLiteralLengths : Array Nat :=
  (Array.range 288).map fun s => if s < 144 then 8 else if s < 256 then 9 else if s < 280 then 7 else 8

def fixedCodes : Codes := ⟨.ofLengths fixedLiteralLengths, .ofLengths (Array.replicate 30 5)⟩

def lengthOrder : List Nat := [16, 17, 18, 0, 8, 7, 9, 6, 10, 5, 11, 4, 12, 3, 13, 2, 14, 1, 15]

/-- The least run length of each length symbol and its number of extra bits. -/
def lengthBases : Array (Nat × Nat) := #[
  (3, 0), (4, 0), (5, 0), (6, 0), (7, 0), (8, 0), (9, 0), (10, 0), (11, 1), (13, 1), (15, 1),
  (17, 1), (19, 2), (23, 2), (27, 2), (31, 2), (35, 3), (43, 3), (51, 3), (59, 3), (67, 4), (83, 4),
  (99, 4), (115, 4), (131, 5), (163, 5), (195, 5), (227, 5), (258, 0)]

/-- The least distance of each distance symbol and its number of extra bits. -/
def distanceBases : Array (Nat × Nat) := #[
  (1, 0), (2, 0), (3, 0), (4, 0), (5, 1), (7, 1), (9, 2), (13, 2), (17, 3), (25, 3), (33, 4),
  (49, 4), (65, 5), (97, 5), (129, 6), (193, 6), (257, 7), (385, 7), (513, 8), (769, 8), (1025, 9),
  (1537, 9), (2049, 10), (3073, 10), (4097, 11), (6145, 11), (8193, 12), (12289, 12), (16385, 13),
  (24577, 13)]

/-- The lengths of the length code, three bits each. -/
def readLengthLengths : Nat → List Nat → Array Nat → Cursor → Except Fault (Array Nat × Cursor)
  | 0, _, lengths, cur => .ok (lengths, cur)
  | _, [], lengths, cur => .ok (lengths, cur)
  | n + 1, s :: order, lengths, cur => do
    let (l, cur) ← cur.take 3
    readLengthLengths n order (lengths.setIfInBounds s l) cur

/-- The lengths of both codes of a block, run-length coded. The number of lengths still missing
falls with every step. -/
def readLengths (code : Code) (total : Nat) : Nat → Array Nat → Cursor →
    Except Fault (Array Nat × Cursor)
  | 0, lengths, cur => .ok (lengths, cur)
  | steps + 1, lengths, cur => do
    if total ≤ lengths.size then return (lengths, cur)
    let (s, cur) ← code.read .badLengthCode cur
    if s < 16 then readLengths code total steps (lengths.push s) cur
    else
      let (value, base, bits) :=
        if s = 16 then (lengths.back?, 3, 2) else if s = 17 then (some 0, 3, 3) else (some 0, 11, 7)
      match value with
      | none => throw .invalidLengthRepeat
      | some v =>
        let (extra, cur) ← cur.take bits
        if lengths.size + base + extra > total then throw .invalidLengthRepeat
        readLengths code total steps (lengths ++ Array.replicate (base + extra) v) cur

/-- A literal code is complete; a distance code may also have no word, or one word of one bit. -/
def checkDistance (lengths : Array Nat) : Bool :=
  Code.isComplete lengths || Code.count lengths = 0 ||
    (Code.count lengths = 1 && lengths.contains 1)

def readCodes (cur : Cursor) : Except Fault (Codes × Cursor) := do
  let (literals, cur) ← cur.take 5
  let (distances, cur) ← cur.take 5
  let (lengths, cur) ← cur.take 4
  if literals + 257 > 286 then throw .invalidLiteralCount
  if distances + 1 > 30 then throw .invalidDistanceCount
  let (ll, cur) ← readLengthLengths (lengths + 4) lengthOrder (Array.replicate 19 0) cur
  if !Code.isComplete ll then throw .badLengthCode
  let total := literals + 257 + distances + 1
  let (all, cur) ← readLengths (.ofLengths ll) total total #[] cur
  let lit := all.extract 0 (literals + 257)
  let dist := all.extract (literals + 257) total
  if (lit[256]?).getD 0 = 0 || !Code.isComplete lit then throw .badLiteralCode
  if !checkDistance dist then throw .badDistanceCode
  return (⟨.ofLengths lit, .ofLengths dist⟩, cur)

/-- Repeat `count` bytes of the output from `distance` bytes before its end on. -/
def copyBack (distance : Nat) : Nat → ByteArray → ByteArray
  | 0, out => out
  | count + 1, out => copyBack distance count (out.push (Bytes.byte out (out.size - distance)))

/-- The literals and back references of a block up to its end. Each step reads at least one bit. -/
def readBlock (codes : Codes) : Nat → ByteArray → Cursor → Except Fault (ByteArray × Cursor)
  | 0, _, _ => .error .insufficientInput
  | steps + 1, out, cur => do
    let (s, cur) ← codes.literal.read .invalidLiteral cur
    if s < 256 then readBlock codes steps (out.push s.toUInt8) cur
    else if s = 256 then return (out, cur)
    else
      match lengthBases[s - 257]? with
      | none => throw .invalidLiteral
      | some (base, bits) =>
        let (extra, cur) ← cur.take bits
        let (d, cur) ← codes.distance.read .invalidDistance cur
        match distanceBases[d]? with
        | none => throw .invalidDistance
        | some (dbase, dbits) =>
          let (dextra, cur) ← cur.take dbits
          if dbase + dextra > out.size then throw .distanceTooFar
          readBlock codes steps (copyBack (dbase + dextra) (base + extra) out) cur

/-- A block of stored bytes: its length, the complement of the length, the bytes. -/
def readStored (out : ByteArray) (cur : Cursor) : Except Fault (ByteArray × Cursor) := do
  let cur := cur.align
  let (len, cur) ← cur.take 16
  let (inverse, cur) ← cur.take 16
  if len + inverse != 65535 then throw .invalidStoredLength
  if cur.left < 8 * len then throw .insufficientInput
  return (out ++ Bytes.slice cur.bytes (cur.pos / 8) len, { cur with pos := cur.pos + 8 * len })

/-- Blocks up to the last one. Each reads at least three bits. -/
def readBlocks : Nat → ByteArray → Cursor → Except Fault (ByteArray × Cursor)
  | 0, _, _ => .error .insufficientInput
  | steps + 1, out, cur => do
    let (last, cur) ← cur.take 1
    let (kind, cur) ← cur.take 2
    let (out, cur) ← match kind with
      | 0 => readStored out cur
      | 1 => readBlock fixedCodes (cur.left + 1) out cur
      | 2 => do
        let (codes, cur) ← readCodes cur
        readBlock codes (cur.left + 1) out cur
      | _ => throw .invalidBlockType
    if last = 1 then return (out, cur) else readBlocks steps out cur

/-- Expand the blocks that start at byte `start`; gives the data and the position behind the last
block, in bytes. -/
def inflateRaw (bytes : ByteArray) (start : Nat) : Except Fault (ByteArray × Nat) := do
  let cur : Cursor := ⟨bytes, 8 * start⟩
  let (out, cur) ← readBlocks (cur.left + 1) .empty cur
  return (out, cur.align.pos / 8)

/-- The two bytes in front of a zlib stream: method, window, no preset dictionary, and a check. -/
def headerOk (a b : Nat) : Bool :=
  a % 16 == 8 && a / 16 ≤ 7 && b / 32 % 2 == 0 && (a * 256 + b) % 31 == 0

/-- Expand a zlib stream without looking at its checksum, which must be there, though. -/
def inflate (bytes : ByteArray) : Except Fault ByteArray := do
  if bytes.size < 2 then throw .insufficientInput
  if !headerOk (Bytes.nat bytes 0) (Bytes.nat bytes 1) then throw .badHeader
  let (out, stop) ← inflateRaw bytes 2
  if bytes.size < stop + 4 then throw .insufficientInput
  return out

end Iconsmith.Deflate
