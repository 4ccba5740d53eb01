import Iconsmith.Codec.Reader
import Iconsmith.Decimal
import Iconsmith.Size

/-!
The outer part of WebP files: chunks. A plain file holds its image in the first one; an extended file
starts with its sides and has other chunks behind them, for an animation with its frames.
-/

namespace Iconsmith.WebP

open Codec

def malformed (detail : String) : Fault := .malformed .webP detail

structure Chunk where
  start : Nat
  length : Nat

inductive Content where
  | lossless (data : Chunk)
  | lossy (data : Chunk) (alpha : Option Chunk)
  /-- An animation, of which the first frame counts. -/
  | animation (first : Chunk)

structure Header where
  size : Size
  hasAlpha : Bool
  content : Content

def hexBytes (b : List UInt8) : String :=
  "[" ++ ", ".intercalate (b.map fun v => String.ofList (Nat.toDigits 16 v.toNat)) ++ "]"

def badChunk (name : List UInt8) : Fault := malformed ("Invalid Chunk header: " ++ hexBytes name)

def badSides : Fault := malformed "Inconsistent image sizes"

def missing : Fault := malformed "An expected chunk was missing"

def readChunk : Reading (List UInt8 × Chunk) := do
  let name ← Reading.take 4
  let length ← Reading.le32
  return (name.toList, ⟨← Reading.position, length⟩)

/-- The position behind a chunk, of whole pairs of bytes. -/
def Chunk.stop (c : Chunk) : Nat := c.start + (c.length + 1) / 2 * 2

def readTriple : Reading Nat := do
  let low ← Reading.le16
  return low + (← Reading.byte) * 65536

/-- Read the sides of a lossy image, and the length of its first part. -/
def readLossySides : Reading (Size × Nat) := do
  let tag ← readTriple
  if tag % 2 = 1 then throw (malformed "Unsupported feature: Non-keyframe frames")
  let mark ← Reading.take 3
  if mark.toList ≠ [0x9D, 0x01, 0x2A] then
    throw (malformed ("Invalid VP8 magic: " ++ hexBytes mark.toList))
  let width ← Reading.le16
  let height ← Reading.le16
  return (⟨(width % 16384).toUInt32, (height % 16384).toUInt32⟩, tag >>> 5)

/-- Read the sides of a lossless image, and whether it has transparent pixels. -/
def readLosslessSides : Reading (Size × Bool) := do
  let mark ← Reading.byte
  if mark ≠ 0x2F then throw (malformed ("Invalid lossless signature: " ++ hexBytes [mark.toUInt8]))
  let word ← Reading.le32
  if word >>> 29 ≠ 0 then
    throw (malformed ("Invalid version number: " ++ Decimal.text (word >>> 29)))
  let side (n : Nat) : UInt32 := ((n + 1) % (1 <<< 14)).toUInt32
  return (⟨side word, side (word >>> 14)⟩, word >>> 28 % 2 = 1)

/-- The first chunk of each name. -/
abbrev Chunks := List (List UInt8 × Chunk)

def Chunks.find? (all : Chunks) (name : String) : Option Chunk :=
  all.lookup (Bytes.ascii name)

/-- A frame of an animation holds a lossy image. -/
def isLossyFrame (name : List UInt8) : Bool :=
  name == Bytes.ascii "VP8 " || name == Bytes.ascii "ALPH"

/-- Read chunks up to a position. Frames must have the head of a frame, and as long as none was `lossy`,
the head of a chunk inside. -/
def readChunks (stop : Nat) : Nat → Bool → Chunks → Reading Chunks
  | 0, _, all => return all.reverse
  | steps + 1, lossy, all => do
    if stop ≤ (← Reading.position) ∨ (← Reading.left) < 8 then return all.reverse
    let (name, c) ← readChunk
    let lossy ←
      if name = Bytes.ascii "ANMF" then do
        if c.length < 24 then throw (malformed "Invalid chunk size")
        let _ ← Reading.advance 16
        if lossy then pure true else pure (isLossyFrame (← readChunk).1)
      else pure lossy
    Reading.goTo c.stop
    readChunks stop steps lossy ((name, c) :: all)

/-- Read an extended file behind its name; `total` is the length of everything. -/
def readExtendedHeader (total : Nat) : Reading Header := do
  let c := (← readChunk).2
  let flags ← Reading.byte
  let _ ← readTriple
  let width := (← readTriple) + 1
  let height := (← readTriple) + 1
  if 1 <<< 32 ≤ width * height then throw (malformed "Image too large")
  Reading.goTo c.stop
  let all ← readChunks (c.stop + (total - 12)) ((← Reading.file).size) false []
  let has (bit : Nat) : Bool := flags &&& bit ≠ 0
  let lacks (name : String) : Bool := (all.find? name).isNone
  if has 2 && (lacks "ANIM" || lacks "ANMF") || has 8 && lacks "EXIF" || has 4 && lacks "XMP " then
    throw missing
  let make (content : Content) : Header := ⟨⟨width.toUInt32, height.toUInt32⟩, has 16, content⟩
  if has 2 then
    match all.find? "ANIM", all.find? "ANMF" with
    | some a, some f =>
      if 6 < a.length then throw (malformed "Invalid chunk size")
      if a.length < 6 ∨ (← Reading.file).size < a.start + a.length then throw .shortRead
      return make (.animation f)
    | _, _ => throw missing
  else
    match all.find? "VP8L", all.find? "VP8 " with
    | some data, none => return make (.lossless data)
    | none, some data => return make (.lossy data (all.find? "ALPH"))
    | _, _ => throw missing

def readHeader : Reading Header := do
  let (outer, whole) ← readChunk
  if outer ≠ Bytes.ascii "RIFF" then throw (badChunk (Bytes.ascii "RIFF"))
  let form ← Reading.take 4
  if form.toList ≠ Bytes.ascii "WEBP" then
    throw (malformed ("Invalid WebP signature: " ++ hexBytes form.toList))
  let start ← Reading.position
  let (name, c) ← readChunk
  if name = Bytes.ascii "VP8 " then
    let size := (← readLossySides).1
    if size.width = 0 ∨ size.height = 0 then throw badSides
    return ⟨size, false, .lossy c none⟩
  else if name = Bytes.ascii "VP8L" then
    let (size, hasAlpha) ← readLosslessSides
    return ⟨size, hasAlpha, .lossless c⟩
  else if name = Bytes.ascii "VP8X" then
    Reading.goTo start
    readExtendedHeader whole.length
  else throw (badChunk name)

def dimensions (b : ByteArray) : Except Fault Size := (readHeader.result b 0).map Header.size

end Iconsmith.WebP
