import Iconsmith.Codec.Reader
import Iconsmith.Pnm.Header

/-!
Reading PNM files. Samples are stretched so that the greatest one allowed becomes the greatest one
of their number of bytes; what exceeds it is cut off.
-/

namespace Iconsmith.Pnm

open Codec

def tooShort : Fault := malformed "Not enough data was provided to the Decoder to decode the image"

/-- Read a sample in digits and the blank behind it. -/
def readDigitsFrom (bits : Nat) : Nat → Option Nat → Reading Nat
  | 0, _ => throw tooShort
  | steps + 1, n => do
    match ← next? with
    | none =>
      match n with
      | some v => return v
      | none => throw tooShort
    | some c =>
      if isBlank c then
        match n with
        | some v => return v
        | none => readDigitsFrom bits steps none
      else readDigitsFrom bits steps (some (← addDigit "sample" bits n c))

/-- Read a sample that is one digit, behind any number of blanks. -/
def readBitFrom : Nat → Reading Nat
  | 0 => throw tooShort
  | steps + 1 => do
    match ← next? with
    | none => throw tooShort
    | some c =>
      if isBlank c then readBitFrom steps
      else if c = 48 then return 1
      else if c = 49 then return 0
      else throw (malformed ("Unexpected character " ++ hexByte c ++ " within sample raster"))

/-- Read `count` samples that each end at a blank or take one digit. -/
def readEach (sample : Reading Nat) : Nat → Array Nat → Reading (Array Nat)
  | 0, acc => pure acc
  | count + 1, acc => do readEach sample count (acc.push (← sample))

namespace Header

def samples (h : Header) : Nat := h.size.area * h.colour.channels

/-- The next bytes, all of which must exist. -/
def readBytes (n : Nat) : Reading ByteArray := do
  if (← Reading.left) < n then throw tooShort
  Reading.take n

/-- The samples as they are in the file; those of two colours are one for white. -/
def readSamples (h : Header) : Reading (Array Nat) := do
  let count := h.samples
  let steps := (← Reading.left) + 1
  match h.encoding with
  | .digits => readEach (readDigitsFrom (8 * h.sampleBytes) steps none) count #[]
  | .bitDigits => readEach (readBitFrom steps) count #[]
  | .bits =>
    let width := h.size.width.toNat
    let rowBytes := (width + 7) / 8
    let bytes ← readBytes (rowBytes * h.size.height.toNat)
    return Array.ofFn (n := count) fun i =>
      let x := i.val % width
      1 - (Bytes.nat bytes (i.val / width * rowBytes + x / 8) >>> (7 - x % 8)) % 2
  | .bytes =>
    let bytes ← readBytes (count * h.sampleBytes)
    return Array.ofFn (n := count) fun i =>
      if h.sampleBytes = 2 then Bytes.be16 bytes (2 * i.val) else Bytes.nat bytes i.val
  | .bitBytes =>
    let bytes ← readBytes count
    match bytes.toList.find? (1 < ·) with
    | some v => throw (malformed ("Sample value " ++ Decimal.text v.toNat ++ " outside of bounds"))
    | none => return Array.ofFn (n := count) fun i => Bytes.nat bytes i.val

/-- A sample stretched to the range of its number of bytes, as one byte. -/
def stretch (h : Header) (v : Nat) : UInt8 :=
  if h.sampleBytes = 1 then
    if h.top = 255 then v.toUInt8
    else (v.toFloat32 * (255 / h.top.toFloat32)).round.toUInt8
  else if h.top = 65535 then byteOf16 v
  else byteOf16 (v.toFloat32 * (65535 / h.top.toFloat32)).round.toUInt16.toNat

def pixelAt (h : Header) (samples : Array Nat) (i : Nat) : Pixel :=
  let part (c : Nat) := h.stretch ((samples[i * h.colour.channels + c]?).getD 0)
  match h.colour with
  | .gray => .gray (part 0)
  | .grayAlpha => ⟨part 0, part 0, part 0, part 1⟩
  | .rgb => ⟨part 0, part 1, part 2, 255⟩
  | .rgba => ⟨part 0, part 1, part 2, part 3⟩

end Header

/-- The pixels of the image in a file, row by row from the top. -/
def pixels (b : ByteArray) : Except Fault (Array Pixel) := do
  let h ← readHeader.result b 0
  checkMemory (h.samples * h.sampleBytes)
  let samples ← h.readSamples.result b h.dataAt
  return Array.ofFn (n := h.size.area) fun i => h.pixelAt samples i.val

end Iconsmith.Pnm
