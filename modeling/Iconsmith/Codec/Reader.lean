import Iconsmith.Bitmap
import Iconsmith.Codec.Format

/-!
Reading a file from front to back: a reading starts at a place, may fail, and leaves off at another
place. A place may lie behind the end; only reading there fails. The detail texts of faults come from
the readers of the formats. The samples that are read are turned into bytes.
-/

namespace Iconsmith.Codec

/-- The reasons for which an image file is refused. -/
inductive Fault where
  /-- The file ends too early, or reading it fails; the reason is the whole message. -/
  | input (reason : String)
  | malformed (format : Format) (detail : String)
  | feature (format : Format) (detail : String)
  | colour (format : Format) (detail : String)
  | unsupported (format : Format)
  /-- The image would take too much memory. -/
  | memory
  /-- The image is larger than the format can hold. -/
  | dimensions
deriving DecidableEq, Repr

namespace Fault

/-- A structured reader found the end of the file. -/
def unexpectedEnd : Fault := .input "unexpected end of file"

/-- A block of known length is longer than the rest of the file. -/
def shortRead : Fault := .input "failed to fill whole buffer"

def message : Fault → String
  | input reason => reason
  | malformed f detail => "Format error decoding " ++ f.name ++ ": " ++ detail
  | feature f detail =>
    "The decoder for " ++ f.name ++ " does not support the format features " ++ detail
  | colour f detail =>
    "The encoder or decoder for " ++ f.name ++ " does not support the color type `" ++ detail ++ "`"
  | unsupported f => "The image format " ++ f.name ++ " is not supported"
  | memory => "Memory limit exceeded"
  | dimensions => "Image size exceeds limit"

end Fault

/-- The greatest amount of memory, in bytes, for the samples of an image. -/
def maxMemory : Nat := 512 * 1024 * 1024

def checkRoom (room bytes : Nat) : Except Fault Unit :=
  if room < bytes then .error .memory else .ok ()

def checkMemory (bytes : Nat) : Except Fault Unit := checkRoom maxMemory bytes

/-- A reading of a file. -/
abbrev Reading (α : Type) := ReaderT ByteArray (StateT Nat (Except Fault)) α

namespace Reading

/-- The result of a reading that starts at position `start`. -/
def result {α : Type} (r : Reading α) (b : ByteArray) (start : Nat) : Except Fault α :=
  (r.run b).run' start

def position : Reading Nat := get

def goTo (i : Nat) : Reading Unit := set i

/-- Pass over some bytes, whether they exist or not. -/
def skip (n : Nat) : Reading Unit := modify (· + n)

def file : Reading ByteArray := read

def left : Reading Nat := do return (← file).size - (← position)

/-- The next `n` bytes start where this says; all of them must exist. -/
def advance (n : Nat) : Reading Nat := do
  let i ← position
  if (← left) < n then throw .shortRead
  goTo (i + n)
  return i

def byte : Reading Nat := do return Bytes.nat (← file) (← advance 1)

def le16 : Reading Nat := do return Bytes.le16 (← file) (← advance 2)

def le32 : Reading Nat := do return Bytes.le32 (← file) (← advance 4)

def be32 : Reading Nat := do return Bytes.be32 (← file) (← advance 4)

/-- Pass over `n` numbers of four bytes, which must exist. -/
def skipWords (n : Nat) : Reading Unit := do let _ ← advance (4 * n)

def take (n : Nat) : Reading ByteArray := do return Bytes.slice (← file) (← advance n) n

end Reading

/-- A sample of 16 bits as a byte, rounded. -/
def byteOf16 (v : Nat) : UInt8 := ((v + 128) / 257).toUInt8

/-- A sample between zero and one as a byte, rounded, a half away from zero; samples outside are
brought to the nearer end. -/
def byteOfUnit (v : Float32) : UInt8 :=
  let v := if v < 0 then 0 else if 1 < v then 1 else v
  (v * 255).round.toUInt8

/-- A sample of fewer than eight bits spread over the range of a byte. -/
def byteOfBits (v depth : Nat) : UInt8 := (v * 255 / ((1 <<< depth) - 1)).toUInt8

/-- A sample between zero and `top` spread over the range of a byte and rounded, a half upwards. -/
def byteOfRange (v top : Nat) : UInt8 := ((510 * v + top) / (2 * top)).toUInt8

end Iconsmith.Codec
