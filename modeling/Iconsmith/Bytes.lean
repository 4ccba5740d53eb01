/-!
Reading numbers from a row of bytes at a given position, and writing them.
-/

namespace Iconsmith.Bytes

/-- The byte at position `i`; behind the end it is zero. -/
@[inline]
def byte (b : ByteArray) (i : Nat) : UInt8 := if h : i < b.size then b[i] else 0

@[inline]
def nat (b : ByteArray) (i : Nat) : Nat := (byte b i).toNat

/-- Two bytes, the less significant first. -/
def le16 (b : ByteArray) (i : Nat) : Nat := nat b i + nat b (i + 1) * 256

/-- Two bytes, the more significant first. -/
def be16 (b : ByteArray) (i : Nat) : Nat := nat b i * 256 + nat b (i + 1)

def le32 (b : ByteArray) (i : Nat) : Nat := le16 b i + le16 b (i + 2) * 65536

def be32 (b : ByteArray) (i : Nat) : Nat := be16 b i * 65536 + be16 b (i + 2)

def le64 (b : ByteArray) (i : Nat) : Nat := le32 b i + le32 b (i + 4) * 4294967296

/-- A number below `2 ^ 32` as a signed one in two's complement. -/
def signed32 (n : Nat) : Int := if n < 1 <<< 31 then n else (n : Int) - (1 <<< 32 : Nat)

/-- The bytes `expected` stand at position `i`. -/
def hasAt (b : ByteArray) (i : Nat) : List UInt8 → Bool
  | [] => true
  | e :: es => i < b.size && byte b i == e && hasAt b (i + 1) es

def ascii (s : String) : List UInt8 := s.toList.map fun c => c.toNat.toUInt8

/-- The bytes from `start` up to `start + count`, as many as there are. -/
def slice (b : ByteArray) (start count : Nat) : ByteArray := b.extract start (start + count)

def putBe32 (n : Nat) : List UInt8 :=
  [(n >>> 24).toUInt8, (n >>> 16).toUInt8, (n >>> 8).toUInt8, n.toUInt8]

def putLe16 (n : Nat) : List UInt8 := [n.toUInt8, (n >>> 8).toUInt8]

def ofList (l : List UInt8) : ByteArray := ⟨l.toArray⟩

end Iconsmith.Bytes
