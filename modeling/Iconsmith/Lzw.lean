import Iconsmith.Bytes

/-!
Expanding data in which a growing dictionary is shared by writer and reader: each code stands for a
text that was put out before, and adds the text of the code before it with one more byte.
-/

namespace Iconsmith.Lzw

structure Variant where
  /-- Bits of a literal. -/
  bits : Nat
  /-- The most significant bit of each byte comes first. -/
  highFirst : Bool
  /-- Codes become longer one entry before they have to. -/
  early : Bool

namespace Variant

/-- The code that empties the dictionary. -/
def clear (v : Variant) : Nat := 1 <<< v.bits

/-- The code behind which nothing counts. -/
def stop (v : Variant) : Nat := (1 <<< v.bits) + 1

end Variant

def maxWidth : Nat := 12

@[inline]
def bitAt (v : Variant) (b : ByteArray) (i : Nat) : Nat :=
  let shift := if v.highFirst then 7 - i % 8 else i % 8
  (Bytes.nat b (i / 8) >>> shift) % 2

/-- The code in `count` bits from position `i` on. -/
def codeAt (v : Variant) (b : ByteArray) (i : Nat) : Nat → Nat
  | 0 => 0
  | count + 1 =>
    if v.highFirst then bitAt v b i <<< count + codeAt v b (i + 1) count
    else bitAt v b i + 2 * codeAt v b (i + 1) count

inductive End where
  /-- As many bytes as were asked for. -/
  | full
  /-- The stop code. -/
  | stopped
  /-- No whole code was left. -/
  | exhausted
  /-- A code without a text. -/
  | invalid
deriving DecidableEq, Repr

/-- A state between two codes. An entry of the dictionary is a place in the output and a length; the
first one belongs to the code behind the stop code. -/
structure State where
  out : ByteArray
  entries : Array (Nat × Nat)
  width : Nat
  /-- Where the text of the last code stands, unless the dictionary has just been emptied. -/
  last : Option (Nat × Nat)

namespace State

def start (v : Variant) : State := ⟨.empty, #[], v.bits + 1, none⟩

def clear (v : Variant) (s : State) : State := { s with entries := #[], width := v.bits + 1, last := none }

/-- Append bytes of the output to the output. -/
def copy (s : ByteArray) (start : Nat) : Nat → ByteArray
  | 0 => s
  | n + 1 => copy (s.push (Bytes.byte s start)) (start + 1) n

/-- Put out the text of a code and add an entry; `none` for a code that has no text. -/
def step (v : Variant) (s : State) (code : Nat) : Option State :=
  let at0 := s.out.size
  let first := v.clear + 2
  let next := first + s.entries.size
  let out :=
    if code < v.clear then some (s.out.push code.toUInt8, 1)
    else
      match s.last with
      | none => none
      | some (start, len) =>
        if code = next then some ((copy s.out start len).push (Bytes.byte s.out start), len + 1)
        else (s.entries[code - first]?).map fun (start, len) => (copy s.out start len, len)
  out.map fun (out, len) =>
    let entries := match s.last with
      | some (start, lastLen) =>
        if next < 1 <<< maxWidth then s.entries.push (start, lastLen + 1) else s.entries
      | none => s.entries
    let reached := first + entries.size + if v.early then 1 else 0
    let width := if 1 <<< s.width ≤ reached ∧ s.width < maxWidth then s.width + 1 else s.width
    ⟨out, entries, width, some (at0, len)⟩

end State

/-- Expand codes from bit `pos` on until `wanted` bytes are there. Every step reads a code. -/
def expandFrom (v : Variant) (b : ByteArray) (wanted : Nat) : Nat → Nat → State → ByteArray × End
  | 0, _, s => (s.out, .exhausted)
  | steps + 1, pos, s =>
    if wanted ≤ s.out.size then (s.out.extract 0 wanted, .full)
    else if 8 * b.size < pos + s.width then (s.out, .exhausted)
    else
      let code := codeAt v b pos s.width
      let pos := pos + s.width
      if code = v.clear then expandFrom v b wanted steps pos (s.clear v)
      else if code = v.stop then (s.out, .stopped)
      else
        match s.step v code with
        | none => (s.out, .invalid)
        | some s => expandFrom v b wanted steps pos s

def expand (v : Variant) (b : ByteArray) (wanted : Nat) : ByteArray × End :=
  expandFrom v b wanted (8 * b.size + 1) 0 (.start v)

end Iconsmith.Lzw
