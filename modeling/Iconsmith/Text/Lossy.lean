/-!
Reading bytes as text where they need not be text: what is no UTF-8 becomes the replacement
character, one for each longest start of a character that is cut off.
-/

namespace Iconsmith.Text

def replacement : Char := Char.ofNat 0xFFFD

def isFollower (v : UInt8) : Bool := 0x80 ≤ v && v ≤ 0xBF

/-- The range of the second byte of a character, and the number of bytes behind the first. -/
def shape? (v : UInt8) : Option (UInt8 × UInt8 × Nat) :=
  if 0xC2 ≤ v && v ≤ 0xDF then some (0x80, 0xBF, 1)
  else if v == 0xE0 then some (0xA0, 0xBF, 2)
  else if v == 0xED then some (0x80, 0x9F, 2)
  else if 0xE1 ≤ v && v ≤ 0xEF then some (0x80, 0xBF, 2)
  else if v == 0xF0 then some (0x90, 0xBF, 3)
  else if 0xF1 ≤ v && v ≤ 0xF3 then some (0x80, 0xBF, 3)
  else if v == 0xF4 then some (0x80, 0x8F, 3)
  else none

/-- The character that some bytes start with, and how many of them belong to it or to the start of
one that is cut off. -/
def nextChar : List UInt8 → Char × Nat
  | [] => (replacement, 0)
  | v :: rest =>
    if v < 0x80 then (Char.ofNat v.toNat, 1)
    else
      match shape? v with
      | none => (replacement, 1)
      | some (lo, hi, more) =>
        let good := match rest with
          | w :: tail => if lo ≤ w && w ≤ hi then w :: (tail.take (more - 1)).takeWhile isFollower else []
          | [] => []
        if good.length < more then (replacement, 1 + good.length)
        else
          let first := v.toNat % (1 <<< (6 - more))
          (Char.ofNat (good.foldl (fun n w => n * 64 + w.toNat % 64) first), 1 + more)

def lossyChars : Nat → List UInt8 → List Char
  | 0, _ => []
  | _, [] => []
  | steps + 1, b =>
    let (c, n) := nextChar b
    c :: lossyChars steps (b.drop n)

def lossy (b : ByteArray) : String := String.ofList (lossyChars b.size b.toList)

end Iconsmith.Text
