import Iconsmith.Text.CaseData

/-!
Lower case of a whole text. All characters but two go through the simple mapping; a capital I with
a dot becomes two characters, and a capital sigma takes its final form at the end of a word.
-/

namespace Iconsmith.Text

private def inRanges (ranges : Array (Nat × Nat)) (c : Char) : Bool :=
  ranges.any fun (lo, hi) => lo ≤ c.toNat && c.toNat ≤ hi

def isCased (c : Char) : Bool := inRanges casedRanges c

/-- The character is passed over when the end of a word is looked for. -/
def isCaseIgnorable (c : Char) : Bool := inRanges caseIgnorableRanges c

/-- The simple lower-case form of one character, itself where it has none. -/
def lowerChar (c : Char) : Char :=
  let n := c.toNat
  if n < 128 then
    if 65 ≤ n && n ≤ 90 then Char.ofNat (n + 32) else c
  else
    match lowerRuns.find? (fun r => r.first ≤ n && n ≤ r.last && (n - r.first) % r.stride == 0) with
    | some r => Char.ofNat (n + r.shift).toNat
    | none => c

/-- The nearest character that is not passed over is cased. -/
def touchesLetter (s : List Char) : Bool :=
  match s.dropWhile isCaseIgnorable with
  | c :: _ => isCased c
  | [] => false

/-- Lower case, given the characters already read, last one first. -/
def lowerAfter (before : List Char) : List Char → List Char
  | [] => []
  | c :: rest =>
    let low :=
      if c = 'Σ' then [if touchesLetter before && !touchesLetter rest then 'ς' else 'σ']
      else if c = 'İ' then ['i', '\u0307']
      else [lowerChar c]
    low ++ lowerAfter (c :: before) rest

def lowercase (s : List Char) : List Char := lowerAfter [] s

end Iconsmith.Text
