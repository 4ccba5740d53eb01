/-!
How alike two words are, for suggestions after a misspelling: the Jaro similarity, kept as an
exact ratio.
-/

namespace Iconsmith.Command

/-- A ratio of naturals; the denominator is positive. -/
structure Ratio where
  num : Nat
  den : Nat

namespace Ratio

def lt (x y : Ratio) : Bool := x.num * y.den < y.num * x.den

end Ratio

/-- The first position from `low` up to, not including, `high` that holds `c` and is not taken. -/
def findFree (c : Char) (word : Array Char) (taken : Array Bool) (low high : Nat) : Option Nat :=
  (List.range' low (high - low)).find? fun j => word[j]? == some c && taken[j]? == some false

/-- Match the letters of `a` from position `i` on with free letters of `b` that are at most `reach`
away. Gives the matched letters of `a` in order, and which letters of `b` are taken. -/
def matchLetters (b : Array Char) (reach : Nat) : Nat → List Char → Array Bool →
    List Char × Array Bool
  | _, [], taken => ([], taken)
  | i, c :: rest, taken =>
    match findFree c b taken (i - reach) (min b.size (i + reach + 1)) with
    | some j =>
      let (letters, taken) := matchLetters b reach (i + 1) rest (taken.setIfInBounds j true)
      (c :: letters, taken)
    | none => matchLetters b reach (i + 1) rest taken

/-- The Jaro similarity of two words: the mean of the shares of matching letters in either word and
of the share of matches that are not transposed. -/
def similarity (a b : List Char) : Ratio :=
  if a.isEmpty && b.isEmpty then ⟨1, 1⟩
  else if a.isEmpty || b.isEmpty then ⟨0, 1⟩
  else
    let reach := max a.length b.length / 2 - 1
    let (letters, taken) :=
      matchLetters b.toArray reach 0 a (Array.replicate b.length false)
    let others := ((b.zip taken.toList).filter Prod.snd).map Prod.fst
    let m := letters.length
    if m = 0 then ⟨0, 1⟩
    else
      let crossed := ((letters.zip others).filter fun (x, y) => x != y).length / 2
      let p := a.length
      let q := b.length
      ⟨m * q * m + m * p * m + (m - crossed) * p * q, 3 * p * q * m⟩

/-- The words that are more than seven tenths like the given one, the most alike last. -/
def similarWords (word : String) (known : List String) : List String :=
  let scored := known.map fun k => (similarity word.toList k.toList, k)
  let near := scored.filter fun (s, _) => Ratio.lt ⟨7, 10⟩ s
  (near.mergeSort fun x y => !Ratio.lt y.1 x.1).map Prod.snd

end Iconsmith.Command
