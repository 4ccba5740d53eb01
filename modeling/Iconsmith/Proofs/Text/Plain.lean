import Iconsmith.Text.Blank
import Iconsmith.Text.Lowercase

/-! Texts without the white space around them and in lower case. What written sizes
are made of is white space, digits, the plus sign, the comma and the letter x:
lower-casing turns a capital X into a small one, leaves the others alone, and makes
none of them out of any other character. -/
namespace Iconsmith.Text

/-- Nothing but white space. -/
def AllBlank (s : List Char) : Prop := ∀ c ∈ s, isBlank c = true

variable {l r s : List Char} {c : Char}

theorem AllBlank.append (hl : AllBlank l) (hr : AllBlank r) : AllBlank (l ++ r) := by
  intro c hc
  rcases List.mem_append.mp hc with hc | hc
  · exact hl c hc
  · exact hr c hc

theorem trimRight_eq (s : List Char) : trimRight s = (trimLeft s.reverse).reverse := rfl

/-- White space goes at the front, and nothing else. -/
theorem trimLeft_between (hl : AllBlank l) (hs : ∀ c ∈ s.head?, isBlank c = false) :
    trimLeft (l ++ s) = s := by
  rw [trimLeft, List.dropWhile_append_of_pos hl]
  cases s with
  | nil => rfl
  | cons c s => rw [List.dropWhile_cons_of_neg (by simp [hs c rfl])]

/-- Blanks at the end are trimmed up to the last other character. -/
theorem trimRight_between (hr : AllBlank r) (hs : ∀ c ∈ s.getLast?, isBlank c = false) :
    trimRight (s ++ r) = s := by
  have hReverse : AllBlank r.reverse := fun c hc => hr c (List.mem_reverse.mp hc)
  rw [trimRight_eq, List.reverse_append, trimLeft_between hReverse, List.reverse_reverse]
  rwa [List.head?_reverse]

/-- Trimming on the left does not go beyond a character that is no blank. -/
theorem trimLeft_append_cons (hc : isBlank c = false) :
    trimLeft (l ++ c :: r) = trimLeft l ++ c :: r := by
  induction l with
  | nil => simp [trimLeft, hc]
  | cons d l ih =>
      cases hd : isBlank d with
      | true => simpa [trimLeft, hd] using ih
      | false => simp [trimLeft, hd]

theorem trimRight_append_cons (hc : isBlank c = false) :
    trimRight (l ++ c :: r) = l ++ c :: trimRight r := by
  have hReverse : (l ++ c :: r).reverse = r.reverse ++ c :: l.reverse := by simp
  rw [trimRight_eq, hReverse, trimLeft_append_cons hc, trimRight_eq]
  simp

/-- Around a character that is no white space both ends are trimmed by themselves. -/
theorem trim_append_cons (hc : isBlank c = false) :
    trim (l ++ c :: r) = trimLeft l ++ c :: trimRight r := by
  rw [trim, trimLeft_append_cons hc, trimRight_append_cons hc]

/-- What is trimmed on the left are blanks. -/
theorem exists_trimLeft (s : List Char) : ∃ l, AllBlank l ∧ s = l ++ trimLeft s :=
  ⟨s.takeWhile isBlank, List.all_eq_true.mp List.all_takeWhile,
    List.takeWhile_append_dropWhile.symm⟩

theorem exists_trimRight (s : List Char) : ∃ r, AllBlank r ∧ s = trimRight s ++ r := by
  obtain ⟨l, hl, hs⟩ := exists_trimLeft s.reverse
  refine ⟨l.reverse, fun c hc => hl c (List.mem_reverse.mp hc), ?_⟩
  rw [trimRight_eq, ← List.reverse_append, ← hs, List.reverse_reverse]

/-- What is trimmed is white space. -/
theorem exists_trim (s : List Char) : ∃ l r, AllBlank l ∧ AllBlank r ∧ s = l ++ (trim s ++ r) := by
  obtain ⟨l, hl, hLeft⟩ := exists_trimLeft s
  obtain ⟨r, hr, hRight⟩ := exists_trimRight (trimLeft s)
  exact ⟨l, r, hl, hr, by rw [trim, ← hRight, ← hLeft]⟩

/-! ### Lower case -/

/-- The codes of these characters, from range to range. -/
def markRanges : List (Nat × Nat) :=
  [(9, 13), (0x20, 0x20), (0x2B, 0x2C), (0x30, 0x39), (0x58, 0x58), (0x78, 0x78), (0x85, 0x85),
    (0xA0, 0xA0), (0x1680, 0x1680), (0x2000, 0x200A), (0x2028, 0x2029), (0x202F, 0x202F),
    (0x205F, 0x205F), (0x3000, 0x3000)]

/-- One of these characters has the code. -/
def IsMark (n : Nat) : Prop := ∃ range ∈ markRanges, range.1 ≤ n ∧ n ≤ range.2

instance (n : Nat) : Decidable (IsMark n) := by
  unfold IsMark
  infer_instance

/-- The lower-case form of such a character. -/
def smallMark (c : Char) : Char := if c = 'X' then 'x' else c

/-- Every kind of white space is among the marks. -/
theorem isMark_of_isBlank {c : Char} (h : isBlank c = true) : IsMark c.toNat := by
  simp only [isBlank, Bool.or_eq_true, Bool.and_eq_true, decide_eq_true_eq, beq_iff_eq] at h
  simp only [IsMark, markRanges, List.mem_cons, List.not_mem_nil, or_false, exists_eq_or_imp,
    exists_eq_left]
  omega

theorem isMark_of_isDigit {c : Char} (h : '0' ≤ c ∧ c ≤ '9') : IsMark c.toNat :=
  ⟨(0x30, 0x39), by decide, h⟩

/-! ### The table -/

/-- A run of the mapping neither begins nor ends in a range. -/
def LowerRun.misses (r : LowerRun) (range : Nat × Nat) : Bool :=
  decide (r.last < 128) ||
    (decide (r.last < range.1) || decide (range.2 < r.first)) &&
      (decide (r.last + r.shift < range.1) || decide (range.2 < r.first + r.shift))

/-- Beyond the small characters no run of the table meets a mark, neither before its shift nor
after it. -/
theorem misses_markRanges :
    lowerRuns.toList.all (fun r => markRanges.all r.misses) = true := by
  decide

variable {c : Char}

theorem misses_of_mem {r : LowerRun} (hr : r ∈ lowerRuns) (hLarge : ¬r.last < 128)
    {range : Nat × Nat} (hRange : range ∈ markRanges) :
    (r.last < range.1 ∨ range.2 < r.first) ∧
      (r.last + r.shift < range.1 ∨ range.2 < r.first + r.shift) := by
  have hAll := List.all_eq_true.mp misses_markRanges r (Array.mem_toList_iff.mpr hr)
  have hMisses := List.all_eq_true.mp hAll range hRange
  simpa [LowerRun.misses, hLarge] using hMisses

/-- A number that is no code stands for the character with code zero. -/
theorem toNat_ofNat_or (n : Nat) : (Char.ofNat n).toNat = n ∨ (Char.ofNat n).toNat = 0 := by
  by_cases hValid : n.isValidChar
  · rw [Char.ofNat, dif_pos hValid]
    exact .inl rfl
  · rw [Char.ofNat, dif_neg hValid]
    exact .inr rfl

/-- Beyond the ASCII characters no lower-case form is involved on either side. -/
theorem lowerChar_of_large (h : ¬c.toNat < 128) :
    lowerChar c = c ∨ ¬IsMark c.toNat ∧ ¬IsMark (lowerChar c).toNat := by
  simp only [lowerChar, h, if_false]
  split
  · next r hr =>
    have hFound := Array.find?_some hr
    simp only [Bool.and_eq_true, decide_eq_true_eq] at hFound
    have hMisses {range : Nat × Nat} (hRange : range ∈ markRanges) :=
      misses_of_mem (Array.mem_of_find?_eq_some hr) (by omega) hRange
    refine .inr ⟨?_, ?_⟩
    · rintro ⟨range, hRange, hLow, hHigh⟩
      have := (hMisses hRange).1
      omega
    · rintro ⟨range, hRange, hLow, hHigh⟩
      have hPositive : 0 < range.1 :=
        (by decide : ∀ range ∈ markRanges, 0 < range.1) range hRange
      have := (hMisses hRange).2
      rcases toNat_ofNat_or (c.toNat + r.shift).toNat with hCode | hCode <;>
        rw [hCode] at hLow hHigh <;> omega
  · exact .inl rfl

/-- For small characters it is checked one by one. -/
theorem lowerChar_of_small (h : c.toNat < 128) :
    (IsMark (lowerChar c).toNat ↔ IsMark c.toNat) ∧
      (IsMark c.toNat → lowerChar c = smallMark c) := by
  have hAll : ∀ n : Fin 128,
      (IsMark (lowerChar (Char.ofNat n)).toNat ↔ IsMark (Char.ofNat n).toNat) ∧
      (IsMark (Char.ofNat n).toNat → lowerChar (Char.ofNat n) = smallMark (Char.ofNat n)) := by
    decide
  have hc := hAll ⟨c.toNat, h⟩
  rwa [Char.ofNat_toNat] at hc

/-- A character is a mark in lower case just if it is one already. -/
theorem isMark_lowerChar_iff : IsMark (lowerChar c).toNat ↔ IsMark c.toNat := by
  by_cases hSmall : c.toNat < 128
  · exact (lowerChar_of_small hSmall).1
  · rcases lowerChar_of_large hSmall with hSame | ⟨hOld, hNew⟩
    · rw [hSame]
    · exact iff_of_false hNew hOld

/-- The only mark with a lower case of its own is the letter that separates sides. -/
theorem lowerChar_of_isMark (h : IsMark c.toNat) : lowerChar c = smallMark c := by
  by_cases hSmall : c.toNat < 128
  · exact (lowerChar_of_small hSmall).2 h
  · rcases lowerChar_of_large hSmall with hSame | ⟨hOld, -⟩
    · have hOther : c ≠ 'X' := by
        rintro rfl
        exact hSmall (by decide)
      rw [hSame, smallMark, if_neg hOther]
    · exact absurd h hOld

/-! ### Whole texts -/

/-- What a character becomes, whatever its neighbours are. -/
theorem lowerAfter_cons (before : List Char) (c : Char) (rest : List Char) :
    ∃ low, lowerAfter before (c :: rest) = low ++ lowerAfter (c :: before) rest ∧
      (low = [lowerChar c] ∨ ¬IsMark c.toNat ∧ ∃ d ∈ low, ¬IsMark d.toNat) := by
  simp only [lowerAfter]
  split
  · next hSigma =>
    refine ⟨_, rfl, .inr ⟨?_, _, List.mem_singleton_self _, ?_⟩⟩
    · subst hSigma
      decide
    · split <;> decide
  · split
    · next hDotted =>
      refine ⟨_, rfl, .inr ⟨?_, 'i', List.mem_cons_self, by decide⟩⟩
      subst hDotted
      decide
    · exact ⟨_, rfl, .inl rfl⟩

/-- A text of marks is in lower case, but for that letter. -/
theorem lowerAfter_of_marks (before : List Char) {s : List Char} (h : ∀ c ∈ s, IsMark c.toNat) :
    lowerAfter before s = s.map smallMark := by
  induction s generalizing before with
  | nil => rfl
  | cons c s ih =>
      have hc := h c List.mem_cons_self
      obtain ⟨low, hLow, rfl | ⟨hOther, -⟩⟩ := lowerAfter_cons before c s
      -- What a character becomes may depend on its neighbours, but not for a mark.
      · rw [hLow, lowerChar_of_isMark hc,
          ih (c :: before) fun d hd => h d (List.mem_cons_of_mem c hd)]
        rfl
      · exact absurd hc hOther

/-- A text whose lower case consists of marks consists of marks. -/
theorem marks_of_lowerAfter (before : List Char) {s : List Char}
    (h : ∀ c ∈ lowerAfter before s, IsMark c.toNat) : ∀ c ∈ s, IsMark c.toNat := by
  induction s generalizing before with
  | nil => exact nofun
  | cons c s ih =>
      obtain ⟨low, hLow, hc⟩ := lowerAfter_cons before c s
      rw [hLow] at h
      have hRest := ih (c :: before) fun d hd => h d (List.mem_append_right low hd)
      refine List.forall_mem_cons.mpr ⟨?_, hRest⟩
      rcases hc with rfl | ⟨-, d, hd, hOther⟩
      · exact isMark_lowerChar_iff.mp (h _ (by simp))
      · exact absurd (h d (List.mem_append_left _ hd)) hOther

theorem lowercase_of_marks {s : List Char} (h : ∀ c ∈ s, IsMark c.toNat) :
    lowercase s = s.map smallMark :=
  lowerAfter_of_marks [] h

theorem marks_of_lowercase {s : List Char} (h : ∀ c ∈ lowercase s, IsMark c.toNat) :
    ∀ c ∈ s, IsMark c.toNat :=
  marks_of_lowerAfter [] h

end Iconsmith.Text
