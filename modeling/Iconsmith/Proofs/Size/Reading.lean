import Mathlib.Data.List.TakeDrop
import Iconsmith.Proofs.Decimal.Digits
import Iconsmith.Proofs.Text.Plain
import Iconsmith.Size

/-! Reading a size accepts exactly what the grammar of sizes allows. -/
namespace Iconsmith.Size

open Text

/-- A number from 1 to `2 ^ 32 - 1`. -/
def Side (s : List Char) (n : UInt32) : Prop := Decimal.Numeral s n.toNat ∧ n ≠ 0

/-- A side with white space around it. -/
def Padded (s : List Char) (n : UInt32) : Prop :=
  ∃ l m r, s = l ++ (m ++ r) ∧ AllBlank l ∧ AllBlank r ∧ Side m n

/-- The grammar of sizes: a width, a separator and a height, or one side of a square. -/
inductive Written : List Char → Size → Prop where
  | pair {a b : List Char} {c : Char} {width height : UInt32} (hWidth : Padded a width)
      (hSeparator : c = 'x' ∨ c = 'X' ∨ c = ',') (hHeight : Padded b height) :
      Written (a ++ c :: b) ⟨width, height⟩
  | square {a : List Char} {side : UInt32} (hSide : Padded a side) : Written a ⟨side, side⟩

variable {s t a b l r : List Char} {c : Char} {n : UInt32} {size : Size}

/-! ### Sides -/

/-- A side is read if it is a positive number of 32 bits. -/
theorem side?_eq_some : side? s = some n ↔ Side s n := by
  simp only [side?, Option.bind_eq_some_iff, Decimal.ofUnsigned32?_eq_some, Side]
  constructor
  · rintro ⟨m, hNumeral, hm⟩
    split at hm
    · exact nomatch hm
    · next hPositive =>
      obtain rfl := Option.some.inj hm
      exact ⟨hNumeral, hPositive⟩
  · rintro ⟨hNumeral, hPositive⟩
    exact ⟨n, hNumeral, if_neg hPositive⟩

/-- The characters of a side are neither white space nor separators. -/
theorem Side.mem (h : Side s n) (hc : c ∈ s) :
    isBlank c = false ∧ IsMark c.toNat ∧ c ≠ 'x' ∧ c ≠ 'X' ∧ c ≠ ',' := by
  rcases h.1.mem hc with rfl | hDigit
  · decide
  · refine ⟨?_, isMark_of_isDigit hDigit, ?_, ?_, ?_⟩
    · obtain ⟨hLow, hHigh⟩ : 48 ≤ c.toNat ∧ c.toNat ≤ 57 := hDigit
      rw [Bool.eq_false_iff]
      simp only [isBlank, ne_eq, Bool.or_eq_true, Bool.and_eq_true, decide_eq_true_eq, beq_iff_eq]
      omega
    all_goals
      rintro rfl
      exact absurd hDigit (by decide)

/-- A side does not start with a blank, whatever follows it. -/
theorem Side.head (h : Side s n) : ∀ c ∈ (s ++ r).head?, isBlank c = false := by
  obtain ⟨d, others, rfl⟩ := List.exists_cons_of_ne_nil h.1.ne_nil
  rintro c ⟨⟩
  exact (h.mem List.mem_cons_self).1

theorem Side.last (h : Side s n) : ∀ c ∈ (l ++ s).getLast?, isBlank c = false := by
  rw [List.getLast?_append, List.getLast?_eq_some_getLast h.1.ne_nil]
  rintro c ⟨⟩
  exact (h.mem (List.getLast_mem _)).1

/-- A side with blanks around it has none of the characters that separate sides. -/
theorem Padded.mem (h : Padded s n) (hc : c ∈ s) :
    IsMark c.toNat ∧ c ≠ 'x' ∧ c ≠ 'X' ∧ c ≠ ',' := by
  have hBlank {d : Char} (hd : isBlank d = true) :
      IsMark d.toNat ∧ d ≠ 'x' ∧ d ≠ 'X' ∧ d ≠ ',' := by
    refine ⟨isMark_of_isBlank hd, ?_, ?_, ?_⟩ <;>
      · rintro rfl
        exact absurd hd (by decide)
  obtain ⟨l, m, r, rfl, hl, hr, hm⟩ := h
  rcases List.mem_append.mp hc with hc | hc
  · exact hBlank (hl c hc)
  · rcases List.mem_append.mp hc with hc | hc
    · exact (hm.mem hc).2
    · exact hBlank (hr c hc)

/-- More blanks around a side make no difference. -/
theorem Padded.extend (h : Padded s n) (hl : AllBlank l) (hr : AllBlank r) :
    Padded (l ++ (s ++ r)) n := by
  obtain ⟨l', m, r', rfl, hl', hr', hm⟩ := h
  exact ⟨l ++ l', m, r' ++ r, by simp, hl.append hl', hr'.append hr, hm⟩

theorem Side.padded (h : Side s n) : Padded s n := ⟨[], s, [], by simp, nofun, nofun, h⟩

theorem Padded.trimLeft (h : Padded s n) : Padded (trimLeft s) n := by
  obtain ⟨l, m, r, rfl, hl, hr, hm⟩ := h
  rw [trimLeft_between hl hm.head]
  exact ⟨[], m, r, rfl, nofun, hr, hm⟩

theorem Padded.trimRight (h : Padded s n) : Padded (trimRight s) n := by
  obtain ⟨l, m, r, rfl, hl, hr, hm⟩ := h
  rw [← List.append_assoc, trimRight_between hr hm.last]
  exact ⟨l, m, [], by simp, hl, nofun, hm⟩

/-- Trimming leaves a side just where there was one with blanks around it. -/
theorem side_trim_iff : Side (trim s) n ↔ Padded s n := by
  constructor
  · intro h
    obtain ⟨l, r, hl, hr, hs⟩ := exists_trim s
    exact ⟨l, trim s, r, hs, hl, hr, h⟩
  · rintro ⟨l, m, r, rfl, hl, hr, hm⟩
    have hLast : ∀ c ∈ m.getLast?, isBlank c = false := hm.last (l := [])
    rwa [trim, trimLeft_between hl hm.head, trimRight_between hr hLast]

/-! ### Two sides -/

/-- A text is cut at the first separator, into what is in front of it and what is behind. -/
theorem cut_eq_some : cut s = some (a, b) ↔
    (∃ c, (c = 'x' ∨ c = ',') ∧ s = a ++ c :: b) ∧ ∀ d ∈ a, d ≠ 'x' ∧ d ≠ ',' := by
  have hOther {d : Char} : (d != 'x' && d != ',') = true ↔ d ≠ 'x' ∧ d ≠ ',' := by simp
  rw [cut, List.span_eq_takeWhile_dropWhile]
  constructor
  · intro h
    have hStop := List.head?_dropWhile_not (fun c => c != 'x' && c != ',') s
    split at h
    · next before d after hSpan =>
      obtain ⟨rfl, hAfter⟩ := Prod.mk.inj hSpan
      obtain ⟨rfl, rfl⟩ := Prod.mk.inj (Option.some.inj h)
      rw [hAfter] at hStop
      refine ⟨⟨d, ?_, ?_⟩, fun x hx => hOther.mp (List.all_eq_true.mp List.all_takeWhile x hx)⟩
      · simpa [imp_iff_not_or] using hStop
      · rw [← hAfter, List.takeWhile_append_dropWhile]
    · exact nomatch h
  · rintro ⟨⟨c, hc, rfl⟩, ha⟩
    have hAll : ∀ d ∈ a, (d != 'x' && d != ',') = true := fun d hd => hOther.mpr (ha d hd)
    have hStop : (c != 'x' && c != ',') = false := by
      rcases hc with rfl | rfl <;> decide
    rw [List.takeWhile_append_of_pos hAll, List.dropWhile_append_of_pos hAll]
    simp only [List.takeWhile_cons, List.dropWhile_cons, hStop, Bool.false_eq_true, if_false,
      List.append_nil]

/-- Without a separator nothing is cut. -/
theorem cut_eq_none (h : ∀ d ∈ s, d ≠ 'x' ∧ d ≠ ',') : cut s = none := by
  cases hCut : cut s with
  | none => rfl
  | some parts =>
      obtain ⟨⟨c, hc, rfl⟩, -⟩ := cut_eq_some.mp hCut
      have hSeparator := h c (by simp)
      rcases hc with rfl | rfl
      · exact absurd rfl hSeparator.1
      · exact absurd rfl hSeparator.2

/-- What stands around a separator is read as it stands, and what has no separator
as one side. -/
theorem sides?_eq_some : sides? s = some size ↔
    (∃ a c b, s = a ++ c :: b ∧ (c = 'x' ∨ c = ',') ∧ Padded a size.width ∧
      Padded b size.height) ∨ Side s size.width ∧ size.height = size.width := by
  obtain ⟨width, height⟩ := size
  have hSides (w h : List Char) : ((side? w).bind fun x => (side? h).map fun y => Size.mk x y) =
      some ⟨width, height⟩ ↔ Side w width ∧ Side h height := by
    simp [Option.bind_eq_some_iff, Option.map_eq_some_iff, side?_eq_some]
  constructor
  · intro hRead
    cases hCut : cut s with
    | none =>
        rw [sides?, hCut] at hRead
        obtain ⟨hWidth, hHeight⟩ := (hSides s s).mp hRead
        have hSame := hWidth
        rw [← side?_eq_some] at hWidth hHeight
        exact .inr ⟨hSame, Option.some.inj (hHeight.symm.trans hWidth)⟩
    | some parts =>
        obtain ⟨a, b⟩ := parts
        rw [sides?, hCut] at hRead
        obtain ⟨hWidth, hHeight⟩ := (hSides _ _).mp hRead
        obtain ⟨⟨c, hc, rfl⟩, -⟩ := cut_eq_some.mp hCut
        exact .inl ⟨a, c, b, rfl, hc, side_trim_iff.mp hWidth, side_trim_iff.mp hHeight⟩
  · rintro (⟨a, c, b, rfl, hc, hWidth, hHeight⟩ | ⟨hSide, hSame⟩)
    · have hCut : cut (a ++ c :: b) = some (a, b) :=
        cut_eq_some.mpr ⟨⟨c, hc, rfl⟩, fun d hd => ⟨(hWidth.mem hd).2.1, (hWidth.mem hd).2.2.2⟩⟩
      rw [sides?, hCut]
      exact (hSides _ _).mpr ⟨side_trim_iff.mpr hWidth, side_trim_iff.mpr hHeight⟩
    · obtain rfl : height = width := hSame
      have hCut : cut s = none :=
        cut_eq_none fun d hd => ⟨(hSide.mem hd).2.2.1, (hSide.mem hd).2.2.2.2⟩
      rw [sides?, hCut]
      exact (hSides s s).mpr ⟨hSide, hSide⟩

/-! ### Whole texts -/

/-- Only the capital letter that separates sides is made small. -/
theorem map_smallMark (h : ∀ c ∈ s, c ≠ 'X') : s.map smallMark = s :=
  (List.map_congr_left fun c hc => if_neg (h c hc)).trans (List.map_id s)

theorem Padded.of_map (h : Padded (s.map smallMark) n) : Padded s n := by
  have hNone : ∀ c ∈ s, c ≠ 'X' := by
    rintro c hc rfl
    exact (h.mem (List.mem_map_of_mem hc)).2.1 rfl
  rwa [map_smallMark hNone] at h

theorem Padded.map_eq (h : Padded s n) : s.map smallMark = s :=
  map_smallMark fun _ hc => (h.mem hc).2.2.1

/-- Sides are made of marks, and so are texts in which they are read. -/
theorem marks_of_sides? (h : sides? s = some size) : ∀ c ∈ s, IsMark c.toNat := by
  intro d hd
  rcases sides?_eq_some.mp h with ⟨a, c, b, rfl, hc, hWidth, hHeight⟩ | ⟨hSide, -⟩
  · rcases List.mem_append.mp hd with hd | hd
    · exact (hWidth.mem hd).1
    · rcases List.mem_cons.mp hd with rfl | hd
      · rcases hc with rfl | rfl <;> decide
      · exact (hHeight.mem hd).1
  · exact (hSide.mem hd).2.1

/-- What is read after trimming is written according to the grammar. -/
theorem written_of_sides? (h : sides? (lowercase (trim s)) = some size) : Written s size := by
  obtain ⟨width, height⟩ := size
  have hMarks := marks_of_lowercase (marks_of_sides? h)
  rw [lowercase_of_marks hMarks] at h
  obtain ⟨l, r, hl, hr, hs⟩ := exists_trim s
  rw [hs]
  rcases sides?_eq_some.mp h with ⟨a, c, b, hText, hc, hWidth, hHeight⟩ | ⟨hSide, hSame⟩
  · obtain ⟨a, rest, hTrim, rfl, hRest⟩ := List.map_eq_append_iff.mp hText
    obtain ⟨c, b, rfl, rfl, rfl⟩ := List.map_eq_cons_iff.mp hRest
    have hSeparator : c = 'x' ∨ c = 'X' ∨ c = ',' := by
      unfold smallMark at hc
      split at hc
      · next hLarge => exact .inr (.inl hLarge)
      · exact hc.imp_right .inr
    have hShape : l ++ (trim s ++ r) = (l ++ (a ++ [])) ++ c :: ([] ++ (b ++ r)) := by simp [hTrim]
    rw [hShape]
    exact .pair (hWidth.of_map.extend hl nofun) hSeparator (hHeight.of_map.extend nofun hr)
  · obtain rfl : height = width := hSame
    exact .square (hSide.padded.of_map.extend hl hr)

/-- What is written according to the grammar is read after trimming, whichever case the separator
has. -/
theorem sides?_of_written (h : Written s size) : sides? (lowercase (trim s)) = some size := by
  cases h with
  | @pair a b c width height hWidth hSeparator hHeight =>
      have hLeft := hWidth.trimLeft
      have hRight := hHeight.trimRight
      have hBlank : isBlank c = false ∧ IsMark c.toNat ∧
          (smallMark c = 'x' ∨ smallMark c = ',') := by
        rcases hSeparator with rfl | rfl | rfl <;> decide
      have hMarks : ∀ d ∈ trimLeft a ++ c :: trimRight b, IsMark d.toNat := by
        intro d hd
        rcases List.mem_append.mp hd with hd | hd
        · exact (hLeft.mem hd).1
        · rcases List.mem_cons.mp hd with rfl | hd
          · exact hBlank.2.1
          · exact (hRight.mem hd).1
      rw [trim_append_cons hBlank.1, lowercase_of_marks hMarks, List.map_append, List.map_cons,
        hLeft.map_eq, hRight.map_eq]
      exact sides?_eq_some.mpr (.inl ⟨_, _, _, rfl, hBlank.2.2, hLeft, hRight⟩)
  | @square a side hSide =>
      have hTrim := side_trim_iff.mpr hSide
      rw [lowercase_of_marks fun d hd => (hTrim.mem hd).2.1, hTrim.padded.map_eq]
      exact sides?_eq_some.mpr (.inr ⟨hTrim, rfl⟩)

/-- So a text is a size if and only if it is written as one. -/
theorem parse_eq_ok {text : String} : parse text = .ok size ↔ Written text.toList size := by
  have hSides : parse text = .ok size ↔ sides? (lowercase (trim text.toList)) = some size := by
    unfold parse
    dsimp only
    cases sides? (lowercase (trim text.toList)) <;> simp
  rw [hSides]
  exact ⟨written_of_sides?, sides?_of_written⟩

/-- Any other text is an invalid format. -/
theorem kind_of_parse {text : String} {f : Failure} (h : parse text = .error f) :
    f.kind = .invalidFormat := by
  unfold parse at h
  dsimp only at h
  split at h
  · exact nomatch h
  · obtain rfl := Except.error.inj h
    rfl

theorem side_digits (h : n ≠ 0) : Side (Decimal.digits n.toNat) n :=
  ⟨Decimal.numeral_digits n.toNat, h⟩

/-- The written form of a size without zero sides. -/
theorem written_text (h : size.width ≠ 0 ∧ size.height ≠ 0) : Written size.text.toList size := by
  have hText : size.text.toList =
      Decimal.digits size.width.toNat ++ 'x' :: Decimal.digits size.height.toNat := by
    simp [text, Decimal.text]
  rw [hText]
  exact .pair (side_digits h.1).padded (.inl rfl) (side_digits h.2).padded

/-- Both sides of a size are positive. -/
theorem Written.positive (h : Written s size) : size.width ≠ 0 ∧ size.height ≠ 0 := by
  cases h with
  | pair hWidth _ hHeight =>
      obtain ⟨_, _, _, -, -, -, -, hWide⟩ := hWidth
      obtain ⟨_, _, _, -, -, -, -, hHigh⟩ := hHeight
      exact ⟨hWide, hHigh⟩
  | square hSide =>
      obtain ⟨_, _, _, -, -, -, -, hPositive⟩ := hSide
      exact ⟨hPositive, hPositive⟩

/-- A text is read as a size if and only if the grammar says that it is this size.
Any other text is refused as a wrong format. The written form of a size is read as
that size, unless a side is zero. -/
theorem parse_grammar (text : String) (size : Size) :
    (parse text = .ok size ↔ Written text.toList size) ∧
      ((∀ other, ¬Written text.toList other) ↔
        ∃ f, parse text = .error f ∧ f.kind = .invalidFormat) ∧
      (parse size.text = .ok size ↔ size.width ≠ 0 ∧ size.height ≠ 0) := by
  refine ⟨parse_eq_ok, ?_, ?_⟩
  · constructor
    · intro hNone
      cases hParse : parse text with
      | error f => exact ⟨f, rfl, kind_of_parse hParse⟩
      | ok other => exact absurd (parse_eq_ok.mp hParse) (hNone other)
    · rintro ⟨f, hRefused, -⟩ other hWritten
      rw [parse_eq_ok.mpr hWritten] at hRefused
      exact nomatch hRefused
  · rw [parse_eq_ok]
    exact ⟨Written.positive, written_text⟩

end Iconsmith.Size
