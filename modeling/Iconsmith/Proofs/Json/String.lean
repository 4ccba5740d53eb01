import Iconsmith.Proofs.Json.Unambiguity

/-! A string is read if its units pair up, and skipped in any case. -/
namespace Iconsmith.Json

/-! ### Units and characters -/

theorem not_isLow_of_isHigh {u : Nat} (h : IsHigh u) : ¬IsLow u := by
  unfold IsHigh IsLow at *
  omega

/-- A character is no half of a pair. -/
theorem toNat_range (c : Char) : c.toNat < 0xD800 ∨ 0xDFFF < c.toNat ∧ c.toNat < 0x110000 :=
  c.valid

/-- A unit that is no half of a pair stands for its own character. -/
theorem decode_cons {u : Nat} (hHigh : ¬IsHigh u) (hLow : ¬IsLow u) (us : List Nat) :
    decode (u :: us) = (decode us).map (Char.ofNat u :: ·) := by
  cases us <;> simp [decode, hHigh, hLow]

/-- Two halves in the right order stand for one character. -/
theorem decode_pair {u v : Nat} (hHigh : IsHigh u) (hLow : IsLow v) (us : List Nat) :
    decode (u :: v :: us) = (decode us).map (pairOf u v :: ·) := by
  simp [decode, hHigh, hLow]

/-- The second half of a pair does not come first. -/
theorem decode_low {u : Nat} (hLow : IsLow u) (us : List Nat) : decode (u :: us) = none := by
  have hHigh : ¬IsHigh u := fun h => not_isLow_of_isHigh h hLow
  cases us <;> simp [decode, hHigh, hLow]

/-- The first half of a pair is followed by the second. -/
theorem exists_low_of_decode {u : Nat} {us : List Nat} {cs : List Char} (hHigh : IsHigh u)
    (h : decode (u :: us) = some cs) :
    ∃ v vs ds, us = v :: vs ∧ IsLow v ∧ decode vs = some ds ∧ cs = pairOf u v :: ds := by
  cases us with
  | nil => simp [decode, hHigh] at h
  | cons v vs =>
      by_cases hLow : IsLow v
      · rw [decode_pair hHigh hLow, Option.map_eq_some_iff] at h
        obtain ⟨ds, hds, rfl⟩ := h
        exact ⟨v, vs, ds, rfl, hLow, hds, rfl⟩
      · simp [decode, hHigh, hLow] at h

/-- The units of a character stand for it. -/
theorem decode_unitsOf (c : Char) (us : List Nat) :
    decode (unitsOf c ++ us) = (decode us).map (c :: ·) := by
  have hRange := toNat_range c
  unfold unitsOf
  split
  · next hSmall =>
      have hHigh : ¬IsHigh c.toNat := by unfold IsHigh; omega
      have hLow : ¬IsLow c.toNat := by unfold IsLow; omega
      rw [List.singleton_append, decode_cons hHigh hLow, Char.ofNat_toNat]
  · next hLarge =>
      have hHigh : IsHigh (0xD800 + (c.toNat - 0x10000) / 1024) := by unfold IsHigh; omega
      have hLow : IsLow (0xDC00 + (c.toNat - 0x10000) % 1024) := by unfold IsLow; omega
      have hPair : pairOf (0xD800 + (c.toNat - 0x10000) / 1024)
          (0xDC00 + (c.toNat - 0x10000) % 1024) = c := by
        rw [pairOf, ← Char.ofNat_toNat c]
        congr 1
        rw [Char.ofNat_toNat]
        omega
      rw [List.cons_append, List.singleton_append, decode_pair hHigh hLow, hPair]

/-- The units of a character do not start with the second half of a pair. -/
theorem not_isLow_of_unitsOf {c : Char} {v : Nat} {us vs : List Nat}
    (h : unitsOf c ++ us = v :: vs) : ¬IsLow v := by
  have hRange := toNat_range c
  unfold unitsOf at h
  split at h
  · obtain rfl := (List.cons.inj h).1
    unfold IsLow
    omega
  · obtain rfl := (List.cons.inj h).1
    exact not_isLow_of_isHigh (by unfold IsHigh; omega)

/-! ### Escapes -/

/-- Four digits of base sixteen are read as one unit. -/
theorem readHex_eq_ok {u : Nat} {s r : List Char} :
    readHex s = .ok (u, r) ↔ ∃ a b c d, s = a :: b :: c :: d :: r ∧ hexUnit? a b c d = some u := by
  unfold readHex
  split
  · next a b c d t =>
    have hUnit : (∃ a' b' c' d', a :: b :: c :: d :: t = a' :: b' :: c' :: d' :: r ∧
        hexUnit? a' b' c' d' = some u) ↔ t = r ∧ hexUnit? a b c d = some u := by
      constructor
      · rintro ⟨a', b', c', d', hEq, h⟩
        simp only [List.cons.injEq] at hEq
        obtain ⟨rfl, rfl, rfl, rfl, rfl⟩ := hEq
        exact ⟨rfl, h⟩
      · rintro ⟨rfl, h⟩
        exact ⟨a, b, c, d, rfl, h⟩
    rw [hUnit, hexUnit?]
    cases hexDigit? a <;> cases hexDigit? b <;> cases hexDigit? c <;> cases hexDigit? d <;>
      simp [and_comm]
  · next hShort =>
    have hNone : ¬∃ a b c d, s = a :: b :: c :: d :: r ∧ hexUnit? a b c d = some u :=
      fun ⟨a, b, c, d, hEq, _⟩ => hShort a b c d r hEq
    simp only [hNone, iff_false]
    split <;> simp

/-- An escape with a number gives the unit of that number. -/
theorem units_hex_iff {us : List Nat} {s r : List Char} :
    Units us ('\\' :: 'u' :: s) r ↔
      ∃ u vs t, readHex s = .ok (u, t) ∧ us = u :: vs ∧ Units vs t r := by
  simp only [readHex_eq_ok]
  constructor
  · intro h
    cases h with
    | plain _ hEscape _ _ => exact absurd rfl hEscape
    | simple he _ => simp [simpleEscape?] at he
    | hex hu h => exact ⟨_, _, _, ⟨_, _, _, _, rfl, hu⟩, rfl, h⟩
  · rintro ⟨u, vs, t, ⟨a, b, c, d, rfl, hu⟩, rfl, h⟩
    exact .hex hu h

/-- A short escape gives the unit of its character. -/
theorem units_simple_iff {e : Char} (he : e ≠ 'u') {us : List Nat} {s r : List Char} :
    Units us ('\\' :: e :: s) r ↔
      ∃ c vs, simpleEscape? e = some c ∧ us = c.toNat :: vs ∧ Units vs s r := by
  constructor
  · intro h
    cases h with
    | plain _ hEscape _ _ => exact absurd rfl hEscape
    | simple he h => exact ⟨_, _, he, rfl, h⟩
    | hex _ _ => exact absurd rfl he
  · rintro ⟨c, vs, he, rfl, h⟩
    exact .simple he h

/-- Any other character gives its own units, unless it is a control character. -/
theorem units_plain_iff {c : Char} (hQuote : c ≠ '"') (hEscape : c ≠ '\\') {us : List Nat}
    {s r : List Char} :
    Units us (c :: s) r ↔ 32 ≤ c.toNat ∧ ∃ vs, us = unitsOf c ++ vs ∧ Units vs s r := by
  constructor
  · intro h
    cases h with
    | close => exact absurd rfl hQuote
    | plain _ _ hControl h => exact ⟨hControl, _, rfl, h⟩
    | simple _ _ => exact absurd rfl hEscape
    | hex _ _ => exact absurd rfl hEscape
  · rintro ⟨hControl, vs, rfl, h⟩
    exact .plain hQuote hEscape hControl h

theorem units_close_iff {us : List Nat} {s r : List Char} :
    Units us ('"' :: s) r ↔ us = [] ∧ s = r := by
  constructor
  · intro h
    cases h with
    | close => exact ⟨rfl, rfl⟩
    | plain hQuote _ _ _ => exact absurd rfl hQuote
  · rintro ⟨rfl, rfl⟩
    exact .close

theorem not_units_nil {us : List Nat} {r : List Char} : ¬Units us [] r := nofun

theorem not_units_escape {us : List Nat} {r : List Char} : ¬Units us ['\\'] r := by
  intro h
  cases h with
  | plain _ hEscape _ _ => exact absurd rfl hEscape

/-- Short escapes stand for small characters. -/
theorem simpleEscape?_small {e c : Char} (h : simpleEscape? e = some c) : c.toNat < 128 := by
  unfold simpleEscape? at h
  split at h
  case h_9 => exact nomatch h
  all_goals
    obtain rfl := Option.some.inj h
    decide

/-- The second half of a pair is always an escape. -/
theorem Units.exists_hex {v : Nat} {vs : List Nat} {s r : List Char} (hLow : IsLow v)
    (h : Units (v :: vs) s r) :
    ∃ t t', s = '\\' :: 'u' :: t ∧ readHex t = .ok (v, t') ∧ Units vs t' r := by
  generalize hUnits : v :: vs = us at h
  cases h with
  | close => exact nomatch hUnits
  | plain _ _ _ _ => exact absurd hLow (not_isLow_of_unitsOf hUnits.symm)
  | simple he _ =>
      have hSmall := simpleEscape?_small he
      obtain rfl := (List.cons.inj hUnits).1
      unfold IsLow at hLow
      omega
  | hex hu h =>
      obtain ⟨rfl, rfl⟩ := List.cons.inj hUnits
      exact ⟨_, _, rfl, readHex_eq_ok.mpr ⟨_, _, _, _, rfl, hu⟩, h⟩

/-- Behind a first half the second one must be escaped too. -/
theorem readLowSurrogate_eq_ok {u : Nat} {c : Char} {s r : List Char} :
    readLowSurrogate u s = .ok (c, r) ↔
      ∃ t v, s = '\\' :: 'u' :: t ∧ readHex t = .ok (v, r) ∧ IsLow v ∧ c = pairOf u v := by
  unfold readLowSurrogate
  split
  · simp
  · simp
  · next t =>
    simp only [List.cons.injEq, true_and, exists_and_left, exists_eq_left']
    cases readHex t with
    | error f => simp
    | ok low =>
        obtain ⟨v, t'⟩ := low
        simp only [pairOf]
        split
        · next h =>
            have hLow : ¬IsLow v := by unfold IsLow; omega
            simp only [reduceCtorEq, Except.ok.injEq, Prod.mk.injEq, false_iff]
            rintro ⟨v, ⟨rfl, -⟩, hLow', -⟩
            exact hLow hLow'
        · next h =>
            have hLow : IsLow v := by unfold IsLow; omega
            simp only [Except.ok.injEq, Prod.mk.injEq]
            constructor
            · rintro ⟨rfl, rfl⟩
              exact ⟨v, ⟨rfl, rfl⟩, hLow, rfl⟩
            · rintro ⟨v, ⟨rfl, rfl⟩, -, hc⟩
              exact ⟨hc.symm, rfl⟩
  · next t hNil hUnit =>
    constructor
    · exact nofun
    · rintro ⟨t', v, hEq, -⟩
      simp only [List.cons.injEq, true_and] at hEq
      exact (hUnit t' hEq).elim
  · next hNil hLone hUnit hEscape =>
    constructor
    · exact nofun
    · rintro ⟨t, v, rfl, -⟩
      exact absurd rfl (hUnit _)

/-! ### Reading -/

/-- The characters of a string and the text behind its opening quote. -/
def Chars (cs s r : List Char) : Prop := ∃ us, Units us s r ∧ decode us = some cs

theorem chars_close_iff {cs s r : List Char} : Chars cs ('"' :: s) r ↔ cs = [] ∧ s = r := by
  constructor
  · rintro ⟨us, hUnits, hDecode⟩
    obtain ⟨rfl, rfl⟩ := units_close_iff.mp hUnits
    exact ⟨(Option.some.inj hDecode).symm, rfl⟩
  · rintro ⟨rfl, rfl⟩
    exact ⟨[], .close, rfl⟩

theorem chars_plain_iff {c : Char} (hQuote : c ≠ '"') (hEscape : c ≠ '\\') {cs s r : List Char} :
    Chars cs (c :: s) r ↔ 32 ≤ c.toNat ∧ ∃ ds, cs = c :: ds ∧ Chars ds s r := by
  simp only [Chars, units_plain_iff hQuote hEscape]
  constructor
  · rintro ⟨us, ⟨hControl, vs, rfl, hUnits⟩, hDecode⟩
    rw [decode_unitsOf, Option.map_eq_some_iff] at hDecode
    obtain ⟨ds, hDecode, rfl⟩ := hDecode
    exact ⟨hControl, ds, rfl, vs, hUnits, hDecode⟩
  · rintro ⟨hControl, ds, rfl, vs, hUnits, hDecode⟩
    exact ⟨unitsOf c ++ vs, ⟨hControl, vs, rfl, hUnits⟩, by rw [decode_unitsOf, hDecode]; rfl⟩

/-- A unit that is escaped is a character, the first half of one, or a fault. -/
theorem readEscape_unit {u : Nat} {s t : List Char} (h : readHex s = .ok (u, t)) :
    readEscape ('u' :: s) =
      if IsLow u then .error (.here .loneSurrogate t)
      else if IsHigh u then readLowSurrogate u t
      else .ok (Char.ofNat u, t) := by
  simp only [readEscape, h, IsLow, IsHigh]

/-- An escaped unit gives a character, by itself or together with a second one. -/
theorem chars_hex_iff {cs s r : List Char} :
    Chars cs ('\\' :: 'u' :: s) r ↔
      ∃ c t ds, readEscape ('u' :: s) = .ok (c, t) ∧ cs = c :: ds ∧ Chars ds t r := by
  constructor
  · rintro ⟨us, hUnits, hDecode⟩
    obtain ⟨u, vs, t, hHex, rfl, hMore⟩ := units_hex_iff.mp hUnits
    have hLow : ¬IsLow u := fun hLow => nomatch (decode_low hLow vs).symm.trans hDecode
    rw [readEscape_unit hHex, if_neg hLow]
    -- A first half of a pair means nothing without its second one, which is escaped as well.
    by_cases hHigh : IsHigh u
    · obtain ⟨v, ws, ds, rfl, hLow, hRest, rfl⟩ := exists_low_of_decode hHigh hDecode
      obtain ⟨t', t'', rfl, hHex', hEnd⟩ := hMore.exists_hex hLow
      rw [if_pos hHigh]
      exact ⟨_, t'', ds, readLowSurrogate_eq_ok.mpr ⟨t', v, rfl, hHex', hLow, rfl⟩, rfl,
        ws, hEnd, hRest⟩
    · rw [decode_cons hHigh hLow, Option.map_eq_some_iff] at hDecode
      obtain ⟨ds, hDecode, rfl⟩ := hDecode
      rw [if_neg hHigh]
      exact ⟨_, t, ds, rfl, rfl, vs, hMore, hDecode⟩
  · rintro ⟨c, t, ds, hEscape, rfl, vs, hUnits, hDecode⟩
    cases hHex : readHex s with
    | error f => simp [readEscape, hHex] at hEscape
    | ok read =>
        obtain ⟨u, t'⟩ := read
        rw [readEscape_unit hHex] at hEscape
        split at hEscape
        · exact nomatch hEscape
        · next hLow =>
          split at hEscape
          · next hHigh =>
            obtain ⟨t', v, rfl, hHex', hLow', hc⟩ := readLowSurrogate_eq_ok.mp hEscape
            have hMore := units_hex_iff.mpr ⟨v, vs, t, hHex', rfl, hUnits⟩
            exact ⟨u :: v :: vs, units_hex_iff.mpr ⟨u, v :: vs, _, hHex, rfl, hMore⟩,
              by rw [decode_pair hHigh hLow', hDecode, hc, Option.map_some]⟩
          · next hHigh =>
            simp only [Except.ok.injEq, Prod.mk.injEq] at hEscape
            obtain ⟨rfl, rfl⟩ := hEscape
            exact ⟨u :: vs, units_hex_iff.mpr ⟨u, vs, t', hHex, rfl, hUnits⟩,
              by rw [decode_cons hHigh hLow, hDecode]; rfl⟩

/-- A short escape is read as its character. -/
theorem chars_simple_iff {e : Char} (he : e ≠ 'u') {cs s r : List Char} :
    Chars cs ('\\' :: e :: s) r ↔
      ∃ c t ds, readEscape (e :: s) = .ok (c, t) ∧ cs = c :: ds ∧ Chars ds t r := by
  have hEscape (c : Char) (t : List Char) :
      readEscape (e :: s) = .ok (c, t) ↔ simpleEscape? e = some c ∧ s = t := by
    simp only [readEscape]
    cases simpleEscape? e <;> simp
  have hDecode (c : Char) (hc : simpleEscape? e = some c) (us : List Nat) :
      decode (c.toNat :: us) = (decode us).map (c :: ·) := by
    have hSmall := simpleEscape?_small hc
    rw [decode_cons (by unfold IsHigh; omega) (by unfold IsLow; omega), Char.ofNat_toNat]
  simp only [hEscape]
  constructor
  · rintro ⟨us, hUnits, hCs⟩
    obtain ⟨c, vs, hc, rfl, hMore⟩ := (units_simple_iff he).mp hUnits
    rw [hDecode c hc, Option.map_eq_some_iff] at hCs
    obtain ⟨ds, hDs, rfl⟩ := hCs
    exact ⟨c, s, ds, ⟨hc, rfl⟩, rfl, vs, hMore, hDs⟩
  · rintro ⟨c, t, ds, ⟨hc, rfl⟩, rfl, vs, hUnits, hDs⟩
    exact ⟨_, (units_simple_iff he).mpr ⟨c, vs, hc, rfl, hUnits⟩, by rw [hDecode c hc, hDs]; rfl⟩

/-- An escape gives one character. -/
theorem chars_escape_iff {cs s r : List Char} :
    Chars cs ('\\' :: s) r ↔
      ∃ c t ds, readEscape s = .ok (c, t) ∧ cs = c :: ds ∧ Chars ds t r := by
  cases s with
  | nil => simp [readEscape, Chars, not_units_escape]
  | cons e s =>
      by_cases he : e = 'u'
      · exact he ▸ chars_hex_iff
      · exact chars_simple_iff he

/-- A string is read if its units stand for characters. -/
theorem readStringFrom_eq_ok {read cs s r : List Char} :
    readStringFrom read s = .ok (cs, r) ↔ ∃ ds, cs = read.reverse ++ ds ∧ Chars ds s r := by
  fun_induction readStringFrom read s with
  | case1 read => simp [Chars, not_units_nil]
  | case2 read s => simp [chars_close_iff, eq_comm]
  | case3 read s f hEscape => simp [chars_escape_iff, hEscape]
  | case4 read s c t hEscape ih =>
      rw [ih]
      simp only [chars_escape_iff, hEscape, Except.ok.injEq, Prod.mk.injEq]
      constructor
      · rintro ⟨ds, rfl, h⟩
        exact ⟨c :: ds, by simp, c, t, ds, ⟨rfl, rfl⟩, rfl, h⟩
      · rintro ⟨_, rfl, _, _, ds, ⟨rfl, rfl⟩, rfl, h⟩
        exact ⟨ds, by simp, h⟩
  | case5 read c s hQuote hEscape hControl =>
      simp [chars_plain_iff hQuote hEscape, Nat.not_le.mpr hControl]
  | case6 read c s hQuote hEscape hControl ih =>
      rw [ih]
      simp only [chars_plain_iff hQuote hEscape, Nat.not_lt.mp hControl, true_and]
      constructor
      · rintro ⟨ds, rfl, h⟩
        exact ⟨c :: ds, by simp, ds, rfl, h⟩
      · rintro ⟨_, rfl, ds, rfl, h⟩
        exact ⟨ds, by simp, h⟩

/-- A string is read if it is written there and its units pair up. -/
theorem readString_eq_ok {cs s r : List Char} : readString s = .ok (cs, r) ↔ Chars cs s r := by
  rw [readString, readStringFrom_eq_ok]
  simp

/-! ### Plain texts -/

/-- A text without characters that need an escape. -/
def Plain (t : String) : Prop := ∀ c ∈ t.toList, c ≠ '"' ∧ c ≠ '\\' ∧ 32 ≤ c.toNat

instance (t : String) : Decidable (Plain t) := List.decidableBAll _ t.toList

/-- The units of a text. -/
def units (t : String) : List Nat := t.toList.flatMap unitsOf

/-- The units of a text stand for the text. -/
theorem decode_units (t : String) : decode (units t) = some t.toList := by
  unfold units
  induction t.toList with
  | nil => rfl
  | cons c cs ih => rw [List.flatMap_cons, decode_unitsOf, ih, Option.map_some]

/-- A plain text can be written between quotes as it is. -/
theorem units_of_plain {t : String} (h : Plain t) (r : List Char) :
    Units (units t) (t.toList ++ '"' :: r) r := by
  unfold Plain at h
  unfold units
  generalize t.toList = cs at h ⊢
  induction cs with
  | nil => exact .close
  | cons c cs ih =>
      obtain ⟨hQuote, hEscape, hControl⟩ := h c (by simp)
      exact .plain hQuote hEscape hControl (ih fun c hc => h c (by simp [hc]))

/-! ### Skipping -/

/-- A string is skipped whatever its units are. -/
theorem skipString_eq_ok {s r : List Char} : skipString s = .ok r ↔ ∃ us, Units us s r := by
  fun_induction skipString s with
  | case1 => simp [not_units_nil]
  | case2 s => simp [units_close_iff]
  | case3 => simp [not_units_escape]
  | case4 s f hHex => simp [units_hex_iff, hHex]
  | case5 s u t hHex ih => simp [ih, units_hex_iff, hHex]
  | case6 e s he hEscape ih =>
      obtain ⟨c, hc⟩ := Option.isSome_iff_exists.mp hEscape
      simp [ih, units_simple_iff he, hc]
  | case7 e s he hEscape =>
      simp [units_simple_iff he, Option.not_isSome_iff_eq_none.mp hEscape]
  | case8 c s hQuote hLone _ hPair hControl =>
      have hEscape : c ≠ '\\' := fun h => by cases s <;> simp [h] at hLone hPair
      simp [units_plain_iff hQuote hEscape, Nat.not_le.mpr hControl]
  | case9 c s hQuote hLone _ hPair hControl ih =>
      have hEscape : c ≠ '\\' := fun h => by cases s <;> simp [h] at hLone hPair
      simp [ih, units_plain_iff hQuote hEscape, Nat.not_lt.mp hControl]

end Iconsmith.Json
