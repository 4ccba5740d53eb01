import Iconsmith.Files.Path

/-! Paths and the paths of their parents. The components of the parent start
those of the path and leave out at least the last one, so whatever is done on
the way to the parent is done on the way to the path. -/
namespace Iconsmith.Files

/-- The components of a path that is given by its characters. -/
def parts (path : List Char) : List (List Char) :=
  (path.splitOn '/').filter fun c => !c.isEmpty

/-- The components of a path are the texts of its parts. -/
theorem components_eq (path : String) :
    components path = (parts path.toList).map String.ofList := by
  simp [components, parts]

/-- A slash parts what stands before it from what stands behind it. -/
theorem parts_append (before after : List Char) :
    parts (before ++ '/' :: after) = parts before ++ parts after := by
  rw [parts, List.splitOn_append_cons_self, List.filter_append]
  rfl

theorem parts_nil : parts [] = [] := rfl

theorem parts_name {name : List Char} (hName : name ≠ []) (hSlash : '/' ∉ name) :
    parts name = [name] := by
  simp [parts, List.splitOn_eq_singleton hSlash, hName]

/-- Trimming the end of a path drops slashes and dots. -/
theorem parts_trimEnd (s : List Char) :
    ∃ dots, parts s.reverse = parts (trimEnd s).reverse ++ dots ∧ ∀ d ∈ dots, d = ['.'] := by
  fun_induction trimEnd s with
  | case1 => exact ⟨[], rfl, by simp⟩
  | case2 rest _ ih =>
      obtain ⟨dots, hParts, hDots⟩ := ih
      exact ⟨dots, by simp [parts_append, parts_nil, hParts], hDots⟩
  | case3 => exact ⟨[['.']], rfl, by simp⟩
  | case4 rest _ ih =>
      obtain ⟨dots, hParts, hDots⟩ := ih
      have hDot : parts ['.'] = [['.']] := rfl
      refine ⟨dots ++ [['.']], by simp [parts_append, hDot, hParts], ?_⟩
      simpa using fun d hd => hd.elim (hDots d) id
  | case5 s => exact ⟨[], by simp, by simp⟩

theorem trimEnd_trimEnd (s : List Char) : trimEnd (trimEnd s) = trimEnd s := by
  fun_induction trimEnd s with
  | case1 => rfl
  | case2 rest _ ih => exact ih
  | case3 => rfl
  | case4 rest _ ih => exact ih
  | case5 s hRoot hSlash hDotRoot hDot => exact trimEnd.eq_5 s hRoot hSlash hDotRoot hDot

/-- What is left when the end of a path is trimmed starts like the path. -/
theorem getLast?_trimEnd (s : List Char) : (trimEnd s).getLast? = s.getLast? := by
  fun_induction trimEnd s with
  | case1 => rfl
  | case2 rest hRest ih =>
      cases rest with
      | nil => exact absurd rfl hRest
      | cons c rest => exact ih
  | case3 => rfl
  | case4 rest hRest ih =>
      cases rest with
      | nil => exact absurd rfl hRest
      | cons c rest => exact ih
  | case5 s => rfl

/-- A slash is left at the end only where it is all that is left. -/
theorem trimEnd_eq_root {s rest : List Char} (h : trimEnd s = '/' :: rest) : rest = [] := by
  fun_induction trimEnd s with
  | case1 => exact (List.cons.inj h).2.symm
  | case2 rest _ ih => exact ih h
  | case3 => exact (List.cons.inj h).2.symm
  | case4 rest _ ih => exact ih h
  | case5 s _ hSlash => exact absurd h (hSlash rest)

theorem isAbsolute_eq (path : String) :
    isAbsolute path = (path.toList.reverse.getLast? == some '/') := by
  simp [isAbsolute]

/-- A path without anything at its end that trimming drops. -/
def IsTrimmed (path : String) : Prop := trimEnd path.toList.reverse = path.toList.reverse

theorem isTrimmed_of_parent? {path above : String} (h : parent? path = some above) :
    IsTrimmed above := by
  unfold parent? at h
  dsimp only at h
  split at h
  · simp at h
  · obtain rfl := Option.some.inj h
    simp [IsTrimmed, trimEnd_trimEnd]

/-- In front of the last name of a path there is nothing or a slash, and the
parent is what is in front of the name. -/
theorem exists_name_of_parent? {path above : String} (h : parent? path = some above) :
    ∃ name up, trimEnd path.toList.reverse = name ++ up ∧ name ≠ [] ∧ '/' ∉ name ∧
      (up = [] ∨ ∃ rest, up = '/' :: rest) ∧ above = String.ofList (trimEnd up).reverse := by
  have hRoot := @trimEnd_eq_root path.toList.reverse
  unfold parent? at h
  generalize trimEnd path.toList.reverse = s at h hRoot ⊢
  dsimp only at h
  split at h
  · simp at h
  next hSome =>
  have hSplit := List.takeWhile_append_dropWhile (p := (· != '/')) (l := s)
  have hHead := List.head?_dropWhile_not (· != '/') s
  have hUp : s.dropWhile (· != '/') = [] ∨ ∃ rest, s.dropWhile (· != '/') = '/' :: rest := by
    cases hDrop : s.dropWhile (· != '/') with
    | nil => exact Or.inl rfl
    | cons c rest =>
        obtain rfl : c = '/' := by simpa [hDrop] using hHead
        exact Or.inr ⟨rest, rfl⟩
  refine ⟨_, _, hSplit.symm, fun hName => ?_, fun hMem => ?_, hUp, (Option.some.inj h).symm⟩
  · rw [hName, List.nil_append] at hSplit
    obtain hUp | ⟨rest, hUp⟩ := hUp
    · simp [hSplit.symm.trans hUp] at hSome
    · have hSlash : s = '/' :: rest := hSplit.symm.trans hUp
      simp [hSlash, hRoot hSlash] at hSome
  · simpa using List.all_eq_true.mp List.all_takeWhile _ hMem

/-- A path goes on from its parent with one more component and perhaps dots, and
starts where the parent starts. -/
theorem components_parent? {path above : String} (h : parent? path = some above) :
    (∃ dots name more, components path = components above ++ (dots ++ name :: more) ∧
      (∀ d ∈ dots, d = ".") ∧ (IsTrimmed path → more = [])) ∧
      isAbsolute above = isAbsolute path := by
  obtain ⟨name, up, hSplit, hName, hSlash, hUp, rfl⟩ := exists_name_of_parent? h
  obtain ⟨more, hParts, -⟩ := parts_trimEnd path.toList.reverse
  have hMore : IsTrimmed path → more.map String.ofList = [] := by
    intro hTrim
    rw [hTrim] at hParts
    simpa using hParts
  have hStart := getLast?_trimEnd path.toList.reverse
  have hNameParts : parts name.reverse = [name.reverse] :=
    parts_name (by simpa using hName) (by simpa using hSlash)
  rw [hSplit] at hParts hStart
  rw [List.reverse_reverse] at hParts
  simp only [components_eq, isAbsolute_eq, String.toList_ofList, List.reverse_reverse,
    getLast?_trimEnd, ← hStart]
  obtain rfl | ⟨rest, rfl⟩ := hUp
  · refine ⟨⟨[], String.ofList name.reverse, _, ?_, by simp, hMore⟩, ?_⟩
    · rw [hParts, List.append_nil, hNameParts]
      rfl
    · rw [List.append_nil, Bool.eq_iff_iff]
      simpa using fun hLast => hSlash (List.mem_of_getLast? hLast)
  · obtain ⟨dots, hUp, hDots⟩ := parts_trimEnd ('/' :: rest)
    rw [List.reverse_cons, parts_append, parts_nil, List.append_nil] at hUp
    refine ⟨⟨dots.map String.ofList, String.ofList name.reverse, _, ?_, ?_, hMore⟩, ?_⟩
    · rw [hParts, List.reverse_append, List.reverse_cons, List.append_assoc,
        List.singleton_append, parts_append, hUp, hNameParts]
      simp
    · rintro d hd
      obtain ⟨dot, hDot, rfl⟩ := List.mem_map.mp hd
      rw [hDots dot hDot]
    · simp [List.getLast?_cons]

/-- No component of the parent is new. -/
theorem mem_components_of_parent? {path above c : String} (h : parent? path = some above)
    (hc : c ∈ components above) : c ∈ components path := by
  obtain ⟨⟨dots, name, more, hComponents, -⟩, -⟩ := components_parent? h
  exact hComponents ▸ List.mem_append_left _ hc

end Iconsmith.Files
