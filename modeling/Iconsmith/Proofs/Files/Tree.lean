import Iconsmith.Files.Tree
import Iconsmith.Proofs.Files.Path

/-! What the operations on a tree do to it, place by place. A path that leads
somewhere leads to the place that its components spell, so the places that an
operation can touch are known without the tree. -/
namespace Iconsmith.Files

/-- Where components lead from a place if nothing is in the way. -/
def Place.follow (start : Place) : List String → Place
  | [] => start
  | c :: rest =>
    if c = "." then follow start rest
    else if c = ".." then follow start.dropLast rest
    else follow (start ++ [c]) rest

/-- Components are followed one after another. -/
theorem Place.follow_append (start : Place) (cs ds : List String) :
    follow start (cs ++ ds) = follow (follow start cs) ds := by
  fun_induction follow start cs with
  | case1 => rfl
  | case2 start rest ih => simpa [follow] using ih
  | case3 start rest _ ih => simpa [follow] using ih
  | case4 start c rest hDot hDots ih => simpa [follow, hDot, hDots] using ih

namespace Tree

variable {t t' : Tree} {path : String} {p q : Place}

/-- An insertion is seen at its own place only. -/
theorem find?_insert (t : Tree) (hp : p ≠ []) (e : Entry) (q : Place) :
    (t.insert p e).find? q = if q = p then some e else t.find? q := by
  unfold find? insert
  by_cases hRoot : q = []
  · have hNe : [] ≠ p := Ne.symm hp
    simp [hRoot, hNe]
  by_cases hSame : q = p
  · subst hSame
    simp [hRoot]
  · have hNe : (p == q) = false := by simpa using Ne.symm hSame
    have hKept : (t.entries.filter fun x => x.1 != p).find? (fun x => x.1 == q) =
        t.entries.find? fun x => x.1 == q := by
      rw [List.find?_filter]
      congr 1
      funext x
      by_cases hx : x.1 = q
      · simp [hx, hSame]
      · simp [hx]
    simp [hRoot, hSame, hNe, hKept]

/-- Every component of a walk is looked at in a directory. -/
theorem walk_eq_ok {start : Place} {cs : List String} (h : t.walk start cs = .ok p) :
    p = Place.follow start cs := by
  fun_induction walk t start cs with
  | case1 => exact (Except.ok.inj h).symm
  | case4 start rest _ ih => simpa [Place.follow] using ih h
  | case5 start rest _ _ ih => simpa [Place.follow] using ih h
  | case8 start c rest _ hDot hDots _ _ _ ih => simpa [Place.follow, hDot, hDots] using ih h
  | _ => simp at h

/-- Where a path leads if everything on the way to it is a directory. -/
def destination (t : Tree) (path : String) : Place :=
  Place.follow (t.origin path) (components path)

/-- A target is the last component of its path, in a directory that the others
lead to. -/
structure Targets (t : Tree) (path : String) (dir : Place) (name : String) : Prop where
  admitted : refusal? path = none
  components_eq : ∃ before, components path = before ++ [name] ∧
    t.walk (t.origin path) before = .ok dir
  find?_dir : t.find? dir = some .directory
  ne_dot : name ≠ "."
  ne_dots : name ≠ ".."
  size_le : name.utf8ByteSize ≤ 255

theorem target_eq_ok (h : t.target path = .ok (some p)) :
    ∃ dir name, p = dir ++ [name] ∧ t.Targets path dir name := by
  unfold target at h
  split at h
  · simp at h
  · simp at h
  · next hAdmitted hComponents =>
    split at h
    · simp at h
    · next hWalk =>
      split at h
      · simp at h
      · simp at h
      · next hDir =>
        split at h
        · simp at h
        · next hName =>
          split at h
          · simp at h
          · next hSize =>
            rw [not_or] at hName
            rw [List.reverse_eq_cons_iff] at hComponents
            exact ⟨_, _, (Option.some.inj (Except.ok.inj h)).symm, hAdmitted,
              ⟨_, hComponents, hWalk⟩, hDir, hName.1, hName.2, Nat.le_of_not_lt hSize⟩

theorem Targets.destination_eq {dir : Place} {name : String} (h : t.Targets path dir name) :
    t.destination path = dir ++ [name] := by
  obtain ⟨before, hComponents, hWalk⟩ := h.components_eq
  rw [destination, hComponents, Place.follow_append, ← walk_eq_ok hWalk]
  simp [Place.follow, h.ne_dot, h.ne_dots]

/-- A file is written at the destination of its path, where no directory stood. -/
theorem write_eq_ok {content : ByteArray} (h : t.write path content = .ok t') :
    ∃ dir name, t.Targets path dir name ∧ endsInSlash path = false ∧
      t.find? (dir ++ [name]) ≠ some .directory ∧
      t' = t.insert (dir ++ [name]) (.file content) := by
  unfold write at h
  split at h
  · simp at h
  · simp at h
  · next hTarget =>
    obtain ⟨dir, name, rfl, hTargets⟩ := target_eq_ok hTarget
    split at h
    · simp at h
    · next hSlash =>
      split at h
      · simp at h
      · next hFree =>
        exact ⟨dir, name, hTargets, by simpa using hSlash, fun hDir => hFree hDir,
          (Except.ok.inj h).symm⟩

/-- A directory is created at the destination of its path, where nothing stood. -/
theorem createDirectory_eq_ok (h : t.createDirectory path = .ok t') :
    ∃ dir name, t.Targets path dir name ∧ t.find? (dir ++ [name]) = none ∧
      t' = t.insert (dir ++ [name]) .directory := by
  unfold createDirectory at h
  split at h
  · simp at h
  · simp at h
  · next hTarget =>
    obtain ⟨dir, name, rfl, hTargets⟩ := target_eq_ok hTarget
    split at h
    · simp at h
    · next hFree => exact ⟨dir, name, hTargets, hFree, (Except.ok.inj h).symm⟩

theorem walk_append {start dir : Place} {cs : List String} (h : t.walk start cs = .ok dir)
    (ds : List String) : t.walk start (cs ++ ds) = t.walk dir ds := by
  fun_induction walk t start cs with
  | case1 =>
      obtain rfl := Except.ok.inj h
      rfl
  | case4 start rest hStart ih => simpa [walk, hStart] using ih h
  | case5 start rest hStart _ ih => simpa [walk, hStart] using ih h
  | case8 start c rest hStart hDot hDots hSize entry hNext ih =>
      simpa [walk, hStart, hDot, hDots, hSize, hNext] using ih h
  | _ => simp at h

/-- The components in front lead somewhere if all of them do. -/
theorem walk_of_walk_append {start : Place} {cs ds : List String}
    (h : t.walk start (cs ++ ds) = .ok p) : ∃ dir, t.walk start cs = .ok dir := by
  induction cs generalizing start with
  | nil => exact ⟨start, rfl⟩
  | cons c rest ih =>
      rw [List.cons_append, walk] at h
      rw [walk]
      split at h
      · simp at h
      · simp at h
      · split at h
        · next hDot => simpa [hDot] using ih h
        · next hDot =>
          split at h
          · next hDots => simpa [hDots] using ih h
          · next hDots =>
            split at h
            · simp at h
            · next hSize =>
              split at h
              · simp at h
              · next hNext => simpa [hDot, hDots, hSize, hNext] using ih h

/-- What can be reached can still be reached in a tree with the same directories
in which nothing is missing. -/
theorem walk_mono (hDirectory : ∀ q, t.find? q = some .directory → t'.find? q = some .directory)
    (hThere : ∀ q e, t.find? q = some e → ∃ e', t'.find? q = some e') {start dir : Place}
    {cs : List String} (h : t.walk start cs = .ok dir) : t'.walk start cs = .ok dir := by
  fun_induction walk t start cs with
  | case1 => exact h
  | case4 start rest hStart ih => simpa [walk, hDirectory _ hStart] using ih h
  | case5 start rest hStart _ ih => simpa [walk, hDirectory _ hStart] using ih h
  | case8 start c rest hStart hDot hDots hSize e hNext ih =>
      obtain ⟨e', hNext'⟩ := hThere _ e hNext
      simpa [walk, hDirectory _ hStart, hDot, hDots, hSize, hNext'] using ih h
  | _ => simp at h

/-- What is put where no directory stood is in nobody's way. -/
theorem walk_insert (hp : p ≠ []) (hFree : t.find? p ≠ some .directory) (e : Entry)
    {start dir : Place} {cs : List String} (h : t.walk start cs = .ok dir) :
    (t.insert p e).walk start cs = .ok dir := by
  refine walk_mono (fun q hq => ?_) (fun q e' hq => ?_) h
  · rw [find?_insert t hp, if_neg (fun hEq : q = p => hFree (hEq ▸ hq)), hq]
  · rw [find?_insert t hp]
    split
    · exact ⟨e, rfl⟩
    · exact ⟨e', hq⟩

section Targets

variable {dir : Place} {name : String}

/-- A target that is there is what its path leads to. -/
theorem Targets.walk_eq (h : t.Targets path dir name) {e : Entry}
    (hFound : t.find? (dir ++ [name]) = some e) :
    t.walk (t.origin path) (components path) = .ok (dir ++ [name]) := by
  obtain ⟨before, hComponents, hWalk⟩ := h.components_eq
  rw [hComponents, walk_append hWalk]
  simp [walk, h.find?_dir, h.ne_dot, h.ne_dots, Nat.not_lt.mpr h.size_le, hFound]

/-- A target stays one when something is put there that is not in the way. -/
theorem Targets.insert (h : t.Targets path dir name)
    (hFree : t.find? (dir ++ [name]) ≠ some .directory) (e : Entry) :
    (t.insert (dir ++ [name]) e).Targets path dir name := by
  obtain ⟨before, hComponents, hWalk⟩ := h.components_eq
  have hPlace : dir ++ [name] ≠ [] := by simp
  refine ⟨h.admitted, ⟨before, hComponents, walk_insert hPlace hFree e hWalk⟩, ?_, h.ne_dot,
    h.ne_dots, h.size_le⟩
  rw [find?_insert t hPlace, if_neg (by simp), h.find?_dir]

theorem Targets.target_eq (h : t.Targets path dir name) :
    t.target path = .ok (some (dir ++ [name])) := by
  obtain ⟨before, hComponents, hWalk⟩ := h.components_eq
  have hReverse : (components path).reverse = name :: before.reverse := by simp [hComponents]
  simp [target, h.admitted, hReverse, hWalk, h.find?_dir, h.ne_dot, h.ne_dots,
    Nat.not_lt.mpr h.size_le]

end Targets

/-- A file that was written is read as it was written. -/
theorem read_write {content : ByteArray} (h : t.write path content = .ok t') :
    t'.read path = .ok content := by
  obtain ⟨dir, name, hTargets, hSlash, hFree, rfl⟩ := write_eq_ok h
  have hFound := find?_insert t (p := dir ++ [name]) (by simp) (.file content) (dir ++ [name])
  rw [if_pos rfl] at hFound
  have hWalk := (hTargets.insert hFree (.file content)).walk_eq hFound
  simp [read, locate, hTargets.admitted, hWalk, hFound, hSlash]

/-- An entry that is found stands at the end of the way that the path goes. -/
theorem locate_eq_ok {e : Entry} (h : t.locate path = .ok (p, e)) :
    refusal? path = none ∧ t.walk (t.origin path) (components path) = .ok p ∧
      t.find? p = some e := by
  unfold locate at h
  split at h
  · simp at h
  · next hAdmitted =>
    split at h
    · simp at h
    · next q hWalk =>
      split at h
      · simp at h
      · next hFound =>
        split at h
        · simp at h
        · simp only [Except.ok.injEq, Prod.mk.injEq] at h
          obtain ⟨rfl, rfl⟩ := h
          exact ⟨hAdmitted, hWalk, hFound⟩
      · next hFound =>
        simp only [Except.ok.injEq, Prod.mk.injEq] at h
        obtain ⟨rfl, rfl⟩ := h
        exact ⟨hAdmitted, hWalk, hFound⟩

/-- Where something exists no directory is created. -/
theorem createDirectory_of_locate {e : Entry} (h : t.locate path = .ok (p, e)) :
    t.createDirectory path = .error .alreadyExists := by
  obtain ⟨hAdmitted, hWalk, hFound⟩ := locate_eq_ok h
  obtain hNil | ⟨before, c, hComponents⟩ := List.eq_nil_or_concat (components path)
  · simp [createDirectory, target, hAdmitted, hNil]
  · rw [List.concat_eq_append] at hComponents
    rw [hComponents] at hWalk
    obtain ⟨dir, hDir⟩ := walk_of_walk_append hWalk
    rw [walk_append hDir, walk] at hWalk
    unfold createDirectory target
    rw [hAdmitted, hComponents, List.reverse_append, List.reverse_singleton,
      List.singleton_append]
    simp only [List.reverse_reverse, hDir]
    split at hWalk
    · simp at hWalk
    · simp at hWalk
    · next hHere =>
      split at hWalk
      · next hDot => simp [hDot]
      · next hDot =>
        split at hWalk
        · next hDots => simp [hDots]
        · next hDots =>
          split at hWalk
          · simp at hWalk
          · next hSize =>
            split at hWalk
            · simp at hWalk
            · next hNext => simp [hDot, hDots, hSize, hNext]

/-- A directory that exists is not created again. -/
theorem createAll_of_isDirectory (h : t.isDirectory path = true) :
    t.createAll path = (t, none) := by
  have hCreate : t.createDirectory path = .error .alreadyExists := by
    unfold isDirectory at h
    split at h
    · next hLocated => exact createDirectory_of_locate hLocated
    · simp at h
  unfold createAll
  rw [createDirectories.eq_def]
  simp [hCreate, h]

/-- A file is only new at a place that was free. -/
theorem find?_destination_of_absent {content : ByteArray} (hAbsent : t.exists? path = false)
    (hWrite : t.write path content = .ok t') : t.find? (t.destination path) = none := by
  obtain ⟨dir, name, hTargets, hSlash, -, -⟩ := write_eq_ok hWrite
  rw [hTargets.destination_eq]
  cases hFind : t.find? (dir ++ [name]) with
  | none => rfl
  | some e =>
      have hEnd := hTargets.walk_eq hFind
      cases e <;> simp [exists?, locate, hTargets.admitted, hEnd, hFind, hSlash] at hAbsent

end Tree
end Iconsmith.Files
