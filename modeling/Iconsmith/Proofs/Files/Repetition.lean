import Iconsmith.Proofs.Files.Agreement

/-! Doing again what was done to a tree. Directories that were created are there,
and a file that was written is written once more without a difference. Where
creating directories is refused after some were created, it is refused again for
the same reason; this needs that nothing stands outside of a directory, and that
the path does not go up. -/
namespace Iconsmith.Files

/-- A directory that is there after growing was there before, or nothing was. -/
theorem Grows.old_or_new {t t' : Tree} {near : Place → Prop} (h : Grows t t' near) (q : Place)
    (hThere : t'.find? q = some .directory) :
    t.find? q = some .directory ∨ t.find? q = none :=
  (h.find?_cases q).imp (fun hSame => hSame.symm.trans hThere) fun hNew => hNew.1

namespace Tree

variable {t t' : Tree} {path : String} {p start : Place} {cs : List String}

/-- All that is there stands in a directory. -/
def Closed (t : Tree) : Prop :=
  ∀ (p : Place) (c : String), t.find? (p ++ [c]) ≠ none → t.find? p = some .directory

/-- A tree is closed if each of its entries stands in a directory. -/
theorem closed_of_entries (h : ∀ x ∈ t.entries, t.find? x.1.dropLast = some .directory) :
    t.Closed := by
  intro p c hThere
  rw [find?, if_neg (by simp), ne_eq, Option.map_eq_none_iff] at hThere
  obtain ⟨x, hFound⟩ := Option.ne_none_iff_exists'.mp hThere
  have hPlace : x.1 = p ++ [c] := by simpa using List.find?_some hFound
  have hDirectory := h x (List.mem_of_find?_eq_some hFound)
  rwa [hPlace, List.dropLast_concat] at hDirectory

/-- Components do not lead up from a place that is only there afterwards. -/
def NeverUpFromNew (before after : Tree) (start : Place) (cs : List String) : Prop :=
  ∀ ds, ds ++ [".."] <+: cs → before.find? (Place.follow start ds) = none →
    after.find? (Place.follow start ds) = none

/-- A way that never goes up does not go up from something new. -/
theorem neverUpFromNew_of_not_mem (t t' : Tree) (start : Place) (h : ".." ∉ cs) :
    NeverUpFromNew t t' start cs :=
  fun _ hPrefix => absurd (hPrefix.subset (by simp)) h

theorem NeverUpFromNew.tail {c : String} {next : Place} (h : NeverUpFromNew t t' start (c :: cs))
    (hNext : ∀ ds, Place.follow start (c :: ds) = Place.follow next ds) :
    NeverUpFromNew t t' next cs := by
  intro ds hPrefix
  rw [← hNext ds]
  exact h (c :: ds) (List.cons_prefix_cons.mpr ⟨rfl, hPrefix⟩)

/-- What is reached through a new place is new. -/
theorem find?_eq_none_of_walk (hClosed : t.Closed) (hUp : NeverUpFromNew t t' start cs)
    (hStart : t.find? start = none) (hWalk : t'.walk start cs = .ok p) : t.find? p = none := by
  fun_induction walk t' start cs with
  | case1 =>
      obtain rfl := Except.ok.inj hWalk
      exact hStart
  | case4 start rest _ ih => exact ih (hUp.tail fun ds => by simp [Place.follow]) hStart hWalk
  | case5 start rest hHere _ _ =>
      have hAbsent := hUp [] (by simp) hStart
      simp [Place.follow, hHere] at hAbsent
  | case8 start c rest _ hDot hDots _ _ _ ih =>
      refine ih (hUp.tail fun ds => by simp [Place.follow, hDot, hDots]) ?_ hWalk
      by_contra hThere
      simp [hClosed start c hThere] at hStart
  | _ => simp at hWalk

/-- What was there could be reached before, if all directories on the way are old
or new. -/
theorem walk_of_walk_later (hClosed : t.Closed)
    (hOld : ∀ q, t'.find? q = some .directory →
      t.find? q = some .directory ∨ t.find? q = none)
    (hUp : NeverUpFromNew t t' start cs) (hFound : t.find? p ≠ none)
    (hWalk : t'.walk start cs = .ok p) : t.walk start cs = .ok p := by
  have hDirectory {start : Place} {cs : List String} (hUp : NeverUpFromNew t t' start cs)
      (hHere : t'.find? start = some .directory) (hWalk : t'.walk start cs = .ok p) :
      t.find? start = some .directory :=
    (hOld start hHere).resolve_right fun hStart =>
      hFound (find?_eq_none_of_walk hClosed hUp hStart hWalk)
  -- along the later walk: what comes after a new place is new, and its end is not
  fun_induction walk t' start cs with
  | case1 => exact hWalk
  | case4 start rest hHere ih =>
      have hThere := hDirectory hUp hHere (by simpa [walk, hHere] using hWalk)
      have hRest := ih (hUp.tail fun ds => by simp [Place.follow]) hWalk
      simpa [walk, hThere] using hRest
  | case5 start rest hHere _ ih =>
      have hThere := hDirectory hUp hHere (by simpa [walk, hHere] using hWalk)
      have hRest := ih (hUp.tail fun ds => by simp [Place.follow]) hWalk
      simpa [walk, hThere] using hRest
  | case8 start c rest hHere hDot hDots hSize e hNext ih =>
      have hThere := hDirectory hUp hHere (by simpa [walk, hHere, hDot, hDots, hSize, hNext])
      have hTail : NeverUpFromNew t t' (start ++ [c]) rest :=
        hUp.tail fun ds => by simp [Place.follow, hDot, hDots]
      obtain ⟨e', hNext'⟩ : ∃ e', t.find? (start ++ [c]) = some e' :=
        Option.ne_none_iff_exists'.mp fun hNone =>
          hFound (find?_eq_none_of_walk hClosed hTail hNone hWalk)
      simpa [walk, hThere, hDot, hDots, hSize, hNext'] using ih hTail hWalk
  | _ => simp at hWalk

/-- A way that ends too early does not get further by going on. -/
theorem walk_append_error {x : OsError} (h : t.walk start cs = .error x) (ds : List String) :
    t.walk start (cs ++ ds) = .error x := by
  fun_induction walk t start cs with
  | case1 => simp at h
  | case2 start c rest hHere | case3 start c rest content hHere => simpa [walk, hHere] using h
  | case4 start rest hHere ih => simpa [walk, hHere] using ih h
  | case5 start rest hHere _ ih => simpa [walk, hHere] using ih h
  | case6 start c rest hHere hDot hDots hSize => simpa [walk, hHere, hDot, hDots, hSize] using h
  | case7 start c rest hHere hDot hDots hSize hNext =>
      simpa [walk, hHere, hDot, hDots, hSize, hNext] using h
  | case8 start c rest hHere hDot hDots hSize e hNext ih =>
      simpa [walk, hHere, hDot, hDots, hSize, hNext] using ih h

theorem walk_dots {dots : List String} (hHere : t.find? start = some .directory)
    (hDots : ∀ d ∈ dots, d = ".") : t.walk start dots = .ok start := by
  induction dots with
  | nil => rfl
  | cons d rest ih =>
      obtain ⟨rfl, hRest⟩ := List.forall_mem_cons.mp hDots
      simpa [walk, hHere] using ih hRest

/-! ### Directories -/

theorem isDirectory_of_createDirectory (h : t.createDirectory path = .ok t') :
    t'.isDirectory path = true := by
  obtain ⟨dir, name, hTargets, hFree, rfl⟩ := createDirectory_eq_ok h
  have hFound := find?_insert t (p := dir ++ [name]) (by simp) .directory (dir ++ [name])
  rw [if_pos rfl] at hFound
  have hWalk := (hTargets.insert (by simp [hFree]) .directory).walk_eq hFound
  simp [isDirectory, locate, hTargets.admitted, hWalk, hFound]

/-- If all directories on a path could be created, the path leads to one. -/
theorem isDirectory_of_createDirectories {levels : Nat}
    (h : createDirectories levels t path = (t', none)) (hPath : path.isEmpty = false) :
    t'.isDirectory path = true := by
  fun_induction createDirectories levels t path with
  | case1 levels t path hEmpty => simp [hPath] at hEmpty
  | case2 levels t path hNamed u hCreate =>
      obtain rfl := (Prod.mk.inj h).1
      exact isDirectory_of_createDirectory hCreate
  | case4 t path hNamed hOld levels above hAbove v hAll u hCreate =>
      obtain rfl := (Prod.mk.inj h).1
      exact isDirectory_of_createDirectory hCreate
  | case5 t path hNamed hOld levels above hAbove u hAll e hCreate hThere =>
      obtain rfl := (Prod.mk.inj h).1
      exact hThere
  | case8 levels t path hNamed e hOther hCreate hThere =>
      obtain rfl := (Prod.mk.inj h).1
      exact hThere
  | case3 | case6 | case7 | case9 => simp at h

/-- A path that is looked up at all names something. -/
theorem refusal?_of_notFound (h : t.createDirectory path = .error .notFound)
    (hPath : path.isEmpty = false) : refusal? path = none := by
  cases hRefusal : refusal? path with
  | none => rfl
  | some e =>
      have hCreate : t.createDirectory path = .error e := by simp [createDirectory, target, hRefusal]
      obtain rfl : e = .notFound := by simpa [hCreate] using h
      simp [refusal?, hPath] at hRefusal
      split at hRefusal <;> simp at hRefusal

/-- A name that is too long on the way to a directory is one when it is created. -/
theorem createDirectory_of_walk_nameTooLong (hRefusal : refusal? path = none)
    (hWalk : t.walk (t.origin path) (components path) = .error .nameTooLong) :
    t.createDirectory path = .error .nameTooLong := by
  suffices hTarget : t.target path = .error .nameTooLong by simp [createDirectory, hTarget]
  obtain hNil | ⟨before, c, hComponents⟩ := List.eq_nil_or_concat (components path)
  · simp [hNil, walk] at hWalk
  rw [List.concat_eq_append] at hComponents
  have hReverse : (components path).reverse = c :: before.reverse := by simp [hComponents]
  rw [hComponents] at hWalk
  cases hBefore : t.walk (t.origin path) before with
  | error x =>
      rw [walk_append_error hBefore] at hWalk
      simpa [target, hRefusal, hReverse, hBefore] using hWalk
  | ok dir =>
      rw [walk_append hBefore, walk] at hWalk
      simp only [target, hRefusal, hReverse, List.reverse_reverse, hBefore]
      split at hWalk
      · simp at hWalk
      · simp at hWalk
      · split at hWalk
        · simp [walk] at hWalk
        · split at hWalk
          · simp [walk] at hWalk
          · split at hWalk
            · next hDot hDots hSize => simp [hDot, hDots, hSize]
            · split at hWalk <;> simp [walk] at hWalk

/-- In a directory that is there a path ends with one name. -/
theorem exists_last_of_parent {above : String} (hTrim : IsTrimmed path)
    (hAbove : parent? path = some above) (hThere : t.isDirectory above = true) :
    ∃ before name dir, components path = before ++ [name] ∧
      t.walk (t.origin path) before = .ok dir ∧ t.find? dir = some .directory := by
  obtain ⟨⟨dots, name, more, hComponents, hDots, hMore⟩, hStart⟩ := components_parent? hAbove
  rw [hMore hTrim, ← List.append_assoc] at hComponents
  have hOrigin : t.origin path = t.origin above := by rw [origin, origin, hStart]
  unfold isDirectory at hThere
  split at hThere
  · next dir hLocated =>
    obtain ⟨-, hWalk, hDir⟩ := locate_eq_ok hLocated
    refine ⟨_, name, dir, hComponents, ?_, hDir⟩
    rw [hOrigin, walk_append hWalk, walk_dots hDir hDots]
  · simp at hThere

/-- A file that stands where a path ends has stood there before. -/
theorem Targets.earlier {near : Place → Prop} {dir : Place} {name : String} {content : ByteArray}
    (h : t'.Targets path dir name) (hClosed : t.Closed) (hGrows : Grows t t' near)
    (hUp : ".." ∉ components path) (hFile : t'.find? (dir ++ [name]) = some (.file content)) :
    t.Targets path dir name ∧ t.find? (dir ++ [name]) = some (.file content) := by
  obtain ⟨before, hComponents, hWalk⟩ := h.components_eq
  have hOld : t.find? (dir ++ [name]) = some (.file content) := by
    obtain hSame | ⟨-, hNew, -⟩ := hGrows.find?_cases (dir ++ [name])
    · rw [← hSame, hFile]
    · simp [hFile] at hNew
  have hDir : t.find? dir = some .directory := hClosed dir name (by simp [hOld])
  have hUpBefore : ".." ∉ before := fun hMem =>
    hUp (hComponents ▸ List.mem_append_left _ hMem)
  rw [hGrows.origin_eq] at hWalk
  have hWalk' : t.walk (t.origin path) before = .ok dir :=
    walk_of_walk_later hClosed hGrows.old_or_new (neverUpFromNew_of_not_mem _ _ _ hUpBefore)
      (by simp [hDir]) hWalk
  exact ⟨⟨h.admitted, ⟨before, hComponents, hWalk'⟩, hDir, h.ne_dot, h.ne_dots, h.size_le⟩, hOld⟩

/-- A directory that cannot be created in one that is there has a name that is
too long. A file of the name would have been seen before. -/
theorem nameTooLong_of_createDirectory {near : Place → Prop} {before : List String}
    {name : String} {dir : Place} {e : OsError} (hClosed : t.Closed) (hGrows : Grows t t' near)
    (hUp : ".." ∉ components path) (hAdmitted : refusal? path = none)
    (hOld : t.createDirectory path = .error .notFound)
    (hComponents : components path = before ++ [name])
    (hWalk : t'.walk (t'.origin path) before = .ok dir)
    (hDir : t'.find? dir = some .directory) (hRefused : t'.createDirectory path = .error e)
    (hAbsent : t'.isDirectory path = false) :
    e = .nameTooLong ∧ t'.walk (t'.origin path) (components path) = .error .nameTooLong := by
  have hLast : t'.walk (t'.origin path) (components path) = t'.walk dir [name] := by
    rw [hComponents, walk_append hWalk]
  have hName : name ≠ "." := by
    rintro rfl
    have hSame : t'.walk dir ["."] = .ok dir := by simp [walk, hDir]
    simp [isDirectory, locate, hAdmitted, hLast, hSame, hDir] at hAbsent
  have hNameUp : name ≠ ".." := fun hSame => hUp (by simp [hComponents, hSame])
  by_cases hSize : name.utf8ByteSize ≤ 255
  · have hTargets : t'.Targets path dir name :=
      ⟨hAdmitted, ⟨before, hComponents, hWalk⟩, hDir, hName, hNameUp, hSize⟩
    cases hEntry : t'.find? (dir ++ [name]) with
    | none => simp [createDirectory, hTargets.target_eq, hEntry] at hRefused
    | some entry =>
        cases entry with
        | directory =>
            simp [isDirectory, locate, hAdmitted, hTargets.walk_eq hEntry, hEntry] at hAbsent
        | file content =>
            obtain ⟨hTargets', hFile⟩ := hTargets.earlier hClosed hGrows hUp hEntry
            simp [createDirectory, hTargets'.target_eq, hFile] at hOld
  · have hLong : t'.walk (t'.origin path) (components path) = .error .nameTooLong := by
      simp [hLast, walk, hDir, hName, hNameUp, Nat.lt_of_not_le hSize]
    have hCreate := createDirectory_of_walk_nameTooLong hAdmitted hLong
    exact ⟨by simpa [hCreate] using hRefused.symm, hLong⟩

/-- Directories that cannot be created: nothing has changed, or a name on the way
is too long. -/
theorem blocked_of_createDirectories {levels : Nat} {e : OsError} (hClosed : t.Closed)
    (hTrim : IsTrimmed path) (hUp : ".." ∉ components path)
    (h : createDirectories levels t path = (t', some e)) :
    t' = t ∨ e = .nameTooLong ∧ refusal? path = none ∧
      t'.walk (t'.origin path) (components path) = .error .nameTooLong := by
  -- Something has changed only where a parent was created first; its own name is left to blame.
  fun_induction createDirectories levels t path with
  | case1 | case2 | case4 | case5 | case8 => simp at h
  | case7 | case9 => exact Or.inl (Prod.mk.inj h).1.symm
  | case3 t path hEmpty hOld levels above hAbove u x hAll ih =>
      obtain ⟨rfl, hSame⟩ := Prod.mk.inj h
      obtain rfl := Option.some.inj hSame
      obtain ⟨⟨dots, name, more, hComponents, -, -⟩, hStart⟩ := components_parent? hAbove
      have hUpAbove : ".." ∉ components above := mt (mem_components_of_parent? hAbove) hUp
      obtain rfl | ⟨rfl, -, hWalk⟩ := ih hClosed (isTrimmed_of_parent? hAbove) hUpAbove hAll
      · exact Or.inl rfl
      · refine Or.inr ⟨rfl, refusal?_of_notFound hOld (by simpa using hEmpty), ?_⟩
        rw [hComponents, origin, ← hStart]
        exact walk_append_error hWalk _
  | case6 t path hEmpty hOld levels above hAbove u hAll x hRefused hAbsent ih =>
      obtain ⟨rfl, hSame⟩ := Prod.mk.inj h
      obtain rfl := Option.some.inj hSame
      -- for an empty parent there was nothing to create
      by_cases hTop : above.isEmpty = true
      · rw [createDirectories.eq_def] at hAll
        simp only [hTop, if_true] at hAll
        exact Or.inl (Prod.mk.inj hAll).1.symm
      have hGrows := grows_createDirectories levels t above
      rw [hAll] at hGrows
      have hThere := isDirectory_of_createDirectories hAll (by simpa using hTop)
      obtain ⟨before, name, dir, hComponents, hWalk, hDir⟩ :=
        exists_last_of_parent hTrim hAbove hThere
      have hAdmitted := refusal?_of_notFound hOld (by simpa using hEmpty)
      obtain ⟨hLong, hWalk'⟩ := nameTooLong_of_createDirectory hClosed hGrows hUp hAdmitted hOld
        hComponents hWalk hDir hRefused (by simpa using hAbsent)
      exact Or.inr ⟨hLong, hAdmitted, hWalk'⟩

/-- Where creating directories is refused it is refused again, and nothing more
happens. -/
theorem createAll_again {e : OsError} (hClosed : t.Closed) (hTrim : IsTrimmed path)
    (hUp : ".." ∉ components path) (h : t.createAll path = (t', some e)) :
    t'.createAll path = (t', some e) ∧ (t.exists? path = false → t'.exists? path = false) := by
  obtain rfl | ⟨rfl, hAdmitted, hWalk⟩ := blocked_of_createDirectories hClosed hTrim hUp h
  · exact ⟨h, id⟩
  · have hCreate := createDirectory_of_walk_nameTooLong hAdmitted hWalk
    have hLocate : t'.locate path = .error .nameTooLong := by simp [locate, hAdmitted, hWalk]
    have hPath : path ≠ "" := by
      rintro rfl
      simp [refusal?] at hAdmitted
    refine ⟨?_, fun _ => by simp [exists?, hLocate]⟩
    rw [createAll, createDirectories.eq_def]
    simp [hPath, hCreate, isDirectory, hLocate]

/-! ### Files -/

/-- Of two entries put at the same place the second one stays. -/
theorem insert_insert (t : Tree) (p : Place) (e e' : Entry) :
    (t.insert p e).insert p e' = t.insert p e' := by
  simp [insert, List.filter_filter]

/-- Writing once more what was written changes nothing. -/
theorem write_again {content : ByteArray} (h : t.write path content = .ok t') :
    t'.write path content = .ok t' := by
  obtain ⟨dir, name, hTargets, hSlash, hFree, rfl⟩ := write_eq_ok h
  have hTarget := (hTargets.insert hFree (.file content)).target_eq
  simp [write, hTarget, hSlash, find?_insert, insert_insert]

end Tree

/-! ### Reading again -/

/-- A path leads to what is there at a place. -/
def Tree.LeadsTo (t : Tree) (path : String) (p : Place) : Prop := ∃ e, t.locate path = .ok (p, e)

/-- What is read is the file that the path leads to. -/
theorem Tree.locate_of_read {t : Tree} {path : String} {content : ByteArray}
    (h : t.read path = .ok content) : ∃ p, t.locate path = .ok (p, .file content) := by
  unfold Tree.read at h
  split at h
  · simp at h
  · simp at h
  · next hLocated =>
    obtain rfl := Except.ok.inj h
    exact ⟨_, hLocated⟩

namespace Footprint

variable {t t' : Tree} {path q : String} {p : Place} {written : Prop}

theorem old_or_new (h : Footprint t t' path written) (p : Place)
    (hThere : t'.find? p = some .directory) :
    t.find? p = some .directory ∨ t.find? p = none := by
  rcases h.find?_cases p with hSame | ⟨hNone, -⟩ | ⟨-, -, -, content, hFile⟩
  · exact Or.inl (hSame.symm.trans hThere)
  · exact Or.inr hNone
  · simp [hThere] at hFile

theorem origin_eq (h : Footprint t t' path written) (q : String) : t'.origin q = t.origin q := by
  rw [Tree.origin, Tree.origin, h.home_eq]

/-- What stood elsewhere than at the target stands there still. -/
theorem find?_of_ne (h : Footprint t t' path written) (hp : p ≠ t.destination path) {e : Entry}
    (hFound : t.find? p = some e) : t'.find? p = some e := by
  rcases h.find?_cases p with hSame | ⟨hNone, -⟩ | ⟨-, hPlace, -⟩
  · exact hSame.trans hFound
  · simp [hFound] at hNone
  · exact absurd hPlace hp

/-- A directory is never replaced. -/
theorem find?_directory (h : Footprint t t' path written)
    (hFound : t.find? p = some .directory) : t'.find? p = some .directory := by
  rcases h.find?_cases p with hSame | ⟨hNone, -⟩ | ⟨-, -, hFree, -⟩
  · exact hSame.trans hFound
  · simp [hFound] at hNone
  · exact absurd hFound hFree

theorem find?_ne_none (h : Footprint t t' path written) {e : Entry}
    (hFound : t.find? p = some e) : ∃ e', t'.find? p = some e' := by
  rcases h.find?_cases p with hSame | ⟨hNone, -⟩ | ⟨-, -, -, content, hFile⟩
  · exact ⟨e, hSame.trans hFound⟩
  · simp [hFound] at hNone
  · exact ⟨_, hFile⟩

/-- What could be reached can still be reached. -/
theorem walk_of_walk (h : Footprint t t' path written) {start : Place} {cs : List String}
    (hWalk : t.walk start cs = .ok p) : t'.walk start cs = .ok p :=
  Tree.walk_mono (fun _ => h.find?_directory) (fun _ _ => h.find?_ne_none) hWalk

/-- What was there is still there, and differs at most where the file was
written. -/
theorem locate_of_locate (h : Footprint t t' path written) {e : Entry}
    (hLocated : t.locate q = .ok (p, e)) :
    ∃ e', t'.locate q = .ok (p, e') ∧ (e = .directory → e' = .directory) ∧
      (p ≠ t.destination path → e' = e) := by
  obtain ⟨hAdmitted, hWalk, hFound⟩ := Tree.locate_eq_ok hLocated
  have hWalk' : t'.walk (t'.origin q) (components q) = .ok p := by
    rw [h.origin_eq]
    exact h.walk_of_walk hWalk
  cases e with
  | directory =>
      have hFound' := h.find?_directory hFound
      exact ⟨.directory, by simp [Tree.locate, hAdmitted, hWalk', hFound'], fun _ => rfl,
        fun _ => rfl⟩
  | file content =>
      have hSlash : endsInSlash q = false := by
        by_contra hSlash
        simp [Tree.locate, hAdmitted, hWalk, hFound, hSlash] at hLocated
      obtain ⟨content', hFound'⟩ : ∃ content', t'.find? p = some (.file content') := by
        rcases h.find?_cases p with hSame | ⟨hNone, -⟩ | ⟨-, -, -, hFile⟩
        · exact ⟨content, hSame.trans hFound⟩
        · simp [hFound] at hNone
        · exact hFile
      refine ⟨.file content', by simp [Tree.locate, hAdmitted, hWalk', hFound', hSlash], by simp,
        fun hp => ?_⟩
      exact Option.some.inj (hFound'.symm.trans (h.find?_of_ne hp hFound))

/-- A path that led somewhere before a run does so after it. -/
theorem exists?_of_exists? (h : Footprint t t' path written) (hThere : t.exists? q = true) :
    t'.exists? q = true := by
  unfold Tree.exists? at hThere
  split at hThere
  · next found hLocated =>
    obtain ⟨e', hLocated', -⟩ := h.locate_of_locate hLocated
    simp [Tree.exists?, hLocated']
  · simp at hThere

theorem isDirectory_of_isDirectory (h : Footprint t t' path written)
    (hThere : t.isDirectory q = true) : t'.isDirectory q = true := by
  unfold Tree.isDirectory at hThere
  split at hThere
  · next p hLocated =>
    obtain ⟨e', hLocated', hDirectory, -⟩ := h.locate_of_locate hLocated
    obtain rfl := hDirectory rfl
    simp [Tree.isDirectory, hLocated']
  · simp at hThere

/-- A path that spells another place does not lead to the written file. -/
theorem not_leadsTo (h : Footprint t t' path written) (hApart : t.destination q ≠ t.destination path) :
    ¬t'.LeadsTo q (t.destination path) := by
  rintro ⟨e, hLocated⟩
  obtain ⟨-, hWalk, -⟩ := Tree.locate_eq_ok hLocated
  rw [h.origin_eq] at hWalk
  exact hApart (Tree.walk_eq_ok hWalk).symm

section Apart

variable (h : Footprint t t' path written) (hApart : ¬t'.LeadsTo q (t.destination path))

include h hApart

/-- A path that does not lead to the written file leads to what it led to. -/
theorem locate_again {e : Entry} (hLocated : t.locate q = .ok (p, e)) :
    t'.locate q = .ok (p, e) := by
  obtain ⟨e', hLocated', -, hSame⟩ := h.locate_of_locate hLocated
  rw [hLocated', hSame fun hp => hApart ⟨e', hp ▸ hLocated'⟩]

/-- What is read through such a path is the same, and there is nothing to be read
that was not there. -/
theorem read_again (hClosed : t.Closed)
    (hUp : Tree.NeverUpFromNew t t' (t.origin q) (components q)) :
    (t'.read q).toOption = (t.read q).toOption := by
  have hLater {content : ByteArray} (hRead : t.read q = .ok content) :
      t'.read q = .ok content := by
    obtain ⟨p, hLocated⟩ := Tree.locate_of_read hRead
    simp [Tree.read, h.locate_again hApart hLocated]
  have hBefore {content : ByteArray} (hRead : t'.read q = .ok content) :
      t.read q = .ok content := by
    obtain ⟨p, hLocated⟩ := Tree.locate_of_read hRead
    obtain ⟨hAdmitted, hSlash, p', hWalk, hFile⟩ := Tree.read_eq_ok.mp hRead
    obtain ⟨-, hSame, -⟩ := Tree.locate_eq_ok hLocated
    obtain rfl := Except.ok.inj (hSame.symm.trans hWalk)
    have hFound : t.find? p = some (.file content) := by
      rcases h.find?_cases p with hSame | ⟨-, hNew, -⟩ | ⟨-, hPlace, -⟩
      · rw [← hSame, hFile]
      · simp [hFile] at hNew
      · exact absurd ⟨_, hPlace ▸ hLocated⟩ hApart
    rw [h.origin_eq] at hWalk
    exact Tree.read_eq_ok.mpr ⟨hAdmitted, hSlash, p,
      Tree.walk_of_walk_later hClosed h.old_or_new hUp (by simp [hFound]) hWalk, hFound⟩
  cases hNew : t'.read q with
  | ok content => rw [hBefore hNew]
  | error x =>
      cases hOld : t.read q with
      | ok content => simp [hLater hOld] at hNew
      | error y => rfl

end Apart

end Footprint
end Iconsmith.Files
