import Iconsmith.Proofs.Files.Footprint
import Mathlib.Data.List.Infix

/-! Trees that differ in a part only. A path that never comes to that part cannot tell
them apart, whatever is done with it, and what it leads to is put into both. What a file
holds makes no difference to a path that only comes through, and an entry that only one
of them has can be told by no other entry. -/
namespace Iconsmith.Files

/-- The same stands at both places, up to what a file holds. -/
inductive SameKind : Option Entry → Option Entry → Prop
  | none : SameKind none none
  | file (content content' : ByteArray) : SameKind (some (.file content)) (some (.file content'))
  | directory : SameKind (some .directory) (some .directory)

@[refl] theorem SameKind.refl (x : Option Entry) : SameKind x x := by
  cases x with
  | none => exact .none
  | some e =>
      cases e with
      | file content => exact .file content content
      | directory => exact .directory

theorem SameKind.isSome_eq {x y : Option Entry} (h : SameKind x y) : x.isSome = y.isSome := by
  cases h <;> rfl

/-- The trees have the same directories and files outside of a hidden part. -/
structure Resembles (hidden : Place → Prop) (before after : Tree) : Prop where
  home_eq : after.home = before.home
  sameKind : ∀ q, ¬hidden q → SameKind (before.find? q) (after.find? q)

/-- The trees are the same outside of a hidden part. -/
structure AgreesOff (hidden : Place → Prop) (before after : Tree) : Prop where
  home_eq : after.home = before.home
  find?_eq : ∀ q, ¬hidden q → after.find? q = before.find? q

/-- Outcomes that are refused for the same reason, or are related trees. -/
inductive Alike (R : Tree → Tree → Prop) : Except OsError Tree → Except OsError Tree → Prop
  | error (x : OsError) : Alike R (.error x) (.error x)
  | ok {u u' : Tree} (h : R u u') : Alike R (.ok u) (.ok u')

namespace Alike

variable {R : Tree → Tree → Prop} {r : Except OsError Tree}

/-- If the first outcome is a tree, the other is a tree that is related to it. -/
theorem of_ok {u : Tree} (h : Alike R (.ok u) r) : ∃ u', r = .ok u' ∧ R u u' := by
  cases h with
  | ok h => exact ⟨_, rfl, h⟩

theorem of_error {x : OsError} (h : Alike R (.error x) r) : r = .error x := by
  cases h
  rfl

end Alike

/-- Related trees differ in a hidden part only, and are related still when the same is put
into both outside of that part. -/
structure Blind (hidden : Place → Prop) (R : Tree → Tree → Prop) : Prop where
  resembles : ∀ {t t'}, R t t' → Resembles hidden t t'
  insert : ∀ {t t' q} (e : Entry), R t t' → ¬hidden q → q ≠ [] → R (t.insert q e) (t'.insert q e)

namespace Tree

variable {t t' : Tree} {path : String} {p q : Place} {hidden : Place → Prop}

/-- A path never comes to a hidden place. -/
def Avoids (t : Tree) (path : String) (hidden : Place → Prop) : Prop :=
  ∀ q, t.Along path q → ¬hidden q

instance (t : Tree) (path : String) (p : Place) : Decidable (t.Along path p) :=
  decidable_of_iff (∃ cs ∈ (components path).inits, p = Place.follow (t.origin path) cs)
    (by simp only [Along, List.mem_inits])

/-- Whether a path comes to a place depends on the tree only where it starts. -/
theorem along_of_home (hHome : t'.home = t.home) (path : String) (p : Place) :
    t'.Along path p ↔ t.Along path p := by
  rw [Along, Along, origin, origin, hHome]

/-- What a path avoids depends on where it starts, and on nothing else in the tree. -/
theorem Avoids.of_home (h : t.Avoids path hidden) (hHome : t'.home = t.home) :
    t'.Avoids path hidden :=
  fun q hAlong => h q ((along_of_home hHome path q).mp hAlong)

/-- The directory of a path avoids what the path avoids. -/
theorem Avoids.parent {above : String} (h : t.Avoids path hidden)
    (hAbove : parent? path = some above) : t.Avoids above hidden :=
  fun q hAlong => h q (onTheWay_of_along hAbove hAlong).along

/-- To avoid a single place is not to come along it. -/
theorem avoids_eq (h : ¬t.Along path p) : t.Avoids path (· = p) := by
  rintro q hAlong rfl
  exact h hAlong

/-- A path that avoids a part does not aim at it either. -/
theorem Avoids.target (h : t.Avoids path hidden) (hTarget : t.target path = .ok (some q)) :
    ¬hidden q ∧ q ≠ [] := by
  obtain ⟨dir, name, rfl, hTargets⟩ := target_eq_ok hTarget
  refine ⟨h _ ⟨_, List.prefix_rfl, ?_⟩, by simp⟩
  rw [← hTargets.destination_eq]
  rfl

end Tree

namespace Resembles

variable {t t' : Tree} {path : String} {q : Place} {hidden : Place → Prop}

/-- Trees stay alike outside of a part when the same entry is put into both. -/
theorem insert (h : Resembles hidden t t') (hRoot : q ≠ []) (e : Entry) :
    Resembles hidden (t.insert q e) (t'.insert q e) := by
  refine ⟨h.home_eq, fun r hr => ?_⟩
  rw [Tree.find?_insert t hRoot, Tree.find?_insert t' hRoot]
  split
  · rfl
  · exact h.sameKind r hr

/-- Paths start from the same place in both. -/
theorem origin_eq (h : Resembles hidden t t') (path : String) :
    t'.origin path = t.origin path := by
  rw [Tree.origin, Tree.origin, h.home_eq]

/-- A walk that never comes to the hidden part is the same in both. -/
theorem walk_eq (h : Resembles hidden t t') {start : Place} {cs : List String}
    (hAvoids : ∀ ds, ds <+: cs → ¬hidden (Place.follow start ds)) :
    t'.walk start cs = t.walk start cs := by
  -- Where both walks stand there is something of one kind, so they take the same branch.
  induction cs generalizing start with
  | nil => rfl
  | cons c rest ih =>
      have hStart := h.sameKind start (hAvoids [] List.nil_prefix)
      have hRest {next : Place} (hNext : ∀ ds, Place.follow start (c :: ds) = Place.follow next ds) :
          t'.walk next rest = t.walk next rest := by
        refine ih fun ds hDs => ?_
        rw [← hNext ds]
        exact hAvoids (c :: ds) (List.cons_prefix_cons.mpr ⟨rfl, hDs⟩)
      simp only [Tree.walk]
      generalize t.find? start = here, t'.find? start = here' at hStart
      cases hStart with
      | none => rfl
      | file => rfl
      | directory =>
          by_cases hDot : c = "."
          · simpa [hDot] using hRest fun ds => by simp [Place.follow, hDot]
          by_cases hDots : c = ".."
          · simpa [hDots] using hRest fun ds => by simp [Place.follow, hDots]
          have hFollow (ds : List String) :
              Place.follow start (c :: ds) = Place.follow (start ++ [c]) ds := by
            simp [Place.follow, hDot, hDots]
          have hNext : SameKind (t.find? (start ++ [c])) (t'.find? (start ++ [c])) := by
            refine h.sameKind _ ?_
            have hHere := hAvoids [c] (List.cons_prefix_cons.mpr ⟨rfl, List.nil_prefix⟩)
            rwa [hFollow, Place.follow] at hHere
          simp only [hDot, hDots, if_false, hRest hFollow]
          generalize t.find? (start ++ [c]) = next, t'.find? (start ++ [c]) = next' at hNext
          cases hNext <;> rfl

section Avoiding

variable (h : Resembles hidden t t') (hAvoids : t.Avoids path hidden)

include h hAvoids

/-- So a path that avoids the hidden part leads to the same in both. -/
theorem walk_components_eq : t'.walk (t'.origin path) (components path) =
    t.walk (t.origin path) (components path) := by
  rw [h.origin_eq]
  exact h.walk_eq fun ds hDs => hAvoids _ ⟨ds, hDs, rfl⟩

/-- A path leads nowhere in both for the same reason, or to the same place and to
something of the same kind. -/
theorem locate_cases : (∃ x, t.locate path = .error x ∧ t'.locate path = .error x) ∨
    ∃ q e e', t.locate path = .ok (q, e) ∧ t'.locate path = .ok (q, e') ∧
      SameKind (some e) (some e') := by
  unfold Tree.locate
  cases refusal? path with
  | some x => exact .inl ⟨x, rfl, rfl⟩
  | none =>
      simp only [h.walk_components_eq hAvoids]
      cases hWalk : t.walk (t.origin path) (components path) with
      | error x => exact .inl ⟨x, rfl, rfl⟩
      | ok q =>
          have hKind := h.sameKind q (hAvoids q ⟨_, List.prefix_rfl, Tree.walk_eq_ok hWalk⟩)
          dsimp only
          generalize t.find? q = here, t'.find? q = here' at hKind
          cases hKind with
          | none => exact .inl ⟨_, rfl, rfl⟩
          | directory => exact .inr ⟨q, _, _, rfl, rfl, .directory⟩
          | file content content' =>
              cases hSlash : endsInSlash path with
              | true => exact .inl ⟨_, rfl, rfl⟩
              | false => exact .inr ⟨q, _, _, rfl, rfl, .file content content'⟩

theorem exists?_eq : t'.exists? path = t.exists? path := by
  obtain ⟨x, hOld, hNew⟩ | ⟨q, e, e', hOld, hNew, -⟩ := h.locate_cases hAvoids <;>
    simp [Tree.exists?, hOld, hNew]

theorem isDirectory_eq : t'.isDirectory path = t.isDirectory path := by
  obtain ⟨x, hOld, hNew⟩ | ⟨q, e, e', hOld, hNew, hKind⟩ := h.locate_cases hAvoids
  · simp [Tree.isDirectory, hOld, hNew]
  · cases hKind <;> simp [Tree.isDirectory, hOld, hNew]

theorem target_eq : t'.target path = t.target path := by
  unfold Tree.target
  split
  · rfl
  · rfl
  · next c before _ hComponents =>
    rw [List.reverse_eq_cons_iff] at hComponents
    have hAhead : before.reverse <+: components path := ⟨[c], hComponents.symm⟩
    have hWalk : t'.walk (t'.origin path) before.reverse =
        t.walk (t.origin path) before.reverse := by
      rw [h.origin_eq]
      exact h.walk_eq fun ds hDs => hAvoids _ ⟨ds, hDs.trans hAhead, rfl⟩
    rw [hWalk]
    cases hDir : t.walk (t.origin path) before.reverse with
    | error e => rfl
    | ok dir =>
        have hKind := h.sameKind dir (hAvoids dir ⟨_, hAhead, Tree.walk_eq_ok hDir⟩)
        dsimp only
        generalize t.find? dir = here, t'.find? dir = here' at hKind
        cases hKind <;> rfl

end Avoiding
end Resembles

namespace AgreesOff

variable {t t' : Tree} {path : String} {q : Place} {hidden : Place → Prop}

theorem refl (hidden : Place → Prop) (t : Tree) : AgreesOff hidden t t := ⟨rfl, fun _ _ => rfl⟩

theorem resembles (h : AgreesOff hidden t t') : Resembles hidden t t' :=
  ⟨h.home_eq, fun q hq => h.find?_eq q hq ▸ .refl _⟩

theorem insert (h : AgreesOff hidden t t') (hRoot : q ≠ []) (e : Entry) :
    AgreesOff hidden (t.insert q e) (t'.insert q e) := by
  refine ⟨h.home_eq, fun r hr => ?_⟩
  rw [Tree.find?_insert t hRoot, Tree.find?_insert t' hRoot, h.find?_eq r hr]

/-- What a path leads to outside of the hidden part is the same in both. -/
theorem locate_eq (h : AgreesOff hidden t t') (hAvoids : t.Avoids path hidden) :
    t'.locate path = t.locate path := by
  unfold Tree.locate
  split
  · rfl
  · rw [h.resembles.walk_components_eq hAvoids]
    cases hWalk : t.walk (t.origin path) (components path) with
    | error e => rfl
    | ok q =>
        have hq : ¬hidden q := hAvoids q ⟨_, List.prefix_rfl, Tree.walk_eq_ok hWalk⟩
        simp only [h.find?_eq q hq]

end AgreesOff

namespace Blind

variable {t t' : Tree} {path : String} {hidden : Place → Prop} {R : Tree → Tree → Prop}

/-- Nothing is hidden from equal trees. -/
theorem eq : Blind (fun _ => False) Eq :=
  ⟨fun h => h ▸ (AgreesOff.refl _ _).resembles, fun _ h _ _ => h ▸ rfl⟩

section Avoiding

variable (hR : Blind hidden R) (h : R t t') (hAvoids : t.Avoids path hidden)

include hR h hAvoids

/-- Writing is refused in both for the same reason, or makes the same file in both. -/
theorem write (content : ByteArray) : Alike R (t.write path content) (t'.write path content) := by
  unfold Tree.write
  rw [(hR.resembles h).target_eq hAvoids]
  cases hTarget : t.target path with
  | error x => exact .error x
  | ok place =>
      cases place with
      | none => exact .error _
      | some q =>
          obtain ⟨hq, hRoot⟩ := hAvoids.target hTarget
          dsimp only
          have hKind := (hR.resembles h).sameKind q hq
          split
          · exact .error _
          · generalize t.find? q = here, t'.find? q = here' at hKind
            cases hKind with
            | directory => exact .error _
            | none | file => exact .ok (hR.insert _ h hq hRoot)

/-- A directory is refused in both for the same reason, or created in both. -/
theorem createDirectory : Alike R (t.createDirectory path) (t'.createDirectory path) := by
  unfold Tree.createDirectory
  rw [(hR.resembles h).target_eq hAvoids]
  cases hTarget : t.target path with
  | error x => exact .error x
  | ok place =>
      cases place with
      | none => exact .error _
      | some q =>
          obtain ⟨hq, hRoot⟩ := hAvoids.target hTarget
          dsimp only
          have hKind := (hR.resembles h).sameKind q hq
          generalize t.find? q = here, t'.find? q = here' at hKind
          cases hKind with
          | none => exact .ok (hR.insert _ h hq hRoot)
          | directory | file => exact .error _

end Avoiding

/-- Once the parent of a path has been taken care of, the path itself is as clear
as before. -/
theorem of_parent {levels : Nat} {above : String} {u : Tree} {reason : Option OsError}
    (h : R t t') (hAvoids : t.Avoids path hidden) (hAbove : parent? path = some above)
    (hAll : Tree.createDirectories levels t above = (u, reason))
    (ih : ∀ {t'}, R t t' → t.Avoids above hidden →
      (Tree.createDirectories levels t' above).2 = (Tree.createDirectories levels t above).2 ∧
        R (Tree.createDirectories levels t above).1
          (Tree.createDirectories levels t' above).1) :
    ∃ u', Tree.createDirectories levels t' above = (u', reason) ∧ R u u' ∧
      u.Avoids path hidden := by
  have hHome := (Tree.grows_createDirectories levels t above).home_eq
  obtain ⟨hReason, hRelated⟩ := ih h (hAvoids.parent hAbove)
  rw [hAll] at hReason hRelated hHome
  exact ⟨_, Prod.ext rfl hReason, hRelated, hAvoids.of_home hHome⟩

/-- Directories are created in both alike, and in the end refused for the same
reason or not at all. -/
theorem createDirectories (hR : Blind hidden R) (h : R t t') (hAvoids : t.Avoids path hidden)
    (levels : Nat) :
    (Tree.createDirectories levels t' path).2 = (Tree.createDirectories levels t path).2 ∧
      R (Tree.createDirectories levels t path).1 (Tree.createDirectories levels t' path).1 := by
  -- Along the calls for the first tree; those for the second one are the same at each level.
  fun_induction Tree.createDirectories levels t path generalizing t' with
  | case1 levels t path hEmpty =>
      rw [Tree.createDirectories.eq_def]
      simpa [hEmpty] using h
  | case2 levels t path hEmpty u hOld =>
      obtain ⟨u', hNew, hRelated⟩ := (hOld ▸ hR.createDirectory h hAvoids).of_ok
      rw [Tree.createDirectories.eq_def]
      simpa [hEmpty, hNew] using hRelated
  | case7 levels t path hEmpty hOld hLast =>
      have hNew := (hOld ▸ hR.createDirectory h hAvoids).of_error
      rw [Tree.createDirectories.eq_def]
      simpa [hEmpty, hNew, hLast] using h
  | case8 levels t path hEmpty x hKind hOld hThere
  | case9 levels t path hEmpty x hKind hOld hThere =>
      have hNew := (hOld ▸ hR.createDirectory h hAvoids).of_error
      rw [Tree.createDirectories.eq_def]
      simpa [hEmpty, hNew, hKind, (hR.resembles h).isDirectory_eq hAvoids, hThere] using h
  | case3 t path hEmpty hOld levels above hAbove u x hAll ih =>
      obtain ⟨u', hAll', hRelated, -⟩ := of_parent h hAvoids hAbove hAll ih
      have hNew := (hOld ▸ hR.createDirectory h hAvoids).of_error
      rw [Tree.createDirectories.eq_def]
      simpa [hEmpty, hNew, hAbove, hAll'] using hRelated
  | case4 t path hEmpty hOld levels above hAbove u hAll v hCreated ih =>
      obtain ⟨u', hAll', hRelated, hAvoids'⟩ := of_parent h hAvoids hAbove hAll ih
      have hNew := (hOld ▸ hR.createDirectory h hAvoids).of_error
      obtain ⟨v', hCreated', hRelated'⟩ :=
        (hCreated ▸ hR.createDirectory hRelated hAvoids').of_ok
      rw [Tree.createDirectories.eq_def]
      simpa [hEmpty, hNew, hAbove, hAll', hCreated'] using hRelated'
  | case5 t path hEmpty hOld levels above hAbove u hAll x hRefused hThere ih
  | case6 t path hEmpty hOld levels above hAbove u hAll x hRefused hThere ih =>
      obtain ⟨u', hAll', hRelated, hAvoids'⟩ := of_parent h hAvoids hAbove hAll ih
      have hNew := (hOld ▸ hR.createDirectory h hAvoids).of_error
      have hRefused' := (hRefused ▸ hR.createDirectory hRelated hAvoids').of_error
      rw [Tree.createDirectories.eq_def]
      simpa [hEmpty, hNew, hAbove, hAll', hRefused',
        (hR.resembles hRelated).isDirectory_eq hAvoids', hThere] using hRelated

/-- All directories on a path are created in both alike, with the same reason in the end. -/
theorem createAll (hR : Blind hidden R) (h : R t t') (hAvoids : t.Avoids path hidden) :
    (t'.createAll path).2 = (t.createAll path).2 ∧ R (t.createAll path).1 (t'.createAll path).1 :=
  hR.createDirectories h hAvoids _

end Blind

/-! ### The way of one path through the part in which trees differ -/

/-- What of a part is not on the way of a path. -/
def Aside (base : Tree) (path : String) (part : Place → Prop) (q : Place) : Prop :=
  part q ∧ ¬base.Along path q

/-- Trees that differ in a part only, and on the way of a path only in what files hold. -/
structure DiffersAside (base : Tree) (path : String) (part : Place → Prop) (t t' : Tree) : Prop where
  home_eq : t.home = base.home
  resembles : Resembles (Aside base path part) t t'
  agreesOff : AgreesOff part t t'

namespace DiffersAside

variable {base t t' : Tree} {path : String} {part : Place → Prop}

/-- Trees that agree outside of a part differ aside of a path if they have the same kinds along
it. -/
theorem of_agreesOff (h : AgreesOff part t t')
    (hThrough : ∀ q, t.Along path q → part q → SameKind (t.find? q) (t'.find? q)) :
    DiffersAside t path part t t' := by
  refine ⟨rfl, ⟨h.home_eq, fun q hq => ?_⟩, h⟩
  by_cases hPart : part q
  · exact hThrough q (not_not.mp fun hOff => hq ⟨hPart, hOff⟩) hPart
  · exact h.resembles.sameKind q hPart

/-- What is aside of a path is what the path does not come to. -/
theorem avoids (h : DiffersAside base path part t t') : t.Avoids path (Aside base path part) :=
  fun q hAlong hq => hq.2 ((Tree.along_of_home h.home_eq path q).mp hAlong)

/-- The path itself may pass through the part, and yet cannot tell the trees apart. -/
theorem blind (base : Tree) (path : String) (part : Place → Prop) :
    Blind (Aside base path part) (DiffersAside base path part) :=
  ⟨resembles, fun e h _ hRoot =>
    ⟨h.home_eq, h.resembles.insert hRoot e, h.agreesOff.insert hRoot e⟩⟩

end DiffersAside

/-! ### One more entry -/

/-- The second tree has at most one more entry than the first, at a given
place. -/
structure AddsAtMost (p : Place) (e : Entry) (before after : Tree) : Prop where
  home_eq : after.home = before.home
  find?_eq : ∀ q, q ≠ p → after.find? q = before.find? q
  find?_self : after.find? p = before.find? p ∨
    before.find? p = none ∧ after.find? p = some e

namespace Tree

variable {t : Tree} {p : Place} {e : Entry}

/-- An entry put where nothing was is the only one that is new. -/
theorem addsAtMost_insert (hFree : t.find? p = none) : AddsAtMost p e t (t.insert p e) := by
  have hPlace : p ≠ [] := by
    rintro rfl
    simp [find?] at hFree
  refine ⟨rfl, fun q hq => ?_, Or.inr ⟨hFree, ?_⟩⟩
  · rw [find?_insert t hPlace, if_neg hq]
  · rw [find?_insert t hPlace, if_pos rfl]

end Tree

namespace AddsAtMost

variable {t t' : Tree} {path : String} {p q : Place} {e : Entry}

theorem refl (t : Tree) (p : Place) (e : Entry) : AddsAtMost p e t t :=
  ⟨rfl, fun _ _ => rfl, Or.inl rfl⟩

/-- The same entry is put at another place of both. -/
theorem insert (h : AddsAtMost p e t t') (hq : q ≠ p) (hRoot : q ≠ []) (x : Entry) :
    AddsAtMost p e (t.insert q x) (t'.insert q x) := by
  refine ⟨h.home_eq, fun r hr => ?_, ?_⟩
  · rw [Tree.find?_insert t hRoot, Tree.find?_insert t' hRoot, h.find?_eq r hr]
  · rw [Tree.find?_insert t hRoot, Tree.find?_insert t' hRoot, if_neg (Ne.symm hq),
      if_neg (Ne.symm hq)]
    exact h.find?_self

theorem agreesOff (h : AddsAtMost p e t t') : AgreesOff (· = p) t t' := ⟨h.home_eq, h.find?_eq⟩

theorem origin_eq (h : AddsAtMost p e t t') (path : String) : t'.origin path = t.origin path :=
  h.agreesOff.resembles.origin_eq path

theorem locate_eq (h : AddsAtMost p e t t') (hClear : ¬t.Along path p) :
    t'.locate path = t.locate path :=
  h.agreesOff.locate_eq (Tree.avoids_eq hClear)

/-! ### Paths that may come to the place -/

theorem find?_of_find? {x : Entry} (h : AddsAtMost p e t t') (hFound : t.find? q = some x) :
    t'.find? q = some x := by
  by_cases hSame : q = p
  · subst hSame
    obtain hSelf | ⟨hNone, -⟩ := h.find?_self
    · rw [hSelf, hFound]
    · simp [hFound] at hNone
  · rw [h.find?_eq q hSame, hFound]

/-- Trees without any difference can change places. -/
theorem symm (h : AddsAtMost p e t t') (hSelf : t'.find? p = t.find? p) : AddsAtMost p e t' t :=
  ⟨h.home_eq.symm, fun q hq => (h.find?_eq q hq).symm, Or.inl hSelf.symm⟩

/-- What can be reached in the first tree can be reached in the second one. -/
theorem walk_of_walk (h : AddsAtMost p e t t') {start : Place} {cs : List String}
    (hWalk : t.walk start cs = .ok q) : t'.walk start cs = .ok q :=
  Tree.walk_mono (fun _ => h.find?_of_find?) (fun _ x hFound => ⟨x, h.find?_of_find? hFound⟩) hWalk

/-- A file that is new is not on the way to anything else. -/
theorem walk_of_walk_new {content : ByteArray} (h : AddsAtMost p (.file content) t t')
    (hNew : t'.find? p = some (.file content)) {start : Place} {cs : List String}
    (hWalk : t'.walk start cs = .ok q) (hq : q ≠ p) : t.walk start cs = .ok q := by
  have hSeen {r : Place} (hr : t'.find? r = some .directory) : t.find? r = some .directory := by
    rw [← h.find?_eq r, hr]
    rintro rfl
    simp [hNew] at hr
  fun_induction Tree.walk t' start cs with
  | case1 => exact hWalk
  | case4 start rest hStart ih => simpa [Tree.walk, hSeen hStart] using ih hWalk
  | case5 start rest hStart _ ih => simpa [Tree.walk, hSeen hStart] using ih hWalk
  | case8 start c rest hStart hDot hDots hSize x hNext ih =>
      have hElsewhere : start ++ [c] ≠ p := by
        rintro hSame
        cases rest with
        | nil => exact hq ((Except.ok.inj hWalk).symm.trans hSame)
        | cons d rest => simp [Tree.walk, hSame, hNew] at hWalk
      rw [h.find?_eq _ hElsewhere] at hNext
      simpa [Tree.walk, hSeen hStart, hDot, hDots, hSize, hNext] using ih hWalk
  | _ => simp at hWalk

end AddsAtMost

/-- A file is read if its path is accepted, does not end as a directory does, and leads to it. -/
theorem Tree.read_eq_ok {t : Tree} {path : String} {content : ByteArray} :
    t.read path = .ok content ↔ refusal? path = none ∧ endsInSlash path = false ∧
      ∃ q, t.walk (t.origin path) (components path) = .ok q ∧
        t.find? q = some (.file content) := by
  unfold Tree.read Tree.locate
  cases refusal? path with
  | some x => simp
  | none =>
      cases t.walk (t.origin path) (components path) with
      | error x => simp
      | ok q =>
          cases hFind : t.find? q with
          | none => simp [hFind]
          | some entry =>
              cases entry with
              | directory => simp [hFind]
              | file content' =>
                  cases endsInSlash path <;> simp [hFind]

namespace AddsAtMost

variable {t t' : Tree} {p : Place} {content : ByteArray}

/-- A file of the first tree is a file of the second one. -/
theorem read_of_read {e : Entry} {path : String} {found : ByteArray} (h : AddsAtMost p e t t')
    (hRead : t.read path = .ok found) : t'.read path = .ok found := by
  obtain ⟨hAdmitted, hSlash, q, hWalk, hFound⟩ := Tree.read_eq_ok.mp hRead
  refine Tree.read_eq_ok.mpr ⟨hAdmitted, hSlash, q, ?_, ?_⟩
  · rw [h.origin_eq]
    exact h.walk_of_walk hWalk
  · exact h.find?_of_find? hFound

/-- Where the files differ, the first tree has none and the second the new one. -/
theorem read_cases (h : AddsAtMost p (.file content) t t') (path : String) :
    (t'.read path).toOption = (t.read path).toOption ∨
      (t.read path).toOption = none ∧ t'.read path = .ok content := by
  cases hOld : t.read path with
  | ok found => exact Or.inl (by rw [h.read_of_read hOld])
  | error x =>
      cases hNew : t'.read path with
      | error y => exact Or.inl rfl
      | ok found =>
          refine Or.inr ⟨rfl, ?_⟩
          obtain hSelf | ⟨hFree, hHere⟩ := h.find?_self
          · have hBack := (h.symm hSelf).read_of_read hNew
            simp [hOld] at hBack
          obtain ⟨hAdmitted, hSlash, q, hWalk, hFound⟩ := Tree.read_eq_ok.mp hNew
          by_cases hSame : q = p
          · rw [hSame, hHere] at hFound
            simpa using hFound.symm
          · rw [h.origin_eq] at hWalk
            rw [h.find?_eq q hSame] at hFound
            have hBack := Tree.read_eq_ok.mpr
              ⟨hAdmitted, hSlash, q, h.walk_of_walk_new hHere hWalk hSame, hFound⟩
            simp [hOld] at hBack

end AddsAtMost
end Iconsmith.Files
