import Iconsmith.Svg.Render
import Mathlib.Tactic

/-! What a drawing shows of the files around it: the images that it refers to, and
nothing else. All that is composed of its elements comes from elements within the
drawing, also what they refer to by name; so only the references of these elements
reach the images. -/

namespace Iconsmith.Svg

namespace Element

/-- An element is the first of all elements in it. -/
theorem mem_all_self (e : Element) : e ∈ e.all := by
  cases e
  simp [all]

mutual

/-- What an element of a drawing contains is in the drawing too. -/
theorem mem_all_of_child {c e : Element} :
    ∀ {root : Element}, e ∈ root.all → c ∈ e.children → c ∈ root.all
  | .mk number tag properties children, he, hc => by
    rw [all, List.mem_cons] at he ⊢
    rcases he with rfl | he
    · exact Or.inr (mem_allOf_of_mem hc)
    · exact Or.inr (mem_allOf_of_child he hc)

theorem mem_allOf_of_child {c e : Element} :
    ∀ {roots : List Element}, e ∈ allOf roots → c ∈ e.children → c ∈ allOf roots
  | [], he, _ => by simp [allOf] at he
  | root :: rest, he, hc => by
    rw [allOf, List.mem_append] at he ⊢
    rcases he with he | he
    · exact Or.inl (mem_all_of_child he hc)
    · exact Or.inr (mem_allOf_of_child he hc)

/-- The outermost elements are among all elements. -/
theorem mem_allOf_of_mem {c : Element} :
    ∀ {roots : List Element}, c ∈ roots → c ∈ allOf roots
  | [], hc => by simp at hc
  | root :: rest, hc => by
    rw [allOf, List.mem_append]
    rcases List.mem_cons.mp hc with rfl | hc
    · exact Or.inl (mem_all_self _)
    · exact Or.inr (mem_allOf_of_mem hc)

end

end Element

open Iconsmith.Geometry

variable {root : Element} {find : String → Option Node}

/-- An element of a drawing, wherever it stands. -/
def Node.Within (root : Element) (n : Node) : Prop := n.element ∈ root.all

/-- All elements that can be found by name are elements of a drawing. -/
def Finds (root : Element) (find : String → Option Node) : Prop :=
  ∀ name n, find name = some n → n.Within root

namespace Node

/-- What is inside of an element is where the element is. -/
theorem Within.child {n m : Node} (hn : n.Within root) (hm : m ∈ n.children) : m.Within root := by
  obtain ⟨e, he, rfl⟩ := List.mem_map.mp hm
  exact Element.mem_all_of_child hn he

theorem Within.allWithin {n : Node} (hn : n.Within root) (depth : Nat) :
    ∀ m ∈ n.allWithin depth, m.Within root := by
  induction depth generalizing n with
  | zero => simp [Node.allWithin]
  | succ depth ih =>
      intro m hm
      rw [Node.allWithin, List.mem_cons, List.mem_flatMap] at hm
      rcases hm with rfl | ⟨c, hc, hm⟩
      · exact hn
      · exact ih (hn.child hc) m hm

/-- A chain of references stays in the drawing, however many steps it is followed. -/
theorem within_go (hFind : Finds root find) (n : Node) (steps : Nat) (m : Node) :
    ∀ k ∈ chain.go find n steps m, k.Within root := by
  induction steps generalizing m with
  | zero => simp [chain.go]
  | succ steps ih =>
      intro k hk
      rw [chain.go] at hk
      split at hk
      · simp at hk
      · next next hNext =>
        split at hk
        · simp at hk
        · rcases List.mem_cons.mp hk with rfl | hk
          · obtain ⟨name, -, hName⟩ := Option.bind_eq_some_iff.mp hNext
            exact hFind name _ hName
          · exact ih next k hk

/-- The elements that an element takes missing properties from are in the same drawing. -/
theorem Within.chain {n : Node} (hn : n.Within root) (hFind : Finds root find) :
    ∀ m ∈ n.chain find, m.Within root := by
  intro m hm
  rcases List.mem_cons.mp hm with rfl | hm
  · exact hn
  · exact within_go hFind n _ _ m hm

end Node

/-- Places of pictures that effects show: the elements are effects of the drawing
that are made for it. -/
def Shown (root : Element) (pictures : List (Node × Rect)) : Prop :=
  ∀ m r, (m, r) ∈ pictures → m.Within root ∧ m.tag = "feImage"

theorem shown_nil : Shown root [] := fun _ _ hm => nomatch hm

theorem Shown.append {a b : List (Node × Rect)} (ha : Shown root a) (hb : Shown root b) :
    Shown root (a ++ b) :=
  fun m r hm => (List.mem_append.mp hm).elim (ha m r) (hb m r)

namespace Steps

/-- Only one kind of element shows a picture. -/
theorem tag_of_kind_picture {s : Steps} {n : Node} {scaleX scaleY : Float32} {pictures i : Nat}
    (h : s.kind n scaleX scaleY pictures = some (.picture i)) : n.tag = "feImage" := by
  by_contra hTag
  unfold kind nothing at h
  split at h
  all_goals try contradiction
  all_goals try simp at h
  · split at h <;> simp at h
  · cases hKernel : n.kernel? <;> simp [hKernel] at h
  · cases hLamp : n.lamp? <;> simp [hLamp] at h
  · split at h
    · simp at h
    · cases hLamp : n.lamp? <;> simp [hLamp] at h

/-- A step of an effect adds at most the picture of its own element. -/
theorem shown_add {s : Steps} {n : Node} (hs : Shown root s.pictures) (hn : n.Within root)
    (view : Rect) (onBox : Bool) (box : Option Rect) (whole : Rect) (pictures : Nat) :
    Shown root (add view onBox box whole pictures s n).pictures := by
  unfold add
  dsimp only
  split
  · next kind region hKind hRegion =>
    cases kind with
    | picture i =>
        refine hs.append fun m r hm => ?_
        obtain ⟨rfl, -⟩ := Prod.mk.inj (List.mem_singleton.mp hm)
        exact ⟨hn, tag_of_kind_picture hKind⟩
    | _ => exact hs
  · exact hs

/-- So the steps of an effect show pictures of the drawing only. -/
theorem shown_foldl {nodes : List Node} (hNodes : ∀ n ∈ nodes, n.Within root) {s : Steps}
    (hs : Shown root s.pictures) (view : Rect) (onBox : Bool) (box : Option Rect) (whole : Rect)
    (pictures : Nat) : Shown root (nodes.foldl (add view onBox box whole pictures) s).pictures := by
  induction nodes generalizing s with
  | nil => exact hs
  | cons n rest ih =>
      obtain ⟨hn, hRest⟩ := List.forall_mem_cons.mp hNodes
      exact ih hRest (shown_add hs hn view onBox box whole pictures)

end Steps

namespace Effects

/-- The element that holds the steps of an effect is found in the drawing. -/
theorem within_holder? (hFind : Finds root find) {n holder : Node} (hn : n.Within root)
    (h : holder? find n = some holder) : holder.Within root :=
  hn.chain hFind _ ((List.takeWhile_sublist _).subset (List.mem_of_find?_eq_some h))

/-- The pictures of an effect that an element describes come from the drawing. -/
theorem shown_ofNode? (hFind : Finds root find) {n : Node} (hn : n.Within root) {view : Rect}
    {box : Option Rect} {before : Nat} {e : Effect} {pictures : List (Node × Rect)}
    (h : ofNode? find view n box before = some (e, pictures)) : Shown root pictures := by
  unfold ofNode? at h
  dsimp only at h
  obtain ⟨region, -, h⟩ := Option.bind_eq_some_iff.mp h
  split at h
  all_goals
    obtain ⟨region', -, h⟩ := Option.bind_eq_some_iff.mp h
    obtain ⟨holder, hHolder, h⟩ := Option.bind_eq_some_iff.mp h
    split at h
    · simp at h
    · obtain ⟨-, rfl⟩ := Prod.mk.inj (Option.some.inj h)
      exact Steps.shown_foldl (fun m hm => (within_holder? hFind hn hHolder).child hm) shown_nil
        _ _ _ _ _

/-- The pictures of all effects of an element come from the drawing. -/
theorem shown_of? (hFind : Finds root find) {n : Node} {view : Rect} {box : Option Rect}
    {e : Effects} (h : of? find view n box = some e) : Shown root e.pictures := by
  unfold of? at h
  split at h
  · obtain rfl := Option.some.inj h
    exact shown_nil
  · obtain rfl := Option.some.inj h
    exact shown_nil
  · split at h
    · obtain rfl := Option.some.inj h
      exact shown_nil
    · next values hValues =>
      dsimp only at h
      split at h
      · simp at h
      · obtain rfl := Option.some.inj h
        refine List.foldlRecOn (motive := fun found : Effects × Bool => Shown root found.1.pictures)
          values _ shown_nil fun found hFound v _ => ?_
        split
        · split
          · exact hFound
          · exact hFound
        · split
          · next e pictures hLink =>
            obtain ⟨m, hName, hMade⟩ := Option.bind_eq_some_iff.mp hLink
            exact hFound.append (shown_ofNode? hFind (hFind _ _ hName) hMade)
          · exact hFound

end Effects

/-- The reference of an element that shows an image. The image of an effect is
another element if it refers to one. -/
def Node.image? (find : String → Option Node) (n : Node) : Option String :=
  if n.tag = "image" ∨
      n.tag = "feImage" ∧ ((n.get? "href").bind reference? |>.bind find) = none then n.get? "href"
  else none

/-- The same setting with other images. -/
def Setting.showing (s : Setting) (pictures : String → Option Picture) : Setting :=
  { s with pictures }

section Showing

variable (s : Setting) (pictures : String → Option Picture) (n : Node)

@[simp] theorem Setting.showing_find : (s.showing pictures).find = s.find := rfl

@[simp] theorem Setting.showing_view : (s.showing pictures).view = s.view := rfl

@[simp] theorem Setting.showing_clipping : (s.showing pictures).clipping = s.clipping := rfl

@[simp] theorem Setting.showing_entered : (s.showing pictures).entered = s.entered := rfl

/-- Where something is placed does not depend on the pictures. -/
@[simp] theorem Setting.showing_transform :
    (s.showing pictures).transform n = s.transform n := rfl

@[simp] theorem Setting.showing_linked? (name : String) :
    (s.showing pictures).linked? n name = s.linked? n name := rfl

/-- What is made of a link depends on them only through what is made of its element. -/
@[simp] theorem Setting.showing_follow? {α : Type} (name : String) (f : Node → Option α) :
    (s.showing pictures).follow? n name f = s.follow? n name f := rfl

@[simp] theorem Setting.showing_viewTransform? (m : Node) :
    (s.showing pictures).viewTransform? n m = s.viewTransform? n m := rfl

@[simp] theorem Setting.showing_window? (m : Node) :
    (s.showing pictures).window? n m = s.window? n m := rfl

@[simp] theorem Setting.showing_usedSides :
    (s.showing pictures).usedSides n = s.usedSides n := rfl

@[simp] theorem Setting.showing_contextFill :
    (s.showing pictures).contextFill = s.contextFill := rfl

@[simp] theorem Setting.showing_contextLine :
    (s.showing pictures).contextLine = s.contextLine := rfl

/-- Other pictures and other paints can be set in either order. -/
@[simp] theorem Setting.showing_painted (fill line : Option Painting) :
    (s.showing pictures).painted fill line = (s.painted fill line).showing pictures := rfl

@[simp] theorem Setting.showing_sized :
    (s.showing pictures).sized n = (s.sized n).showing pictures := rfl

/-- Other pictures can be set before an element is entered or afterwards. -/
@[simp] theorem Setting.showing_entering :
    (s.showing pictures).entering n = (s.entering n).showing pictures := rfl

@[simp] theorem Setting.showing_viewing (view : Rect) :
    (s.showing pictures).viewing view = (s.viewing view).showing pictures := rfl

@[simp] theorem Setting.showing_inClip :
    (s.showing pictures).inClip = s.inClip.showing pictures := rfl

@[simp] theorem Setting.showing_length (name : String) (default : Length) :
    (s.showing pictures).length n name default = s.length n name default := rfl

end Showing

/-- A setting within a drawing, whose elements cannot tell its images from others. -/
structure Setting.Agrees (root : Element) (s : Setting) (pictures : String → Option Picture) :
    Prop where
  finds : Finds root s.find
  pictures_eq : ∀ n : Node, n.Within root → ∀ reference, n.image? s.find = some reference →
    pictures reference = s.pictures reference

namespace Setting.Agrees

variable {pictures : String → Option Picture} {s : Setting} {n : Node}

/-- A link leads to an element of the drawing. -/
theorem linked? (hs : s.Agrees root pictures) {name : String} {m : Node}
    (h : s.linked? n name = some m) : m.Within root := by
  obtain ⟨_, -, hName⟩ := Option.bind_eq_some_iff.mp h
  exact hs.finds _ _ hName

/-- Two ways to go on behind a link give the same if they do for all elements of the drawing. -/
theorem follow?_congr {α : Type} (hs : s.Agrees root pictures) (name : String)
    {f g : Node → Option α} (hfg : ∀ m : Node, m.Within root → f m = g m) :
    s.follow? n name f = s.follow? n name g := by
  unfold Setting.follow?
  cases hLink : s.linked? n name with
  | none => rfl
  | some link => simp only [hfg link (hs.linked? hLink)]

/-- Other paints change nothing about what pictures are shown. -/
theorem painted (hs : s.Agrees root pictures) (fill line : Option Painting) :
    (s.painted fill line).Agrees root pictures := ⟨hs.finds, hs.pictures_eq⟩

theorem sized (hs : s.Agrees root pictures) (n : Node) : (s.sized n).Agrees root pictures :=
  ⟨hs.finds, hs.pictures_eq⟩

/-- Entering an element changes nothing about what pictures are shown. -/
theorem entering (hs : s.Agrees root pictures) (n : Node) : (s.entering n).Agrees root pictures :=
  ⟨hs.finds, hs.pictures_eq⟩

theorem viewing (hs : s.Agrees root pictures) (view : Rect) :
    (s.viewing view).Agrees root pictures :=
  ⟨hs.finds, hs.pictures_eq⟩

theorem inClip (hs : s.Agrees root pictures) : s.inClip.Agrees root pictures :=
  ⟨hs.finds, hs.pictures_eq⟩

end Setting.Agrees

/-- Within some steps nothing that is composed depends on which of the images are
there. -/
structure AgreeWithin (root : Element) (pictures : String → Option Picture) (fuel : Nat) : Prop where
  items : ∀ {s n}, s.Agrees root pictures → n.Within root →
    items fuel (s.showing pictures) n = items fuel s n
  groupItems : ∀ {s} n force place content, s.Agrees root pictures →
    groupItems fuel (s.showing pictures) n force place content =
      groupItems fuel s n force place content
  pictureItems : ∀ {s n} r, s.Agrees root pictures → n.Within root → n.tag = "feImage" →
    pictureItems fuel (s.showing pictures) n r = pictureItems fuel s n r
  placedItems : ∀ {s n} t, s.Agrees root pictures → n.Within root →
    placedItems fuel (s.showing pictures) n t = placedItems fuel s n t
  useItems : ∀ {s n}, s.Agrees root pictures → n.Within root →
    useItems fuel (s.showing pictures) n = useItems fuel s n
  nestedItems : ∀ {s n}, s.Agrees root pictures → n.Within root →
    nestedItems fuel (s.showing pictures) n = nestedItems fuel s n
  clipItems : ∀ {s n}, s.Agrees root pictures → n.Within root →
    clipItems fuel (s.showing pictures) n = clipItems fuel s n
  clip? : ∀ {s n} box, s.Agrees root pictures → n.Within root →
    clip? fuel (s.showing pictures) n box = clip? fuel s n box
  mask? : ∀ {s n} box, s.Agrees root pictures → n.Within root →
    mask? fuel (s.showing pictures) n box = mask? fuel s n box
  painting? : ∀ {s} n name hasBox, s.Agrees root pictures →
    painting? fuel (s.showing pictures) n name hasBox = painting? fuel s n name hasBox
  fill? : ∀ {s} n hasBox, s.Agrees root pictures →
    fill? fuel (s.showing pictures) n hasBox = fill? fuel s n hasBox
  line? : ∀ {s} n hasBox, s.Agrees root pictures →
    line? fuel (s.showing pictures) n hasBox = line? fuel s n hasBox
  pattern? : ∀ {s n}, s.Agrees root pictures → n.Within root →
    pattern? fuel (s.showing pictures) n = pattern? fuel s n
  pathItems : ∀ {s} n path, s.Agrees root pictures →
    pathItems fuel (s.showing pictures) n path = pathItems fuel s n path
  markerItems : ∀ {s} n path, s.Agrees root pictures →
    markerItems fuel (s.showing pictures) n path = markerItems fuel s n path
  markersAt : ∀ {s m} n path place, s.Agrees root pictures → m.Within root →
    markersAt fuel (s.showing pictures) n path m place = markersAt fuel s n path m place
  imageItems : ∀ {s n} frame, s.Agrees root pictures → n.Within root →
    n.image? s.find = n.get? "href" →
    imageItems fuel (s.showing pictures) n frame = imageItems fuel s n frame

namespace AgreeWithin

variable {pictures : String → Option Picture} {fuel : Nat} {s : Setting} {n : Node}

/-- Without any levels nothing is composed, from whatever pictures. -/
theorem zero : AgreeWithin root pictures 0 := by
  constructor <;> intros <;> rfl

/-- The picture of an element in the drawing is the same, since its reference is one of the
drawing. -/
theorem succ_imageItems (frame : Option Rect) (hs : s.Agrees root pictures) (hn : n.Within root)
    (hImage : n.image? s.find = n.get? "href") :
    Svg.imageItems (fuel + 1) (s.showing pictures) n frame = Svg.imageItems (fuel + 1) s n frame := by
  have hPicture : (n.get? "href").bind pictures = (n.get? "href").bind s.pictures := by
    cases hReference : n.get? "href" with
    | none => rfl
    | some reference => exact hs.pictures_eq n hn reference (hImage.trans hReference)
  rw [Svg.imageItems, Svg.imageItems]
  simp only [Setting.showing, hPicture]
  rfl

variable (h : AgreeWithin root pictures fuel)

include h

/-- The content of an element is composed alike if each of its parts is. -/
theorem children (hs : s.Agrees root pictures) (hn : n.Within root) :
    n.children.flatMap (Svg.items fuel (s.showing pictures)) =
      n.children.flatMap (Svg.items fuel s) :=
  List.flatMap_congr fun _ hm => h.items hs (hn.child hm)

/-- An element of any kind gives the same items. Each kind is composed of what fewer levels have
made. -/
theorem succ_items (hs : s.Agrees root pictures) (hn : n.Within root) :
    Svg.items (fuel + 1) (s.showing pictures) n = Svg.items (fuel + 1) s n := by
  rw [Svg.items, Svg.items]
  split
  · rfl
  · split
    · exact h.useItems hs hn
    · split
      · rfl
      · next c hFound =>
        rw [h.items hs (hn.child (List.mem_of_find?_eq_some hFound)), h.groupItems _ _ _ _ hs]
        rfl
    · rw [h.children hs hn, h.groupItems _ _ _ _ hs, h.nestedItems hs hn]
      rfl
    · rw [h.children hs hn, h.groupItems _ _ _ _ hs]
      rfl
    · next hTag =>
      rw [h.imageItems _ hs hn (if_pos (Or.inl hTag)), h.groupItems _ _ _ _ hs]
      rfl
    · rw [Setting.showing_view]
      split
      · rfl
      · rw [h.pathItems _ _ hs, h.groupItems _ _ _ _ hs]
        rfl

theorem succ_groupItems (n : Node) (force : Bool) (place : Transform) (content : List Item)
    (hs : s.Agrees root pictures) :
    Svg.groupItems (fuel + 1) (s.showing pictures) n force place content =
      Svg.groupItems (fuel + 1) s n force place content := by
  have hClip := hs.follow?_congr (n := n) "clip-path" fun m hm =>
    h.clip? (Item.shapeOf? content) hs hm
  have hMask := hs.follow?_congr (n := n) "mask" fun m hm => h.mask? (Item.shapeOf? content) hs hm
  rw [Svg.groupItems, Svg.groupItems]
  -- the pictures of effects are the only other part that shows images
  cases hClipping : s.clipping with
  | true =>
      simp only [Setting.showing_follow?, Setting.showing_clipping, Setting.showing_transform,
        hClipping, hClip, if_true]
      generalize s.follow? n "clip-path" _ = clip?
      cases clip? <;> rfl
  | false =>
      simp only [Setting.showing_follow?, Setting.showing_clipping, Setting.showing_find,
        Setting.showing_view, Setting.showing_transform, hClipping, hClip, hMask,
        Bool.false_eq_true, if_false]
      generalize s.follow? n "clip-path" _ = clip?
      generalize s.follow? n "mask" _ = mask?
      cases hEffects : Effects.of? s.find s.view n (Item.shapeOf? content) with
      | none => cases clip? <;> cases mask? <;> rfl
      | some e =>
          have hShown := Effects.shown_of? hs.finds hEffects
          have hPictures : ∀ q ∈ e.pictures,
              Svg.pictureItems fuel (s.showing pictures) q.1 q.2 = Svg.pictureItems fuel s q.1 q.2 :=
            fun q hq => h.pictureItems q.2 hs (hShown q.1 q.2 hq).1 (hShown q.1 q.2 hq).2
          have hMap := List.map_congr_left fun q hq =>
            congrArg (Item.grouped .identity) (hPictures q hq)
          cases clip? <;> cases mask? <;> simp only [hMap]

/-- A picture in an effect is the same, be it an image of its own or a part of the drawing. -/
theorem succ_pictureItems (r : Rect) (hs : s.Agrees root pictures) (hn : n.Within root)
    (hTag : n.tag = "feImage") :
    Svg.pictureItems (fuel + 1) (s.showing pictures) n r = Svg.pictureItems (fuel + 1) s n r := by
  rw [Svg.pictureItems, Svg.pictureItems, Setting.showing_find, Setting.showing_entered]
  split
  · next m hFound =>
    obtain ⟨name, -, hName⟩ := Option.bind_eq_some_iff.mp hFound
    rw [Setting.showing_entering, h.items (hs.entering m) (hs.finds _ _ hName)]
  · next hNone => exact h.imageItems _ hs hn (if_pos (Or.inr ⟨hTag, hNone⟩))

theorem succ_placedItems (t : Transform) (hs : s.Agrees root pictures) (hn : n.Within root) :
    Svg.placedItems (fuel + 1) (s.showing pictures) n t = Svg.placedItems (fuel + 1) s n t := by
  rw [Svg.placedItems, Svg.placedItems, h.children hs hn, h.clipItems hs hn, h.groupItems _ _ _ _ hs]
  rfl

/-- An element that is used in another place gives the same items there. -/
theorem succ_useItems (hs : s.Agrees root pictures) (hn : n.Within root) :
    Svg.useItems (fuel + 1) (s.showing pictures) n = Svg.useItems (fuel + 1) s n := by
  rw [Svg.useItems, Svg.useItems, h.fill? _ _ hs, h.line? _ _ hs]
  split
  · rfl
  · next c rest hChildren =>
    have hc : c.Within root := hn.child (by simp [hChildren])
    have hPainted := hs.painted (Svg.fill? fuel s n true) (Svg.line? fuel s n true)
    simp only [Setting.showing_painted, Setting.showing_sized, Setting.showing_window?,
      Setting.showing_viewTransform?, Setting.showing_transform, Setting.showing_length,
      Setting.showing_clipping, h.groupItems _ _ _ _ hPainted, h.placedItems _ hPainted hc]
    cases c.tag == "svg" with
    | true => simp only [if_true, h.placedItems _ (hPainted.sized n) hn]
    | false => simp only [Bool.false_eq_true, if_false, h.placedItems _ hPainted hn]

/-- A nested drawing gives the same items in its window. -/
theorem succ_nestedItems (hs : s.Agrees root pictures) (hn : n.Within root) :
    Svg.nestedItems (fuel + 1) (s.showing pictures) n = Svg.nestedItems (fuel + 1) s n := by
  rw [Svg.nestedItems, Svg.nestedItems]
  simp only [Setting.showing_viewing, Setting.showing_view,
      Setting.showing_window?, Setting.showing_viewTransform?, Setting.showing_transform,
      Setting.showing_length, Setting.showing_usedSides, h.placedItems _ (hs.viewing _) hn]

theorem succ_clipItems (hs : s.Agrees root pictures) (hn : n.Within root) :
    Svg.clipItems (fuel + 1) (s.showing pictures) n = Svg.clipItems (fuel + 1) s n := by
  rw [Svg.clipItems, Svg.clipItems]
  refine List.flatMap_congr fun c hc => ?_
  rw [h.useItems hs (hn.child hc), Setting.showing_view]
  split
  · rfl
  · split
    · rfl
    · split
      · rfl
      · rw [h.pathItems _ _ hs, h.groupItems _ _ _ _ hs]
        rfl

/-- A clip is the same, with the clip that bounds it. -/
theorem succ_clip? (box : Option Rect) (hs : s.Agrees root pictures) (hn : n.Within root) :
    Svg.clip? (fuel + 1) (s.showing pictures) n box = Svg.clip? (fuel + 1) s n box := by
  rw [Svg.clip?, Svg.clip?]
  simp only [Setting.showing_follow?, Setting.showing_inClip, Setting.showing_transform,
    hs.follow?_congr (n := n) "clip-path" fun m hm => h.clip? box hs hm, h.clipItems hs.inClip hn]

theorem succ_mask? (box : Option Rect) (hs : s.Agrees root pictures) (hn : n.Within root) :
    Svg.mask? (fuel + 1) (s.showing pictures) n box = Svg.mask? (fuel + 1) s n box := by
  rw [Svg.mask?.eq_def, Svg.mask?.eq_def]
  simp only [Setting.showing_follow?, Setting.showing_view,
    hs.follow?_congr (n := n) "mask" fun m hm => h.mask? box hs hm, h.children hs hn]

/-- A paint is the same, also if it is a pattern with pictures in it. -/
theorem succ_painting? (n : Node) (name : String) (hasBox : Bool) (hs : s.Agrees root pictures) :
    Svg.painting? (fuel + 1) (s.showing pictures) n name hasBox =
      Svg.painting? (fuel + 1) s n name hasBox := by
  rw [Svg.painting?, Svg.painting?]
  simp only [Setting.showing_find, Setting.showing_view, Setting.showing_contextFill,
    Setting.showing_contextLine]
  -- only a link to a pattern shows more than colors
  split
  all_goals try rfl
  next target fallback _ =>
    split
    · rfl
    · next link hLink => rw [h.pattern? hs (hs.finds _ _ hLink)]

theorem succ_fill? (n : Node) (hasBox : Bool) (hs : s.Agrees root pictures) :
    Svg.fill? (fuel + 1) (s.showing pictures) n hasBox = Svg.fill? (fuel + 1) s n hasBox := by
  rw [Svg.fill?, Svg.fill?]
  simp only [Setting.showing_clipping, h.painting? _ _ _ hs]

theorem succ_line? (n : Node) (hasBox : Bool) (hs : s.Agrees root pictures) :
    Svg.line? (fuel + 1) (s.showing pictures) n hasBox = Svg.line? (fuel + 1) s n hasBox := by
  rw [Svg.line?, Svg.line?]
  simp only [Setting.showing_clipping, h.painting? _ _ _ hs]

/-- A pattern is the same, wherever in its chain the content comes from. -/
theorem succ_pattern? (hs : s.Agrees root pictures) (hn : n.Within root) :
    Svg.pattern? (fuel + 1) (s.showing pictures) n = Svg.pattern? (fuel + 1) s n := by
  rw [Svg.pattern?.eq_def, Svg.pattern?.eq_def]
  simp only [Setting.showing_find, Setting.showing_view]
  split
  · rfl
  · next holder hHolder =>
    have hWithin : holder.Within root := hn.chain hs.finds _
      ((List.takeWhile_sublist _).subset (List.mem_of_find?_eq_some hHolder))
    simp only [h.children hs hWithin]

/-- A path with its area, its line and its markers is the same. -/
theorem succ_pathItems (n : Node) (path : Path) (hs : s.Agrees root pictures) :
    Svg.pathItems (fuel + 1) (s.showing pictures) n path = Svg.pathItems (fuel + 1) s n path := by
  rw [Svg.pathItems, Svg.pathItems]
  simp only [Setting.showing_view, Setting.showing_clipping, Setting.showing_painted,
    h.fill? _ _ hs, h.line? _ _ hs, h.markerItems _ _ (hs.painted _ _)]
  rfl

theorem succ_markerItems (n : Node) (path : Path) (hs : s.Agrees root pictures) :
    Svg.markerItems (fuel + 1) (s.showing pictures) n path = Svg.markerItems (fuel + 1) s n path := by
  rw [Svg.markerItems, Svg.markerItems]
  split
  · rfl
  · refine List.flatMap_congr fun q hq => ?_
    dsimp only
    rw [Setting.showing_find]
    split
    · rfl
    · next m hFound =>
      obtain ⟨_, -, hName⟩ := Option.bind_eq_some_iff.mp hFound
      rw [Setting.showing_entered, h.markersAt _ _ _ hs (hs.finds _ _ hName)]

theorem succ_markersAt {m : Node} (n : Node) (path : Path) (place : MarkerPlace)
    (hs : s.Agrees root pictures) (hm : m.Within root) :
    Svg.markersAt (fuel + 1) (s.showing pictures) n path m place =
      Svg.markersAt (fuel + 1) s n path m place := by
  rw [Svg.markersAt.eq_def, Svg.markersAt.eq_def]
  simp only [Setting.showing_view, Setting.showing_length, Setting.showing_entering,
    h.children (hs.entering m) hm]

end AgreeWithin

/-- Nothing that is composed depends on which of the images are there that the
drawing does not refer to. -/
theorem agreeWithin (root : Element) (pictures : String → Option Picture) :
    ∀ fuel, AgreeWithin root pictures fuel
  | 0 => .zero
  | fuel + 1 =>
    let h := agreeWithin root pictures fuel
    { items := h.succ_items
      groupItems := h.succ_groupItems
      pictureItems := h.succ_pictureItems
      placedItems := h.succ_placedItems
      useItems := h.succ_useItems
      nestedItems := h.succ_nestedItems
      clipItems := h.succ_clipItems
      clip? := h.succ_clip?
      mask? := h.succ_mask?
      painting? := h.succ_painting?
      fill? := h.succ_fill?
      line? := h.succ_line?
      pattern? := h.succ_pattern?
      pathItems := h.succ_pathItems
      markerItems := h.succ_markerItems
      markersAt := h.succ_markersAt
      imageItems := AgreeWithin.succ_imageItems }

namespace Document

/-- The element with a name. -/
def byName (d : Document) (name : String) : Option Node := d.named.lookup name

theorem within_root (d : Document) : Node.Within d.root ⟨d.root, []⟩ := Element.mem_all_self _

/-- Names of a document stand for elements of its drawing. -/
theorem finds_byName (d : Document) : Finds d.root d.byName := by
  intro name n hName
  obtain ⟨l₁, l₂, hNamed, -⟩ := List.lookup_eq_some_iff.mp hName
  have hMem : (name, n) ∈ d.named := by simp [hNamed]
  simp only [named, List.mem_reverse, List.mem_filterMap, Option.map_eq_some_iff] at hMem
  obtain ⟨m, hm, id, -, hPair⟩ := hMem
  obtain ⟨-, rfl⟩ := Prod.mk.inj hPair
  exact d.within_root.allWithin 1100 m hm

/-- The drawing refers to a file as an image. -/
def ImageFile (d : Document) (reference : String) : Prop :=
  ∃ n : Node, n.Within d.root ∧ n.image? d.byName = some reference ∧
    Picture.data? reference = none

/-- A file that is shown as an image is referred to in the document. -/
theorem mem_references_of_imageFile {d : Document} {reference : String}
    (h : d.ImageFile reference) : reference ∈ d.references := by
  obtain ⟨n, hWithin, hImage, -⟩ := h
  unfold Node.image? at hImage
  split at hImage
  · next hTag =>
    refine List.mem_filterMap.mpr ⟨n.element, hWithin, ?_⟩
    have hShows : n.element.tag = "image" ∨ n.element.tag = "feImage" := hTag.imp id And.left
    have hHref : n.element.get? "href" = some reference := hImage
    simpa [hShows] using hHref
  · simp at hImage

end Document

/-- A reference that carries its image with it does not look at the files. -/
theorem Picture.find?_congr {library library' : Library} {reference : String}
    (h : Picture.data? reference = none → library' reference = library reference) :
    Picture.find? library' reference = Picture.find? library reference := by
  unfold find?
  split
  · rfl
  · next hData => rw [h hData]

section Library

variable {d : Document} {library library' : Library}

/-- A drawing looks the same with another library in which the files are the same
that it refers to. -/
theorem scene_congr (h : ∀ reference, d.ImageFile reference → library' reference = library reference)
    (fuel : Nat) : scene fuel (Picture.find? library') d = scene fuel (Picture.find? library) d := by
  have hAgrees (view : Rect) : Setting.Agrees d.root
      ⟨d.byName, Picture.find? library, view, none, none, false, none, none, []⟩
      (Picture.find? library') :=
    ⟨d.finds_byName, fun n hn reference hReference =>
      Picture.find?_congr fun hData => h reference ⟨n, hn, hReference, hData⟩⟩
  cases fuel with
  | zero => rfl
  | succ fuel =>
      have hItems (view : Rect) :
          items fuel ⟨fun name => d.named.lookup name, Picture.find? library', view, none, none,
            false, none, none, []⟩ ⟨d.root, []⟩ =
          items fuel ⟨fun name => d.named.lookup name, Picture.find? library, view, none, none,
            false, none, none, []⟩ ⟨d.root, []⟩ :=
        (agreeWithin d.root _ fuel).items (hAgrees view) d.within_root
      rw [scene, scene]
      simp only [hItems]

/-- A drawing looks the same with all files in which the images agree that it refers to. -/
theorem render_congr_imageFiles {content : ByteArray} (size : Size)
    (h : ∀ d, Document.read content = .ok d → ∀ reference, d.ImageFile reference →
      library' reference = library reference) :
    render library' content size = render library content size := by
  unfold render Scene.read
  cases hRead : Document.read content with
  | error e => rfl
  | ok d =>
      have hScene := scene_congr (h d hRead) maxSteps
      simp only [Except.bind, hScene]

end Library

end Iconsmith.Svg
