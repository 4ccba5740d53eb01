import Iconsmith.Proofs.Bytes.Placement
import Iconsmith.Proofs.Settings.Store
import Iconsmith.Proofs.Xml.Plain
import Iconsmith.Svg.Render

/-! Reading drawings. A text that has a size has a scene, whatever it shows, so the
built-in icon is rendered in every size that there is a canvas for. -/
namespace Iconsmith.Svg

/-- A text is not compressed if its first byte is not the one that compressed files start with. -/
theorem not_isGzip_of_cons {text : String} {c : Char} {rest : List Char}
    (hText : text.toList = c :: rest) (hByte : Bytes.byte [c].utf8Encode 0 ≠ 0x1F) :
    Deflate.isGzip text.toUTF8 = false := by
  have hBytes : text.toUTF8 = [c].utf8Encode ++ rest.utf8Encode := by
    rw [← List.utf8Encode_cons, ← hText, ← String.toByteArray_ofList, String.ofList_toList]
    rfl
  have hSize : 0 < [c].utf8Encode.size := by
    rw [List.utf8Encode_singleton, List.size_toByteArray, String.length_utf8EncodeChar]
    exact c.utf8Size_pos
  rw [Deflate.isGzip, Bytes.hasAt, hBytes, Bytes.byte_append_left hSize, beq_eq_false_iff_ne.mpr hByte]
  simp

/-- A text that is not compressed is read as it is. -/
theorem Document.read_toUTF8 {text : String} (hPlain : Deflate.isGzip text.toUTF8 = false) :
    read text.toUTF8 = parse text := by
  unfold read
  simp only [hPlain, Bool.false_eq_true, if_false, pure_bind, Settings.fromUTF8?_toUTF8]

/-- The drawing in the nodes of a document. -/
def Document.ofNodes (nodes : List Xml.Node) : Except Fault Document := do
  let outermost := nodes.filterMap Xml.Node.element?
  let elements := Xml.Node.elementsOf nodes
  let trails := (trailsOf [] outermost []).flatMap (trailsWithin elements.length)
  let named := trails.filterMap fun t =>
    match t with
    | spot :: _ => (spot.element.attribute? none "id").map fun id => (id, t)
    | [] => none
  let source : Source := ⟨StyleSheet.rules (styleSheets elements), named⟩
  let (made, _) ← ((trailsOf [] outermost []).mapM (make source none [] maxDepth)).run 0
  match made.flatten with
  | root :: _ => if root.tag == "svg" then return ⟨root.withoutLoops⟩ else throw (.xml .noRoot)
  | [] => throw (.xml .noRoot)

theorem Document.parse_eq (text : String) :
    parse text = ((Xml.parse text).mapError .xml).bind ofNodes := rfl

/-- The nodes of a text are enough to make its document. -/
theorem Document.parse_of_nodes {text : String} {nodes : List Xml.Node}
    (h : Xml.parse text = .ok nodes) : parse text = ofNodes nodes := by
  rw [parse_eq, h]
  rfl

/-- A text that begins neither with a blank nor with a tag is no drawing. -/
theorem Document.parse_refused {text : String} {c : Char} {rest : List Char}
    (hText : text.toList = c :: rest) (hBlank : Xml.isBlank c = false) (hTag : c ≠ '<')
    (hMark : c ≠ '\uFEFF') : ∃ fault, parse text = .error fault := by
  obtain ⟨fault, hParse⟩ := Xml.parse_refused hText hBlank hTag hMark
  rw [parse_eq, hParse]
  exact ⟨_, rfl⟩

/-- The size of a document as it tells it. -/
def Document.size (d : Document) : Except Fault (Float32 × Float32 × Bool) :=
  Node.documentSize ⟨d.root, []⟩

/-- A drawing that has a size has a scene. -/
theorem exists_scene {d : Document} (hSize : d.size.isOk = true) (fuel : Nat)
    (pictures : String → Option Picture) : ∃ shown, scene (fuel + 1) pictures d = .ok shown := by
  obtain ⟨size, hSize⟩ : ∃ size, d.size = .ok size := by
    cases h : d.size with
    | ok size => exact ⟨size, rfl⟩
    | error e => simp [h, Except.isOk, Except.toBool] at hSize
  unfold Document.size at hSize
  rw [scene]
  simp only [hSize, bind, Except.bind]
  split
  · exact ⟨_, rfl⟩
  · split
    · split
      · split <;> exact ⟨_, rfl⟩
      · exact ⟨_, rfl⟩
    · exact ⟨_, rfl⟩

/-- A text with a size is rendered in every size that there is a canvas for. -/
theorem exists_render {text : String} (hPlain : Deflate.isGzip text.toUTF8 = false)
    (hText : ((Document.parse text).bind Document.size).isOk = true) (library : Library)
    {size : Size} (hCanvas : isCanvas size = true) :
    ∃ image, render library text.toUTF8 size = .ok image := by
  cases hParsed : Document.parse text with
  | error e => simp [hParsed, Except.bind, Except.isOk, Except.toBool] at hText
  | ok d =>
    rw [hParsed] at hText
    obtain ⟨shown, hShown⟩ := exists_scene hText 19999 (Picture.find? library)
    have hScene : Scene.read library text.toUTF8 = .ok shown := by
      rw [Scene.read, Document.read_toUTF8 hPlain, hParsed]
      exact hShown
    rw [render, hScene]
    exact ⟨_, if_pos hCanvas⟩

/-- The image of a document that is given by its nodes. -/
def renderNodes (library : Library) (nodes : List Xml.Node) (size : Size) : Except Failure Bitmap :=
  match (Document.ofNodes nodes).bind (scene maxSteps (Picture.find? library)) with
  | .error fault => .error (.notDrawable fault.message)
  | .ok scene =>
    if isCanvas size then .ok ((scene.draw size.width.toNat size.height.toNat).toBitmap size)
    else .error (.noCanvas size.text)

/-- A text counts for the image by its nodes only. -/
theorem render_of_nodes {text : String} (hPlain : Deflate.isGzip text.toUTF8 = false)
    {nodes : List Xml.Node} (hNodes : Xml.parse text = .ok nodes) (library : Library) (size : Size) :
    render library text.toUTF8 size = renderNodes library nodes size := by
  rw [render, Scene.read, Document.read_toUTF8 hPlain, Document.parse_of_nodes hNodes]
  rfl

/-! ### The built-in icon -/

/-- The built-in icon by its tags. -/
def iconTags : List Xml.PlainTag :=
  [.start "svg".toList
      [⟨"xmlns".toList, "http://www.w3.org/2000/svg".toList⟩, ⟨"width".toList, "24".toList⟩,
        ⟨"height".toList, "24".toList⟩, ⟨"viewBox".toList, "0 0 24 24".toList⟩,
        ⟨"fill".toList, "none".toList⟩, ⟨"stroke".toList, "#ffd700".toList⟩,
        ⟨"stroke-width".toList, "2".toList⟩, ⟨"stroke-linecap".toList, "round".toList⟩,
        ⟨"stroke-linejoin".toList, "round".toList⟩, ⟨"class".toList, "app-icon".toList⟩] true,
    .start "path".toList [⟨"d".toList, "M9 18V5l12-2v13".toList⟩] true, .stop "path".toList,
    .start "circle".toList
      [⟨"cx".toList, "6".toList⟩, ⟨"cy".toList, "18".toList⟩, ⟨"r".toList, "3".toList⟩] true,
    .stop "circle".toList,
    .start "circle".toList
      [⟨"cx".toList, "18".toList⟩, ⟨"cy".toList, "16".toList⟩, ⟨"r".toList, "3".toList⟩] true,
    .stop "circle".toList, .stop "svg".toList]

-- the characters of the text are named one by one
set_option maxRecDepth 20000 in
/-- The text of the built-in icon is put together from its tags. -/
theorem toList_icon : icon.toList = iconTags.flatMap Xml.PlainTag.text := by
  have hLetters : icon.toList = _ := String.toList_ofList
  rw [hLetters]
  decide

theorem isSome_iconTags : (Xml.nodesOf? iconTags).isSome = true := by
  decide

theorem parse_icon : Xml.parse icon = .ok ((Xml.nodesOf? iconTags).get isSome_iconTags) :=
  Xml.parse_tags toList_icon (by decide) (Option.some_get _).symm (by decide)

theorem size_iconTags : ((Document.ofNodes ((Xml.nodesOf? iconTags).get isSome_iconTags)).bind
    Document.size).isOk = true := by
  decide +kernel

theorem size_icon : ((Document.parse icon).bind Document.size).isOk = true := by
  rw [Document.parse_of_nodes parse_icon]
  exact size_iconTags

/-- The built-in icon is rendered in every size that there is a canvas for. -/
theorem exists_renderIcon {size : Size} (hCanvas : isCanvas size = true) :
    ∃ image, renderIcon size = .ok image :=
  exists_render (not_isGzip_of_cons toList_icon (by decide)) size_icon _ hCanvas

end Iconsmith.Svg
