import Iconsmith.Proofs.Convert.Verdict
import Iconsmith.Proofs.Svg.Reading
import Iconsmith.Proofs.World.Comparison

/-! Converting the built-in icon. Nothing of the source counts but that it exists, so
whatever is at its place or below makes no difference and stays as it is. Only the path
of the target may depend on it: where that path leads into the source and out again, it
counts whether the source is a directory. -/
namespace Iconsmith

open Files Files.Tree Files.Blind Iconsmith.Action

namespace Convert

/-- The built-in icon is drawn without a look at the source. -/
theorem rendered_embedded {s : Settings} (hEmbedded : s.drawing = .embedded) (t : Tree)
    (place : Place) (source : Entry) (asked : Size) :
    rendered s t place source asked = Svg.renderIcon asked := by
  unfold rendered
  split
  · rfl
  · next hFile => cases hEmbedded.symm.trans hFile
  · next hFile => cases hEmbedded.symm.trans hFile

/-- What is saved is saved alike on files whose difference the path of the target avoids. -/
theorem matched_conclude {hidden : Place → Prop} {R : Tree → Tree → Prop} (hR : Blind hidden R)
    {png : String} (hAvoids : ∀ t t', R t t' → t.Avoids png hidden) (s : Settings) (asked : Size)
    (drawn : Except Failure Bitmap) (choices : Png.Choices) :
    Matched R (conclude s png asked drawn choices) (conclude s png asked drawn choices) := by
  unfold conclude
  split
  · exact matched_throw _
  · split
    · exact matched_throw _
    · exact (Saving.matched_savePng hR hAvoids _ choices).bind fun _ => matched_pure _

/-- With the built-in icon nothing else of the source is looked at. -/
theorem perform_steps_embedded {s : Settings} (hEmbedded : s.drawing = .embedded) {svg : String}
    (png : String) (size : Option Size) (choices : Png.Choices) {w : World}
    (hThere : w.files.exists? svg = true) :
    let asked := size.getD s.defaultSize
    (steps s svg png size choices).perform w =
      (conclude s png asked (Svg.renderIcon asked) choices).perform w := by
  intro asked
  obtain ⟨place, source, hLocated⟩ := exists_locate hThere
  rw [perform_steps_of_locate hLocated, rendered_embedded hEmbedded]

/-- What stands on the way to a target before a conversion is still there after it. -/
theorem find?_steps {s : Settings} {svg png : String} {size : Option Size} {choices : Png.Choices}
    {w : World} {q : Place} (hThrough : w.files.Along png q → (w.files.find? q).isSome)
    (hOther : q ≠ w.files.destination png) :
    ((steps s svg png size choices).perform w).2.files.find? q = w.files.find? q := by
  obtain hSame | ⟨hNone, -, hWay⟩ | ⟨-, hTarget, -⟩ :=
    (writes_steps s svg png size choices w).find?_cases q
  · exact hSame
  · simpa [hNone] using hThrough hWay.along
  · exact absurd hTarget hOther

/-- Two trees in which a source exists agree outside of it, and a target is not within it. If the
path of the target passes through the source, then by places that are there in both trees, as
directories or as files. With the built-in icon a conversion then ends in the same way on both and
leaves the same files outside of the source. The source is left as it was, with all that is below
it. -/
theorem run_embedded (s : ValidSettings) (hEmbedded : s.val.drawing = .embedded)
    (svg png : String) (size : Option Size) (choices : Png.Choices) (w w' : World)
    (hThere : w.files.exists? svg = true) (hThere' : w'.files.exists? svg = true) :
    let Source (q : Place) : Prop := w.files.destination svg <+: q
    let first := (run s svg png size choices).perform w
    let second := (run s svg png size choices).perform w'
    AgreesOff Source w.files w'.files → ¬Source (w.files.destination png) →
    (∀ q, w.files.Along png q → Source q →
      (w.files.find? q).isSome ∧ SameKind (w.files.find? q) (w'.files.find? q)) →
    second.1 = first.1 ∧ AgreesOff Source first.2.files second.2.files ∧
      ∀ q, Source q →
        first.2.files.find? q = w.files.find? q ∧ second.2.files.find? q = w'.files.find? q := by
  intro Source first second hAgree hApart hThrough
  have hFirst : first.1 = ((steps s.val svg png size choices).perform w).1 ∧
      first.2.files = ((steps s.val svg png size choices).perform w).2.files :=
    ⟨ending_reported .., files_reported ..⟩
  have hSecond : second.1 = ((steps s.val svg png size choices).perform w').1 ∧
      second.2.files = ((steps s.val svg png size choices).perform w').2.files :=
    ⟨ending_reported .., files_reported ..⟩
  have hDiffers : DiffersAside w.files png Source w.files w'.files :=
    .of_agreesOff hAgree fun q hAlong hSource => (hThrough q hAlong hSource).2
  have hMatched := matched_conclude (DiffersAside.blind w.files png Source)
    (fun t t' h => h.avoids) s.val (size.getD s.val.defaultSize)
    (Svg.renderIcon (size.getD s.val.defaultSize)) choices
  obtain ⟨hEnding, hFiles⟩ := hMatched w w' hDiffers
  rw [hFirst.1, hFirst.2, hSecond.1, hSecond.2]
  have hHome := along_of_home hAgree.home_eq png
  have hTarget : w'.files.destination png = w.files.destination png := by
    rw [destination, destination, hAgree.resembles.origin_eq]
  -- The ending, the files outside of the source, and the source itself in either run.
  refine ⟨?_, ?_, fun q hSource => ⟨find?_steps ?_ ?_, find?_steps ?_ ?_⟩⟩
  · rw [perform_steps_embedded hEmbedded png size choices hThere,
      perform_steps_embedded hEmbedded png size choices hThere', hEnding]
  · rw [perform_steps_embedded hEmbedded png size choices hThere,
      perform_steps_embedded hEmbedded png size choices hThere']
    exact hFiles.agreesOff
  · exact fun hAlong => (hThrough q hAlong hSource).1
  · rintro rfl
    exact hApart hSource
  · intro hAlong
    obtain ⟨hSome, hKind⟩ := hThrough q ((hHome q).mp hAlong) hSource
    exact hKind.isSome_eq ▸ hSome
  · rw [hTarget]
    rintro rfl
    exact hApart hSource

/-- A directory with one entry, the source of a conversion. -/
def Embedded.world (source : Entry) : World :=
  ⟨⟨[(["work"], .directory), (["work", "src"], source)], ["work"]⟩, []⟩

/-- The settings that hold by default. -/
def Embedded.settings : ValidSettings := ⟨Settings.default, by decide⟩

/-- A conversion of the source with these settings. -/
def Embedded.convert (png : String) : Action Failure Size :=
  run settings "src" png (some ⟨1, 1⟩) .plain

theorem Embedded.find?_world (source : Entry) :
    (world source).files.find? ["work", "src"] = some source := by
  simp [world, find?]

theorem Embedded.agreesOff_world (e e' : Entry) :
    AgreesOff (["work", "src"] <+: ·) (world e).files (world e').files := by
  refine ⟨rfl, fun q hq => ?_⟩
  have hOther : (["work", "src"] == q) = false := by
    rw [beq_eq_false_iff_ne]
    rintro rfl
    exact hq List.prefix_rfl
  simp [world, find?, List.find?, hOther]

/-- The source is a file or a directory, and the target next to it. -/
theorem run_embedded_fileOrDirectory :
    ((Embedded.convert "o.png").perform (Embedded.world .directory)).1 =
      ((Embedded.convert "o.png").perform (Embedded.world (.file ⟨#[60, 115]⟩))).1 ∧
    ∀ source ∈ [.directory, .file ⟨#[60, 115]⟩],
      ((Embedded.convert "o.png").perform (Embedded.world source)).2.files.find? ["work", "src"] =
        some source := by
  have hNever (q : Place) (hAlong : (Embedded.world .directory).files.Along "o.png" q) :
      ¬["work", "src"] <+: q := by
    have hAll : ∀ cs ∈ (components "o.png").inits,
        ¬["work", "src"] <+: Place.follow ["work"] cs := by
      decide
    obtain ⟨cs, hPrefix, rfl⟩ := hAlong
    exact hAll cs ((List.mem_inits cs _).mpr hPrefix)
  obtain ⟨hEnding, -, hKept⟩ := run_embedded Embedded.settings rfl "src" "o.png"
    (some ⟨1, 1⟩) .plain (Embedded.world (.file ⟨#[60, 115]⟩)) (Embedded.world .directory)
    (by decide) (by decide) (Embedded.agreesOff_world _ _) (by decide)
    fun q hAlong hSource => absurd hSource (hNever q hAlong)
  obtain ⟨hFile, hDirectory⟩ := hKept ["work", "src"] List.prefix_rfl
  rw [Embedded.find?_world] at hFile hDirectory
  unfold Embedded.convert
  refine ⟨hEnding, fun source hSource => ?_⟩
  simp only [List.mem_cons, List.not_mem_nil, or_false] at hSource
  obtain rfl | rfl := hSource
  · exact hDirectory
  · exact hFile

/-- The target is next to the source, but its path enters the source and leaves it again. Only
where the source is a directory is this a path at all. -/
theorem run_embedded_not_always :
    ¬∀ (s : ValidSettings) (svg png : String) (size : Option Size) (w w' : World),
      s.val.drawing = .embedded → w.files.exists? svg = true → w'.files.exists? svg = true →
      AgreesOff (w.files.destination svg <+: ·) w.files w'.files →
      ¬w.files.destination svg <+: w.files.destination png →
      ((run s svg png size .plain).perform w').1 = ((run s svg png size .plain).perform w).1 := by
  intro h
  have hSame : ((Embedded.convert "./src/../o.png").perform (Embedded.world (.file .empty))).1 =
      ((Embedded.convert "./src/../o.png").perform (Embedded.world .directory)).1 :=
    h _ "src" _ _ _ _ rfl (by decide) (by decide) (Embedded.agreesOff_world _ _)
      (by decide)
  obtain ⟨image, hImage⟩ : ∃ image, Svg.renderIcon ⟨1, 1⟩ = .ok image :=
    Svg.exists_renderIcon (by decide)
  have hChecked : checkSize Embedded.settings.val ⟨1, 1⟩ = .ok () := by decide
  have hEnding (source : Entry) (hThere : (Embedded.world source).files.exists? "src" = true) :
      ((Embedded.convert "./src/../o.png").perform (Embedded.world source)).1 =
      ((Saving.savePng image "./src/../o.png" .plain >>= fun _ => pure ⟨1, 1⟩).perform
        (Embedded.world source)).1 := by
    rw [Embedded.convert, run, ending_reported, perform_steps_embedded rfl _ _ _ hThere,
      Option.getD_some, hImage, conclude, hChecked]
  have hPrepared : ((Saving.prepareDirectory "./src/../o.png").perform
      (Embedded.world .directory)).1 = .done () := by
    decide
  have hRefused : ((Saving.prepareDirectory "./src/../o.png").perform
      (Embedded.world (.file .empty))).1 =
        .failed (.noOutputDirectory "./src/.." OsError.notDirectory.message) := by
    decide
  rw [hEnding _ (by decide), hEnding _ (by decide), perform_bind, perform_bind,
    Saving.savePng_of_not_prepared (Prod.ext hRefused rfl)] at hSame
  cases hSaved : (Saving.savePng image "./src/../o.png" .plain).perform
      (Embedded.world .directory) with
  | mk ending v =>
    rw [hSaved] at hSame
    cases ending with
    | failed f =>
      obtain rfl := Ending.failed.inj hSame
      exact absurd (Saving.kind_of_prepared hPrepared hSaved) (by decide)
    | done u => simp at hSame
    | crashed c => simp at hSame

end Convert
end Iconsmith
