import Iconsmith.Saving
import Iconsmith.Settings
import Iconsmith.Svg.Render

/-!
Converting a drawing to a PNG file of a given size. The source must exist even where the built-in
icon is rendered. The outcome is reported once.
-/

namespace Iconsmith

namespace Failure

def noDrawing (path : String) : Failure := ⟨.sourceNotFound, "SVG 文件不存在：" ++ path⟩

def unreadableDrawing (reason : String) : Failure := ⟨.fileSystem, "无法读取 SVG 文件：" ++ reason⟩

def emptyOutput (size : String) : Failure := ⟨.invalidFormat, "输出尺寸必须为正整数：" ++ size⟩

def outputTooLarge (pixels limit : Nat) : Failure :=
  ⟨.resourceLimit, "输出像素过大：" ++ Decimal.text pixels ++ " 像素（限制：" ++ Decimal.text limit ++
    " 像素）"⟩

end Failure

namespace Convert

def checkSize (s : Settings) (size : Size) : Except Failure Unit :=
  if size.width = 0 ∨ size.height = 0 then .error (.emptyOutput size.text)
  else if s.maxDecodedPixels.toNat < size.area then
    .error (.outputTooLarge size.area s.maxDecodedPixels.toNat)
  else .ok ()

/-- The whole path of a reference in a drawing: it starts in the drawing's own directory. -/
def resolve (place : Files.Place) (reference : String) : String :=
  if Files.isAbsolute reference then reference
  else "/" ++ "/".intercalate place.dropLast ++ "/" ++ reference

/-- The files that a drawing can refer to. -/
def library (t : Files.Tree) (place : Files.Place) : Svg.Library := fun reference =>
  (t.read (resolve place reference)).toOption

/-- The rendered output. Nothing of the source is read for the built-in icon. -/
def rendered (s : Settings) (t : Files.Tree) (place : Files.Place) (source : Files.Entry)
    (size : Size) : Except Failure Bitmap :=
  match s.drawing, source with
  | .embedded, _ => Svg.renderIcon size
  | .file, .directory => .error (.unreadableDrawing Files.OsError.isDirectory.message)
  | .file, .file content => Svg.render (library t place) content size

/-- Check, render and save. -/
def steps (s : Settings) (svg png : String) (size : Option Size) (choices : Png.Choices) :
    Action Failure Size := do
  let files ← Action.files
  match files.locate svg with
  | .error _ => throw (.noDrawing svg)
  | .ok (place, source) =>
    let size := size.getD s.defaultSize
    match checkSize s size with
    | .error f => throw f
    | .ok () =>
      match rendered s files place source size with
      | .error f => throw f
      | .ok image =>
        Saving.savePng image png choices
        return size

/-- Convert a drawing and report the outcome. Without a size the default of the settings counts. -/
def run (s : ValidSettings) (svg png : String) (size : Option Size)
    (choices : Png.Choices := .plain) : Action Failure Size :=
  Action.reported .rendering
    (fun size => "✅ SVG 已成功转换为 PNG：" ++ png ++ "（" ++ size.text ++ "）")
    (fun f => "❌ 转换失败：" ++ f.message) (steps s.val svg png size choices)

end Convert
end Iconsmith
