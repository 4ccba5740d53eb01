import Iconsmith.Bitmap
import Iconsmith.Failure
import Iconsmith.Svg.Compose
import Iconsmith.Svg.Draw

/-!
Rendering drawings to images of a requested size. The drawing keeps its shape: it is as large as it
fits, in the middle.
-/

namespace Iconsmith

namespace Failure

def notDrawable (reason : String) : Failure := ⟨.render, "SVG 解析失败：" ++ reason⟩

def noCanvas (size : String) : Failure := ⟨.render, "无法分配 " ++ size ++ " 的画布"⟩

end Failure

namespace Svg

/-- The built-in icon: a note of a path and two circles. -/
def icon : String :=
  "<svg xmlns=\"http://www.w3.org/2000/svg\" width=\"24\" height=\"24\" viewBox=\"0 0 24 24\" fill=\"none\" stroke=\"#ffd700\" stroke-width=\"2\" stroke-linecap=\"round\" stroke-linejoin=\"round\" class=\"app-icon\"><path d=\"M9 18V5l12-2v13\"></path><circle cx=\"6\" cy=\"18\" r=\"3\"></circle><circle cx=\"18\" cy=\"16\" r=\"3\"></circle></svg>"

/-- A canvas has pixels, and the bytes of a row are counted in 31 bits. -/
def isCanvas (size : Size) : Bool := 0 < size.width && size.width < 0x20000000 && 0 < size.height

/-- The image of a drawing. The drawing is read before the size is looked at. -/
def render (library : Library) (content : ByteArray) (size : Size) : Except Failure Bitmap :=
  match Scene.read library content with
  | .error fault => .error (.notDrawable fault.message)
  | .ok scene =>
    if isCanvas size then .ok ((scene.draw size.width.toNat size.height.toNat).toBitmap size)
    else .error (.noCanvas size.text)

/-- The image of the built-in icon. -/
def renderIcon (size : Size) : Except Failure Bitmap := render (fun _ => none) icon.toUTF8 size

end Svg
end Iconsmith
