import Iconsmith.Settings

/-!
The written form of settings: a JSON object with one member a line, indented by two blanks.
-/

namespace Iconsmith.Settings

/-- A quoted name. Names have no characters that need an escape. -/
def quote (name : String) : String := "\"" ++ name ++ "\""

def member (indent key value : String) : String := indent ++ quote key ++ ": " ++ value

/-- An object whose members are already indented; `indent` stands before its closing brace. -/
def object (indent : String) (members : List String) : String :=
  "\x7b\n" ++ ",\n".intercalate members ++ "\n" ++ indent ++ "\x7d"

def printSize (size : Size) : String :=
  object "  " [
    member "    " "width" (Decimal.text size.width.toNat),
    member "    " "height" (Decimal.text size.height.toNat)]

def print (s : Settings) : String :=
  object "" [
    member "  " "default_size" (printSize s.defaultSize),
    member "  " "canvas_size" (Decimal.text s.canvasSize.toNat),
    member "  " "resize_filter" (quote s.filter.name),
    member "  " "allow_upscale" (if s.allowUpscale then "true" else "false"),
    member "  " "svg_content" (quote s.drawing.name),
    member "  " "max_file_size" (Decimal.text s.maxFileSize.toNat),
    member "  " "max_decoded_pixels" (Decimal.text s.maxDecodedPixels.toNat)]

end Iconsmith.Settings
