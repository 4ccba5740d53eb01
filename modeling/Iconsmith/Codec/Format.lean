import Iconsmith.Bytes
import Iconsmith.Files.Path

/-!
Image file formats: their names, how they are told from the first bytes of a file, and how they are
guessed from the name of a file.
-/

namespace Iconsmith.Codec

inductive Format where
  | png
  | jpeg
  | gif
  | webP
  | pnm
  | tiff
  | tga
  | dds
  | bmp
  | ico
  | hdr
  | openExr
  | farbfeld
  | avif
  | qoi
deriving DecidableEq, Repr

namespace Format

def name : Format → String
  | png => "Png"
  | jpeg => "Jpeg"
  | gif => "Gif"
  | webP => "WebP"
  | pnm => "Pnm"
  | tiff => "Tiff"
  | tga => "Tga"
  | dds => "Dds"
  | bmp => "Bmp"
  | ico => "Ico"
  | hdr => "Hdr"
  | openExr => "OpenExr"
  | farbfeld => "Farbfeld"
  | avif => "Avif"
  | qoi => "Qoi"

def ofExtension? : String → Option Format
  | "avif" => some avif
  | "jpg" | "jpeg" | "jfif" => some jpeg
  | "png" | "apng" => some png
  | "gif" => some gif
  | "webp" => some webP
  | "tif" | "tiff" => some tiff
  | "tga" => some tga
  | "dds" => some dds
  | "bmp" => some bmp
  | "ico" => some ico
  | "hdr" => some hdr
  | "exr" => some openExr
  | "pbm" | "pam" | "ppm" | "pgm" | "pnm" => some pnm
  | "ff" => some farbfeld
  | "qoi" => some qoi
  | _ => none

/-- The format that the name of a file stands for; the case of its extension does not matter. -/
def ofPath? (path : String) : Option Format :=
  (Files.extension? path).bind fun ext =>
    ofExtension? (String.ofList (ext.toList.map Char.toLower))

/-- The first bytes by which formats are known; `none` stands for any byte. -/
def magic : List (List (Option UInt8) × Format) :=
  let exact (bytes : List UInt8) := bytes.map some
  let text (s : String) := exact (Bytes.ascii s)
  let any := List.replicate 4 (none : Option UInt8)
  [(exact [0x89, 0x50, 0x4E, 0x47, 0x0D, 0x0A, 0x1A, 0x0A], png),
    (exact [0xFF, 0xD8, 0xFF], jpeg),
    (text "GIF89a", gif),
    (text "GIF87a", gif),
    (text "RIFF" ++ any ++ text "WEBP", webP),
    (exact [0x4D, 0x4D, 0x00, 0x2A], tiff),
    (exact [0x49, 0x49, 0x2A, 0x00], tiff),
    (text "DDS ", dds),
    (text "BM", bmp),
    (exact [0, 0, 1, 0], ico),
    (text "#?RADIANCE", hdr),
    ([some 0, some 0, none, none] ++ text "ftypavif", avif),
    (exact [0x76, 0x2F, 0x31, 0x01], openExr),
    (text "qoif", qoi),
    (text "P1", pnm), (text "P2", pnm), (text "P3", pnm), (text "P4", pnm), (text "P5", pnm),
    (text "P6", pnm), (text "P7", pnm),
    (text "farbfeld", farbfeld)]

def startsWith (b : ByteArray) (i : Nat) : List (Option UInt8) → Bool
  | [] => true
  | e :: es =>
    i < b.size && (match e with | some v => Bytes.byte b i == v | none => true) &&
      startsWith b (i + 1) es

def ofContent? (b : ByteArray) : Option Format :=
  (magic.find? fun m => startsWith b 0 m.1).map Prod.snd

end Format
end Iconsmith.Codec
