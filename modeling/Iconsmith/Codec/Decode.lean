import Iconsmith.Bmp.Decoder
import Iconsmith.Dds
import Iconsmith.Exr.Decoder
import Iconsmith.Farbfeld
import Iconsmith.Gif
import Iconsmith.Hdr
import Iconsmith.Ico
import Iconsmith.Jpeg.Decoder
import Iconsmith.Png.Decoder
import Iconsmith.Pnm.Decoder
import Iconsmith.Qoi
import Iconsmith.Tga.Decoder
import Iconsmith.Tiff.Decoder
import Iconsmith.WebP.Decoder

/-!
Reading an image file of a known format. The sides of the image come from the header alone, whether
or not its pixels are read afterwards.
-/

namespace Iconsmith.Codec

def dimensions (f : Format) (b : ByteArray) : Except Fault Size :=
  match f with
  | .png => Png.dimensions b
  | .bmp => Bmp.dimensions b
  | .tga => Tga.dimensions b
  | .gif => Gif.dimensions b
  | .ico => Ico.dimensions b
  | .tiff => Tiff.dimensions b
  | .hdr => Hdr.dimensions b
  | .dds => Dds.dimensions b
  | .openExr => Exr.dimensions b
  | .webP => WebP.dimensions b
  | .jpeg => Jpeg.dimensions b
  | .pnm => Pnm.dimensions b
  | .farbfeld => Farbfeld.dimensions b
  | .qoi => Qoi.dimensions b
  | f => .error (.unsupported f)

/-- The pixels of the image in a file, row by row from the top. -/
def pixels (f : Format) (b : ByteArray) : Except Fault (Array Pixel) :=
  match f with
  | .png => (Png.decode b).map fun i => i.bitmap.pixels
  | .bmp => Bmp.pixels b
  | .tga => Tga.pixels b
  | .gif => Gif.pixels b
  | .ico => Ico.pixels b
  | .tiff => Tiff.pixels b
  | .hdr => Hdr.pixels b
  | .dds => Dds.pixels b
  | .openExr => Exr.pixels b
  | .webP => WebP.pixels b
  | .jpeg => Jpeg.pixels b
  | .pnm => Pnm.pixels b
  | .farbfeld => Farbfeld.pixels b
  | .qoi => Qoi.pixels b
  | f => .error (.unsupported f)

def decode (f : Format) (b : ByteArray) : Except Fault Bitmap := do
  let size ← dimensions f b
  return .ofPixels size.width size.height (← pixels f b)

end Iconsmith.Codec
