import Iconsmith.Bitmap
import Iconsmith.Deflate.Stored
import Iconsmith.Png.Header
import Iconsmith.Png.Scanline

/-!
Writing PNG files: rows of red, green, blue and alpha bytes, without interlacing. The filters of the
rows and the way of packing them are left open: what a writer chooses decides how long a file is, not
which image it holds. Unless it is told otherwise the program uses neither filters nor compression.
-/

namespace Iconsmith.Png

/-- A chunk with its length and its check. -/
def chunk (kind : Kind) (data : ByteArray) : ByteArray :=
  let body := Bytes.ofList kind ++ data
  Bytes.ofList (Bytes.putBe32 data.size) ++ body ++
    Bytes.ofList (Bytes.putBe32 (Checksum.crc body).toNat)

/-- The header of an image with eight bits for each of four samples. -/
def headerData (size : Size) : ByteArray :=
  Bytes.ofList (Bytes.putBe32 size.width.toNat ++ Bytes.putBe32 size.height.toNat ++
    [8, 6, 0, 0, 0])

def pushPixel (out : ByteArray) (p : Pixel) : ByteArray :=
  (((out.push p.r).push p.g).push p.b).push p.a

def rowBytes (image : Bitmap) (y : Nat) : ByteArray :=
  (List.range image.width.toNat).foldl (fun out x => pushPixel out (image.pixel x y)) .empty

/-- What the format leaves open: the filter of each row of an image, and how the filtered rows are
packed. -/
structure Choices where
  filter : Bitmap → Nat → RowFilter
  pack : ByteArray → ByteArray

/-- No filters and no compression. -/
def Choices.plain : Choices := ⟨fun _ _ => .none, Deflate.store⟩

/-- Append `count` rows of pixels from row `y` on, each with the code of its filter in front. `above`
is the row above. -/
def pushRows (filter : Nat → RowFilter) (image : Bitmap) :
    Nat → Nat → ByteArray → ByteArray → ByteArray
  | 0, _, _, out => out
  | count + 1, y, above, out =>
    let row := rowBytes image y
    pushRows filter image count (y + 1) row
      (out.push (filter y).code ++ (filter y).apply 4 above row)

def rowData (filter : Nat → RowFilter) (image : Bitmap) : ByteArray :=
  pushRows filter image image.height.toNat 0 .empty .empty

def maxChunk : Nat := 0x7FFFFFFF

/-- Image data from `start` on in chunks, of which there are at most `steps`. -/
def dataChunks (packed : ByteArray) : Nat → Nat → ByteArray
  | 0, _ => .empty
  | steps + 1, start =>
    if packed.size ≤ start then .empty
    else
      chunk Kind.data (packed.extract start (start + maxChunk)) ++
        dataChunks packed steps (start + maxChunk)

def encode (image : Bitmap) (choices : Choices) : ByteArray :=
  let packed := choices.pack (rowData (choices.filter image) image)
  Bytes.ofList signature ++ chunk Kind.header (headerData image.size) ++
    dataChunks packed (packed.size / maxChunk + 1) 0 ++ chunk Kind.imageEnd .empty

end Iconsmith.Png
