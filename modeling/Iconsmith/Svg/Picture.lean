import Iconsmith.Codec.Decode
import Iconsmith.Raster.Texture
import Iconsmith.Svg.Document

/-!
Images that drawings refer to: files in a library, or data that the reference itself holds.
-/

namespace Iconsmith.Svg

open Raster

/-- The files that a drawing can refer to, by path. -/
abbrev Library := String → Option ByteArray

inductive Picture where
  /-- An image that counts as one of the given sides. -/
  | raster (size : Size) (layer : Layer)
  | drawing (document : Document)

namespace Picture

def digit64? (c : Char) : Option Nat :=
  if 'A' ≤ c && c ≤ 'Z' then some (c.toNat - 65)
  else if 'a' ≤ c && c ≤ 'z' then some (c.toNat - 71)
  else if c.isDigit then some (c.toNat + 4)
  else if c == '+' then some 62
  else if c == '/' then some 63
  else none

def bytesOf64 : List Nat → ByteArray → Option ByteArray
  | a :: b :: c :: d :: rest, out =>
    let n := ((a * 64 + b) * 64 + c) * 64 + d
    bytesOf64 rest (((out.push (n / 65536).toUInt8).push (n / 256).toUInt8).push n.toUInt8)
  | [a, b, c], out =>
    let n := (a * 64 + b) * 64 + c
    some ((out.push (n / 1024).toUInt8).push (n / 4).toUInt8)
  | [a, b], out => some (out.push ((a * 64 + b) / 16).toUInt8)
  | [_], _ => none
  | [], out => some out

/-- Read base 64. Blanks do not count, and neither do equals signs at the end. -/
def read64? (s : List Char) : Option ByteArray :=
  let s := s.filter fun c => !c.isWhitespace && c != '\x0c'
  let s := (s.reverse.dropWhile (· == '=')).reverse
  (s.mapM digit64?).bind fun digits => bytesOf64 digits .empty

def hexDigit? (c : Char) : Option Nat :=
  if c.isDigit then some (c.toNat - 48)
  else if 'a' ≤ c && c ≤ 'f' then some (c.toNat - 87)
  else if 'A' ≤ c && c ≤ 'F' then some (c.toNat - 55)
  else none

/-- Bytes written as characters, or as a percent sign with two hexadecimal digits. -/
def percentDecoded : List Char → ByteArray → ByteArray
  | '%' :: a :: b :: rest, out =>
    match hexDigit? a, hexDigit? b with
    | some x, some y => percentDecoded rest (out.push (x * 16 + y).toUInt8)
    | _, _ => percentDecoded (a :: b :: rest) (out.push 0x25)
  | c :: rest, out => percentDecoded rest (out ++ c.toString.toUTF8)
  | [], out => out

/-- A colour multiplied by its alpha, rounded to nearest. -/
def premultiplied (p : Pixel) : Lanes :=
  let a := p.a.toUInt32
  let f := fun c : UInt8 =>
    let n := c.toUInt32 * a + 128
    (n + (n >>> 8)) >>> 8
  ⟨f p.r, f p.g, f p.b, a⟩

def toLayer (b : Bitmap) : Layer :=
  ⟨b.width.toNat, b.height.toNat, b.pixels.foldl (fun bytes p =>
    let c := premultiplied p
    (((bytes.push c.r.toUInt8).push c.g.toUInt8).push c.b.toUInt8).push c.a.toUInt8) .empty⟩

/-- A raster image in a file. Of samples with 16 bits the upper byte counts, and of a screen with frames
its sides and the first frame. -/
def raster? (format : Codec.Format) (content : ByteArray) : Option Picture :=
  let ofBitmap (b : Bitmap) : Size × Bitmap := (⟨b.width, b.height⟩, b)
  let image : Except Codec.Fault (Size × Bitmap) := match format with
    | .png => do
      return ofBitmap (← Png.decodeWith (fun v => (v / 256).toUInt8) content).bitmap
    | .gif => Gif.frame content
    | f => (Codec.decode f content).map ofBitmap
  match image with
  | .ok (size, b) => some (.raster size (toLayer b))
  | .error _ => none

def formats : List Codec.Format := [.png, .jpeg, .gif, .webP]

def ofContent? (content : ByteArray) : Option Picture :=
  (Codec.Format.ofContent? content).bind fun f =>
    if formats.contains f then raster? f content else none

def ofDrawing? (content : ByteArray) : Option Picture :=
  (Document.read content).toOption.map .drawing

def ofKind? (kind : String) (content : ByteArray) : Option Picture :=
  match kind with
  | "image/png" => raster? .png content
  | "image/jpg" => raster? .jpeg content
  | "image/jpeg" => raster? .jpeg content
  | "image/gif" => raster? .gif content
  | "image/webp" => raster? .webP content
  | "image/svg+xml" => ofDrawing? content
  | "text/plain" => ofContent? content <|> ofDrawing? content
  | _ => none

/-- The image in a reference that holds its own data, behind the word `data`. -/
def ofData? (s : List Char) : Option Picture :=
  match s.span (· != ',') with
  | (_, []) => none
  | (header, _ :: body) =>
    let header := String.ofList (header.map Char.toLower)
    let parts := (header.splitOn ";").map String.trimAscii
    let kind := match parts.head?.map toString with
      | some k => if (k.splitOn "/").length == 2 then k else "text/plain"
      | none => "text/plain"
    let isBase64 := parts.length > 1 && parts.getLast?.map toString == some "base64"
    let body := body.takeWhile (· != '#')
    let content? := if isBase64 then
        read64? ((percentDecoded body .empty).toList.map fun b => Char.ofNat b.toNat)
      else some (percentDecoded body .empty)
    content?.bind (ofKind? kind)

/-- The data of a reference that holds its own, which starts with the word `data`. -/
def data? (reference : String) : Option (List Char) :=
  match (reference.toList.dropWhile Char.isWhitespace).span (· != ':') with
  | (scheme, ':' :: rest) =>
    if String.ofList (scheme.map Char.toLower) == "data" then some rest else none
  | _ => none

def find? (library : Library) (reference : String) : Option Picture :=
  match data? reference with
  | some data => ofData? data
  | none =>
    (library reference).bind fun content =>
      let extension := (Files.extension? reference).map fun e =>
        String.ofList (e.toList.map Char.toLower)
      if extension == some "svg" || extension == some "svgz" then ofDrawing? content
      else ofContent? content

end Picture
end Iconsmith.Svg
