import Iconsmith.Binary64
import Iconsmith.Codec.Decode
import Iconsmith.Settings
import Iconsmith.Signature
import Iconsmith.World

/-!
Loading a bitmap. The checks come in a fixed order, each as early as it can be made: the file
exists, it is not too long and does not become so while it is read, its signature is not that of
something else, its format is known, its header can be read, it has not too many pixels, and it can
be decoded.
-/

namespace Iconsmith

namespace Failure

def noBitmap (path : String) : Failure := ⟨.sourceNotFound, "图片文件不存在：" ++ path⟩

def unreadableBitmap (reason : String) : Failure := ⟨.fileSystem, "无法读取图片文件：" ++ reason⟩

/-- A number of bytes in units of `2 ^ 20`, with two places. Numbers beyond 53 bits are rounded to
53 bits first. -/
def megabytes (n : Nat) : String :=
  let x := Binary64.ofNat n
  if 0 ≤ x.exponent then Decimal.twoPlaces (x.significand <<< x.exponent.toNat) (1 <<< 20)
  else Decimal.twoPlaces x.significand (1 <<< (20 + (-x.exponent).toNat))

def fileTooLong (length limit : Nat) : Failure :=
  ⟨.resourceLimit, "文件过大：" ++ megabytes length ++ " MB（限制：" ++ megabytes limit ++ " MB）"⟩

/-- The file has become too long while it was read. -/
def grownFile : Failure := ⟨.resourceLimit, "文件在读取过程中超出体积限制"⟩

def emptyFile : Failure := ⟨.invalidFormat, "图片内容为空"⟩

def notAnImage (mime : String) : Failure := ⟨.invalidFormat, "文件签名不是图片类型：" ++ mime⟩

/-- Neither the content nor the name tells a format. -/
def unknownFormat (path : String) : Failure := ⟨.invalidFormat, "无法识别图片格式：" ++ path⟩

def badHeader (reason : String) : Failure := ⟨.invalidFormat, "无法读取图片尺寸：" ++ reason⟩

def tooManyPixels (pixels limit : Nat) : Failure :=
  ⟨.resourceLimit, "图片像素过大：" ++ Decimal.text pixels ++ " 像素（限制：" ++ Decimal.text limit ++
    " 像素）"⟩

def undecodable (path reason : String) : Failure :=
  ⟨.decode, "图片解码失败（" ++ path ++ "）：" ++ reason⟩

def decodedEmpty (path : String) : Failure := ⟨.decode, "图片尺寸为 0：" ++ path⟩

end Failure

namespace Loading

/-- The content of a bitmap file, and what is known of its name. -/
structure Raw where
  content : ByteArray
  /-- The name, for messages. -/
  source : String
  /-- The format that the name stands for. -/
  hint : Option Codec.Format

/-- The format of a file: what its content tells, and only if that is nothing what its name
tells. -/
def Raw.format (raw : Raw) : Except Failure Codec.Format :=
  match (Codec.Format.ofContent? raw.content).or raw.hint with
  | some f => .ok f
  | none => .error (.unknownFormat raw.source)

/-- Refuse content that is known not to be an image. Content of unknown kind passes. -/
def checkSignature (b : ByteArray) : Except Failure Unit :=
  if b.size = 0 then .error .emptyFile
  else
    match FileKind.of? b with
    | none => .ok ()
    | some kind => if kind.isImage then .ok () else .error (.notAnImage kind.mime)

/-- What is read of a file: one byte more than the limit at most, so that a file that has grown
since its length was checked is noticed. That number has 64 bits, as the limit has. -/
def readCapped (limit : UInt64) (content : ByteArray) : ByteArray :=
  content.extract 0 (limit + 1).toNat

/-- Read a bitmap file and check its length and its signature. In a tree every file can be asked for
its length, opened and read to its end; failures of these steps, each of which would be one of the
file system, are left out. A directory can be opened and is refused when it is read. A system gives
a length for it too, which would be compared with the limit before; that is left out as well. -/
def readFile (s : Settings) (path : String) : Action Failure Raw := do
  Action.report .info .loading ("📁 开始读取本地图片 - 路径: " ++ path)
  match (← Action.files).locate path with
  | .error _ => throw (.noBitmap path)
  | .ok (_, .directory) => throw (.unreadableBitmap Files.OsError.isDirectory.message)
  | .ok (_, .file content) =>
    if s.maxFileSize.toNat < content.size then
      throw (.fileTooLong content.size s.maxFileSize.toNat)
    let bytes := readCapped s.maxFileSize content
    if s.maxFileSize.toNat < bytes.size then throw .grownFile
    let checked := checkSignature bytes
    if bytes.size ≠ 0 && (FileKind.of? bytes).isNone then
      Action.report .debug .loading "文件签名未知，交由解码器判断格式"
    match checked with
    | .ok () => return ⟨bytes, path, Codec.Format.ofPath? path⟩
    | .error f => throw f

/-- Decode the content of a bitmap file. It is read twice: its header, so that the pixels can be
counted, and then all of it. -/
def decode (s : Settings) (raw : Raw) : Except Failure Bitmap := do
  match Codec.dimensions (← raw.format) raw.content with
  | .error e => throw (.badHeader e.message)
  | .ok size =>
    if s.maxDecodedPixels.toNat < size.area then
      throw (.tooManyPixels size.area s.maxDecodedPixels.toNat)
    match Codec.decode (← raw.format) raw.content with
    | .error e => throw (.undecodable raw.source e.message)
    | .ok image =>
      if image.width = 0 ∨ image.height = 0 then throw (.decodedEmpty raw.source)
      return image

def load (s : Settings) (path : String) : Action Failure Bitmap := do
  let raw ← readFile s path
  match decode s raw with
  | .ok image => return image
  | .error f => throw f

end Loading
end Iconsmith
