import Iconsmith.Bytes

/-!
What kind of file a row of bytes is, told from bytes at fixed places. The signatures are tried in
order and the first that fits decides, so an earlier kind wins even where a later one would fit
too.
-/

namespace Iconsmith

structure FileKind where
  mime : String
  isImage : Bool
deriving DecidableEq, Repr

namespace Signature

def textAt (b : ByteArray) (i : Nat) (s : String) : Bool := Bytes.hasAt b i (Bytes.ascii s)

/-- A file of more than `len` bytes that starts with a text. -/
def startsText (len : Nat) (s : String) (b : ByteArray) : Bool := len < b.size && textAt b 0 s

/-- A file of more than `len` bytes that starts with the given bytes. -/
def starts (len : Nat) (bytes : List UInt8) (b : ByteArray) : Bool :=
  len < b.size && Bytes.hasAt b 0 bytes

/-! ### Programs and books -/

/-- A universal or single binary of the Mach kernel, in either byte order. -/
def isMach (b : ByteArray) : Bool :=
  [[0xFE, 0xED, 0xFA, 0xCE], [0xFE, 0xED, 0xFA, 0xCF], [0xCE, 0xFA, 0xED, 0xFE],
    [0xCF, 0xFA, 0xED, 0xFE], [0xCA, 0xFE, 0xBA, 0xBE], [0xBE, 0xBA, 0xFE, 0xCA]].any
    fun m => starts 3 m b

/-- Compiled classes, by the hexadecimal spelling of their mark. -/
def isClass (b : ByteArray) : Bool :=
  starts 7 [0x43, 0x41, 0x76, 0x45, 0x42, 0x01, 0x42, 0x45] b ||
    starts 7 [0x43, 0x41, 0x76, 0x45, 0x44, 0x30, 0x30, 0x44] b

/-- A table of byte code. -/
def isDex (b : ByteArray) : Bool := startsText 36 "dex\n" b && Bytes.byte b 36 == 0x70

/-- An optimised table of byte code. -/
def isDey (b : ByteArray) : Bool :=
  startsText 100 "dey\n" b && isDex (Bytes.slice b 40 60)

def isObject (b : ByteArray) : Bool :=
  starts 1 [0x64, 0x86] b || starts 1 [0x4C, 0x01] b || starts 1 [0x00, 0x02] b

/-- An archive that names its type in an uncompressed first member. -/
def isTypedArchive (mime : String) (b : ByteArray) : Bool :=
  starts 57 [0x50, 0x4B, 0x03, 0x04] b && textAt b 30 ("mimetype" ++ mime)

/-! ### Images -/

/-- A tagged file in either byte order. -/
def isTagged (b : ByteArray) : Bool :=
  starts 9 [0x49, 0x49, 0x2A, 0x00] b || starts 9 [0x4D, 0x4D, 0x00, 0x2A] b

def isRaw (b : ByteArray) : Bool :=
  isTagged b && 10 < b.size && Bytes.hasAt b 8 [0x43, 0x52, 0x02]

/-- A file of typed boxes whose first box is complete. -/
def isBoxed (b : ByteArray) : Bool :=
  16 ≤ b.size && textAt b 4 "ftyp" && Bytes.be32 b 0 ≤ b.size

/-- A boxed file of the given brand: its main brand is one of `brands`, or it is a generic image
that is compatible with the first of them. -/
def hasBrand (brands : List String) (b : ByteArray) : Bool :=
  isBoxed b &&
    (brands.any (textAt b 8) ||
      ((textAt b 8 "mif1" || textAt b 8 "msf1") &&
        (List.range ((Bytes.be32 b 0 - 16) / 4)).any fun i =>
          textAt b (16 + 4 * i) (brands.headD "")))

/-- A file of the newer JPEG, bare or boxed. -/
def isJxl (b : ByteArray) : Bool :=
  starts 1 [0xFF, 0x0A] b ||
    starts 11 [0x00, 0x00, 0x00, 0x0C, 0x4A, 0x58, 0x4C, 0x20, 0x0D, 0x0A, 0x87, 0x0A] b

/-! ### Video and audio -/

def videoBrands : List String :=
  ["avc1", "dash", "iso2", "iso3", "iso4", "iso5", "iso6", "isom", "mmp4", "mp41", "mp42", "mp4v",
    "mp71", "MSNV", "NDAS", "NDSC", "NSDC", "NDSH", "NDSM", "NDSP", "NDSS", "NDXC", "NDXH", "NDXM",
    "NDXP", "NDXS", "F4V ", "F4P "]

def isVideo (b : ByteArray) : Bool :=
  11 < b.size && textAt b 4 "ftyp" && videoBrands.any (textAt b 8)

/-- A container of the Matroska family. -/
def isContainer (b : ByteArray) : Bool := starts 3 [0x1A, 0x45, 0xDF, 0xA3] b

def isMatroska (b : ByteArray) : Bool :=
  (15 < b.size && isContainer b && Bytes.hasAt b 4 [0x93, 0x42, 0x82, 0x88] &&
      textAt b 8 "matroska") ||
    (38 < b.size && textAt b 31 "matroska")

/-- A movie in atoms. -/
def isMovie (b : ByteArray) : Bool :=
  15 < b.size &&
    ((textAt b 4 "ftypqt") || textAt b 4 "moov" || textAt b 4 "mdat" || textAt b 12 "mdat")

/-- A chunked file of the given form. -/
def isForm (len : Nat) (outer inner : String) (b : ByteArray) : Bool :=
  startsText len outer b && textAt b 8 inner

/-- A packet of a programme stream. -/
def isProgramme (b : ByteArray) : Bool :=
  starts 3 [0x00, 0x00, 0x01] b && 0xB0 ≤ Bytes.byte b 3 && Bytes.byte b 3 ≤ 0xBF

/-! ### Documents and archives -/

/-- The kind of office document whose first member at position `i` has a telling directory. -/
def officeKind? (b : ByteArray) (i : Nat) : Option Nat :=
  if textAt b i "word/" then some 0 else if textAt b i "ppt/" then some 2
  else if textAt b i "xl/" then some 1 else none

/-- The next member of an archive from position `start` on, within 6000 bytes. -/
def nextMember (b : ByteArray) (start : Nat) : Option Nat :=
  (List.range 6000).find? fun i =>
    start + i < b.size && Bytes.hasAt b (start + i) [0x50, 0x4B, 0x03, 0x04]

/-- The kind of an office document: text, table or slides. -/
def office? (b : ByteArray) : Option Nat :=
  if !starts 3 [0x50, 0x4B, 0x03, 0x04] b then none
  else
    match officeKind? b 30 with
    | some k => some k
    | none =>
      if !(textAt b 30 "[Content_Types].xml" || textAt b 30 "_rels/.rels" || textAt b 30 "docProps")
      then none
      else
        let first := Bytes.le32 b 18 + 49
        match nextMember b first with
        | none => none
        | some i =>
          let second := first + i + 30
          match nextMember b second with
          | none => none
          | some j =>
            let third := second + j + 30
            match officeKind? b third with
            | some k => some k
            | none =>
              match nextMember b third with
              | none => none
              | some l => officeKind? b (third + l + 30)

/-- A compound storage file. -/
def isStorage (b : ByteArray) : Bool :=
  starts 7 [0xD0, 0xCF, 0x11, 0xE0, 0xA1, 0xB1, 0x1A, 0xE1] b

def isZip (b : ByteArray) : Bool :=
  startsText 3 "PK" b && Bytes.byte b 2 ∈ [3, 5, 7] && Bytes.byte b 3 ∈ [4, 6, 8]

def isEmbeddedFont (b : ByteArray) : Bool :=
  35 < b.size && textAt b 34 "LP" &&
    (Bytes.hasAt b 8 [0x02, 0x00, 0x01] || Bytes.hasAt b 8 [0x01, 0x00, 0x00] ||
      Bytes.hasAt b 8 [0x02, 0x00, 0x02])

/-- A compressed frame, or skippable frames in front of one. At most `frames` are passed over. -/
def isZstd : Nat → ByteArray → Bool
  | 0, _ => false
  | frames + 1, b =>
    if starts 3 [0x28, 0xB5, 0x2F, 0xFD] b then true
    else if b.size < 8 then false
    else if Bytes.le32 b 0 / 16 ≠ 0x184D2A5 then false
    else
      let length := Bytes.le32 b 4
      if b.size < 8 + length then false else isZstd frames (b.extract (8 + length) b.size)

/-! ### Text -/

def skipSpace (b : ByteArray) : ByteArray :=
  let isSpace (v : UInt8) := v == 9 || v == 10 || v == 12 || v == 13 || v == 32
  let n := (b.toList.takeWhile isSpace).length
  b.extract n b.size

def upper (v : UInt8) : UInt8 := if 97 ≤ v && v ≤ 122 then v - 32 else v

def startsAnyCase (b : ByteArray) (s : String) : Bool :=
  let bytes := Bytes.ascii s
  bytes.length ≤ b.size &&
    ((Bytes.slice b 0 bytes.length).toList.map upper == bytes.map upper)

/-- The tags that open a page. -/
def pageTags : List String :=
  ["<!DOCTYPE HTML", "<HTML", "<HEAD", "<SCRIPT", "<IFRAME", "<H1", "<DIV", "<FONT", "<TABLE", "<A",
    "<STYLE", "<TITLE", "<B", "<BODY", "<BR", "<P", "<!--"]

/-- A page: a tag that ends in a blank or a bracket. -/
def isPage (b : ByteArray) : Bool :=
  let b := skipSpace b
  pageTags.any fun tag =>
    startsAnyCase b tag && tag.length < b.size &&
      (Bytes.byte b tag.length == 32 || Bytes.byte b tag.length == 62)

def all : List ((ByteArray → Bool) × FileKind) :=
  let other (mime : String) : FileKind := ⟨mime, false⟩
  let image (mime : String) : FileKind := ⟨mime, true⟩
  let odf := "application/vnd.oasis.opendocument."
  let ooxml := "application/vnd.openxmlformats-officedocument."
  [(starts 7 [0x00, 0x61, 0x73, 0x6D, 0x01, 0x00, 0x00, 0x00], other "application/wasm"),
    (starts 52 [0x7F, 0x45, 0x4C, 0x46], other "application/x-executable"),
    (startsText 1 "MZ", other "application/vnd.microsoft.portable-executable"),
    (isClass, other "application/java"),
    (startsText 1 "BC", other "application/x-llvm"),
    (isMach, other "application/x-mach-binary"),
    (isDex, other "application/vnd.android.dex"),
    (isDey, other "application/vnd.android.dey"),
    (starts 2 [0x30, 0x82], other "application/x-x509-ca-cert"),
    (isObject, other "application/x-executable"),
    (isTypedArchive "application/epub+zip", other "application/epub+zip"),
    (fun b => 67 < b.size && textAt b 60 "BOOKMOBI", other "application/x-mobipocket-ebook"),
    (starts 2 [0xFF, 0xD8, 0xFF], image "image/jpeg"),
    (starts 12 [0x00, 0x00, 0x00, 0x0C, 0x6A, 0x50, 0x20, 0x20, 0x0D, 0x0A, 0x87, 0x0A, 0x00],
      image "image/jp2"),
    (starts 3 [0x89, 0x50, 0x4E, 0x47], image "image/png"),
    (startsText 2 "GIF", image "image/gif"),
    (fun b => 11 < b.size && textAt b 8 "WEBP", image "image/webp"),
    (isRaw, image "image/x-canon-cr2"),
    (isTagged, image "image/tiff"),
    (startsText 1 "BM", image "image/bmp"),
    (starts 2 [0x49, 0x49, 0xBC], image "image/vnd.ms-photo"),
    (startsText 3 "8BPS", image "image/vnd.adobe.photoshop"),
    (starts 3 [0x00, 0x00, 0x01, 0x00], image "image/vnd.microsoft.icon"),
    (hasBrand ["heic"], image "image/heif"),
    (hasBrand ["avif", "avis"], image "image/avif"),
    (isJxl, image "image/jxl"),
    (isTypedArchive "image/openraster", image "image/openraster"),
    (fun b => 14 < b.size && textAt b 0 "AT&TFORM" && textAt b 12 "DJV", image "image/vnd.djvu"),
    (isVideo, other "video/mp4"),
    (fun b => 10 < b.size && textAt b 4 "ftypM4V", other "video/x-m4v"),
    (isMatroska, other "video/x-matroska"),
    (isContainer, other "video/webm"),
    (isMovie, other "video/quicktime"),
    (isForm 10 "RIFF" "AVI", other "video/x-msvideo"),
    (starts 9 [0x30, 0x26, 0xB2, 0x75, 0x8E, 0x66, 0xCF, 0x11, 0xA6, 0xD9], other "video/x-ms-wmv"),
    (isProgramme, other "video/mpeg"),
    (starts 3 [0x46, 0x4C, 0x56, 0x01], other "video/x-flv"),
    (startsText 3 "MThd", other "audio/midi"),
    (fun b => startsText 2 "ID3" b || starts 2 [0xFF, 0xFB] b, other "audio/mpeg"),
    (fun b => 10 < b.size && (textAt b 4 "ftypM4A" || textAt b 0 "M4A "), other "audio/m4a"),
    (fun b => 35 < b.size && textAt b 0 "OggS" && textAt b 28 "OpusHead", other "audio/opus"),
    (startsText 3 "OggS", other "audio/ogg"),
    (startsText 3 "fLaC", other "audio/x-flac"),
    (isForm 11 "RIFF" "WAVE", other "audio/x-wav"),
    (startsText 11 "#!AMR\n", other "audio/amr"),
    (fun b => starts 1 [0xFF, 0xF1] b || starts 1 [0xFF, 0xF9] b, other "audio/aac"),
    (isForm 11 "FORM" "AIFF", other "audio/x-aiff"),
    (startsText 4 "DSD ", other "audio/x-dsf"),
    (startsText 10 "MAC ", other "audio/x-ape"),
    (starts 7 [0x77, 0x4F, 0x46, 0x46, 0x00, 0x01, 0x00, 0x00], other "application/font-woff"),
    (starts 7 [0x77, 0x4F, 0x46, 0x32, 0x00, 0x01, 0x00, 0x00], other "application/font-woff"),
    (starts 4 [0x00, 0x01, 0x00, 0x00, 0x00], other "application/font-sfnt"),
    (starts 4 [0x4F, 0x54, 0x54, 0x4F, 0x00], other "application/font-sfnt"),
    (fun b => office? b == some 0, other (ooxml ++ "wordprocessingml.document")),
    (fun b => office? b == some 1, other (ooxml ++ "spreadsheetml.sheet")),
    (fun b => office? b == some 2, other (ooxml ++ "presentationml.presentation")),
    (isTypedArchive (odf ++ "text"), other (odf ++ "text")),
    (isTypedArchive (odf ++ "spreadsheet"), other (odf ++ "spreadsheet")),
    (isTypedArchive (odf ++ "presentation"), other (odf ++ "presentation")),
    (isZip, other "application/zip"),
    (fun b => 261 < b.size && textAt b 257 "ustar", other "application/x-tar"),
    (fun b => starts 6 [0x52, 0x61, 0x72, 0x21, 0x1A, 0x07] b && Bytes.byte b 6 ≤ 1,
      other "application/vnd.rar"),
    (starts 2 [0x1F, 0x8B, 0x08], other "application/gzip"),
    (startsText 2 "BZh", other "application/x-bzip2"),
    (startsText 4 "BZ3v1", other "application/vnd.bzip3"),
    (starts 5 [0x37, 0x7A, 0xBC, 0xAF, 0x27, 0x1C], other "application/x-7z-compressed"),
    (starts 5 [0xFD, 0x37, 0x7A, 0x58, 0x5A, 0x00], other "application/x-xz"),
    (startsText 3 "%PDF", other "application/pdf"),
    (fun b => startsText 2 "CWS" b || startsText 2 "FWS" b, other "application/x-shockwave-flash"),
    (startsText 4 "\x7b\\rtf", other "application/rtf"),
    (isEmbeddedFont, other "application/octet-stream"),
    (startsText 1 "%!", other "application/postscript"),
    (startsText 3 "SQLi", other "application/vnd.sqlite3"),
    (starts 3 [0x4E, 0x45, 0x53, 0x1A], other "application/x-nintendo-nes-rom"),
    (startsText 3 "Cr24", other "application/x-google-chrome-extension"),
    (fun b => startsText 3 "MSCF" b || startsText 3 "ISc(" b,
      other "application/vnd.ms-cab-compressed"),
    (startsText 20 "!<arch>\ndebian-binary", other "application/vnd.debian.binary-package"),
    (startsText 6 "!<arch>", other "application/x-unix-archive"),
    (fun b => starts 1 [0x1F, 0xA0] b || starts 1 [0x1F, 0x9D] b, other "application/x-compress"),
    (startsText 3 "LZIP", other "application/x-lzip"),
    (starts 96 [0xED, 0xAB, 0xEE, 0xDB], other "application/x-rpm"),
    (fun b => 131 < b.size && textAt b 128 "DICM", other "application/dicom"),
    (fun b => isZstd (b.size + 1) b, other "application/zstd"),
    (starts 3 [0x04, 0x22, 0x4D, 0x18], other "application/x-lz4"),
    (isStorage, other "application/x-ole-storage"),
    (fun b => starts 1 [0xC7, 0x71] b || starts 1 [0x71, 0xC7] b || startsText 6 "070701" b ||
      startsText 6 "070702" b || startsText 6 "070707" b, other "application/x-cpio"),
    (startsText 8 "PAR2\x00PKT", other "application/x-par2"),
    (isPage, other "text/html"),
    (fun b => startsAnyCase (skipSpace b) "<?xml", other "text/xml"),
    (startsText 2 "#!", other "text/x-shellscript")]

end Signature

def FileKind.of? (b : ByteArray) : Option FileKind :=
  (Signature.all.find? fun s => s.1 b).map Prod.snd

end Iconsmith
