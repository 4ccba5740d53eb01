import Iconsmith.Filter
import Iconsmith.Size

/-!
The settings of the icon operations, their defaults, and the values that are allowed.
-/

namespace Iconsmith

inductive Drawing where
  /-- The built-in icon; the source file only has to exist. -/
  | embedded
  /-- The content of the source file. -/
  | file
deriving DecidableEq, Repr

namespace Drawing

def name : Drawing → String
  | .embedded => "embedded"
  | .file => "file"

def ofName? : String → Option Drawing
  | "embedded" => some .embedded
  | "file" => some .file
  | _ => none

end Drawing

structure Settings where
  /-- Output size of a conversion that names none. -/
  defaultSize : Size
  /-- Side of the square canvas, in pixels. -/
  canvasSize : UInt32
  filter : Filter
  /-- Whether an image smaller than the canvas is enlarged. -/
  allowUpscale : Bool
  drawing : Drawing
  /-- Greatest accepted length of a bitmap file, in bytes. -/
  maxFileSize : UInt64
  /-- Greatest accepted number of pixels of a decoded or rendered image. -/
  maxDecodedPixels : UInt64
deriving DecidableEq, Repr

namespace Settings

/-- The settings used where a file says nothing else. -/
def default : Settings where
  defaultSize := ⟨100, 100⟩
  canvasSize := 32
  filter := .lanczos3
  allowUpscale := true
  drawing := .embedded
  maxFileSize := 50 * 1024 * 1024
  maxDecodedPixels := 40000000

/-- Settings the operations can work with: no size and no limit is zero. -/
def Valid (s : Settings) : Prop :=
  s.defaultSize.width ≠ 0 ∧ s.defaultSize.height ≠ 0 ∧ s.canvasSize ≠ 0 ∧
    s.maxFileSize ≠ 0 ∧ s.maxDecodedPixels ≠ 0

instance (s : Settings) : Decidable s.Valid := by unfold Valid; infer_instance

/-- The complaint about settings that are not valid: the first of default size, canvas size and
limits that is zero. -/
def fault (s : Settings) : Failure :=
  if s.defaultSize.width = 0 ∨ s.defaultSize.height = 0 then .zeroDefaultSize s.defaultSize.text
  else if s.canvasSize = 0 then .zeroCanvas
  else .zeroLimit

/-- Accept valid settings, refuse others with the complaint about them. -/
def validate (s : Settings) : Except Failure { s : Settings // s.Valid } :=
  if h : s.Valid then .ok ⟨s, h⟩ else .error s.fault

end Settings

/-- Settings that have passed validation. -/
abbrev ValidSettings := { s : Settings // s.Valid }

end Iconsmith
