import Iconsmith.Png.Encoder
import Iconsmith.World

/-!
Writing an image as a PNG file. Directories on the way that do not exist are created; a file that
exists is replaced.
-/

namespace Iconsmith

namespace Failure

def noOutputDirectory (directory reason : String) : Failure :=
  ⟨.fileSystem, "创建输出目录 '" ++ directory ++ "' 失败：" ++ reason⟩

def unwritable (path reason : String) : Failure :=
  ⟨.encode, "保存 PNG '" ++ path ++ "' 失败：" ++ reason⟩

end Failure

namespace Saving

/-- Create the directory of a file unless it exists. -/
def prepareDirectory (path : String) : Action Failure Unit := do
  match Files.parent? path with
  | none => return
  | some above =>
    let files ← Action.files
    if above.isEmpty || files.exists? above then return
    let (files, refused) := files.createAll above
    Action.setFiles files
    match refused with
    | some e => throw (.noOutputDirectory above e.message)
    | none => return

def savePng (image : Bitmap) (path : String) (choices : Png.Choices) : Action Failure Unit := do
  prepareDirectory path
  match (← Action.files).write path (Png.encode image choices) with
  | .ok files => Action.setFiles files
  | .error e => throw (.unwritable path e.message)

end Saving
end Iconsmith
