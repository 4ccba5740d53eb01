import Iconsmith.Settings.Printer
import Iconsmith.Settings.Reader
import Iconsmith.World

/-!
The settings file. One that does not exist, cannot be read or is not understood stands for the
defaults; only its report tells the difference.
-/

namespace Iconsmith.Settings

def readText (t : Files.Tree) (path : String) : Except String String :=
  match t.read path with
  | .error e => .error e.message
  | .ok content =>
    match String.fromUTF8? content with
    | some text => .ok text
    | none => .error "stream did not contain valid UTF-8"

def load {ε : Type} (path : String) : Action ε Settings := do
  let files ← Action.files
  if !files.exists? path then
    Action.report .debug .settings ("配置文件不存在，使用默认配置: " ++ path)
    return .default
  match readText files path with
  | .error reason =>
    Action.report .warn .settings ("读取配置文件失败，使用默认配置: " ++ reason)
    return .default
  | .ok text =>
    match parse text with
    | .ok s =>
      Action.report .info .settings ("已加载配置文件: " ++ path)
      return s
    | .error reason =>
      Action.report .warn .settings ("解析配置文件失败，使用默认配置: " ++ reason)
      return .default

/-- Create the directory of a file and those on the way to it. -/
def prepareDirectory (path : String) : Action CommandError Unit := do
  match Files.parent? path with
  | none => return
  | some above =>
    if above.isEmpty then return
    let (files, refused) := (← Action.files).createAll above
    Action.setFiles files
    match refused with
    | some e => throw (.io e.message)
    | none => return

def save (path : String) (s : Settings) : Action CommandError Unit := do
  prepareDirectory path
  match (← Action.files).write path s.print.toUTF8 with
  | .ok files => Action.setFiles files
  | .error e => throw (.io e.message)

end Iconsmith.Settings
