import Iconsmith.Command.Basic

/-!
The arguments of each command: their spelling, their values, and the text that helps a user.
A usage line without arguments shows every possibility; one that goes with an error shows the
arguments that were used.
-/

namespace Iconsmith.Command

inductive ValueKind where
  | path
  | size
  | filter
  | number
  /-- No value: the argument is given or not. -/
  | flag
  | help
  | version
deriving DecidableEq, Repr

inductive ArgName where
  | config
  | svg
  | png
  | size
  | fromFile
  | input
  | output
  | filter
  | canvas
  | noUpscale
  | force
  | help
  | version
deriving DecidableEq, Repr

/-- One argument of a command. An argument without a long spelling is positional. -/
structure Arg where
  name : ArgName
  short : Option Char
  long : Option String
  kind : ValueKind
  valueName : String
  required : Bool
  help : String
  default : Option String
deriving DecidableEq, Repr

namespace Arg

/-- The argument is followed by a value or is one. -/
def takesValue (a : Arg) : Bool :=
  match a.kind with
  | .flag | .help | .version => false
  | _ => true

def isPositional (a : Arg) : Bool := a.long.isNone

/-- How the argument stands in a usage line, as a required or an optional one. -/
def usageAs (a : Arg) (required : Bool) : String :=
  match a.long with
  | some long =>
    "--" ++ long ++ (if a.takesValue then " <" ++ a.valueName ++ ">" else "")
  | none => if required then "<" ++ a.valueName ++ ">" else "[" ++ a.valueName ++ "]"

def text (a : Arg) : String := a.usageAs a.required

end Arg

/-- The arguments of one command, or of the program before its command. -/
structure Grammar where
  /-- The words that call it. -/
  call : String
  about : String
  positionals : List Arg
  options : List Arg
  /-- The arguments that it does not share with the other commands. -/
  own : List ArgName
  takesCommand : Bool

namespace Grammar

/-- The path of the settings file; it may stand before or behind the command. -/
def config : Arg where
  name := .config
  short := some 'C'
  long := some "config"
  kind := .path
  valueName := "CONFIG"
  required := false
  help := "配置文件路径（JSON）"
  default := some defaultConfig

def help : Arg where
  name := .help
  short := some 'h'
  long := some "help"
  kind := .help
  valueName := ""
  required := false
  help := "Print help"
  default := none

def version : Arg where
  name := .version
  short := some 'V'
  long := some "version"
  kind := .version
  valueName := ""
  required := false
  help := "Print version"
  default := none

def path (name : ArgName) (valueName help : String) (default : Option String) : Arg where
  name := name
  short := none
  long := none
  kind := .path
  valueName := valueName
  required := default.isNone
  help := help
  default := default

def option (name : ArgName) (short : Option Char) (long : String) (kind : ValueKind)
    (valueName help : String) : Arg where
  name := name
  short := short
  long := some long
  kind := kind
  valueName := valueName
  required := false
  help := help
  default := none

def top : Grammar where
  call := "icon-tool"
  about := "SVG 转 PNG 与 32x32 图标居中缩放工具"
  positionals := []
  options := [config, help, version]
  own := [.config]
  takesCommand := true

def convert : Grammar where
  call := "icon-tool svg2png"
  about := "将 SVG 渲染为 PNG"
  positionals := [
    path .svg "SVG" "SVG 源路径（必须存在）" none,
    path .png "PNG" "输出 PNG 路径（已存在则覆盖）" none]
  options := [
    config,
    option .size (some 's') "size" .size "SIZE"
      "输出尺寸，如 512x512（缺省使用配置中的 default_size）",
    option .fromFile none "from-file" .flag "" "渲染 SVG 文件本身的内容，而不是内置图标",
    help]
  own := [.svg, .png, .size, .fromFile]
  takesCommand := false

def shrink : Grammar where
  call := "icon-tool shrink"
  about := "将位图等比缩放并居中到透明画布"
  positionals := [
    path .input "INPUT" "源位图路径" (some defaultBitmap),
    path .output "OUTPUT" "输出 PNG 路径（已存在则覆盖）" (some defaultOutput)]
  options := [
    config,
    option .filter none "filter" .filter "FILTER"
      "缩放滤镜（nearest / triangle / catmullrom / lanczos3）",
    option .canvas none "canvas" .number "CANVAS" "画布边长",
    option .noUpscale none "no-upscale" .flag "" "不放大小于画布的图片",
    help]
  own := [.input, .output, .filter, .canvas, .noUpscale]
  takesCommand := false

def initConfig : Grammar where
  call := "icon-tool init-config"
  about := "写出默认配置文件"
  positionals := []
  options := [config, option .force (some 'f') "force" .flag "" "覆盖已存在的配置文件", help]
  own := [.force]
  takesCommand := false

def commands : List (String × Grammar) :=
  [("svg2png", convert), ("shrink", shrink), ("init-config", initConfig)]

/-- The names after which no further arguments of the program are read. -/
def commandNames : List String := commands.map Prod.fst ++ ["help"]

def args (g : Grammar) : List Arg := g.positionals ++ g.options

def long? (g : Grammar) (name : String) : Option Arg :=
  g.options.find? fun a => a.long == some name

def short? (g : Grammar) (c : Char) : Option Arg := g.options.find? fun a => a.short == some c

/-! ### Usage lines and help texts -/

/-- All arguments that are not shared with other commands, as alternatives. -/
def alternatives (g : Grammar) : String :=
  let members := g.args.filter fun a => a.name ∈ g.own
  let word (a : Arg) := if a.isPositional then a.valueName else a.text
  "<" ++ "|".intercalate (members.map word) ++ ">"

def fullUsage (g : Grammar) : String :=
  let words := ["[OPTIONS]"] ++ g.positionals.map Arg.text ++
    (if g.takesCommand then ["[COMMAND]"] else [])
  "Usage: " ++ " ".intercalate (g.call :: words)

/-- The usage line of an error after the arguments `used`. Required arguments are always shown.
With `grouped` the arguments that belong to this command alone stand as alternatives. -/
def usageOf (g : Grammar) (used : List Arg) (grouped : Bool) : String :=
  if used.isEmpty && !grouped then g.fullUsage
  else
    let shown := used.filter fun a => !(grouped && a.name ∈ g.own)
    let options := (shown.filter fun a => !a.isPositional).map Arg.text
    let positionals :=
      if grouped then [] else g.positionals.map fun a => a.usageAs (a.required || a ∈ used)
    "Usage: " ++ " ".intercalate
      (g.call :: options.eraseDups ++ (if grouped then [g.alternatives] else []) ++ positionals)

/-- Lines of two columns, the second one aligned. -/
def columns (rows : List (String × String)) : String :=
  let width := (rows.map fun r => r.1.length).foldl max 0
  String.join (rows.map fun (left, right) =>
    "  " ++ left ++ String.ofList (List.replicate (width - left.length + 2) ' ') ++ right ++ "\n")

def helpOf (a : Arg) : String :=
  a.help ++ (match a.default with | some d => " [default: " ++ d ++ "]" | none => "")

def spellings (a : Arg) : String :=
  (match a.short with | some c => "-" ++ String.singleton c ++ ", " | none => "    ") ++ a.text

/-- A titled block of two columns, nothing when it has no rows. -/
def block (title : String) (rows : List (String × String)) : String :=
  if rows.isEmpty then "" else "\n" ++ title ++ ":\n" ++ columns rows

def helpCommandAbout : String := "Print this message or the help of the given subcommand(s)"

def helpText (g : Grammar) : String :=
  let commandRows :=
    if g.takesCommand then
      commands.map (fun (name, c) => (name, c.about)) ++ [("help", helpCommandAbout)]
    else []
  g.about ++ "\n\n" ++ g.fullUsage ++ "\n" ++
    block "Commands" commandRows ++
    block "Arguments" (g.positionals.map fun a => (a.text, helpOf a)) ++
    block "Options" (g.options.map fun a => (spellings a, helpOf a))

def helpCommandUsage : String := "Usage: icon-tool help [COMMAND]..."

def helpCommandText : String :=
  helpCommandAbout ++ "\n\n" ++ helpCommandUsage ++ "\n" ++
    block "Arguments" [("[COMMAND]...", "Print help for the subcommand(s)")]

end Grammar
end Iconsmith.Command
