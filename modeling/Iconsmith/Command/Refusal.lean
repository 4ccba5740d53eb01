import Iconsmith.Command.Grammar

/-!
Why a command line is not run: the user asked for help or the version, or made a mistake.
-/

namespace Iconsmith.Command

/-- The reasons for not running a command line. `usage` is a complete usage line. -/
inductive Refusal where
  | help (text : String)
  | version
  /-- No command has this name; `similar` ones do exist. -/
  | unknownCommand (name : String) (similar : List String) (usage : String)
  /-- No argument is expected here; `similar` is a known spelling, and each tip is a sentence. -/
  | unknownArgument (spelling : String) (similar : Option String) (tips : List String)
      (usage : String)
  /-- An option without its value, or an empty path. -/
  | missingValue (arg : Arg)
  | badValue (value : String) (arg : Arg) (why : String)
  | repeated (arg : Arg) (usage : String)
  | unwantedValue (value : String) (arg : Arg) (usage : String)
  | missingArguments (args : List Arg) (usage : String)

namespace Refusal

/-- What the program calls itself with the version asked for. -/
def versionText : String := "icon-tool 0.1.0\n"

/-- The complaint, the tips below it, and the usage line if there is one. -/
def report (complaint : String) (tips : List String) (usage : Option String) : String :=
  "error: " ++ complaint ++ (if tips.isEmpty then "" else "\n") ++
    String.join (tips.map fun t => "\n  tip: " ++ t) ++
    (match usage with | some u => "\n\n" ++ u | none => "") ++
    "\n\nFor more information, try '--help'.\n"

def suggestion (noun : String) : List String → List String
  | [] => []
  | [word] => ["a similar " ++ noun ++ " exists: '" ++ word ++ "'"]
  | words =>
    ["some similar " ++ noun ++ "s exist: " ++
      ", ".intercalate (words.map fun w => "'" ++ w ++ "'")]

def message : Refusal → String
  | help text => text
  | version => versionText
  | unknownCommand name similar usage =>
    report ("unrecognized subcommand '" ++ name ++ "'") (suggestion "subcommand" similar) usage
  | unknownArgument spelling similar tips usage =>
    report ("unexpected argument '" ++ spelling ++ "' found")
      (suggestion "argument" similar.toList ++ tips) usage
  | missingValue arg =>
    report ("a value is required for '" ++ arg.text ++ "' but none was supplied") [] none
  | badValue value arg why =>
    report ("invalid value '" ++ value ++ "' for '" ++ arg.text ++ "': " ++ why) [] none
  | repeated arg usage =>
    report ("the argument '" ++ arg.text ++ "' cannot be used multiple times") [] usage
  | unwantedValue value arg usage =>
    report ("unexpected value '" ++ value ++ "' for '" ++ arg.text ++
      "' found; no more were expected") [] usage
  | missingArguments args usage =>
    report ("the following required arguments were not provided:" ++
      String.join (args.map fun a => "\n  " ++ a.text)) [] usage

/-- The user asked for this text: it is no mistake. -/
def isRequested : Refusal → Bool
  | help _ => true
  | version => true
  | _ => false

end Refusal
end Iconsmith.Command
