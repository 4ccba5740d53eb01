import Iconsmith.Command.Refusal
import Iconsmith.Command.Similarity

/-!
Reading a command line. Options may stand anywhere between the positional arguments; a double dash
ends the options. A value is looked at when the next argument has been recognised or the line ends,
so of two mistakes the one that is recognised first is reported.
-/

namespace Iconsmith.Command

inductive Value where
  | path (p : String)
  | size (s : Size)
  | filter (f : Filter)
  | number (n : UInt32)
  | flag
deriving DecidableEq, Repr

/-- Why a text is no integer between `-2 ^ 63` and `2 ^ 63 - 1`, or the integer. -/
def readInteger (s : String) : Except String Int :=
  let judge (negative : Bool) (digits : List Char) : Except String Int :=
    match Decimal.ofDigits? digits with
    | none => .error "invalid digit found in string"
    | some n =>
      if negative then
        if n ≤ 1 <<< 63 then .ok (-(n : Int)) else .error "number too small to fit in target type"
      else if n < 1 <<< 63 then .ok n
      else .error "number too large to fit in target type"
  match s.toList with
  | [] => .error "cannot parse integer from empty string"
  | '+' :: ds => judge false ds
  | '-' :: ds => judge true ds
  | ds => judge false ds

def readCanvas (s : String) : Except String UInt32 := do
  let n ← readInteger s
  if 0 ≤ n ∧ n < UInt32.size then return n.toNat.toUInt32
  else throw ((if n < 0 then "-" else "") ++ Decimal.text n.natAbs ++ " is not in 0..=4294967295")

def readValue (a : Arg) (s : String) : Except Refusal Value :=
  let judge {α : Type} (wrap : α → Value) : Except String α → Except Refusal Value
    | .ok v => .ok (wrap v)
    | .error why => .error (.badValue s a why)
  match a.kind with
  | .path => if s.isEmpty then .error (.missingValue a) else .ok (.path s)
  | .size => judge .size ((Size.parse s).mapError Failure.message)
  | .filter => judge .filter ((Filter.parse s).mapError Failure.message)
  | .number => judge .number (readCanvas s)
  | .flag | .help | .version => .ok .flag

/-- What has been read so far: the arguments with their values in the order in which they were
completed, the one that is not completed yet with the text of its value if that has come, and the
number of positional arguments. -/
structure Progress where
  given : List (Arg × Value)
  pending : Option (Arg × Option String)
  positionals : Nat

namespace Progress

def start : Progress := ⟨[], none, 0⟩

def has (p : Progress) (name : ArgName) : Bool := p.given.any fun g => g.1.name == name

def used (p : Progress) : List Arg := p.given.map Prod.fst

/-- An argument that belongs to the command alone has been given. -/
def hasOwn (p : Progress) (g : Grammar) : Bool := p.given.any fun x => x.1.name ∈ g.own

/-- Complete an argument: an option needs its value, none may come twice, and asking for help or
the version ends the reading. -/
def complete (g : Grammar) (p : Progress) (a : Arg) (value : Option String) :
    Except Refusal Progress := do
  if a.takesValue && value.isNone then throw (.missingValue a)
  match a.kind with
  | .help => throw (.help g.helpText)
  | .version => throw .version
  | _ =>
    if p.has a.name then throw (.repeated a g.fullUsage)
    let v ← readValue a (value.getD "")
    return { p with given := p.given ++ [(a, v)] }

/-- Complete the pending argument, if there is one. -/
def settle (g : Grammar) (p : Progress) : Except Refusal Progress :=
  match p.pending with
  | none => .ok p
  | some (a, value) => complete g { p with pending := none } a value

/-- The arguments to show in a usage line when the pending one is completed as far as possible: one
with a bad value counts as used, a repeated one does not. -/
def usedAfterAll (p : Progress) : List Arg :=
  match p.pending with
  | none => p.used
  | some (a, value) =>
    if a.takesValue && value.isNone then p.used
    else if p.has a.name then p.used.filter fun b => b.name != a.name
    else p.used ++ [a]

end Progress

open Grammar

/-- The refusal of a long option that the grammar does not have. `rest` are the arguments behind
it. -/
def unknownLong (g : Grammar) (p : Progress) (name : String) (rest : List String) : Refusal :=
  let longs (g : Grammar) := g.options.filterMap Arg.long
  let spelling := "--" ++ name
  let used := p.usedAfterAll
  match (similarWords name (longs g)).getLast? with
  | some near =>
    let used := match g.long? near with
      | some a => if a ∈ used then used else used ++ [a]
      | none => used
    .unknownArgument spelling (some ("--" ++ near)) [] (g.usageOf used false)
  | none =>
    let inCommands := if g.takesCommand then commands else []
    let found := inCommands.filterMap fun (command, c) =>
      match (similarWords name (longs c)).getLast?, rest.findIdx? (· == command) with
      | some near, some i => some (i, "'" ++ command ++ " --" ++ near ++ "' exists")
      | _, _ => none
    let nearest := found.foldl (fun best x =>
      match best with
      | some b => if x.1 < b.1 then some x else some b
      | none => some x) (none : Option (Nat × String))
    let tips := match nearest with
      | some (_, tip) => [tip]
      | none =>
        if g.positionals.isEmpty then []
        else ["to pass '" ++ spelling ++ "' as a value, use '-- " ++ spelling ++ "'"]
    .unknownArgument spelling none tips (g.usageOf used false)

/-- A long option with the value attached to it, if any. -/
def takeLong (g : Grammar) (p : Progress) (name : String) (value : Option String)
    (rest : List String) : Except Refusal Progress :=
  match g.long? name with
  | none => .error (unknownLong g p name rest)
  | some a =>
    if a.takesValue then
      match value with
      | some v => do complete (← p.settle g) a (some v)
      | none => do return { ← p.settle g with pending := some (a, none) }
    else
      match value with
      | some v =>
        let optional := p.used.filter fun b => !b.required
        .error (.unwantedValue v a (g.usageOf (optional ++ [a]) (p.hasOwn g)))
      | none => do complete (← p.settle g) a none
where
  complete (p : Progress) (a : Arg) (v : Option String) := Progress.complete g p a v

/-- A group of short options; the first that takes a value takes the rest of the group, less an
equals sign in front. -/
def takeShort (g : Grammar) (p : Progress) : List Char → Except Refusal Progress
  | [] => .ok p
  | c :: more =>
    match g.short? c with
    | none =>
      let spelling := "-" ++ String.singleton c
      let tips :=
        if g.positionals.isEmpty then []
        else ["to pass '" ++ spelling ++ "' as a value, use '-- " ++ spelling ++ "'"]
      .error (.unknownArgument spelling none tips g.fullUsage)
    | some a => do
      let p ← p.settle g
      if a.takesValue then
        match more with
        | [] => return { p with pending := some (a, none) }
        | '=' :: v => Progress.complete g p a (some (String.ofList v))
        | v => Progress.complete g p a (some (String.ofList v))
      else takeShort g (← Progress.complete g p a none) more

/-- A word that is no option: the value of the pending option, or the next positional argument. -/
def takeWord (g : Grammar) (p : Progress) (escaped : Bool) (word : String) :
    Except Refusal Progress :=
  match g.positionals[p.positionals]? with
  | some a => do
    let p ← p.settle g
    return { p with pending := some (a, some word), positionals := p.positionals + 1 }
  | none =>
    if !g.takesCommand then .error (.unknownArgument word none [] g.fullUsage)
    else if escaped && word ∈ commandNames then
      .error (.unknownArgument word none
        ["subcommand '" ++ word ++ "' exists; to use it, remove the '--' before it"] g.fullUsage)
    else .error (.unknownCommand word (similarWords word commandNames) g.fullUsage)

def Progress.awaitsValue (p : Progress) : Option Arg :=
  match p.pending with
  | some (a, none) => some a
  | _ => none

/-- Read arguments up to the name of a command, which is given back with what follows it. -/
def readArgs (g : Grammar) : Progress → Bool → List String →
    Except Refusal (Progress × Option (String × List String))
  | p, _, [] => .ok (p, none)
  | p, true, word :: rest => do readArgs g (← takeWord g p true word) true rest
  | p, false, word :: rest =>
    if g.takesCommand && p.awaitsValue.isNone && word ∈ commandNames then
      .ok (p, some (word, rest))
    else
      match word.toList with
      | ['-', '-'] => readArgs g p true rest
      | '-' :: '-' :: long => do
        let (name, value) := match long.span (· != '=') with
          | (name, _ :: value) => (String.ofList name, some (String.ofList value))
          | (name, []) => (String.ofList name, none)
        readArgs g (← takeLong g p name value rest) false rest
      | '-' :: c :: more => do readArgs g (← takeShort g p (c :: more)) false rest
      | _ =>
        match p.awaitsValue with
        | some a => readArgs g { p with pending := some (a, some word) } false rest
        | none => do readArgs g (← takeWord g p false word) false rest

/-- The end of the arguments: the pending one is completed, and none that is required may be
missing. -/
def finish (g : Grammar) (p : Progress) : Except Refusal Progress := do
  let p ← p.settle g
  let missing := g.args.filter fun a => a.required && !p.has a.name
  if missing.isEmpty then return p
  else throw (.missingArguments missing (g.usageOf (p.used ++ missing) false))

def Progress.value? (p : Progress) (name : ArgName) : Option Value :=
  (p.given.find? fun g => g.1.name == name).map Prod.snd

/-- The path given for an argument, or its default. -/
def Progress.path (p : Progress) (name : ArgName) (default : String) : String :=
  match p.value? name with
  | some (.path s) => s
  | _ => default

def build (name : String) (p : Progress) : Command :=
  match name with
  | "svg2png" =>
    let size := match p.value? .size with
      | some (.size s) => some s
      | _ => none
    .convert (p.path .svg "") (p.path .png "") size (p.has .fromFile)
  | "shrink" =>
    let filter := match p.value? .filter with
      | some (.filter f) => some f
      | _ => none
    let canvas := match p.value? .canvas with
      | some (.number n) => some n
      | _ => none
    .shrink (p.path .input defaultBitmap) (p.path .output defaultOutput) filter canvas
      (p.has .noUpscale)
  | _ => .initConfig (p.has .force)

/-- The help that is asked for by command names. -/
def helpFor : List String → Refusal
  | [] => .help top.helpText
  | "help" :: [] => .help helpCommandText
  | "help" :: word :: _ => .unknownCommand word [] helpCommandUsage
  | name :: rest =>
    match commands.find? fun c => c.1 == name with
    | none => .unknownCommand name [] top.fullUsage
    | some (_, g) =>
      match rest with
      | [] => .help g.helpText
      | word :: _ => .unknownCommand word [] g.fullUsage

/-- Read a command line, without the name of the program. A settings path behind the command wins
over one before it. -/
def parse (args : List String) : Except Refusal Invocation := do
  let (p, rest) ← readArgs top .start false args
  match rest with
  | none =>
    let p ← finish top p
    return ⟨p.path .config defaultConfig, none⟩
  | some ("help", words) => throw (helpFor words)
  | some (name, words) =>
    match commands.find? fun c => c.1 == name with
    | none => throw (.unknownCommand name [] top.fullUsage)
    | some (_, g) =>
      let (q, _) ← readArgs g .start false words
      let q ← finish g q
      let p ← finish top p
      return ⟨q.path .config (p.path .config defaultConfig), some (build name q)⟩

end Iconsmith.Command
