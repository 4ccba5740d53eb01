import Iconsmith.Command.Printer
import Iconsmith.Proofs.Command.Arguments
import Iconsmith.Proofs.Size.Reading

/-! Every invocation can be spelled, in many orders, and each of its spellings is
read back as this invocation. -/
namespace Iconsmith.Command

open Progress

/-- The path of the settings stands before the command or anywhere behind it, the other
arguments behind the command as they please. -/
inductive Spells : Invocation → List String → Prop where
  | omitted {config : String} : Spells ⟨config, none⟩ ["--config", config]
  | before {config : String} {c : Command} {words : List String}
      (h : Arranges c.positionals c.options words) :
      Spells ⟨config, some c⟩ ("--config" :: config :: c.name :: words)
  | behind {config : String} {c : Command} {words : List String}
      (h : Arranges c.positionals (["--config", config] :: c.options) words) :
      Spells ⟨config, some c⟩ (c.name :: words)

/-- The arguments of a command. -/
def grammar : Command → Grammar
  | convert .. => .convert
  | shrink .. => .shrink
  | initConfig _ => .initConfig

/-- The value of an option, if it is given. -/
def valueOf {α : Type} (name : ArgName) (wrap : α → Value) (x : Option α) :
    List (ArgName × Value) :=
  (x.map fun x => (name, wrap x)).toList

/-- A flag, if it is given. -/
def flagOf (name : ArgName) (given : Bool) : List (ArgName × Value) :=
  if given then [(name, .flag)] else []

/-- What the options of a command say, each for itself. -/
def readings : Command → List (List (ArgName × Value))
  | convert _ _ size fromFile => [valueOf .size .size size, flagOf .fromFile fromFile]
  | shrink _ _ filter canvas noUpscale =>
    [valueOf .filter .filter filter, valueOf .canvas .number canvas, flagOf .noUpscale noUpscale]
  | initConfig force => [flagOf .force force]

variable {g : Grammar} {c : Command} {p q : Progress} {long : String} {a : Arg}
  {name : ArgName}

/-! ### The text of a value -/

theorem digits_no_dash (n : Nat) (rest : List Char) :
    (Decimal.digits n ++ rest).head? ≠ some '-' := by
  obtain ⟨c, more, hDigits⟩ := List.exists_cons_of_ne_nil (Decimal.numeral_digits n).ne_nil
  have hDigit : '0' ≤ c ∧ c ≤ '9' := Decimal.isDigit_of_mem_digits (n := n) (by simp [hDigits])
  rw [hDigits]
  rintro ⟨⟩
  exact absurd hDigit (by decide)

theorem toList_text (n : Nat) : (Decimal.text n).toList = Decimal.digits n := String.toList_ofList

/-- The canvas is read as a number of 64 bits with a sign before its range is checked. -/
theorem readInteger_text {n : Nat} (h : n < 1 <<< 63) :
    readInteger (Decimal.text n) = .ok (n : Int) := by
  have hDigits {c : Char} (hc : c ∈ Decimal.digits n) := Decimal.isDigit_of_mem_digits hc
  unfold readInteger
  rw [toList_text]
  split
  · next hEmpty => exact absurd hEmpty (Decimal.numeral_digits n).ne_nil
  · next hPlus => exact absurd (hDigits (hPlus ▸ List.mem_cons_self)) (by decide)
  · next hMinus => exact absurd (hDigits (hMinus ▸ List.mem_cons_self)) (by decide)
  · simp only [Decimal.ofDigits?_digits, h, Bool.false_eq_true, if_false, if_true]

/-- A canvas is any number of 32 bits. -/
theorem readCanvas_of_integer {text : String} {m : Int} (h : readInteger text = .ok m)
    (hRange : 0 ≤ m ∧ m < UInt32.size) : readCanvas text = .ok m.toNat.toUInt32 := by
  rw [readCanvas, h]
  exact if_pos hRange

theorem readCanvas_text (n : UInt32) : readCanvas (Decimal.text n.toNat) = .ok n := by
  have hSmall : n.toNat < UInt32.size := n.toNat_lt_size
  have hRead := readInteger_text (hSmall.trans (by decide))
  rw [readCanvas_of_integer hRead ⟨Int.natCast_nonneg _, Int.ofNat_lt.mpr hSmall⟩,
    Int.toNat_natCast, Nat.toUInt32_eq, UInt32.ofNat_toNat]

theorem parse_name (f : Filter) : Filter.parse f.name = .ok f := by
  cases f <;> rfl

/-! ### The options of a command -/

/-- An option that is spelled gives its value, and one that is left out gives none. -/
theorem means_option {α : Type} {write : α → String} {wrap : α → Value} {x : Option α}
    (hLong : IsLong long) (hFound : g.long? long = some a) (hName : a.name = name)
    (hTakes : a.takesValue = true)
    (hText : ∀ y ∈ x, (write y).toList.head? ≠ some '-')
    (hRead : ∀ y ∈ x, readValue a (write y) = .ok (wrap y)) :
    Means g (spellOption long (x.map write)) (valueOf name wrap x) := by
  subst hName
  cases x with
  | none => exact .absent
  | some y => exact .valued hLong hFound hTakes (hText y rfl) (hRead y rfl)

theorem means_flag {given : Bool} (hLong : IsLong long) (hFound : g.long? long = some a)
    (hName : a.name = name) (hFlag : a.kind = .flag) :
    Means g (spellFlag long given) (flagOf name given) := by
  subst hName
  cases given with
  | false => exact .absent
  | true => exact .flag hLong hFound hFlag

theorem means_config {config : Option String} (hFound : g.long? "config" = some Grammar.config)
    (hPath : ∀ path ∈ config, IsOperand path) :
    Means g (spellOption "config" config) (valueOf .config .path config) := by
  have hMeans : Means g (spellOption "config" (config.map id)) (valueOf .config .path config) :=
    means_option (by decide) hFound rfl rfl (fun path h => (hPath path h).2)
      fun path h => by simp [readValue, Grammar.config, (hPath path h).1]
  rwa [Option.map_id] at hMeans

/-- The words for the options of a command mean what they are read as. Sides of a size must be
positive, as there is no other way to write them. -/
theorem means_options (c : Command) (hSize : ∀ svg png size fromFile,
    c = .convert svg png (some size) fromFile → size.width ≠ 0 ∧ size.height ≠ 0) :
    List.Forall₂ (Means c.grammar) c.options c.readings := by
  cases c with
  | convert svg png size fromFile =>
      refine .cons (means_option (by decide : IsLong "size") rfl rfl rfl ?_ ?_)
        (.cons (means_flag (by decide : IsLong "from-file") rfl rfl rfl) .nil)
      · intro s _
        rw [Size.text, String.append_assoc, String.toList_append, toList_text]
        exact digits_no_dash _ _
      · rintro s rfl
        have hParse := Size.parse_eq_ok.mpr (Size.written_text (hSize _ _ _ _ rfl))
        simp [readValue, hParse, Grammar.option, Except.mapError]
  | shrink input output filter canvas noUpscale =>
      refine .cons (means_option (by decide : IsLong "filter") rfl rfl rfl ?_ ?_)
        (.cons (means_option (by decide : IsLong "canvas") rfl rfl rfl ?_ ?_)
          (.cons (means_flag (by decide : IsLong "no-upscale") rfl rfl rfl) .nil))
      · intro f _
        cases f <;> decide
      · intro f _
        simp [readValue, parse_name, Grammar.option, Except.mapError]
      · intro n _
        have hText := digits_no_dash n.toNat []
        rwa [List.append_nil, ← toList_text] at hText
      · intro n _
        simp [readValue, readCanvas_text, Grammar.option]
  | initConfig force => exact .cons (means_flag (by decide : IsLong "force") rfl rfl rfl) .nil

/-! ### The command behind its name -/

/-- Everything that the words behind the name of a command say. -/
def said (c : Command) (config : Option String) : List (ArgName × Value) :=
  places c.grammar.positionals c.positionals ++
    (valueOf .config .path config :: c.readings).flatten

theorem mem_commands (c : Command) : (c.name, c.grammar) ∈ Grammar.commands := by
  cases c with
  | convert => exact List.mem_cons_self
  | shrink => exact List.mem_cons_of_mem _ List.mem_cons_self
  | initConfig => exact List.mem_cons_of_mem _ (List.mem_cons_of_mem _ List.mem_cons_self)

theorem sublist_valueOf {α : Type} (wrap : α → Value) (x : Option α) :
    ((valueOf name wrap x).map Prod.fst).Sublist [name] := by
  cases x with
  | none => exact List.nil_sublist _
  | some y => exact .refl _

theorem sublist_flagOf (given : Bool) : ((flagOf name given).map Prod.fst).Sublist [name] := by
  cases given with
  | false => exact List.nil_sublist _
  | true => exact .refl _

/-- The paths of a command go to its positional arguments, one to each. -/
theorem map_places (c : Command) :
    (places c.grammar.positionals c.positionals).map Prod.fst =
      c.grammar.positionals.map Arg.name := by
  cases c <;> rfl

/-- Options are read in the order of the grammar, and none is read twice. -/
theorem sublist_readings (c : Command) (config : Option String) :
    ((valueOf .config .path config :: c.readings).flatten.map Prod.fst).Sublist
      (c.grammar.options.map Arg.name) := by
  have hConfig : ((valueOf .config .path config).map Prod.fst).Sublist [ArgName.config] :=
    sublist_valueOf .path config
  rw [List.flatten_cons, List.map_append]
  cases c with
  | convert svg png size fromFile =>
      rw [readings, List.flatten_cons, List.map_append, List.flatten_cons, List.map_append]
      exact hConfig.append ((sublist_valueOf _ size).append
        ((sublist_flagOf fromFile).append (List.nil_sublist _)))
  | shrink input output filter canvas noUpscale =>
      rw [readings, List.flatten_cons, List.map_append, List.flatten_cons, List.map_append,
        List.flatten_cons, List.map_append]
      exact hConfig.append ((sublist_valueOf _ filter).append ((sublist_valueOf _ canvas).append
        ((sublist_flagOf noUpscale).append (List.nil_sublist _))))
  | initConfig force =>
      rw [readings, List.flatten_cons, List.map_append]
      exact hConfig.append ((sublist_flagOf force).append (List.nil_sublist _))

/-- A command says nothing twice. -/
theorem nodup_said (c : Command) (config : Option String) :
    ((c.said config).map Prod.fst).Nodup := by
  have hNames : ∀ x ∈ Grammar.commands, (x.2.args.map Arg.name).Nodup := by decide
  refine (hNames _ (mem_commands c)).sublist ?_
  rw [said, Grammar.args, List.map_append, List.map_append, map_places]
  exact (sublist_readings c config).append_left _

/-- A command says all that is required. -/
theorem required_said (c : Command) (config : Option String) :
    ∀ a ∈ c.grammar.args, a.required = true → a.name ∈ (c.said config).map Prod.fst := by
  have hPlaced : ∀ x ∈ Grammar.commands, ∀ a ∈ x.2.args, a.required = true →
      a.name ∈ x.2.positionals.map Arg.name := by decide
  intro a ha hRequired
  rw [said, List.map_append, map_places]
  exact List.mem_append_left _ (hPlaced _ (mem_commands c) a ha hRequired)

/-- An argument has been given if it has a value. -/
theorem has_eq : p.has name = (p.value? name).isSome := by
  rw [Bool.eq_iff_iff]
  simp [has, value?]

/-- From all that is said the command is made again, and the path of the settings. -/
theorem build_of_said {config : Option String}
    (h : ∀ name, q.value? name = (c.said config).lookup name) :
    build c.name q = c ∧ q.value? .config = config.map .path := by
  cases c with
  | convert svg png size fromFile =>
      simp only [build, Command.name, Progress.path, has_eq, h]
      cases config <;> cases size <;> cases fromFile <;> exact ⟨rfl, rfl⟩
  | shrink input output filter canvas noUpscale =>
      simp only [build, Command.name, Progress.path, has_eq, h]
      cases config <;> cases filter <;> cases canvas <;> cases noUpscale <;> exact ⟨rfl, rfl⟩
  | initConfig force =>
      simp only [build, Command.name, Progress.path, has_eq, h]
      cases config <;> cases force <;> exact ⟨rfl, rfl⟩

/-- The words behind the name of a command, in any order, are read as this command. -/
theorem read_words (config : Option String) {words : List String}
    (hWords : Arranges c.positionals (spellOption "config" config :: c.options) words)
    (hConfig : ∀ path ∈ config, IsOperand path) (hPaths : ∀ path ∈ c.positionals, IsOperand path)
    (hSize : ∀ svg png size fromFile, c = .convert svg png (some size) fromFile →
      size.width ≠ 0 ∧ size.height ≠ 0) :
    ∃ p q, readArgs c.grammar .start false words = .ok (p, none) ∧
      finish c.grammar p = .ok q ∧ build c.name q = c ∧ q.value? .config = config.map .path := by
  have hGrammars : ∀ x ∈ Grammar.commands, x.2.takesCommand = false ∧
      (∀ a ∈ x.2.positionals, a.kind = .path) ∧
        x.2.long? "config" = some Grammar.config := by decide
  obtain ⟨hAlone, hKinds, hFound⟩ := hGrammars _ (mem_commands c)
  have hCount : 0 + c.positionals.length ≤ c.grammar.positionals.length := by
    cases c <;> exact Nat.le_refl _
  have hOptions : List.Forall₂ (Means c.grammar) (spellOption "config" config :: c.options)
      (valueOf .config .path config :: c.readings) :=
    .cons (means_config hFound hConfig) (means_options c hSize)
  have hSaid : places (c.grammar.positionals.drop 0) c.positionals ++
      ((valueOf .config .path config :: c.readings).flatten ++ []) = c.said config := by
    rw [List.append_nil, List.drop_zero, said]
  obtain ⟨p, hRead, hHeld⟩ := Holds.run hWords hAlone hKinds hPaths hOptions holds_start hCount
    (hSaid ▸ nodup_said c config)
  rw [hSaid] at hHeld
  obtain ⟨q, hEnd, hKnown⟩ := hHeld.finish (required_said c config)
  exact ⟨p, q, hRead, hEnd, build_of_said fun name =>
    value?_of_perm hKnown (nodup_said c config)⟩

/-! ### Whole command lines -/

/-- The name of a command ends the arguments of the program. -/
theorem readArgs_name (hReady : p.awaitsValue = none) (words : List String) :
    readArgs .top p false (c.name :: words) = .ok (p, some (c.name, words)) := by
  have hNames : ∀ x ∈ Grammar.commands, x.1 ∈ Grammar.commandNames := by decide
  rw [readArgs, if_pos]
  rw [hReady, decide_eq_true (hNames _ (mem_commands c))]
  rfl

/-- A command line is read in two parts, up to the name of the command and behind it. -/
theorem parse_of_words {args words : List String} {p p' q q' : Progress}
    (hTop : readArgs .top .start false args = .ok (p, some (c.name, words)))
    (hTopEnd : finish .top p = .ok p')
    (hRead : readArgs c.grammar .start false words = .ok (q, none))
    (hEnd : finish c.grammar q = .ok q') :
    parse args = .ok ⟨q'.path .config (p'.path .config defaultConfig), some (build c.name q')⟩ := by
  have hHelp : ∀ x ∈ Grammar.commands, x.1 ≠ "help" := by decide
  have hFound : (Grammar.commands.find? fun x => x.1 == c.name) = some (c.name, c.grammar) := by
    cases c <;> rfl
  unfold parse
  rw [hTop]
  simp only [bind, Except.bind]
  split
  · next hNone => exact nomatch hNone
  · next hName =>
    obtain ⟨hSame, -⟩ := Prod.mk.inj (Option.some.inj hName)
    exact absurd hSame (hHelp _ (mem_commands c))
  · next hName =>
    obtain ⟨rfl, rfl⟩ := Prod.mk.inj (Option.some.inj hName)
    rw [hFound]
    simp only [hRead, hEnd, hTopEnd]
    rfl

/-- The path of the settings before the command. -/
theorem read_config {config : String} (h : IsOperand config) :
    ∃ p q, (∀ rest, readArgs .top .start false ("--config" :: config :: rest) =
      readArgs .top p false rest) ∧ p.awaitsValue = none ∧ finish .top p = .ok q ∧
        q.value? .config = some (.path config) := by
  have hOperand : ∀ path ∈ some config, IsOperand path := by
    rintro path ⟨⟩
    exact h
  have hMeans : Means .top (spellOption "config" (some config))
      (valueOf .config .path (some config)) := means_config (by decide) hOperand
  have hDistinct : ((valueOf .config .path (some config) ++ []).map Prod.fst).Nodup :=
    List.pairwise_singleton _ _
  have hNone : ∀ a ∈ Grammar.top.args, ¬a.required = true := by decide
  obtain ⟨p, hStep, hHeld⟩ := holds_start.option hMeans hDistinct
  obtain ⟨q, hEnd, hKnown⟩ := hHeld.finish fun a ha hRequired => absurd hRequired (hNone a ha)
  exact ⟨p, q, hStep, hHeld.ready, hEnd, value?_of_perm hKnown hDistinct⟩

/-- All paths first and then all options is one of the orders. -/
theorem arranges_append (paths : List String) (options : List (List String)) :
    Arranges paths options (paths ++ options.flatten) := by
  induction paths with
  | cons path paths ih => exact .positional ih
  | nil =>
      induction options with
      | nil => exact .done
      | cons option options ih =>
          rw [List.nil_append] at ih ⊢
          exact .option ih (.refl _)

/-- Each invocation has a spelling. -/
theorem spells_spell (i : Invocation) : Spells i (spell i) := by
  obtain ⟨config, command⟩ := i
  cases command with
  | none => exact .omitted
  | some c => exact .before (arranges_append c.positionals c.options)

/-- Every spelling of an invocation is read as the invocation. -/
theorem parse_of_spells {i : Invocation} {args : List String} (hSpelled : Spells i args)
    (hPaths : ∀ path ∈ i.config :: i.command.elim [] positionals, IsOperand path)
    (hSize : ∀ svg png size fromFile, i.command = some (.convert svg png (some size) fromFile) →
      size.width ≠ 0 ∧ size.height ≠ 0) : parse args = .ok i := by
  have hConfig := hPaths i.config List.mem_cons_self
  obtain ⟨p, p', hTop, hReady, hTopEnd, hFront⟩ := read_config hConfig
  cases hSpelled with
  | @omitted config =>
      have hArgs : readArgs .top .start false ["--config", config] = .ok (p, none) := by
        rw [hTop, readArgs]
      simp only [parse, hArgs, hTopEnd, bind, Except.bind, path, hFront]
      rfl
  | @before config c words hWords =>
      have hArgs := (hTop (c.name :: words)).trans (readArgs_name hReady words)
      obtain ⟨q, q', hRead, hEnd, hBuild, hBehind⟩ :=
        -- Behind the command the path is an option that is left out.
        read_words none (.option hWords (.refl _)) (by rintro path ⟨⟩)
          (fun path h => hPaths path (List.mem_cons_of_mem _ h))
          (fun svg png size fromFile h => hSize svg png size fromFile (congrArg some h))
      rw [parse_of_words hArgs hTopEnd hRead hEnd, hBuild]
      simp only [path, hBehind, hFront, Option.map_none]
  | @behind config c words hWords =>
      obtain ⟨q, q', hRead, hEnd, hBuild, hBehind⟩ :=
        read_words (some config) hWords (by rintro path ⟨⟩; exact hConfig)
          (fun path h => hPaths path (List.mem_cons_of_mem _ h))
          (fun svg png size fromFile h => hSize svg png size fromFile (congrArg some h))
      rw [parse_of_words (readArgs_name rfl words) rfl hRead hEnd, hBuild]
      simp only [path, hBehind, Option.map_some]

/-- An invocation can be spelled, and whichever way it is spelled, reading gives back
this invocation: the path of the settings counts before and behind the command, and the
options stand in any order between the positional arguments. -/
theorem parse_spelling (i : Invocation)
    (hPaths : ∀ path ∈ i.config :: i.command.elim [] positionals, IsOperand path)
    (hSize : ∀ svg png size fromFile, i.command = some (.convert svg png (some size) fromFile) →
      size.width ≠ 0 ∧ size.height ≠ 0) :
    Spells i (spell i) ∧ ∀ args, Spells i args → parse args = .ok i :=
  ⟨spells_spell i, fun _ hSpelled => parse_of_spells hSpelled hPaths hSize⟩

/-- Options before, between and behind the paths, and the settings among them. -/
theorem parse_spelling_mixed :
    let i : Invocation := ⟨"c.json", some (.convert "a.svg" "b.png" (some ⟨6, 4⟩) true)⟩
    let args := ["svg2png", "--size", "6x4", "a.svg", "--config", "c.json", "b.png", "--from-file"]
    Spells i args ∧ parse args = .ok i := by
  intro i args
  have hWidth : Decimal.digits (6 : UInt32).toNat = ['6'] := Decimal.digits_of_lt (by decide)
  have hHeight : Decimal.digits (4 : UInt32).toNat = ['4'] := Decimal.digits_of_lt (by decide)
  have hText : Size.text ⟨6, 4⟩ = "6x4" := by
    rw [Size.text, Decimal.text, Decimal.text, hWidth, hHeight]
    rfl
  have hWords : Arranges ["a.svg", "b.png"]
      [["--config", "c.json"], ["--size", "6x4"], ["--from-file"]]
      (["--size", "6x4"] ++
        "a.svg" :: (["--config", "c.json"] ++ "b.png" :: (["--from-file"] ++ []))) :=
    .option (.positional (.option (.positional (.option .done (.refl _))) (.refl _)))
      (.swap _ _ _)
  have hSpelled : Spells i args := by
    refine .behind ?_
    rw [positionals, options, Option.map_some, hText]
    exact hWords
  refine ⟨hSpelled, (parse_spelling i (by decide) ?_).2 args hSpelled⟩
  rintro svg png size fromFile ⟨⟩
  decide

end Iconsmith.Command
