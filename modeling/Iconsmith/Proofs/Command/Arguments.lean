import Mathlib.Data.List.Perm.Basic
import Mathlib.Data.List.TakeDrop
import Mathlib.Data.List.TakeWhile
import Iconsmith.Command.Parser

/-! Arguments whose options stand in any order, and the values that reading them
leaves behind. -/
namespace Iconsmith.Command

/-- A word that can be a path and cannot be taken for an option. -/
def IsOperand (word : String) : Prop := word ≠ "" ∧ word.toList.head? ≠ some '-'

instance (word : String) : Decidable (IsOperand word) := by unfold IsOperand; infer_instance

/-- The positional arguments stand in their order, the options at any places between
them and in any order. -/
inductive Arranges : List String → List (List String) → List String → Prop where
  | done : Arranges [] [] []
  | positional {path : String} {paths : List String} {options : List (List String)}
      {words : List String} (h : Arranges paths options words) :
      Arranges (path :: paths) options (path :: words)
  | option {option : List String} {paths : List String} {options others : List (List String)}
      {words : List String} (h : Arranges paths others words)
      (hAny : options.Perm (option :: others)) : Arranges paths options (option ++ words)

/-- The name of an option behind its two dashes. -/
def IsLong (name : String) : Prop := name.toList ≠ [] ∧ '=' ∉ name.toList

instance (name : String) : Decidable (IsLong name) := by unfold IsLong; infer_instance

/-- The words of one option with the value that they give; an option that is left out
has neither. -/
inductive Means (g : Grammar) : List String → List (ArgName × Value) → Prop where
  | absent : Means g [] []
  | valued {long text : String} {a : Arg} {v : Value} (hLong : IsLong long)
      (hFound : g.long? long = some a) (hTakes : a.takesValue = true)
      (hText : text.toList.head? ≠ some '-') (hRead : readValue a text = .ok v) :
      Means g ["--" ++ long, text] [(a.name, v)]
  | flag {long : String} {a : Arg} (hLong : IsLong long) (hFound : g.long? long = some a)
      (hFlag : a.kind = .flag) : Means g ["--" ++ long] [(a.name, .flag)]

variable {g : Grammar} {p q : Progress} {a : Arg} {v : Value} {name : ArgName} {n : Nat}
  {given : List (Arg × Value)} {known : List (ArgName × Value)} {word text long : String}
  {words rest : List String}

/-! ### Completed arguments -/

/-- The values of arguments by the names of these. -/
def byName (given : List (Arg × Value)) : List (ArgName × Value) :=
  given.map fun x => (x.1.name, x.2)

namespace Progress

/-- An argument has been given if its name is among those given. -/
theorem has_iff : p.has name = true ↔ name ∈ (byName p.given).map Prod.fst := by
  simp [has, byName]

theorem value?_eq_lookup : p.value? name = (byName p.given).lookup name := by
  rw [value?, byName]
  induction p.given with
  | nil => rfl
  | cons x given ih =>
      rw [List.find?_cons, List.map_cons, List.lookup_cons, Bool.beq_comm]
      cases name == x.1.name with
      | true => rfl
      | false => exact ih

/-- An argument with a value is completed once the value can be read. -/
theorem complete_text (hTakes : a.takesValue = true) (hNew : p.has a.name = false)
    (hRead : readValue a text = .ok v) :
    p.complete g a (some text) = .ok { p with given := p.given ++ [(a, v)] } := by
  unfold complete
  unfold Arg.takesValue at hTakes
  split at hTakes
  · exact nomatch hTakes
  · exact nomatch hTakes
  · exact nomatch hTakes
  · split <;> simp_all [bind, Except.bind, pure, Except.pure]

theorem complete_flag (hFlag : a.kind = .flag) (hNew : p.has a.name = false) :
    p.complete g a none = .ok { p with given := p.given ++ [(a, .flag)] } := by
  simp [complete, Arg.takesValue, hFlag, hNew, readValue, bind, Except.bind, pure, Except.pure]

/-- No argument waits for its value, and when the last one is completed these are the
values, in some order. -/
structure Holds (g : Grammar) (p : Progress) (n : Nat) (known : List (ArgName × Value)) :
    Prop where
  ready : p.awaitsValue = none
  count : p.positionals = n
  settled : ∃ given, p.settle g = .ok ⟨given, none, n⟩ ∧ (byName given).Perm known

theorem holds_start : start.Holds g 0 [] := ⟨rfl, rfl, [], rfl, .refl _⟩

/-- It does not matter in which order arguments are known. -/
theorem Holds.perm {others : List (ArgName × Value)} (h : p.Holds g n known)
    (hPerm : known.Perm others) : p.Holds g n others :=
  have ⟨given, hSettled, hKnown⟩ := h.settled
  ⟨h.ready, h.count, given, hSettled, hKnown.trans hPerm⟩

theorem not_has (h : (byName given).Perm known) (hNew : name ∉ known.map Prod.fst) (m : Nat) :
    has ⟨given, none, m⟩ name = false := by
  rw [Bool.eq_false_iff]
  exact fun hHas => hNew ((h.map Prod.fst).mem_iff.mp (has_iff.mp hHas))

theorem perm_byName_append (h : (byName given).Perm known) :
    (byName (given ++ [(a, v)])).Perm ((a.name, v) :: known) := by
  rw [byName, List.map_append]
  exact (List.perm_append_singleton ..).trans (h.cons _)

/-- An argument with the text of its value counts before it is completed. -/
theorem holds_pending (h : (byName given).Perm known) (hNew : a.name ∉ known.map Prod.fst)
    (hTakes : a.takesValue = true) (hRead : readValue a text = .ok v) (m : Nat) :
    Holds g ⟨given, some (a, some text), m⟩ m ((a.name, v) :: known) :=
  ⟨rfl, rfl, _, complete_text hTakes (not_has h hNew m) hRead, perm_byName_append h⟩

/-- A flag is known once it has been given. -/
theorem holds_flag (h : (byName given).Perm known) :
    Holds g ⟨given ++ [(a, v)], none, n⟩ n ((a.name, v) :: known) :=
  ⟨rfl, rfl, _, rfl, perm_byName_append h⟩

end Progress

open Progress

/-! ### One argument -/

/-- A word that starts with a dash is no command. -/
theorem not_command (h : word.toList.head? = some '-') : word ∉ Grammar.commandNames := by
  intro hCommand
  have hNone : ∀ name ∈ Grammar.commandNames, name.toList.head? ≠ some '-' := by decide
  exact hNone word hCommand h

/-- A long option is taken with its value, and the others are read behind it. -/
theorem readArgs_long (hLong : IsLong long) :
    readArgs g p false (("--" ++ long) :: rest) =
      (takeLong g p long none rest).bind fun p => readArgs g p false rest := by
  obtain ⟨hSome, hPlain⟩ := hLong
  obtain ⟨c, more, hName⟩ := List.exists_cons_of_ne_nil hSome
  have hDashes : ("--" ++ long).toList = '-' :: '-' :: c :: more := by simp [hName]
  have hCommand : ("--" ++ long) ∉ Grammar.commandNames := not_command (by rw [hDashes]; rfl)
  have hSpan : (c :: more).span (fun c => c != '=') = (c :: more, []) := by
    have hAll : ∀ d ∈ c :: more, (d != '=') = true := by
      intro d hd
      rw [bne_iff_ne]
      rintro rfl
      exact hPlain (hName ▸ hd)
    rw [List.span_eq_takeWhile_dropWhile, List.takeWhile_eq_self_iff.mpr hAll,
      List.dropWhile_eq_nil_iff.mpr hAll]
  rw [readArgs, if_neg (by simp [hCommand]), hDashes]
  -- A lone pair of dashes would end the options; behind it stands at least one character.
  split
  · next hEmpty => exact nomatch hEmpty
  · next name _ hRest =>
    obtain rfl : c :: more = name := by simpa using hRest
    have hText : String.ofList (c :: more) = long := by rw [← hName, String.ofList_toList]
    simp only [hSpan, hText]
    rfl
  · next hOther hRest => exact absurd (List.cons.inj (List.cons.inj hRest).2).1.symm hOther
  · next hOther => exact absurd rfl (hOther _ _)

/-- A word that is no option is the value of an option that waits for one, or else a positional
argument. -/
theorem readArgs_operand (hWord : word.toList.head? ≠ some '-')
    (hCommand : g.takesCommand = true → p.awaitsValue = none → word ∉ Grammar.commandNames) :
    readArgs g p false (word :: rest) =
      match p.awaitsValue with
      | some a => readArgs g { p with pending := some (a, some word) } false rest
      | none => (takeWord g p false word).bind fun p => readArgs g p false rest := by
  rw [readArgs, if_neg (by simpa using hCommand)]
  split
  · next hDashes => exact absurd (by rw [hDashes]; rfl) hWord
  · next hDashes => exact absurd (by rw [hDashes]; rfl) hWord
  · next hDash => exact absurd (by rw [hDash]; rfl) hWord
  · rfl

/-- Reading an option adds its value to what is held. -/
theorem Progress.Holds.option {words : List String} {read : List (ArgName × Value)}
    (h : p.Holds g n known) (hMeans : Means g words read)
    (hNew : ((read ++ known).map Prod.fst).Nodup) :
    ∃ q, (∀ rest, readArgs g p false (words ++ rest) = readArgs g q false rest) ∧
      q.Holds g n (read ++ known) := by
  obtain ⟨given, hSettled, hKnown⟩ := h.settled
  cases hMeans with
  | absent => exact ⟨p, fun _ => rfl, h⟩
  | @valued long text a v hLong hFound hTakes hText hRead =>
      refine ⟨_, fun rest => ?_, holds_pending hKnown (List.nodup_cons.mp hNew).1 hTakes hRead n⟩
      have hTaken : takeLong g p long none (text :: rest) = .ok ⟨given, some (a, none), n⟩ := by
        simp [takeLong, hFound, hTakes, hSettled, bind, Except.bind, pure, Except.pure]
      rw [List.cons_append, readArgs_long hLong]
      simp only [List.cons_append, List.nil_append, hTaken, Except.bind]
      exact readArgs_operand hText nofun
  | @flag long a hLong hFound hFlag =>
      refine ⟨_, fun rest => ?_, holds_flag hKnown⟩
      have hGiven : Progress.complete g ⟨given, none, n⟩ a none =
          .ok ⟨given ++ [(a, .flag)], none, n⟩ :=
        complete_flag hFlag (not_has hKnown (List.nodup_cons.mp hNew).1 n)
      have hTaken : takeLong g p long none rest = .ok ⟨given ++ [(a, .flag)], none, n⟩ := by
        simp [takeLong, hFound, Arg.takesValue, hFlag, hSettled, bind, Except.bind,
          takeLong.complete, hGiven]
      rw [List.cons_append, readArgs_long hLong]
      simp only [List.nil_append, hTaken, Except.bind]

/-- Reading a positional argument adds its path to what is held. -/
theorem Progress.Holds.positional (h : p.Holds g n known) (hAlone : g.takesCommand = false)
    (hPlace : g.positionals[n]? = some a) (hPath : a.kind = .path) (hWord : IsOperand word)
    (hNew : a.name ∉ known.map Prod.fst) :
    ∃ q, (∀ rest, readArgs g p false (word :: rest) = readArgs g q false rest) ∧
      q.Holds g (n + 1) ((a.name, .path word) :: known) := by
  obtain ⟨given, hSettled, hKnown⟩ := h.settled
  have hTakes : a.takesValue = true := by rw [Arg.takesValue, hPath]
  have hRead : readValue a word = .ok (.path word) := by
    simp [readValue, hPath, hWord.1]
  refine ⟨_, fun rest => ?_, holds_pending hKnown hNew hTakes hRead (n + 1)⟩
  have hTaken : takeWord g p false word = .ok ⟨given, some (a, some word), n + 1⟩ := by
    simp [takeWord, h.count, hPlace, hSettled, bind, Except.bind, pure, Except.pure]
  rw [readArgs_operand hWord.2 (by simp [hAlone]), h.ready]
  simp only [hTaken, Except.bind]

/-! ### All arguments -/

/-- Paths as the values of positional arguments. -/
def places (args : List Arg) (paths : List String) : List (ArgName × Value) :=
  args.zipWith (fun a path => (a.name, .path path)) paths

/-- The next path goes to the next positional argument. -/
theorem places_drop_cons (hHere : n < g.positionals.length) (path : String) (paths : List String) :
    places (g.positionals.drop n) (path :: paths) =
      (g.positionals[n].name, .path path) :: places (g.positionals.drop (n + 1)) paths := by
  rw [List.drop_eq_getElem_cons hHere]
  rfl

/-- The path that is read next moves from the front of the paths to what is known. -/
theorem perm_places_cons (hHere : n < g.positionals.length) (path : String) (paths : List String)
    (read known : List (ArgName × Value)) :
    (places (g.positionals.drop (n + 1)) paths ++
      (read ++ (g.positionals[n].name, .path path) :: known)).Perm
        (places (g.positionals.drop n) (path :: paths) ++ (read ++ known)) := by
  rw [places_drop_cons hHere]
  exact (List.perm_middle.append_left _).trans List.perm_middle

/-- What the option that is read next says moves to what is known. -/
theorem perm_flatten_cons {readings later : List (List (ArgName × Value))}
    {read : List (ArgName × Value)} (hSame : (read :: later).Perm readings)
    (placed known : List (ArgName × Value)) :
    (placed ++ (later.flatten ++ (read ++ known))).Perm (placed ++ (readings.flatten ++ known)) := by
  refine List.Perm.append_left _ ((List.perm_append_comm_assoc _ _ _).trans ?_)
  rw [← List.append_assoc]
  exact hSame.flatten.append_right known

/-- Arranged arguments are read to the end, and everything that they say is held. -/
theorem Progress.Holds.run {paths : List String} {options : List (List String)}
    (hWords : Arranges paths options words) (hAlone : g.takesCommand = false)
    (hKinds : ∀ a ∈ g.positionals, a.kind = .path) (hPaths : ∀ path ∈ paths, IsOperand path)
    {readings : List (List (ArgName × Value))} (hOptions : List.Forall₂ (Means g) options readings)
    (h : p.Holds g n known) (hPlaces : n + paths.length ≤ g.positionals.length)
    (hDistinct : ((places (g.positionals.drop n) paths ++ (readings.flatten ++ known)).map
      Prod.fst).Nodup) :
    ∃ q, readArgs g p false words = .ok (q, none) ∧ q.Holds g (n + paths.length)
      (places (g.positionals.drop n) paths ++ (readings.flatten ++ known)) := by
  -- Each step moves what one argument says from the front of the list into `known`, so the
  -- names stay different from each other along the way.
  induction hWords generalizing p n known readings with
  | done =>
      cases hOptions
      refine ⟨p, by rw [readArgs], ?_⟩
      simpa [places] using h
  | @positional path paths options words _ ih =>
      rw [List.length_cons] at hPlaces
      have hHere : n < g.positionals.length := by omega
      have hCount : n + (path :: paths).length = n + 1 + paths.length := by
        rw [List.length_cons]
        omega
      have hLater := perm_places_cons hHere path paths readings.flatten known
      have hNew : g.positionals[n].name ∉ known.map Prod.fst := by
        rw [places_drop_cons hHere, List.cons_append, List.map_cons, List.nodup_cons] at hDistinct
        intro hKnown
        exact hDistinct.1 (by simp only [List.map_append, List.mem_append, hKnown, or_true])
      obtain ⟨p', hStep, hHeld⟩ := h.positional hAlone (List.getElem?_eq_getElem hHere)
        (hKinds _ (List.getElem_mem hHere)) (hPaths path List.mem_cons_self) hNew
      obtain ⟨q, hRead, hAll⟩ := ih (fun path h => hPaths path (List.mem_cons_of_mem _ h)) hOptions
        hHeld (by omega) ((hLater.map _).nodup_iff.mpr hDistinct)
      exact ⟨q, (hStep words).trans hRead, hCount ▸ hAll.perm hLater⟩
  | @option option paths options others words _ hAny ih =>
      obtain ⟨arranged, hArranged, hSame⟩ := List.perm_comp_forall₂ hAny.symm hOptions
      cases hArranged with
      | @cons _ read _ later hOption hOthers =>
          have hLater := perm_flatten_cons hSame (places (g.positionals.drop n) paths) known
          have hDistinct' := (hLater.map Prod.fst).nodup_iff.mpr hDistinct
          have hHead : (read ++ known).Sublist (places (g.positionals.drop n) paths ++
              (later.flatten ++ (read ++ known))) :=
            (List.sublist_append_right _ _).trans (List.sublist_append_right _ _)
          obtain ⟨p', hStep, hHeld⟩ := h.option hOption (hDistinct'.sublist (hHead.map _))
          obtain ⟨q, hRead, hAll⟩ := ih hPaths hOthers hHeld hPlaces hDistinct'
          exact ⟨q, (hStep words).trans hRead, hAll.perm hLater⟩

/-! ### The end of the arguments -/

/-- In the end nothing is missing if everything that is required is known. -/
theorem Progress.Holds.finish (h : p.Holds g n known)
    (hRequired : ∀ a ∈ g.args, a.required = true → a.name ∈ known.map Prod.fst) :
    ∃ q, Command.finish g p = .ok q ∧ (byName q.given).Perm known := by
  obtain ⟨given, hSettled, hKnown⟩ := h.settled
  have hNone : (g.args.filter fun a =>
      a.required && !Progress.has ⟨given, none, n⟩ a.name) = [] := by
    rw [List.filter_eq_nil_iff]
    intro a ha hMissing
    rw [Bool.and_eq_true, Bool.not_eq_true'] at hMissing
    have hHas : Progress.has ⟨given, none, n⟩ a.name = true :=
      has_iff.mpr ((hKnown.map Prod.fst).mem_iff.mpr (hRequired a ha hMissing.1))
    rw [hHas] at hMissing
    exact nomatch hMissing.2
  refine ⟨⟨given, none, n⟩, ?_, hKnown⟩
  simp only [Command.finish, hSettled, bind, Except.bind, hNone, List.isEmpty_nil, if_true]
  rfl

/-- What is looked up does not depend on the order if no name occurs twice. -/
theorem lookup_of_perm {others : List (ArgName × Value)} (h : known.Perm others)
    (hDistinct : (known.map Prod.fst).Nodup) : known.lookup name = others.lookup name := by
  induction h with
  | nil => rfl
  | cons x _ ih =>
      rw [List.lookup_cons, List.lookup_cons, ih (List.nodup_cons.mp hDistinct).2]
  | swap x y others =>
      obtain ⟨x, v⟩ := x
      obtain ⟨y, w⟩ := y
      have hNames : x ≠ y := by
        rintro rfl
        exact (List.nodup_cons.mp hDistinct).1 List.mem_cons_self
      simp only [List.lookup_cons]
      cases hx : name == x with
      | false => rfl
      | true =>
          obtain rfl : name = x := eq_of_beq hx
          rw [beq_false_of_ne hNames]
  | trans h _ ih ih' => exact (ih hDistinct).trans (ih' ((h.map Prod.fst).nodup_iff.mp hDistinct))

/-- Arguments with different names are found by these, in whatever order they came. -/
theorem Progress.value?_of_perm (h : (byName q.given).Perm known)
    (hDistinct : (known.map Prod.fst).Nodup) : q.value? name = known.lookup name :=
  value?_eq_lookup.trans (lookup_of_perm h ((h.map Prod.fst).nodup_iff.mpr hDistinct))

end Iconsmith.Command
