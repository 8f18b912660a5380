import Stencil.Strategy

/-!
# Command lines

Reads the arguments of a command line. An option has a long name, may have a letter, and may take a
value: `--config x`, `--config=x`, `-c x`, `-cx` and `-c=x` all say the same. Letters of options
without values may be run together. No option may be given twice, and two hyphens alone end the
options.
-/

namespace Stencil

/-- The shells for which there are completions. -/
inductive Shell where
  | bash
  | elvish
  | fish
  | powershell
  | zsh
deriving Repr, DecidableEq

/-- The names of the shells. -/
def Shell.names : List (String × Shell) :=
  [("bash", bash), ("elvish", elvish), ("fish", fish), ("powershell", powershell), ("zsh", zsh)]

/-- What to generate from, where to, and how. -/
structure RunOptions where
  config : String := "etch.toml"
  rounds : String := "rounds.toml"
  output : String := "generated"
  /-- The strategy, if it is not to be the manifest's. -/
  strategy : Option Strategy := none
  dryRun : Bool := false
deriving Repr, DecidableEq

/-- What to check. -/
structure CheckOptions where
  config : String := "etch.toml"
  rounds : Option String := none
deriving Repr, DecidableEq

/-- Where to put the first files, and whether others may be replaced. -/
structure InitOptions where
  output : String := "."
  force : Bool := false
deriving Repr, DecidableEq

/-- What is to be done. -/
inductive Command where
  | run (options : RunOptions)
  | check (options : CheckOptions)
  | init (options : InitOptions)
  | completions (shell : Shell)
deriving Repr, DecidableEq

/-- Why a command line is not read to its end: it makes no sense, or it asks for a text that needs
no command. -/
inductive Halt where
  | usage
  | help
  | version
deriving Repr, DecidableEq

namespace Arguments

/-- What an argument looks like. -/
inductive Token where
  | long (name : String) (value : Option String)
  | short (letters : List Char)
  | escape
  | word (text : String)
deriving Repr, DecidableEq

/-- The part of a text before the first equals sign, and the part behind it. -/
def splitEquals (s : List Char) : String × Option String :=
  (String.ofList (s.takeWhile (· ≠ '=')),
    match s.dropWhile (· ≠ '=') with
    | [] => none
    | _ :: value => some (String.ofList value))

/-- What an argument looks like. A hyphen alone is a word. -/
def Token.of (arg : String) : Token :=
  match arg.toList with
  | ['-', '-'] => escape
  | '-' :: '-' :: rest => let (name, value) := splitEquals rest; long name value
  | '-' :: letter :: letters => short (letter :: letters)
  | _ => word arg

/-- An option of a command, by what it changes. -/
structure Switch (ρ : Type) where
  long : String
  letter : Option Char
  takesValue : Bool
  change : String → ρ → Except Halt ρ

/-- What a command understands: options, and words that belong to none. -/
structure Grammar (ρ : Type) where
  switches : List (Switch ρ)
  word : String → ρ → Except Halt ρ

/-- How far a command line is read: what it has said, the options that it has given, the option
whose value comes next, and whether the options have ended. -/
structure Progress (ρ : Type) where
  options : ρ
  given : List String := []
  pending : Option (Switch ρ) := none
  literal : Bool := false

variable {ρ : Type}

/-- An option given with a value. -/
def Progress.give (p : Progress ρ) (switch : Switch ρ) (value : String) :
    Except Halt (Progress ρ) := do
  if switch.long ∈ p.given then throw .usage
  return {
    options := ← switch.change value p.options
    given := switch.long :: p.given }

namespace Grammar

variable (g : Grammar ρ)

/-- Reads an option that is given by its long name. -/
def readLong (p : Progress ρ) (name : String) (value : Option String) :
    Except Halt (Progress ρ) :=
  match g.switches.find? (·.long == name), value with
  | none, _ => throw .usage
  | some switch, none =>
    if switch.takesValue then return { p with pending := some switch } else p.give switch ""
  | some switch, some value => if switch.takesValue then p.give switch value else throw .usage

/-- Reads options that are given by their letters. What follows the letter of an option with a
value is the value. -/
def readLetters (p : Progress ρ) : List Char → Except Halt (Progress ρ)
  | [] => return p
  | letter :: rest =>
    match g.switches.find? (·.letter == some letter) with
    | none => throw .usage
    | some switch =>
      if switch.takesValue then
        match rest with
        | [] => return { p with pending := some switch }
        | '=' :: value => p.give switch (String.ofList value)
        | value => p.give switch (String.ofList value)
      else do readLetters (← p.give switch "") rest

/-- Reads a word that belongs to no option. -/
def readWord (p : Progress ρ) (word : String) : Except Halt (Progress ρ) := do
  return { p with options := ← g.word word p.options }

/-- Reads one more argument. -/
def readArgument (p : Progress ρ) (arg : String) : Except Halt (Progress ρ) :=
  if p.literal then g.readWord p arg
  else
    match p.pending, Token.of arg with
    | some switch, .word value => p.give switch value
    | some _, _ => throw .usage
    | none, .long name value => g.readLong p name value
    | none, .short letters => g.readLetters p letters
    | none, .escape => return { p with literal := true }
    | none, .word word => g.readWord p word

/-- Reads arguments to the end. -/
def read (options : ρ) (args : List String) : Except Halt ρ := do
  let p ← args.foldlM g.readArgument { options }
  if p.pending.isSome then throw .usage
  return p.options

end Grammar

/-! ### The commands -/

/-- A path as the value of an option. -/
def path (value : String) : Except Halt String :=
  if value.isEmpty then throw .usage else return value

/-- A strategy as the value of an option. -/
def strategy (value : String) : Except Halt Strategy :=
  match Strategy.ofWord? value with
  | some s => return s
  | none => throw .usage

/-- The option to say more of what is going on, which every command has. -/
def verbose : Switch ρ :=
  ⟨"verbose", some 'v', false, fun _ options => return options⟩

/-- The option to explain a command, which every command has. -/
def help : Switch ρ :=
  ⟨"help", some 'h', false, fun _ _ => throw .help⟩

/-- No word but the values of options is understood. -/
def noWord : String → ρ → Except Halt ρ :=
  fun _ _ => throw .usage

/-- What stands before the name of a command. -/
def topGrammar : Grammar Unit where
  switches := [verbose, help, ⟨"version", some 'V', false, fun _ _ => throw .version⟩]
  word := noWord

/-- What `run` understands. -/
def runGrammar : Grammar RunOptions where
  switches := [verbose, help,
    ⟨"config", some 'c', true, fun v o => do return { o with config := ← path v }⟩,
    ⟨"rounds", some 'r', true, fun v o => do return { o with rounds := ← path v }⟩,
    ⟨"output", some 'o', true, fun v o => do return { o with output := ← path v }⟩,
    ⟨"strategy", some 's', true, fun v o => do return { o with strategy := ← strategy v }⟩,
    ⟨"dry-run", none, false, fun _ o => return { o with dryRun := true }⟩]
  word := noWord

/-- What `check` understands. -/
def checkGrammar : Grammar CheckOptions where
  switches := [verbose, help,
    ⟨"config", some 'c', true, fun v o => do return { o with config := ← path v }⟩,
    ⟨"rounds", some 'r', true, fun v o => do return { o with rounds := ← path v }⟩]
  word := noWord

/-- What `init` understands. -/
def initGrammar : Grammar InitOptions where
  switches := [verbose, help,
    ⟨"output", some 'o', true, fun v o => do return { o with output := ← path v }⟩,
    ⟨"force", none, false, fun _ o => return { o with force := true }⟩]
  word := noWord

/-- What `completions` understands. -/
def completionsGrammar : Grammar (Option Shell) where
  switches := [verbose, help]
  word := fun word shell? =>
    match shell?, Shell.names.lookup word with
    | none, some shell => return some shell
    | _, _ => throw .usage

/-- The names of the commands, and of the help on them. -/
def commandNames : List String :=
  ["run", "check", "init", "completions", "help"]

/-- Reads what stands behind the name of a command. -/
def readCommand (name : String) (args : List String) : Except Halt Command := do
  match name with
  | "run" => return .run (← runGrammar.read {} args)
  | "check" => return .check (← checkGrammar.read {} args)
  | "init" => return .init (← initGrammar.read {} args)
  | "completions" =>
    match ← completionsGrammar.read none args with
    | some shell => return .completions shell
    | none => throw .usage
  | "help" =>
    throw (if args.length ≤ 1 ∧ args.all (commandNames.contains ·) then .help else .usage)
  | _ => throw .usage

/-- Whether an argument is a word. -/
def isWord (arg : String) : Bool :=
  match Token.of arg with
  | .word _ => true
  | _ => false

end Arguments

/-- Reads a command line: options that every command has, the name of the command, and what the
command understands. -/
def Command.parse (args : List String) : Except Halt Command := do
  let _ ← Arguments.topGrammar.read () (args.takeWhile (!Arguments.isWord ·))
  match args.dropWhile (!Arguments.isWord ·) with
  | name :: rest =>
    if args.takeWhile (!Arguments.isWord ·) |>.contains "--" then throw .usage
    Arguments.readCommand name rest
  | [] => throw .usage

end Stencil
