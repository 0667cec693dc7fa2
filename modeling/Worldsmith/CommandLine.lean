import Worldsmith.Game.Read
import Worldsmith.Level.Codec
import Worldsmith.Sink.Archive
import Worldsmith.Sink.Folder
import Worldsmith.World.Package

namespace Worldsmith.CommandLine

structure Arguments where
  game : Path
  levels : Path
  commonModule : Option Path := none
  outputFolder : Path := ⟨"output"⟩
  /-- A folder of worlds, to be written to instead of an archive. -/
  worldsFolder : Option Path := none
  /-- The number of blank lines behind each block of code in a hook. -/
  hookSpacing : Nat := 1
  deriving DecidableEq, Repr

inductive Command
  | run (arguments : Arguments)
  | help
  | version
  deriving DecidableEq, Repr

inductive Key
  | game
  | levels
  | commonModule
  | outputFolder
  | worldsFolder
  | hookSpacing
  deriving DecidableEq, Repr

namespace Key

def all : List Key := [game, levels, commonModule, outputFolder, worldsFolder, hookSpacing]

def text : Key → String
  | game => "game"
  | levels => "levels"
  | commonModule => "common-module"
  | outputFolder => "output-dir"
  | worldsFolder => "world-folder"
  | hookSpacing => "hook-spacing"

def ofText? (s : String) : Option Key := all.find? (·.text == s)

end Key

inductive Misuse
  | unexpected (argument : String)
  | withoutValue (key : Key)
  | badValue (key : Key) (value : String)
  | repeated (key : Key)
  | missing (key : Key)
  /-- A value for an argument that takes none. -/
  | needless (argument : String)
  deriving DecidableEq, Repr

def Misuse.message : Misuse → String
  | unexpected argument => "unexpected argument '" ++ argument ++ "' found"
  | withoutValue key => "a value is required for '--" ++ key.text ++ "' but none was supplied"
  | badValue key value => "invalid value '" ++ value ++ "' for '--" ++ key.text ++ "'"
  | repeated key => "the argument '--" ++ key.text ++ "' cannot be used multiple times"
  | missing key => "the argument '--" ++ key.text ++ "' is required"
  | needless argument => "unexpected value for '--" ++ argument ++ "'"

abbrev Given := List (Key × String)

/-- A number of 64 bits, which a plus may precede. -/
def count? (s : String) : Option Nat :=
  let digits := match s.toList with
    | '+' :: rest => rest
    | cs => cs
  if digits.isEmpty || !digits.all Char.isDigit then none
  else
    let n := digits.foldl (fun n c => 10 * n + (c.toNat - 48)) 0
    if n < UInt64.size then some n else none

def accepts (key : Key) (value : String) : Bool :=
  match key with
  | .hookSpacing => (count? value).isSome
  | _ => value != ""

def give (given : Given) (key : Key) (value : String) : Except Misuse Given :=
  if !accepts key value then .error (.badValue key value)
  else if (given.lookup key).isSome then .error (.repeated key)
  else .ok ((key, value) :: given)

def finish (given : Given) : Except Misuse Command := do
  let path? (key : Key) : Option Path := (given.lookup key).map Path.mk
  let some game := path? .game | throw (.missing .game)
  let some levels := path? .levels | throw (.missing .levels)
  return .run {
    game, levels
    commonModule := path? .commonModule
    outputFolder := (path? .outputFolder).getD ⟨"output"⟩
    worldsFolder := path? .worldsFolder
    hookSpacing := ((given.lookup .hookSpacing).bind count?).getD 1 }

inductive Form
  | long (name : String) (value : Option String)
  | short (flag : Char)
  /-- Two dashes alone. -/
  | divider
  | plain
  deriving DecidableEq, Repr

def form (argument : String) : Form :=
  match argument.toList with
  | ['-', '-'] => .divider
  | '-' :: '-' :: cs =>
    let name := cs.takeWhile (· != '=')
    match cs.drop name.length with
    | [] => .long (String.ofList name) none
    | _ :: value => .long (String.ofList name) (some (String.ofList value))
  | '-' :: c :: _ => .short c
  | _ => .plain

inductive Request
  | ask (command : Command)
  | value (key : Key) (s : String)
  /-- The value is the next argument. -/
  | key (key : Key)
  | divider
  deriving DecidableEq, Repr

def request (argument : String) : Except Misuse Request :=
  match form argument with
  | .plain => .error (.unexpected argument)
  | .divider => .ok .divider
  | .short flag =>
    if flag = 'h' then .ok (.ask .help)
    else if flag = 'V' then .ok (.ask .version)
    else .error (.unexpected argument)
  | .long name value =>
    match Key.ofText? name, value with
    | some key, some value => .ok (.value key value)
    | some key, none => .ok (.key key)
    | none, value =>
      if name = "help" ∨ name = "version" then
        if value.isSome then .error (.needless name)
        else .ok (.ask (if name = "help" then .help else .version))
      else .error (.unexpected argument)

/-- Reads arguments in order, where `pending` waits for its value. -/
def parseFrom (given : Given) (pending : Option Key) : List String → Except Misuse Command
  | [] =>
    match pending with
    | some key => .error (.withoutValue key)
    | none => finish given
  | argument :: rest =>
    match pending with
    | some key =>
      if form argument = .plain then
        match give given key argument with
        | .ok given => parseFrom given none rest
        | .error misuse => .error misuse
      else .error (.withoutValue key)
    | none =>
      match request argument with
      | .ok (.ask command) => .ok command
      | .ok (.value key value) =>
        match give given key value with
        | .ok given => parseFrom given none rest
        | .error misuse => .error misuse
      | .ok (.key key) => parseFrom given (some key) rest
      | .ok .divider =>
        match rest with
        | [] => finish given
        | extra :: _ => .error (.unexpected extra)
      | .error misuse => .error misuse

def parse (arguments : List String) : Except Misuse Command := parseFrom [] none arguments

variable {m : Type → Type} [Monad m]

def readText (disk : Disk m) (p : Path) : ExceptT Failure m String := do
  match ← ((disk.readText p).run : m (Except FileError String)) with
  | .ok s => return s
  | .error e => throw (.config (.unreadable p.text e.message))

def readJson {α : Type} (disk : Disk m) (parse : String → Except Json.Fault α) (p : Path) :
    ExceptT Failure m α := do
  match parse (← readText disk p) with
  | .ok a => return a
  | .error fault => throw (.json fault)

def found (disk : Disk m) (module : Option Path) : m (List Disk.Step) :=
  match module with
  | some root => disk.walk root
  | none => return []

/-- Reads the levels and builds the package into a sink whose queue is empty. The version is dated
in UTC, where it can be another day than in the zone of the machine. -/
def build {α : Type} (disk : Disk m) (a : Arguments) (game : Game)
    (sink : Sink (StateT (List α) m)) : ExceptT Failure m Report := do
  let levels ← readJson disk GameLevels.parse a.levels
  let common ← (found disk a.commonModule : m (List Disk.Step))
  let now ← (disk.now : m Timestamp)
  ExceptT.mk ((generate game levels sink common a.hookSpacing now.toDateTime).run.run' [])

/-- A folder of worlds has to be one before the levels are read. -/
def run (disk : Disk m) (a : Arguments) : ExceptT Failure m Report := do
  let game ← readJson disk Game.parse a.game
  match a.worldsFolder with
  | some folder =>
    let s ← FolderSink.open? disk folder game.worldName
    build disk a game (s.sink disk)
  | none =>
    let path := a.outputFolder.join (game.worldName ++ ".apworld")
    build disk a game (ArchiveSink.sink disk path)

structure Outcome where
  code : Nat
  out : String := ""
  err : String := ""
  deriving DecidableEq, Repr

def lines (ls : List String) : String := String.join (ls.map (· ++ "\n"))

def Outcome.ofReport (r : Report) : Outcome where
  code := 0
  out := lines (r.diagnostics.summary ++
    ["Created world '" ++ r.label ++ "' (" ++ toString r.locations ++ " locations, " ++
      toString r.items ++ " items)"])

/-- What a game lacks is listed in front of the failure. -/
def Outcome.ofFailure (f : Failure) : Outcome where
  code := 1
  err :=
    let details := match f with
      | .validation violated => violated.map fun r => "  " ++ r.message
      | _ => []
    lines (details ++ ["Error: " ++ f.message])

def program : String := "apgen"

def usage : List String :=
  ["Usage: " ++ program ++ " [OPTIONS] --game <GAME> --levels <LEVELS>", "",
    "Options:",
    "      --game <GAME>                    Game definition JSON",
    "      --levels <LEVELS>                Parsed maps and rule graphs, one entry per episode and map",
    "      --common-module <COMMON_MODULE>  Directory of the shared id1common Python module",
    "      --output-dir <OUTPUT_DIR>        [default: output]",
    "      --world-folder <DIR>             Write into an Archipelago worlds folder instead of an .apworld",
    "      --hook-spacing <HOOK_SPACING>    Blank lines after each injected hook block [default: 1]",
    "  -h, --help                           Print help",
    "  -V, --version                        Print version"]

def execute (disk : Disk m) (arguments : List String) : m Outcome := do
  match parse arguments with
  | .error misuse =>
    return { code := 2, err := lines (["error: " ++ misuse.message, ""] ++ usage.take 1) }
  | .ok .help =>
    return {
      code := 0
      out := lines (["Builds an Archipelago apworld from authored level rules", ""] ++ usage) }
  | .ok .version => return { code := 0, out := lines [program ++ " 0.1.0"] }
  | .ok (.run a) =>
    match ← (run disk a).run with
    | .ok report => return .ofReport report
    | .error failure => return .ofFailure failure

end Worldsmith.CommandLine
