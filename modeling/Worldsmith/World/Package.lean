import Worldsmith.Catalog.Passes
import Worldsmith.Options.Standard
import Worldsmith.Options.WorldOption
import Worldsmith.Region.Resolve
import Worldsmith.Sink.Basic
import Worldsmith.World.Documents
import Worldsmith.World.Source

namespace Worldsmith

structure World where
  game : Game
  levels : List Level
  options : WorldOptions
  catalog : Catalog
  regions : List RegionDoc

structure Report where
  label : String
  locations : Nat
  items : Nat
  diagnostics : Diagnostics
  deriving DecidableEq, Repr

namespace World

def compile (game : Game) (data : GameLevels) : Except Failure (World × Diagnostics) := do
  let (options, declaring) := WorldOptions.init WorldOption.builtin game
  let levels ← game.levels data
  let (catalog, compiling) := Catalog.prepare game levels
  match violations game catalog with
  | [] =>
    let (regions, connecting) := regionDocs game levels
    return (⟨game, levels, options, catalog, regions⟩, declaring ++ compiling ++ connecting)
  | violated => throw (.validation violated)

variable (w : World)

def file (name : String) : String := w.game.worldName ++ "/" ++ name

def dataPath : String := w.file (w.game.shortName ++ ".data.json")
def definitionsPath : String := w.file (w.game.shortName ++ ".game.json")
def manifestPath : String := w.file "archipelago.json"
def optionsPath : String := w.file "options.py"
def sourcePath : String := w.file "__init__.py"

/-- Included files keep their own names. -/
def includedPath (source : String) : String := w.file ("wad/" ++ (Path.mk source).fileName)

def commonPath (names : List String) : String := w.file ("id1common/" ++ "/".intercalate names)

def data : Json := Document.worldData w.game w.levels w.catalog w.regions

def definitions : Json := Document.definitions w.game w.levels w.catalog

def manifest (included : List String) (versioned : Bool) (now : DateTime) : Json :=
  Document.manifest w.game (Document.launcher w.game included w.definitionsPath) versioned now

def optionsText : String :=
  optionsSource w.game (standardOptions w.game w.levels ++ w.options.playerOptions)

def sourceText (spacing : Nat) : String :=
  worldSource w.game fun hook => WorldOptions.hookLines w.game w.options hook spacing

def unreadable (message : String) : Diagnostic := ⟨.unreadableAsset, message⟩

variable {m : Type → Type} [Monad m]

/-- Adds a file, or notes why it could not be added. -/
def tryAdd (sink : Sink m) (dest : String) (source : Path) : m Diagnostics := do
  match ← (sink.addFile dest source).run with
  | .ok () => return []
  | .error e =>
    return [unreadable ("Couldn't add " ++ source.text ++ " to the APWorld! (" ++ e.message ++ ")")]

/-- Adds the files that the game includes. Returns the paths of those that are in the package. -/
def addIncluded (sink : Sink m) : List String → m (List String × Diagnostics)
  | [] => return ([], [])
  | source :: rest => do
    let noted ← tryAdd sink (w.includedPath source) ⟨source⟩
    let (included, more) ← addIncluded sink rest
    return (if noted.isEmpty then w.includedPath source :: included else included, noted ++ more)

def addCommon (sink : Sink m) : List Disk.Step → m Diagnostics
  | [] => return []
  | .error text :: rest => do
    return unreadable ("Couldn't read the id1common module: " ++ text) :: (← addCommon sink rest)
  | .ok found :: rest => do
    let noted ← tryAdd sink (w.commonPath found.names) found.path
    return noted ++ (← addCommon sink rest)

def package (sink : Sink m) (common : List Disk.Step) (spacing : Nat) (now : DateTime) :
    ExceptT Failure m Diagnostics := do
  sink.addPretty w.dataPath w.data
  let (included, including) ←
    (w.addIncluded sink w.game.includedWads : m (List String × Diagnostics))
  sink.addCompact w.definitionsPath w.definitions
  sink.addCompact w.manifestPath (w.manifest included sink.versioned now)
  sink.addText w.optionsPath w.optionsText
  sink.addText w.sourcePath (w.sourceText spacing)
  let sharing ← (w.addCommon sink common : m Diagnostics)
  let failed ← sink.finalize
  return including ++ sharing ++ failed.map fun f => unreadable ("Failed write: " ++ f.message)

end World

/-- Compiles a game into a package. Nothing is added to the sink if the game is refused. -/
def generate {m : Type → Type} [Monad m] (game : Game) (data : GameLevels) (sink : Sink m)
    (common : List Disk.Step) (spacing : Nat) (now : DateTime) : ExceptT Failure m Report := do
  let (world, compiling) ← (World.compile game data : Except Failure (World × Diagnostics))
  let packaging ← world.package sink common spacing now
  return ⟨sink.label, world.catalog.locations.length, world.catalog.items.length,
    compiling ++ packaging⟩

end Worldsmith
