import Worldsmith.Text.Case
import Worldsmith.Text.Lines
import Worldsmith.Text.Quoted

namespace Worldsmith

inductive PlayerOption.Kind
  | removed
  /-- A class that the shared module has under this name. -/
  | common (name : String)
  | toggle
  | choice
  | range
  | optionSet
  | checkSanity
  | episode
  | invisibilityTrap
  | startWithMaps
  | capacitySplit
  | capacityCount
  deriving DecidableEq, Repr

structure PlayerOption where
  kind : PlayerOption.Kind
  /-- The name of the field. -/
  field : String
  displayName : String := ""
  /-- The name of its own class, if it has one. -/
  ownClass : Option String := none
  group : Option String := none
  docstring : List String := []
  defaultInt : Option Int := none
  defaultList : List String := []
  /-- The values of a choice as assignments, or the members of a set. -/
  values : List String := []
  type : Option Int := none
  rangeStart : Int := 0
  rangeEnd : Int := 0
  isMinorEpisode : Bool := false
  splitItemCount : Int := 0
  deriving DecidableEq, Repr

namespace PlayerOption

/-- An option that only gives a field to a class that is there. -/
def bound (field : String) (kind : Kind) : PlayerOption := { kind, field }

def common (field name : String) : PlayerOption := bound field (.common name)

/-- An option with a class named after its field, unless its kind has none. -/
def new (field displayName : String) (kind : Kind) : PlayerOption :=
  { kind, field, displayName
    ownClass := match kind with
      | .removed | .common _ => none
      | _ => some (Text.className field) }

def inGroup (o : PlayerOption) (group : String) : PlayerOption := { o with group := some group }

def initialOr (o : PlayerOption) (n : Int) : Int := o.defaultInt.getD n

def isOn (o : PlayerOption) : Bool := o.initialOr 0 != 0

def baseClass (o : PlayerOption) : String :=
  match o.kind with
  | .removed => "BaseOptions.Removed"
  | .common name => "id1Options." ++ name
  | .toggle => if o.isOn then "BaseOptions.DefaultOnToggle" else "BaseOptions.Toggle"
  | .choice => "BaseOptions.Choice"
  | .range => "BaseOptions.Range"
  | .optionSet => "BaseOptions.OptionSet"
  | .checkSanity => "id1Options.CheckSanity"
  | .episode =>
    match o.isMinorEpisode, o.isOn with
    | true, true => "id1Options.MinorDefaultEpisode"
    | true, false => "id1Options.MinorEpisode"
    | false, true => "id1Options.DefaultEpisode"
    | false, false => "id1Options.Episode"
  | .invisibilityTrap => "id1Options.PartialInvisibilityAsTrap"
  | .startWithMaps => "id1Options.StartWithComputerAreaMaps"
  | .capacitySplit =>
    if o.splitItemCount = 6 then "id1Options.SplitBagOfHolding" else "id1Options.SplitBackpack"
  | .capacityCount => "id1Options.BackpackCount"

def className (o : PlayerOption) : String := o.ownClass.getD o.baseClass

def setLines (name : String) (members : List String) : List String :=
  ["    " ++ name ++ " = frozenset(\x7b"] ++
    members.map (fun m => "        " ++ Text.quoted m ++ ",") ++
    ["    \x7d)"]

def kindLines (o : PlayerOption) : List String :=
  match o.kind with
  | .choice =>
    (o.values.filter (·.contains '=')).map ("    " ++ ·) ++
      ["    default = " ++ toString (o.initialOr 0)]
  | .range =>
    ["    range_start = " ++ toString o.rangeStart, "    range_end = " ++ toString o.rangeEnd,
      "    default = " ++ toString (o.initialOr o.rangeEnd)]
  | .optionSet => setLines "valid_keys" o.values ++ setLines "default" o.defaultList
  | .capacitySplit =>
    if o.splitItemCount = 4 ∨ o.splitItemCount = 6 then []
    else
      let types := (List.range o.splitItemCount.toNat).map fun i => Nat.repr (65001 + i)
      ["    split_doom_types = [" ++ String.intercalate ", " types ++ "]"]
  | _ => []

def classText (o : PlayerOption) : String :=
  match o.ownClass with
  | none => ""
  | some name =>
    let head := ["class " ++ name ++ "(" ++ o.baseClass ++ "):", "    \"\"\""]
    let rest := ["    \"\"\"", "    display_name = " ++ Text.quoted o.displayName] ++
      (match o.type with
        | some type => ["    doom_type = " ++ toString type]
        | none => []) ++
      o.kindLines ++ ["", ""]
    Text.indentLines 0 head ++ Text.indentLines 4 o.docstring ++ Text.indentLines 0 rest

def bindingText (o : PlayerOption) : String :=
  o.field ++ ": " ++ o.className ++
    if o.field ∈ ["goal_num_levels", "goal_specific_levels", "flip_levels"] then
      "  # type: ignore[assignment]"
    else ""

end PlayerOption

end Worldsmith
