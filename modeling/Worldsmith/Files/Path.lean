namespace Worldsmith

structure Path where
  text : String
  deriving DecidableEq, Repr, Inhabited

namespace Path

inductive Component
  | root
  /-- A dot in front of all else. -/
  | current
  | parent
  | name (s : String)
  deriving DecidableEq, Repr

def segments (p : Path) : List String := (p.text.toList.splitOn '/').map String.ofList

def isAbsolute (p : Path) : Bool := p.text.toList.head? = some '/'

def isEmpty (p : Path) : Bool := p.text.toList.isEmpty

def hasZeroByte (p : Path) : Bool := p.text.toList.contains '\x00'

/-- Empty segments and later dots say nothing. -/
def component? (first : Bool) (s : String) : Option Component :=
  if s = "" then none
  else if s = "." then if first then some .current else none
  else if s = ".." then some .parent
  else some (.name s)

def components (p : Path) : List Component :=
  (if p.isAbsolute then [.root] else []) ++
    match p.segments with
    | [] => []
    | s :: rest => (component? true s).toList ++ rest.filterMap (component? false)

/-- Segments that name nothing. -/
def isSilent (s : String) : Bool := s = "" || s = "."

/-- All but the last name of some segments, and nothing silent behind the name before it. -/
def outer? (segments : List String) : Option (List String) :=
  match segments.reverse.dropWhile isSilent with
  | [] => none
  | _ :: before => some (before.dropWhile isSilent).reverse

def ofSegments (segments : List String) : Path := ⟨"/".intercalate segments⟩

/-- The path of the folder that a path stands in, as it is written there. The root and the empty
path have none. -/
def parent? (p : Path) : Option Path :=
  match p.segments with
  | [] => none
  | s :: rest =>
    if s = "" then
      (outer? rest).map fun names => if names.isEmpty then ⟨"/"⟩ else ofSegments (s :: names)
    else if s = "." then
      match outer? rest with
      | some names => some (ofSegments (s :: names))
      | none => some ⟨""⟩
    else (outer? (s :: rest)).map ofSegments

/-- The path that `rest` names from `p`. An absolute path names the same from everywhere. -/
def join (p : Path) (rest : String) : Path :=
  if (Path.mk rest).isAbsolute then ⟨rest⟩
  else if p.isEmpty || p.text.toList.getLast? = some '/' then ⟨p.text ++ rest⟩
  else ⟨p.text ++ "/" ++ rest⟩

/-- A path without a root and without steps to a parent. -/
def isInner (p : Path) : Bool :=
  p.components.all fun
    | .name _ | .current => true
    | .root | .parent => false

def fileName (p : Path) : String := (p.segments.getLast?).getD ""

end Path

end Worldsmith
