import Worldsmith.Files.Disk

/-!
A file system that is held in memory. Paths are looked up name by name: a dot stays where it is, two
dots lead back, and only folders can be passed through.
-/

namespace Worldsmith

inductive Node
  | folder (entries : List (String × Node))
  | file (content : Bytes) (modified : Timestamp)
  deriving Repr

abbrev Entries := List (String × Node)

namespace Entries

/-- Replaces what has a name, or removes it. -/
def set (entries : Entries) (name : String) (node : Option Node) : Entries :=
  let others := entries.filter (·.1 != name)
  match node with
  | some node => (name, node) :: others
  | none => others

end Entries

namespace Node

def entries : Node → Entries
  | folder entries => entries
  | file .. => []

def kind : Node → FileKind
  | folder _ => .folder
  | file .. => .file

/-- Replaces or removes what stands at the end of some names, if all before it are folders. -/
def set (new : Option Node) : List String → Node → Node
  | [], node => node
  | [name], node => folder (Entries.set node.entries name new)
  | name :: rest, node =>
    match node.entries.lookup name with
    | some inner => folder (Entries.set node.entries name (some (set new rest inner)))
    | none => node

mutual

/-- All nodes inside a node, with their paths, which start with the text `before`. -/
def inside (before : String) : Node → List (String × Node)
  | folder entries => allInside before entries
  | file .. => []

def allInside (before : String) : List (String × Node) → List (String × Node)
  | [] => []
  | (name, node) :: rest =>
    (before ++ name, node) :: (node.inside (before ++ name ++ "/") ++ allInside before rest)

end

end Node

structure Memory where
  root : Node
  /-- The names of the folder that paths start from. -/
  here : List String
  /-- The seconds that every change is dated with. Each one takes a second. -/
  clock : Int
  deriving Repr

namespace Memory

def fresh (folder : String) (clock : Int) : Memory := ⟨.folder [(folder, .folder [])], [folder], clock⟩

/-- Folders from the innermost one out to the root, each with its name. -/
abbrev Trail := List (String × Entries)

namespace Trail

def entries : Trail → Entries
  | [] => []
  | (_, entries) :: _ => entries

/-- Out of the innermost folder. The root has nothing around it. -/
def outward : Trail → Trail
  | _ :: outer :: rest => outer :: rest
  | trail => trail

/-- The names that lead from the root to the innermost folder. -/
def names (trail : Trail) : List String := (trail.map (·.1)).dropLast.reverse

/-- Extends a trail by names of folders. -/
def extend (trail : Trail) : List String → Trail
  | [] => trail
  | name :: rest =>
    extend ((name, ((trail.entries.lookup name).map Node.entries).getD []) :: trail) rest

end Trail

/-- What a path leads to from the last folder on its way. -/
inductive Goal
  /-- The folder itself. -/
  | self
  /-- A name in the folder, which a slash may follow. -/
  | name (s : String) (slash : Bool)
  deriving DecidableEq, Repr

structure Place where
  trail : Trail
  goal : Goal

def Place.names (place : Place) : List String :=
  match place.goal with
  | .self => place.trail.names
  | .name s _ => place.trail.names ++ [s]

/-- The most bytes that a name may have. -/
def longestName : Nat := 255

def entry? (trail : Trail) (name : String) : Except FileError (Option Node) :=
  if longestName < name.utf8ByteSize then .error .nameTooLong else .ok (trail.entries.lookup name)

/-- Follows segments. All of them but the last name are passed through. -/
def follow (trail : Trail) : List String → Except FileError Place
  | [] => .ok ⟨trail, .self⟩
  | s :: rest =>
    if s = "" || s = "." then follow trail rest
    else if s = ".." then follow trail.outward rest
    else if rest.all (· = "") then .ok ⟨trail, .name s (!rest.isEmpty)⟩
    else
      match entry? trail s with
      | .error e => .error e
      | .ok none => .error .notFound
      | .ok (some (.file ..)) => .error .notDirectory
      | .ok (some (.folder entries)) => follow ((s, entries) :: trail) rest

def place (mem : Memory) (p : Path) : Except FileError Place :=
  if p.isEmpty then .error .notFound
  else if p.hasZeroByte then .error .zeroByte
  else if Disk.longestPath < p.text.utf8ByteSize then .error .nameTooLong
  else
    let root : Trail := [("", mem.root.entries)]
    follow (if p.isAbsolute then root else root.extend mem.here) p.segments

/-- What stands at a place. With a slash behind it, it has to be a folder. -/
def Place.node (place : Place) : Except FileError Node :=
  match place.goal with
  | .self => .ok (.folder place.trail.entries)
  | .name s slash => do
    match ← entry? place.trail s with
    | none => throw .notFound
    | some node => if slash && node.kind ≠ .folder then throw .notDirectory else return node

def find (mem : Memory) (p : Path) : Except FileError Node := do (← mem.place p).node

abbrev Action := StateM Memory

def query {α : Type} (f : Memory → Except FileError α) : ExceptT FileError Action α :=
  fun mem => (f mem, mem)

def change (f : Memory → Except FileError Memory) : ExceptT FileError Action Unit := fun mem =>
  match f mem with
  | .ok mem => (.ok (), { mem with clock := mem.clock + 1 })
  | .error e => (.error e, mem)

def put (mem : Memory) (names : List String) (node : Option Node) : Memory :=
  { mem with root := mem.root.set node names }

def info (mem : Memory) (p : Path) : Except FileError FileInfo := do
  match ← mem.find p with
  | .folder _ => return ⟨.folder, ⟨mem.clock, 0⟩⟩
  | .file _ modified => return ⟨.file, modified⟩

def read (mem : Memory) (p : Path) : Except FileError Bytes := do
  match ← mem.find p with
  | .folder _ => throw .isDirectory
  | .file content _ => return content

/-- A path that does not end with a name cannot be a file. -/
def write (mem : Memory) (p : Path) (content : Bytes) : Except FileError Memory := do
  let place ← mem.place p
  match place.goal with
  | .self => throw .isDirectory
  | .name s slash =>
    if slash then throw .isDirectory
    match ← entry? place.trail s with
    | some (.folder _) => throw .isDirectory
    | _ => return mem.put place.names (some (.file content ⟨mem.clock, 0⟩))

def makeFolder (mem : Memory) (p : Path) : Except FileError Memory := do
  let place ← mem.place p
  match place.goal with
  | .self => throw .alreadyExists
  | .name s _ =>
    match ← entry? place.trail s with
    | some _ => throw .alreadyExists
    | none => return mem.put place.names (some (.folder []))

def rename (mem : Memory) (source dest : Path) : Except FileError Memory := do
  let old ← mem.place source
  let new ← mem.place dest
  match new.goal with
  | .self => throw .busy
  | .name s slash =>
    let node ← old.node
    if node.kind = .folder then throw .isDirectory
    let replaced ← entry? new.trail s
    if slash then throw .notDirectory
    match replaced with
    | some (.folder _) => throw .isDirectory
    | _ => return (mem.put old.names none).put new.names (some node)

def remove (mem : Memory) (p : Path) : Except FileError Memory := do
  let place ← mem.place p
  match ← place.node with
  | .folder _ => throw .isDirectory
  | .file .. => return mem.put place.names none

def setModified (mem : Memory) (p : Path) (modified : Timestamp) : Except FileError Memory := do
  let place ← mem.place p
  match ← place.node with
  | .folder _ => throw .isDirectory
  | .file content _ => return mem.put place.names (some (.file content modified))

def entries (mem : Memory) (p : Path) : Except FileError (List (String × FileKind)) := do
  match ← mem.find p with
  | .folder entries => return entries.map fun (name, node) => (name, node.kind)
  | .file .. => throw .notDirectory

def disk : Disk Action where
  info p := query (·.info p)
  read p := query (·.read p)
  write p content := change (·.write p content)
  makeFolder p := change (·.makeFolder p)
  rename source dest := change (·.rename source dest)
  remove p := change (·.remove p)
  setModified p modified := change (·.setModified p modified)
  entries p := query (·.entries p)
  now := fun mem => (⟨mem.clock, 0⟩, mem)

def removeAll (mem : Memory) (p : Path) : Memory :=
  match mem.place p with
  | .ok place => mem.put place.names none
  | .error _ => mem

def nodes (mem : Memory) : List (String × Node) :=
  match mem.find ⟨"."⟩ with
  | .ok node => node.inside ""
  | .error _ => []

end Memory

end Worldsmith
