namespace Worldsmith

inductive Severity
  | warning
  /-- The entity is dropped, and the run goes on. -/
  | entityError
  deriving DecidableEq, Repr

inductive DiagnosticKind
  | unknownWorldOption
  | levelWithoutExit
  | unboundLocation
  | unreadableAsset
  | locationOverflow
  | missingSector
  | unresolvedConnection
  | duplicateId
  deriving DecidableEq, Repr

namespace DiagnosticKind

def all : List DiagnosticKind :=
  [unknownWorldOption, levelWithoutExit, unboundLocation, unreadableAsset, locationOverflow,
    missingSector, unresolvedConnection, duplicateId]

def severity : DiagnosticKind → Severity
  | unknownWorldOption | levelWithoutExit | unboundLocation | unreadableAsset => .warning
  | locationOverflow | missingSector | unresolvedConnection | duplicateId => .entityError

def summary : DiagnosticKind → String
  | unknownWorldOption => "unknown world option(s) found."
  | levelWithoutExit => "level(s) are missing Exit connections."
  | unboundLocation => "location(s) are not associated with any regions."
  | unreadableAsset => "file(s) couldn't be added to the output."
  | locationOverflow => "location(s) dropped: too many locations in one level."
  | missingSector => "location(s) dropped: no sector at their position."
  | unresolvedConnection => "connection(s) dropped: unresolved requirement or target."
  | duplicateId => "item(s) or location(s) dropped: id already in use."

end DiagnosticKind

structure Diagnostic where
  kind : DiagnosticKind
  message : String
  deriving DecidableEq, Repr

/-- In the order in which they were noted. -/
abbrev Diagnostics := List Diagnostic

namespace Diagnostics

def count (ds : Diagnostics) (kind : DiagnosticKind) : Nat := List.countP (·.kind = kind) ds

def warningCount (ds : Diagnostics) : Nat := List.countP (·.kind.severity = .warning) ds

def errorCount (ds : Diagnostics) : Nat := ds.length - ds.warningCount

def summary (ds : Diagnostics) : List String :=
  DiagnosticKind.all.filterMap fun kind =>
    match ds.count kind with
    | 0 => none
    | n => some (Nat.repr n ++ " " ++ kind.summary)

end Diagnostics

end Worldsmith
