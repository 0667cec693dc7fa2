import Worldsmith.Json.Fault

namespace Worldsmith

inductive Requirement
  | fillerGroup
  | majorEpisode
  | defaultEpisode
  deriving DecidableEq, Repr

def Requirement.message : Requirement → String
  | fillerGroup => "A 'Junk' item group must exist."
  | majorEpisode => "There must be at least one major episode."
  | defaultEpisode => "There must be at least one episode enabled by default."

inductive ConfigFault
  | episodeCount (found : Nat) (game : String) (declared : Nat)
  | mapCount (episode found declared : Nat)
  /-- A path that may leave the folder it belongs to. -/
  | outside (path : String)
  | unreadable (path text : String)
  | refused (path : String)
  deriving DecidableEq, Repr

def ConfigFault.message : ConfigFault → String
  | episodeCount found game declared =>
    "level data has " ++ toString found ++ " episode(s), game '" ++ game ++ "' declares " ++
      toString declared
  | mapCount episode found declared =>
    "level data for episode " ++ toString episode ++ " has " ++ toString found ++
      " map(s), expected " ++ toString declared
  | outside path => "output path '" ++ path ++ "' is not relative to the world"
  | unreadable path text => path ++ ": " ++ text
  | refused path => "refused " ++ path

inductive Failure
  | io (text : String)
  | json (fault : Json.Fault)
  | config (fault : ConfigFault)
  /-- The folder to write to is not one of worlds. -/
  | destination (path : String)
  | validation (violated : List Requirement)
  | finalize (label text : String)
  deriving DecidableEq, Repr

def Failure.message : Failure → String
  | io text => "IO error: " ++ text
  | json fault => "JSON error: " ++ fault.message
  | config fault => "configuration error: " ++ fault.message
  | destination path => path ++ ": folder does not appear to be a valid worlds folder"
  | validation violated =>
    toString violated.length ++ " validation error(s) prevented generation"
  | finalize label text => "couldn't create '" ++ label ++ "': " ++ text

end Worldsmith
