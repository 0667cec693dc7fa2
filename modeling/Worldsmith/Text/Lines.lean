namespace Worldsmith.Text

/-- Every line ends in a line break, and those that are not empty are indented. -/
def indentLines (indent : Nat) (lines : List String) : String :=
  String.join (lines.map fun line =>
    if line.isEmpty then "\n" else String.ofList (List.replicate indent ' ') ++ line ++ "\n")

end Worldsmith.Text
