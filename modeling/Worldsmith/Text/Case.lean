/-!
Identifiers from names. Only ASCII letters and digits count; every other character is a separator.
-/

namespace Worldsmith.Text

def isAlphanumeric (c : Char) : Bool := c.isAlpha || c.isDigit

/-- Lower-case letters and digits, with one underscore for each run of other characters. -/
def snakeChars (afterGap : Bool) : List Char → List Char
  | [] => []
  | c :: cs =>
    if isAlphanumeric c then c.toLower :: snakeChars false cs
    else if afterGap then snakeChars true cs
    else '_' :: snakeChars true cs

def snakeCase (s : String) : String := String.ofList (snakeChars false s.toList)

/-- Capitalizes every letter that follows a separator or nothing. -/
def titleChars (atStart : Bool) : List Char → List Char
  | [] => []
  | c :: cs => (if atStart then c.toUpper else c) :: titleChars (!isAlphanumeric c) cs

def titleCase (s : String) : String := String.ofList (titleChars true s.toList)

/-- Words run together and capitalized; a word also starts after a digit. -/
def classChars (atStart : Bool) : List Char → List Char
  | [] => []
  | c :: cs =>
    if c.isDigit then c :: classChars true cs
    else if c.isAlpha then (if atStart then c.toUpper else c) :: classChars false cs
    else classChars true cs

def className (s : String) : String := String.ofList (classChars true s.toList)

end Worldsmith.Text
