import Worldsmith.Json.Number
import Worldsmith.Json.Text

namespace Worldsmith.Json

def isBlank (c : Char) : Bool := c = ' ' || c = '\n' || c = '\t' || c = '\r'

def skipBlanks (cs : List Char) : List Char := cs.dropWhile isBlank

/-- Containers may be nested this deep. -/
def maxDepth : Nat := 127

def readLiteral (d : Draft) : List Char → List Char → Read
  | [], cs => (d, some cs)
  | _ :: _, [] => .fault .endInValue .endInValue
  | e :: es, c :: cs => if e = c then readLiteral d es cs else .fault .literal .literal

abbrev ReadMany (α : Type) := List α × Ending × Option (List Char)

def ReadMany.fault {α : Type} (more skipped enough : Fault) : ReadMany α :=
  ([], .fault more skipped enough, none)

mutual

/-- Reads one value inside `depth` containers. The fuel bounds the calls that are open at once, of
which there are at most two for each character. -/
def readValue (fuel depth : Nat) (cs : List Char) : Read :=
  match fuel with
  | 0 => .fault .value .value
  | fuel + 1 =>
    match skipBlanks cs with
    | [] => .fault .endInValue .endInValue
    | 'n' :: cs => readLiteral .null ['u', 'l', 'l'] cs
    | 't' :: cs => readLiteral (.bool true) ['r', 'u', 'e'] cs
    | 'f' :: cs => readLiteral (.bool false) ['a', 'l', 's', 'e'] cs
    | '"' :: cs =>
      let s := readString cs
      match s.rest with
      | .ok rest => (.str s.text, some rest)
      | .error skipped =>
        match s.text with
        | .ok _ => .fault skipped skipped
        | .error read => .fault read skipped
    | '[' :: cs =>
      let (items, ending, rest) := readItems fuel (depth + 1) true cs
      let d := Draft.arr items ending
      (if depth < maxDepth then d else .deep d, rest)
    | '{' :: cs =>
      let (entries, ending, rest) := readEntries fuel (depth + 1) true cs
      let d := Draft.obj entries ending
      (if depth < maxDepth then d else .deep d, rest)
    | c :: cs => if c = '-' ∨ c.isDigit then readNumber (c :: cs) else .fault .value .value

def readItems (fuel depth : Nat) (first : Bool) (cs : List Char) : ReadMany Draft :=
  match fuel with
  | 0 => .fault .value .value .value
  | fuel + 1 =>
    let item (cs : List Char) : ReadMany Draft :=
      match readValue fuel depth cs with
      | (d, none) => ([d], .closed, none)
      | (d, some rest) =>
        let (ds, ending, rest) := readItems fuel depth false rest
        (d :: ds, ending, rest)
    match skipBlanks cs, first with
    | [], _ => .fault (.endIn .list) (.endIn .list) (.endIn .list)
    | ']' :: rest, _ => ([], .closed, some rest)
    | cs, true => item cs
    | ',' :: rest, false =>
      match skipBlanks rest with
      | [] => .fault .endInValue .endInValue .trailingCharacters
      | ']' :: _ => .fault .trailingComma .value .trailingComma
      | cs => item cs
    | _, false => .fault (.comma .list) (.comma .list) .trailingCharacters

def readEntries (fuel depth : Nat) (first : Bool) (cs : List Char) : ReadMany (Key × Draft) :=
  match fuel with
  | 0 => .fault .value .value .value
  | fuel + 1 =>
    let entry (cs : List Char) : ReadMany (Key × Draft) :=
      let s := readString cs
      let key : Key := ⟨s.text, cs⟩
      let ended (d : Draft) : ReadMany (Key × Draft) := ([(key, d)], .closed, none)
      match s.rest with
      | .error skipped => ended (.broken skipped skipped)
      | .ok rest =>
        match skipBlanks rest with
        | [] => ended (.broken (.endIn .object) (.endIn .object))
        | ':' :: rest =>
          match readValue fuel depth rest with
          | (d, none) => ended d
          | (d, some rest) =>
            let (entries, ending, rest) := readEntries fuel depth false rest
            ((key, d) :: entries, ending, rest)
        | _ => ended (.broken .colon .colon)
    match skipBlanks cs, first with
    | [], _ => .fault (.endIn .object) (.endIn .object) (.endIn .object)
    | '}' :: rest, _ => ([], .closed, some rest)
    | '"' :: rest, true => entry rest
    | _, true => .fault .keyNotString .keyNotString .keyNotString
    | ',' :: rest, false =>
      match skipBlanks rest with
      | [] => .fault .endInValue (.endIn .object) .trailingCharacters
      | '}' :: _ => .fault .trailingComma .keyNotString .trailingComma
      | '"' :: rest => entry rest
      | _ => .fault .keyNotString .keyNotString .trailingCharacters
    | _, false => .fault (.comma .object) (.comma .object) .trailingCharacters

end

/-- Reads a whole text with a reader of drafts; nothing but blanks may follow the value. -/
def readWith {α : Type} (reader : Draft → Except Fault α) (text : String) : Except Fault α := do
  let cs := text.toList
  let (d, rest) := readValue (2 * cs.length + 2) 0 cs
  let a ← reader d
  if (skipBlanks (rest.getD [])).isEmpty then return a else throw .trailingCharacters

def parse (text : String) : Except Fault Json := readWith Draft.toJson text

end Worldsmith.Json
