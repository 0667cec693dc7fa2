import Worldsmith.Json.Printer

namespace Worldsmith.Json

inductive Fault.Container
  | list
  | object
  deriving DecidableEq, Repr

inductive Fault
  | endInValue
  | endInString
  | endIn (c : Fault.Container)
  | literal
  | value
  | comma (c : Fault.Container)
  | trailingComma
  | trailingCharacters
  | colon
  | keyNotString
  | escape
  | controlCharacter
  | loneSurrogate
  | hexEscapeEnd
  | number
  | numberRange
  | numericKey
  | numericKeyEnd
  | depth
  | wrongType (found expected : String)
  | wrongValue (n : Int) (expected : String)
  | wrongLength (n : Nat) (expected : String)
  | duplicateField (name : String)
  | missingField (name : String)
  | noVariant (name : String)
  deriving DecidableEq, Repr

namespace Fault

inductive Category
  /-- The text stops too early. -/
  | eof
  /-- The text is well formed and says something else than what is wanted. -/
  | data
  | syntactic
  deriving DecidableEq, Repr

def category : Fault → Category
  | endInValue | endInString | endIn _ => .eof
  | wrongType .. | wrongValue .. | wrongLength .. | duplicateField _ | missingField _
  | noVariant _ => .data
  | _ => .syntactic

def message : Fault → String
  | endInValue => "EOF while parsing a value"
  | endInString => "EOF while parsing a string"
  | endIn .list => "EOF while parsing a list"
  | endIn .object => "EOF while parsing an object"
  | literal => "expected ident"
  | value => "expected value"
  | comma .list => "expected `,` or `]`"
  | comma .object => "expected `,` or `\x7d`"
  | trailingComma => "trailing comma"
  | trailingCharacters => "trailing characters"
  | colon => "expected `:`"
  | keyNotString => "key must be a string"
  | escape => "invalid escape"
  | controlCharacter => "control character (\\u0000-\\u001F) found while parsing a string"
  | loneSurrogate => "lone leading surrogate in hex escape"
  | hexEscapeEnd => "unexpected end of hex escape"
  | number => "invalid number"
  | numberRange => "number out of range"
  | numericKey => "invalid value: expected key to be a number in quotes"
  | numericKeyEnd => "expected `\"`"
  | depth => "recursion limit exceeded"
  | wrongType found expected => "invalid type: " ++ found ++ ", expected " ++ expected
  | wrongValue n expected => "invalid value: integer `" ++ toString n ++ "`, expected " ++ expected
  | wrongLength n expected => "invalid length " ++ toString n ++ ", expected " ++ expected
  | duplicateField name => "duplicate field `" ++ name ++ "`"
  | missingField name => "missing field `" ++ name ++ "`"
  | noVariant name => "data did not match any variant of untagged enum " ++ name

end Fault

/-- How a message names a value that was found in place of another. -/
def Number.description : Number → String
  | .int n => "integer `" ++ toString n ++ "`"
  | .float x => "floating point `" ++ String.ofList (floatText x) ++ "`"

end Worldsmith.Json
