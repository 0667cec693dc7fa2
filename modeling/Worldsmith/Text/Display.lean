import Worldsmith.Text.Hidden

namespace Worldsmith.Text

/-- Characters that stand for themselves in a message. -/
def isVisible (c : Char) : Bool :=
  if c.toNat < 127 then 32 ≤ c.toNat else !isHidden c

def hexText (n : Nat) : List Char := Nat.toDigits 16 n

def displayChar (c : Char) : List Char :=
  if c = '"' then ['\\', '"']
  else if c = '\\' then ['\\', '\\']
  else if c = '\t' then ['\\', 't']
  else if c = '\n' then ['\\', 'n']
  else if c = '\r' then ['\\', 'r']
  else if c.toNat = 0 then ['\\', '0']
  else if isVisible c then [c]
  else '\\' :: 'u' :: '{' :: (hexText c.toNat ++ ['}'])

def display (s : String) : String :=
  String.ofList ('"' :: (s.toList.flatMap displayChar ++ ['"']))

end Worldsmith.Text
