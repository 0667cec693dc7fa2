namespace Worldsmith.Text

def escapeChars : List Char → List Char
  | [] => []
  | c :: cs => if c = '\\' ∨ c = '"' then '\\' :: c :: escapeChars cs else c :: escapeChars cs

def quoteChars (cs : List Char) : List Char := '"' :: (escapeChars cs ++ ['"'])

def quoted (s : String) : String := String.ofList (quoteChars s.toList)

end Worldsmith.Text
