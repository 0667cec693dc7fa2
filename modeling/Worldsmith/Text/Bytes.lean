namespace Worldsmith

abbrev Bytes := List UInt8

namespace Text

def toBytes (s : String) : Bytes := s.toList.flatMap String.utf8EncodeChar

def ofBytes? (bytes : Bytes) : Option String := String.fromUTF8? (ByteArray.mk bytes.toArray)

/-- What follows the first `n` bytes, if they are whole characters. -/
def dropBytes? : Nat → List Char → Option (List Char)
  | 0, cs => some cs
  | _ + 1, [] => none
  | n + 1, c :: cs => if c.utf8Size ≤ n + 1 then dropBytes? (n + 1 - c.utf8Size) cs else none

end Text

end Worldsmith
