import Worldsmith.Text.Bytes

namespace Worldsmith.Crc32

/-- Divides one bit off the remainder. -/
def shift (r : UInt32) : UInt32 :=
  if r &&& 1 = 1 then (r >>> 1) ^^^ 0xEDB88320 else r >>> 1

def step (r : UInt32) (b : UInt8) : UInt32 :=
  shift (shift (shift (shift (shift (shift (shift (shift (r ^^^ b.toUInt32))))))))

def ofBytes (bytes : Bytes) : UInt32 := bytes.foldl step 0xFFFFFFFF ^^^ 0xFFFFFFFF

/-- The check value that catalogues of checksums have for CRC-32, over the digits 1 to 9. -/
example : ofBytes [0x31, 0x32, 0x33, 0x34, 0x35, 0x36, 0x37, 0x38, 0x39] = 0xCBF43926 := by
  decide +kernel

end Worldsmith.Crc32
