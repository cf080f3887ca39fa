/-
# Checksums

CRC-32: the remainder of a message, as a polynomial over the field of two elements, on
division by the reflected polynomial `0xEDB88320`.
-/

namespace SuiteForge

namespace Checksum

/-- One bit of the division. -/
def bit (c : UInt32) : UInt32 := if c &&& 1 = 1 then (c >>> 1) ^^^ 0xEDB88320 else c >>> 1

/-- One byte of the message. -/
def byte (c : UInt32) (b : UInt8) : UInt32 :=
  bit (bit (bit (bit (bit (bit (bit (bit (c ^^^ b.toUInt32))))))))

/-- The checksum of some bytes. -/
def crc32 (bytes : List UInt8) : UInt32 := (bytes.foldl byte 0xFFFFFFFF) ^^^ 0xFFFFFFFF

/- The checksum of the bytes of `123456789`. -/
example : crc32 [49, 50, 51, 52, 53, 54, 55, 56, 57] = 0xCBF43926 := by decide +kernel

end Checksum

end SuiteForge
