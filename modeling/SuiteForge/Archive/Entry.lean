/-
# Entries of an archive

| of an entry | |
| --- | --- |
| name | up to the first NUL |
| content | in UTF-8 |
| date | 1980-01-01 00:00:00 |
| permissions | `rw-r--r--` |
-/

import SuiteForge.Archive.Checksum
import SuiteForge.Text.Utf8

namespace SuiteForge

/-- A file in an archive. -/
structure Entry where
  name : Text
  bytes : List UInt8
  deriving DecidableEq

namespace Entry

/-- The size of the content. -/
def size (e : Entry) : Nat := e.bytes.length

def checksum (e : Entry) : UInt32 := Checksum.crc32 e.bytes

/-- The content as text. -/
def content? (e : Entry) : Option (List Char) := Utf8.decode? e.bytes

/-- The name is not ASCII, and marked as UTF-8. -/
def isUtf8Name (e : Entry) : Bool := !e.name.isAscii

/-- Year, month, day, hour, minute and second of every entry. -/
def date : List Nat := [1980, 1, 1, 0, 0, 0]

/-- How every entry is compressed: deflated. -/
def method : Nat := 8

/-- The permissions of every entry, in the upper half of 32 bits. -/
def attributes : Nat := 0o644 * 65536

end Entry

end SuiteForge
