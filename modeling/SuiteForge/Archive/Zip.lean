/-
# ZIP files

A ZIP file holds a record and the content of each entry, then a directory, and a record
of where the directory is. Records are lists of numbers in little-endian order, each
with a width in bytes.

Contents are written in the deflate format as stored blocks of at most 65535 bytes.
-/

import SuiteForge.Archive.Entry

namespace SuiteForge

namespace Zip

/-- A number in `width` bytes, the lowest first. -/
def little : Nat → Nat → List UInt8
  | 0, _ => []
  | width + 1, n => n.toUInt8 :: little width (n / 256)

/-- A record: numbers, each with its width. -/
def record (fields : List (Nat × Nat)) : List UInt8 := fields.flatMap fun f => little f.1 f.2

/-- The bytes of a stored block that is full. -/
def maxBlock : Nat := 65535

/-- A stored block. -/
def block (isLast : Bool) (content : List UInt8) : List UInt8 :=
  record [(1, if isLast then 1 else 0), (2, content.length), (2, maxBlock - content.length)] ++
    content

/-- Bytes as stored blocks, the last one marked. -/
def stored (content : List UInt8) : List UInt8 :=
  if content.length ≤ maxBlock then block true content
  else block false (content.take maxBlock) ++ stored (content.drop maxBlock)
  termination_by content.length
  decreasing_by simp only [List.length_drop, maxBlock] at *; omega

/-- The bytes of an entry's name. -/
def nameBytes (e : Entry) : List UInt8 := e.name.utf8?.getD []

/-- The version of the format that is needed to read it. -/
def version : Nat := 20

/-- The first of January 1980, as the format writes it: the month from the sixth bit on, and the
day. -/
def dateField : Nat := 33

/-- What both records of an entry say. -/
def common (e : Entry) : List (Nat × Nat) := [
  (2, version), (2, if e.isUtf8Name then 0x800 else 0), (2, Entry.method), (2, 0), (2, dateField),
  (4, e.checksum.toNat), (4, (stored e.bytes).length), (4, e.size), (2, (nameBytes e).length),
  (2, 0)]

/-- The record in front of an entry's content, and the content. -/
def localRecord (e : Entry) : List UInt8 :=
  record ((4, 0x04034b50) :: common e) ++ nameBytes e ++ stored e.bytes

/-- The record of an entry in the directory. -/
def directoryRecord (offset : Nat) (e : Entry) : List UInt8 :=
  record ([(4, 0x02014b50), (2, 3 * 256 + version)] ++ common e ++
    [(2, 0), (2, 0), (2, 0), (4, Entry.attributes), (4, offset)]) ++ nameBytes e

/-- The directory of entries that begin at an offset. -/
def directory : Nat → List Entry → List UInt8
  | _, [] => []
  | offset, e :: rest =>
    directoryRecord offset e ++ directory (offset + (localRecord e).length) rest

/-- The record of where the directory is. -/
def endRecord (count size offset : Nat) : List UInt8 :=
  record [(4, 0x06054b50), (2, 0), (2, 0), (2, count), (2, count), (4, size), (4, offset), (2, 0)]

/-- The file of some entries. -/
def bytes (entries : List Entry) : List UInt8 :=
  let contents := entries.flatMap localRecord
  let listing := directory 0 entries
  contents ++ listing ++ endRecord entries.length listing.length contents.length

end Zip

end SuiteForge
