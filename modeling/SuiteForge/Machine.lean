/-
# How deep a run may go

Every call that is made inside another one goes deeper, and a machine lets a run go only so
deep. Some parts of a translation go down with their data:

| part | goes down |
| --- | --- |
| inlining | by three calls at most for a level of the document |
| converting a schema | by one call for a level of the schema |
| the text of a value | by one level after the other, from the calls that are open |

Documents and schemas have a bounded depth, and there are calls enough for both. A value
that is shown may have any depth, where aliases are stacked. So whatever comes to a text
depends on the machine, and on how many calls are open where it does.
-/

import SuiteForge.Fault

namespace SuiteForge

/-- How deep a run may go. -/
class Machine where
  /-- A schema is converted while fewer calls are open than these. -/
  calls : Nat
  /-- The room for the levels of a value that is shown while so many calls are open. -/
  room : Nat → Nat
  /-- The room for the levels of a value that is shown in a record; none where no record is
  written, or one that goes too deep is dropped. -/
  recordRoom? : Option Nat
  room_le {few many : Nat} (h : few ≤ many) : room many ≤ room few
  /-- A record has room for any scalar. -/
  three_le {records : Nat} (h : recordRoom? = some records) : 3 ≤ records
  enough : 3 * maxDocumentDepth + maxSchemaDepth ≤ calls

/-- A thousand calls, of which some are open before a translation begins. -/
instance Machine.standard : Machine where
  calls := 950
  room calls := 980 - calls
  recordRoom? := some 940
  room_le h := Nat.sub_le_sub_left h 980
  three_le h := Option.some.inj h ▸ by decide
  enough := by decide

end SuiteForge
