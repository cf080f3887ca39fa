/-
# How a walk ends without a tree

Whatever a walk meets, its fault is one of parsing, except where a reference leads into
a list by digits that are no decimal numeral, or by too many of them
(`inline_failsOnly`).
-/

import SuiteForge.Proofs.Inline.Rule

namespace SuiteForge

namespace Document

variable {d : Document}

/-! ## Pointers -/

/-- The faults of following a reference. -/
inductive FindFault (ref : Text) : Fault → Prop
  | parse (f : ParseFault) : FindFault ref (.parse f)
  | index {parts : List Text} {part : Text} {f : NumeralFault}
      (split : pointerParts? ref = some parts) (mem : part ∈ parts)
      (digits : part.isDigits = true) (read : Numeral.read 10 part = .error f) :
      FindFault ref (.stray (.numeral f))

theorem child_failsOnly {ref part : Text} {parts : List Text}
    (split : pointerParts? ref = some parts) (mem : part ∈ parts) (id : Nat) :
    FailsOnly (FindFault ref) (d.child ref id part) :=
  child_failsOnly_of (.parse _) (fun _ digits read => .index split mem digits read) id

theorem find_failsOnly (d : Document) (ref : Text) : FailsOnly (FindFault ref) (d.find ref) :=
  find_failsOnly_of (.parse _) fun _ split _ mem id => child_failsOnly split mem id

/-! ## The walk -/

/-- The faults of inlining. -/
inductive WalkFault (d : Document) : Fault → Prop
  | parse (f : ParseFault) : WalkFault d (.parse f)
  | index {k id : Nat} {entries : Entries Nat} {ref : Text} {f : NumeralFault}
      (visits : d.Visits k id) (node : d.node id = .map entries)
      (names : d.reference? entries = some ref)
      (found : d.find ref = .error (.stray (.numeral f))) : WalkFault d (.stray (.numeral f))

theorem walkFault_of_find {k id : Nat} {entries : Entries Nat} {ref : Text}
    (visits : d.Visits k id) (node : d.node id = .map entries)
    (names : d.reference? entries = some ref) : FailsOnly d.WalkFault (d.find ref) := by
  intro f found
  cases find_failsOnly d ref f found with
  | parse f => exact .parse f
  | index => exact .index visits node names found

/-- A walk stays at visited nodes. -/
theorem walkRule_visits (d : Document) :
    d.WalkRule (fun _ _ id => ∃ k, d.Visits k id) d.WalkFault where
  held := fun ⟨k, visits⟩ hpart _ => ⟨k + 1, visits.part hpart⟩
  target := fun ⟨k, visits⟩ node names found =>
    ⟨k + 1, visits.part (part_of_target node names found)⟩
  find := fun ⟨_, visits⟩ node names => walkFault_of_find visits node names
  circular := fun _ _ _ _ => .parse _
  again := fun _ _ => .parse _
  deep := .parse _
  large := .parse _

/-- **Inlining a document** returns, or has a fault of parsing, or stops at an index. -/
theorem inline_failsOnly (d : Document) : FailsOnly d.WalkFault d.inline.result :=
  d.walkRule_visits.inline ⟨0, .root⟩

end Document

end SuiteForge
