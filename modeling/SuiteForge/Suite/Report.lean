/-
# Reports on files

A report names the files that are faulty, each with its fault. Paths must differ;
where they do, contents are looked at: XML files must be well-formed, Java files that
are not blank must declare a package and a type.
-/

import SuiteForge.Suite.JavaSource
import SuiteForge.Suite.Project
import SuiteForge.Assoc
import SuiteForge.Xml.Document

namespace SuiteForge

/-- Faults by the paths of the files that have them. -/
abbrev Report := Assoc Text FileFault

namespace Report

/-- How often each path occurs, in the order in which the paths come first. -/
def pathCounts (files : List ProjectFile) : Assoc Text Nat :=
  files.foldl (fun counts f => Assoc.alter f.path (fun n => n.getD 0 + 1) counts) []

/-- The paths that several files share. -/
def ofPaths (files : List ProjectFile) : Report :=
  (pathCounts files).filterMap fun e => if 1 < e.2 then some (e.1, .duplicatePath e.2) else none

/-- An XML file. -/
def isXmlFile (f : ProjectFile) : Bool := f.path.endsWith ".xml"

/-- The fault of an XML file; a content with a surrogate is not looked at. -/
def xmlFault? (f : ProjectFile) : Except Fault (Option FileFault) :=
  match f.content.chars? with
  | none => .error (.stray .unencodable)
  | some _ =>
    .ok (if Xml.isWellFormed f.content then none else some (.malformedXml "not well-formed"))

/-- The XML files that are not well-formed. -/
def ofXml (files : List ProjectFile) : Except Fault Report :=
  go [] (files.filter isXmlFile)
where
  /-- The report on some files and more. -/
  go (report : Report) : List ProjectFile → Except Fault Report
    | [] => .ok report
    | f :: rest => do
      match (← xmlFault? f) with
      | some fault => go (Assoc.insert f.path fault report) rest
      | none => go report rest

/-- A Java file that is not blank. -/
def isJavaFile (f : ProjectFile) : Bool := f.path.endsWith ".java" && !f.content.isBlank

/-- The fault of a Java file. -/
def javaFault? (f : ProjectFile) : Option FileFault :=
  if !JavaSource.hasPackage f.content then some .noPackage
  else if !JavaSource.hasType f.content then some .noType
  else none

/-- The Java files without a package or a type. -/
def ofJava (files : List ProjectFile) : Report :=
  Assoc.ofPairs
    ((files.filter isJavaFile).filterMap fun f => (javaFault? f).map fun e => (f.path, e))

/-- All faults of files. Contents are looked at only if the paths differ. -/
def ofFiles (files : List ProjectFile) : Except Fault Report :=
  match ofPaths files with
  | [] => do
    let xml ← ofXml files
    .ok ((ofJava files).foldl (fun report e => Assoc.insert e.1 e.2 report) xml)
  | report => .ok report

end Report

/-- The project of some files, if there are any and none is faulty. -/
def Project.assemble (name : Text) (files : List ProjectFile) : Except Fault Project :=
  if files.isEmpty then .error (.generation (.noFiles name))
  else do
    let report ← Report.ofFiles files
    if report.isEmpty then (Project.check ⟨name, files⟩).mapError .invalid
    else .error (.generation (.inconsistent name report))

end SuiteForge
