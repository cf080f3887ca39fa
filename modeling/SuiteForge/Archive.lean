/-
# Archives

A project is packed into one archive, an entry for each file, in order. An entry is
named for the project and the file's path, with a slash between them; all entries have
one date, so that equal projects give equal archives.
-/

import SuiteForge.Archive.Zip
import SuiteForge.Log
import SuiteForge.Suite.Project

namespace SuiteForge

/-- A packed project. -/
structure Archive where
  entries : List Entry
  deriving DecidableEq

namespace Archive

/-- The archive as a file. -/
def bytes (a : Archive) : List UInt8 := Zip.bytes a.entries

/-- The name of a file of a project. -/
def entryName (project path : Text) : Text := project ++ "/" ++ path

/-- What an archive keeps of a name. -/
def storedName (name : Text) : Text := name.takeWhile (· != .char '\x00')

/-- The bytes of the longest name that an archive holds. -/
def maxNameBytes : Nat := 65535

/-- A compression level: of its own choice for −1, and from none to best for 0 to 9. -/
def isLevel (level : Int) : Bool := -1 ≤ level && level ≤ 9

/-- A record of the packing for one request. -/
def note (trace : TraceId) (level : Level) (message : Text) : Logged Fault Unit :=
  Logged.record level .archive (trace.mark message)

/-- A fault that goes into the log. -/
def failLogged {α : Type} (trace : TraceId) (f : ArchiveFault) : Logged Fault α := do
  note trace .error f.message
  .fail (.archive f)

/-- The entry of a file, unless its name is `written` already. -/
def entryOf (trace : TraceId) (level : Option Int) (project : Text) (written : List Text)
    (f : ProjectFile) : Logged Fault Entry :=
  let name := entryName project f.path
  if written.contains name then .fail (.archive (.duplicateEntry name))
  else match f.content.utf8? with
    | none => failLogged trace (.unencodable project (Utf8.problem f.content))
    | some bytes => match (storedName name).utf8? with
      | none => failLogged trace (.unencodable project (Utf8.problem (storedName name)))
      | some nameBytes =>
        if maxNameBytes < nameBytes.length then .fail (.stray .longName)
        else if !level.all isLevel then failLogged trace (.badLevel project)
        else do
          note trace .debug
            ("Wrote ZIP entry '" ++ name ++ "' | size=" ++ Text.ofNat bytes.length ++ " bytes")
          pure ⟨storedName name, bytes⟩

/-- The entries of files, in order. -/
def entriesOf (trace : TraceId) (level : Option Int) (project : Text) :
    List Text → List ProjectFile → Logged Fault (List Entry)
  | _, [] => pure []
  | written, f :: rest => do
    let e ← entryOf trace level project written f
    let more ← entriesOf trace level project (entryName project f.path :: written) rest
    pure (e :: more)

/-- The archive of a project. -/
def pack (trace : TraceId) (level : Option Int) (p : Project) : Logged Fault Archive := do
  note trace .info
    ("Starting ZIP packaging | project='" ++ p.name ++ "' | fileCount=" ++ Text.ofNat p.fileCount)
  let entries ← entriesOf trace level p.name [] p.files
  let archive : Archive := ⟨entries⟩
  note trace .info
    ("ZIP packaging complete | project='" ++ p.name ++ "' | zipSize=" ++
      Text.ofNat archive.bytes.length ++ " bytes")
  pure archive

end Archive

end SuiteForge
