/-
# The pipeline

A text becomes a contract, the contract a project, and the project an archive. The
templates that have been compiled are all that one run leaves to the next.
-/

import SuiteForge.Archive
import SuiteForge.OpenApi.Translate
import SuiteForge.Suite.Generate

namespace SuiteForge

namespace Pipeline

variable [Machine]

/-- A record of one request. -/
def note (trace : TraceId) (message : Text) : Rendering Unit :=
  Rendering.record .info .pipeline (trace.mark message)

/-- The archive of a text's suite. -/
def run (d : TemplateDirectory) (settings : Settings) (trace : TraceId) (text : List Char) :
    Rendering Archive := do
  note trace ("Pipeline START | size=" ++ Text.ofNat text.length ++ " chars")
  note trace "Stage 1: translating contract"
  let contract ← Rendering.ofLogged (translate trace settings.defaultUrl text)
  note trace "Stage 2: generating project files"
  let project ← generate d settings trace contract
  note trace "Stage 3: packaging into ZIP"
  let archive ← Rendering.ofLogged (Archive.pack trace none project)
  note trace
    ("Pipeline DONE | zipSize=" ++ Text.ofNat archive.bytes.length ++ " bytes | files=" ++
      Text.ofNat project.fileCount)
  pure archive

end Pipeline

end SuiteForge
