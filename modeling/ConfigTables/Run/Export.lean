import ConfigTables.File.Artifact
import ConfigTables.Report.Manifest
import ConfigTables.Report.Basic
import ConfigTables.Run.Fault
import ConfigTables.Sheet.Document

/-!
# What a run writes

The documents of a sheet go to one directory for each audience, under the file name of the sheet.
The report and the manifest of a run go to the output directory itself.
-/

namespace ConfigTables.Export

/-- The directory of an audience below the output directory. -/
def directory : Audience → String
  | .server => "svr"
  | .client => "client"

/-- The path of the document for an audience. -/
def target (output : Path) (audience : Audience) (fileName : String) : Path :=
  (output.child (directory audience)).child (fileName ++ ".json")

/-- Writes the document for an audience, if there is one, and returns its path. -/
def writeFor (output : Path) (sheet : Sheet) (rows : List Row) (audience : Audience) :
    RunDisk (List Path) := do
  match ← RunDisk.ofExcept .abort (Document.ofSheet? sheet rows audience) with
  | none => return []
  | some document =>
    let path ← RunDisk.ofDisk <| Artifact.write
      (target output audience sheet.markers.fileName) (.ofDatum document.toDatum)
    return [path]

/-- Writes the documents of a sheet and returns their paths. -/
def writeSheet (output : Path) (sheet : Sheet) (rows : List Row) : RunDisk (List Path) := do
  let server ← writeFor output sheet rows .server
  let client ← writeFor output sheet rows .client
  return server ++ client

/-- The name of the file with the report. -/
def reportFile : String := "conversion_report.json"

/-- The name of the file with the manifest. -/
def manifestFile : String := "run_manifest.json"

/-- Writes a report into a directory. -/
def writeReport (output : Path) (report : Report) : Disk Path :=
  Artifact.write (output.child reportFile) (.ofDatum report.toDatum)

/-- Writes a manifest into a directory. -/
def writeManifest (output : Path) (manifest : Manifest) : Disk Path :=
  Artifact.write (output.child manifestFile) (.ofDatum manifest.toDatum)

end ConfigTables.Export
