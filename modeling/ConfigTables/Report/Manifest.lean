import ConfigTables.Report.NameTable

/-!
# Run manifests

A `Manifest` says what a run was about: the tool and its version, the directories, the time, the
outcome, and a digest of each workbook. As with sheet reports, it is built from fields that may hold
anything, of which only the two counts and the table of digests are checked.
-/

namespace ConfigTables

/-- The name under which the tool presents itself. -/
def toolName : String := "excel2json"

/-- The version of the tool. -/
def toolVersion : String := "0.2.0"

/-- The fields of a manifest before they are checked. -/
structure ManifestFields where
  tool : Datum := .text toolName
  version : Datum := .text ""
  inputDir : Datum := .text ""
  outputDir : Datum := .text ""
  createdAt : Datum := .text ""
  status : Datum := .text "success"
  sheetsConverted : Datum := .int 0
  sheetsFailed : Datum := .int 0
  inputs : Datum := .object []

namespace ManifestFields

/-- Sets the field of a name. -/
def set (fields : ManifestFields) (name : String) (value : Datum) :
    Except FieldFault ManifestFields :=
  match name with
  | "tool" => .ok { fields with tool := value }
  | "version" => .ok { fields with version := value }
  | "input_dir" => .ok { fields with inputDir := value }
  | "output_dir" => .ok { fields with outputDir := value }
  | "created_at_utc" => .ok { fields with createdAt := value }
  | "status" => .ok { fields with status := value }
  | "sheets_converted" => .ok { fields with sheetsConverted := value }
  | "sheets_failed" => .ok { fields with sheetsFailed := value }
  | "inputs" => .ok { fields with inputs := value }
  | _ => .error (.ofUnknown "RunManifest" name)

/-- The fields of the given names, the others at their defaults. -/
def ofEntries (entries : List (String × Datum)) : Except FieldFault ManifestFields :=
  entries.foldlM (fun fields entry ↦ fields.set entry.1 entry.2) {}

end ManifestFields

/-- The record of a run. -/
structure Manifest where
  tool : Datum
  version : Datum
  inputDir : Datum
  outputDir : Datum
  createdAt : Datum
  status : Datum
  sheetsConverted : Nat
  sheetsFailed : Nat
  inputs : List (String × Datum)

namespace Manifest

/-- Checks the fields of a manifest. -/
def ofFields (fields : ManifestFields) : Except FieldFault Manifest := do
  let sheetsConverted ← Field.readCount "sheets_converted" fields.sheetsConverted
  let sheetsFailed ← Field.readCount "sheets_failed" fields.sheetsFailed
  let inputs ← NameTable.read fields.inputs
  return {
    tool := fields.tool
    version := fields.version
    inputDir := fields.inputDir
    outputDir := fields.outputDir
    createdAt := fields.createdAt
    status := fields.status
    sheetsConverted
    sheetsFailed
    inputs }

/-- A manifest as a datum. -/
def toDatum (manifest : Manifest) : Datum :=
  .object
    [("tool", manifest.tool),
      ("version", manifest.version),
      ("input_dir", manifest.inputDir),
      ("output_dir", manifest.outputDir),
      ("created_at_utc", manifest.createdAt),
      ("status", manifest.status),
      ("sheets_converted", .int manifest.sheetsConverted),
      ("sheets_failed", .int manifest.sheetsFailed),
      ("inputs", .object manifest.inputs)]

end Manifest

end ConfigTables
