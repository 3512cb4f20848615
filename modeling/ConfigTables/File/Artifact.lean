import ConfigTables.File.Disk

/-!
# Artifacts

`Artifact.write` writes a payload to a file as JSON text and a line break, in UTF-8. The text first
goes to a temporary file beside the target, which then takes the target's place, so the target holds
either its old text or the whole new one. The temporary file has the name of the target with `.tmp`
after it and therefore never is the target.

Three things may fail on the way. The directory is made before the payload is looked at, and stays
if the payload has no JSON text. The temporary file is opened before the text is encoded, and stays
without a text if that cannot be done. And it stays with the text if it cannot be moved.
-/

namespace ConfigTables.Artifact

/-- The path of the temporary file of a target. -/
def temporary (target : Path) : Path :=
  target.withSuffix (target.suffix ++ ".tmp")

/-- Writes a payload to a file and returns its path. -/
def write (target : Path) (payload : Payload) : Disk Path := do
  Disk.makeDirectories target.parent
  let text ← Disk.query fun _ ↦ payload.json.mapError .payload
  if target.name = "" then throw (.nameEmpty target)
  -- Opening the file empties it.
  Disk.change (·.write (temporary target) .empty)
  let content ← Disk.query fun _ ↦ (Payload.encode text).mapError .payload
  Disk.change (·.write (temporary target) content.toUTF8)
  Disk.change (·.replace (temporary target) target)
  return target

end ConfigTables.Artifact
