import ConfigTables.Digest.Sha256
import ConfigTables.File.Disk

/-!
# Digests of files

The manifest of a run has a digest of every workbook under its base name. A file that cannot be
read is left out.
-/

namespace ConfigTables.Digests

/-- The digest of a file. -/
def ofFile (tree : FileTree) (path : Path) : Except FileFault String :=
  (tree.read path).map Sha256.hexDigest

/-- The digests with one more, in place of one under the same name. -/
def put (digests : List (String × String)) (name digest : String) : List (String × String) :=
  digests.filter (·.1 ≠ name) ++ [(name, digest)]

/-- The digests of the files that can be read, by base name. -/
def ofFiles (tree : FileTree) (paths : List Path) : Except FileFault (List (String × String)) :=
  paths.foldlM
    (fun digests path ↦
      match ofFile tree path with
      | .ok digest => .ok (put digests path.name digest)
      | .error fault => if fault.fromSystem then .ok digests else .error fault)
    []

end ConfigTables.Digests
