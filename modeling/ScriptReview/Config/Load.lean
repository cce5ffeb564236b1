import ScriptReview.Config.Decode
import ScriptReview.Exercise.Builtin
import ScriptReview.Files.Reading

/-!
# Loading configurations and catalogs

Main definitions:

* `Config.loadFrom` reads the configuration in a file, `Config.load` the one in the working
  directory.
* `Catalog.loadFrom` reads the catalog in a file, `Config.loadCatalog` the one that is configured.
-/

namespace ScriptReview

namespace Config

/-- The name of the file that is looked for in the working directory. -/
def fileName : RawText := .ofString "codecoach.toml"

/-- Reads the configuration in a file. -/
def loadFrom (fs : FileSystem) (path : RawText) : Except Fault Config := do
  let c ← ofText (← fs.readText path)
  .ok { c with directory := some (Path.parent path) }

/-- Reads the configuration in the working directory. Without a file there the standard one holds.
-/
def load (fs : FileSystem) : Except Fault Config :=
  if fs.isFile fileName then loadFrom fs fileName else .ok .standard

end Config

namespace Catalog

/-- Reads the catalog in a file. -/
def loadFrom (fs : FileSystem) (path : RawText) : Except Fault Catalog := do
  ofText (← fs.readText path)

end Catalog

namespace Config

/-- The configured catalog, or the built-in one where none is configured. -/
def loadCatalog (c : Config) (fs : FileSystem) : Except Fault Catalog :=
  match c.catalogPath? with
  | some path => Catalog.loadFrom fs path
  | none => .ok .builtin

end Config
end ScriptReview
