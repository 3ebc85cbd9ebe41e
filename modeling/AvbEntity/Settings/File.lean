import AvbEntity.Document.Json.Reader
import AvbEntity.Document.Toml.Reader
import AvbEntity.Model.Tree
import AvbEntity.Settings.Document

/-!
# Files

A descriptor tree is read from a TOML or a JSON file, told apart by the extension of its name;
settings are read from a TOML file of any name.

## Main definitions

* `FileError`: why a file is not read
* `Document.Json.saysNothing`, `Document.Toml.saysNothing`: the values that say nothing
* `Tree.load`, `Settings.load`: what a file holds
-/

namespace AvbEntity

open Document (Form Value)

/-- Why a file is not read. -/
inductive FileError where
  /-- The file is missing, or is no text. -/
  | unreadable
  /-- The text is no document, or not of what is looked for. -/
  | unparsable
  /-- The name has no known extension. -/
  | unknownFormat
  | invalid (fault : SettingsError)
  deriving DecidableEq

/-- The value of a JSON document that says nothing. -/
def Document.Json.saysNothing : Value → Bool
  | .null => true
  | _ => false

/-- The values of a TOML document that say nothing. -/
def Document.Toml.saysNothing : Value → Bool
  | .record [] | .list [] => true
  | _ => false

namespace File

/-- The last component of a path that names a file. -/
def lastComponent (path : String) : List Char :=
  let names := (path.toList.splitBy fun a b => a != '/' && b != '/').filter fun name =>
    name != ['/'] && name != ['.']
  names.getLast?.getD []

/-- The extension of a file name, without capital letters: what follows the last dot, unless the
name begins with it. -/
def extension (path : String) : String :=
  let reversed := (lastComponent path).reverse
  let stem := (reversed.dropWhile (· != '.')).drop 1
  if stem.isEmpty then "" else .ofList ((reversed.takeWhile (· != '.')).reverse.map Char.toLower)

/-- The text of a file, if there is one. -/
def text (content : Option Octets) : Except FileError String :=
  match content.bind Utf8.decode? with
  | some s => .ok s
  | none => .error .unreadable

/-- The content of a file, read as a document and in a form. -/
def parse {α : Type} (content : Option Octets) (read? : String → Option Value) (form : Form α) :
    Except FileError α := do
  let s ← text content
  match read? s with
  | some v => (form.read v).mapError fun _ => .unparsable
  | none => .error .unparsable

end File

/-- The tree that a file holds, by its name and its content, if there is one. -/
def Tree.load (path : String) (content : Option Octets) : Except FileError Tree :=
  match File.extension path with
  | "toml" => File.parse content Document.Toml.read? Tree.form
  | "json" => File.parse content Document.Json.read? Tree.form
  | _ => .error .unknownFormat

/-- The settings that a file holds, by its content, if there is one. -/
def Settings.load (content : Option Octets) : Except FileError Settings := do
  let s ← File.parse content Document.Toml.read? (Settings.form Document.Toml.saysNothing)
  s.check.mapError .invalid
  return s

end AvbEntity
