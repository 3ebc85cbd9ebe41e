/-!
# The place of the settings

The settings of a user are looked for in the directory of the user's settings: the one that the
environment names, if it is absolute, or `.config` in the home directory.

## Main definitions

* `Location.join`: a path within a directory
* `Location.settings`: the path of the settings file
-/

namespace AvbEntity.Location

/-- A relative path within a directory. -/
def join (directory path : String) : String :=
  if directory.isEmpty || directory.endsWith "/" then directory ++ path
  else directory ++ "/" ++ path

/-- The directory of the user's settings. -/
def directory (home : String) (configHome : Option String) : String :=
  match configHome with
  | some path => if path.startsWith "/" then path else join home ".config"
  | none => join home ".config"

/-- The path of the settings file. -/
def settings (home : String) (configHome : Option String) : String :=
  join (join (directory home configHome) "avdecc-entity") "config.toml"

end AvbEntity.Location
