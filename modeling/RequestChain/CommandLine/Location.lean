import RequestChain.CommandLine.Basic
import RequestChain.OrderedMap

/-! # Where the configuration is

A file that is named on the command line is taken as it is, and so is one that the environment
names. Otherwise the first of the usual places that holds a file is taken.
-/

namespace RequestChain.CommandLine

/-- What can be seen of the file system. -/
structure Files where
  /-- Whether there is a file, and not a directory, at a path. -/
  isFile : String → Bool
  /-- The octets at a path, if they can be read. -/
  octets? : String → Option (List UInt8)

/-- The environment variable that names the configuration. -/
def configVariable : String := "RELAY_CONFIG"

/-- The name of configurations in the usual places. -/
def configFileName : String := "relay.yaml"

/-- A path with one more name at its end. -/
def joinPath (path name : String) : String :=
  if path.isEmpty || path.endsWith "/" then path ++ name else path ++ "/" ++ name

/-- The directory of the user's configurations. One that is not an absolute path is passed over. -/
def userConfigDirectory? (environment : OrderedMap String) : Option String :=
  let named := (environment.get? "XDG_CONFIG_HOME").filter (·.startsWith "/")
  let home := (environment.get? "HOME").filter (!·.isEmpty)
  named.or (home.map (joinPath · ".config"))

/-- The usual places of a configuration. -/
def usualPlaces (environment : OrderedMap String) : List String :=
  let ofUser (directory : String) : String :=
    joinPath (joinPath directory programName) configFileName
  configFileName :: ((userConfigDirectory? environment).map ofUser).toList

/-- The wording of the error when there is no file in any of the places. -/
def noConfigMessage (searched : List String) : String :=
  "no configuration file found (searched " ++ ", ".intercalate searched ++
    "); pass --config or set " ++ configVariable

/-- Every path that a configuration can be taken from. -/
def candidatePaths (environment : OrderedMap String) (explicit : Option String) : List String :=
  explicit.toList ++ (environment.get? configVariable).toList ++ usualPlaces environment

/-- The path of the configuration, or else the places where none was found. -/
def locateConfig (files : Files) (environment : OrderedMap String) (explicit : Option String) :
    Except (List String) String :=
  let named := (environment.get? configVariable).filter (!Text.isBlankText ·)
  match explicit.or named with
  | some path => .ok path
  | none =>
    let places := usualPlaces environment
    match places.find? files.isFile with
    | some path => .ok path
    | none => .error places

end RequestChain.CommandLine
