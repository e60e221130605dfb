/-
# Configuration

The settings of a loader come from a TOML document, in which every setting may be missing and unknown
ones do not count, or are set one by one.

| setting | meaning | when missing |
| --- | --- | --- |
| `base_url` | put in front of names | `https://cdn.skypack.dev/` |
| `import_map.imports` | where names lead | nowhere |
| `import_map_path` | a JSON file with a further import map | none |
| `verbose` | whether fetches are logged as news | no |
| `cache_dir` | the directory of the cache | in the home directory |
| `root_url` | what imports at top level are relative to | the current directory |

A file of settings may name a file with an import map, relative to its own directory; the entries of the
settings themselves go over those.
-/

import ScriptImport.Files
import ScriptImport.Host
import ScriptImport.Json.Record
import ScriptImport.Resolve
import ScriptImport.Toml.Read

namespace ScriptImport

/-- The settings of a loader. -/
structure Config where
  baseUrl : String
  imports : ImportMap
  importMapPath : Option String
  verbose : Bool
  cacheDir : Option String
  rootUrl : Option String
  deriving DecidableEq

/-- Why settings cannot be used. -/
inductive ConfigError where
  | file (path : String) (error : FileError)
  | toml
  | importMap (error : Json.ReadError)
  | url (text : String) (reason : String)

/-- The message of an error; what is wrong with a TOML document is not said. -/
def ConfigError.message? : ConfigError → Option String
  | file path e => some ("Failed to read " ++ path ++ ": " ++ e.message)
  | toml => none
  | importMap e => some ("Failed to parse import map: " ++ e.message)
  | url text reason => some ("Invalid URL '" ++ text ++ "': " ++ reason)

namespace ImportMap

/-- The field of the JSON form. -/
def fields : List (Json.Field (Option ImportMap)) :=
  [⟨"imports", false, Option.isSome, fun _ => some <$> Json.Reader.texts⟩]

/-- Reads the JSON form. -/
def parse (text : String) : Except Json.ReadError ImportMap :=
  (Json.Reader.whole (Json.Record.read "ImportMap" fields none) text).map (·.getD [])

/-- Reads a file with the JSON form. -/
def ofFile (f : Files) (path : String) : Except ConfigError ImportMap := do
  let text ← (f.readText path).mapError (.file path)
  (parse text).mapError .importMap

end ImportMap

namespace Config

/-- The settings when nothing is set. -/
def default : Config := ⟨"https://cdn.skypack.dev/", [], none, false, none, none⟩

/-- A setting that is a string. -/
def string? (es : Toml.Entries) (key : String) : Option (Option String) :=
  match es.lookup key with
  | none => some none
  | some (.string s) => some (some s)
  | some _ => none

/-- A setting that is a boolean. -/
def bool? (es : Toml.Entries) (key : String) : Option (Option Bool) :=
  match es.lookup key with
  | none => some none
  | some (.bool b) => some (some b)
  | some _ => none

/-- The entries of an import map. -/
def texts? (es : Toml.Entries) : Option ImportMap :=
  Dict.ofEntries <$> es.mapM fun (k, v) =>
    match v with
    | .string s => some (k, s)
    | _ => none

/-- The import map in a table. -/
def importsIn? (es : Toml.Entries) : Option ImportMap :=
  match es.lookup "imports" with
  | none => some []
  | some v => v.entries?.bind texts?

/-- The import map of the settings: a table, or an array of what would be its entries. -/
def imports? (es : Toml.Entries) : Option ImportMap :=
  match es.lookup "import_map" with
  | none => some []
  | some (.array []) => some []
  | some (.array (v :: _)) => v.entries?.bind texts?
  | some (.tables (es :: _)) => texts? es
  | some v => v.entries?.bind importsIn?

/-- The settings in a document. -/
def ofToml? (es : Toml.Entries) : Option Config := do
  return {
    baseUrl := (← string? es "base_url").getD default.baseUrl
    imports := ← imports? es
    importMapPath := ← string? es "import_map_path"
    verbose := (← bool? es "verbose").getD false
    cacheDir := ← string? es "cache_dir"
    rootUrl := ← string? es "root_url" }

/-- The URL of a directory. -/
def directoryUrl (path : String) : Url :=
  let parts := (Path.splitAt '/' path.toList).filter (· ≠ [])
  let escaped (c : Char) : Bool := Url.escapedInPath c || c = '%' || c = '\\'
  { scheme := "file"
    server := some .none
    path := .segments (parts.map (fun p => String.ofList (Url.escape escaped p)) ++ [""])
    query := none
    fragment := none }

/-- What imports at top level are relative to. -/
def root (c : Config) (host : Host) : Except ConfigError Url :=
  match c.rootUrl, host.directory with
  | some text, _ => (Url.parse text).mapError fun e => .url text e.message
  | none, some path =>
    if Path.isAbsolute path.toList then .ok (directoryUrl path)
    else .error (.url path "not an absolute path")
  | none, none => .error (.file "." .missing)

/-- Makes sure that the URLs of the settings are URLs. -/
def validate (c : Config) (host : Host) : Except ConfigError Unit := do
  let _ ← (Url.parse c.baseUrl).mapError fun e => .url c.baseUrl e.message
  let _ ← c.root host

/-- Reads settings. -/
def parse (text : String) (host : Host) : Except ConfigError Config :=
  match (Toml.parse text).bind ofToml? with
  | none => .error .toml
  | some c => do
    c.validate host
    return c

/-- The path of a file that the settings in the file `path` name. -/
def beside (path name : String) : String :=
  match Path.parent? path.toList with
  | some dir => Path.resolve (String.ofList dir) name
  | none => name

/-- Reads a file of settings and the import map that it names. -/
def ofFile (f : Files) (path : String) (host : Host) : Except ConfigError Config := do
  let text ← (f.readText path).mapError (.file path)
  let c ← parse text host
  match c.importMapPath with
  | none => return c
  | some name =>
    let mapPath := beside path name
    let imports ← ImportMap.ofFile f mapPath
    return { c with imports := Dict.insertAll imports c.imports, importMapPath := some mapPath }

end Config
end ScriptImport
