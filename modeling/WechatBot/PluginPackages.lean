import Mathlib.Data.List.Sort
import WechatBot.PluginScope
/-!
# Plugin packages on disk

`load_plugin_manifest`, over what the file system says of a package path.
-/

namespace WechatBot.PluginPackages

open PyData PluginScope

/-- The exceptions of the plugin modules, and those of Python that they meet. -/
inductive Raised where
  | OSError
  | OverflowError
  | TypeError
  | UnicodeEncodeError
  | PluginPackageError (detail : String)
  | PluginCatalogError (detail : String)
  | PluginRuntimeError (detail : String)
  | PluginObjectNotFoundError (detail : String)
  | PluginActivationError (detail : String)
  deriving DecidableEq, Repr

/-- A file below the root of a package; `none` where the operating system refuses. -/
structure PackageFile where
  parts : List Str
  size : Option Nat
  content : Option (List UInt8)
  deriving DecidableEq, Repr

/-- A package path. `resolves` is false when nothing is there. -/
structure PackageDirectory where
  resolves : Bool
  isDirectory : Bool
  rootParts : List Str
  files : List PackageFile
  deriving DecidableEq, Repr

/-- `parseManifest` is `tomllib` with the model `PluginManifest`; it answers with the
entrypoint besides. `utf8` has no bytes for a text with surrogates. -/
structure PackageTools where
  utf8 : Str → Option (List UInt8)
  parseManifest : List UInt8 → Option (PluginManifest × Str)
  sha256 : List UInt8 → Str

/-- `as_posix`. -/
def posixPath (parts : List Str) : Str := List.intercalate (py "/") parts

/-- `path.suffix`: what follows the last dot, unless the dot is at an end of the name. -/
def suffix (name : Str) : Str :=
  let extension := (name.reverse.takeWhile fun c => c ≠ 46).reverse
  if 46 ∈ name ∧ extension ≠ [] ∧ extension.length + 1 < name.length then 46 :: extension else []

def fileName (file : PackageFile) : Str := file.parts.getLast?.getD []

/-- The files that count. -/
def packageFiles (directory : PackageDirectory) : List PackageFile :=
  directory.files.filter fun file =>
    decide (py "__pycache__" ∉ directory.rootParts ++ file.parts ∧ suffix (fileName file) ≠ py ".pyc")

def fileAt (directory : PackageDirectory) (parts : List Str) : Option PackageFile :=
  directory.files.find? fun file => decide (file.parts = parts)

/-- The module of an entrypoint is a file, or a package. -/
def entrypointExists (directory : PackageDirectory) (entrypoint : Str) : Bool :=
  let names := ((entrypoint.takeWhile fun c => c ≠ 58).splitOn 46).filter fun name => name ≠ []
  (fileAt directory (names.dropLast ++ [names.getLast?.getD [] ++ py ".py"])).isSome ||
    (fileAt directory (names ++ [py "__init__.py"])).isSome

/-- `to_bytes(width, "big")`. -/
def bigEndian (width n : Nat) : Except Raised (List UInt8) :=
  if n < 256 ^ width then
    .ok ((List.range width).reverse.map fun i => UInt8.ofNat (n / 256 ^ i))
  else .error .OverflowError

/-- What the digest reads of one file. -/
def fileBytes (tools : PackageTools) (file : PackageFile) : Except Raised (List UInt8) := do
  let relative ← (tools.utf8 (posixPath file.parts)).elim (.error .UnicodeEncodeError) .ok
  let nameLength ← bigEndian 4 relative.length
  let content ← file.content.elim (.error .OSError) .ok
  let contentLength ← bigEndian 8 content.length
  return nameLength ++ relative ++ contentLength ++ content

/-- `sorted(files, key=…)`. -/
def digestOrder (files : List PackageFile) : List PackageFile :=
  files.insertionSort fun a b => posixPath a.parts ≤ posixPath b.parts

def digestStream (tools : PackageTools) (files : List PackageFile) : Except Raised (List UInt8) :=
  ((digestOrder files).mapM (fileBytes tools)).map List.flatten

def maxFiles : Nat := 1000

def maxBytes : Nat := 20 * 1024 * 1024

/-- The manifest of a package and the digest of its files. -/
def loadPluginManifest (tools : PackageTools) (directory : PackageDirectory) :
    Except Raised (PluginManifest × Str) :=
  if directory.resolves = false then .error .OSError
  else if directory.isDirectory = false then
    .error (.PluginPackageError "plugin package path must be a directory")
  else match fileAt directory [py "manifest.toml"] with
  | none => .error (.PluginPackageError "plugin package is missing manifest.toml")
  | some manifestFile =>
    let files := packageFiles directory
    if maxFiles < files.length then
      .error (.PluginPackageError "plugin package contains too many files")
    else match files.mapM PackageFile.size with
    | none => .error .OSError
    | some sizes =>
      if maxBytes < sizes.sum then .error (.PluginPackageError "plugin package is too large")
      else match manifestFile.content.bind tools.parseManifest with
      | none => .error (.PluginPackageError "plugin manifest is invalid")
      | some (manifest, entrypoint) =>
        if entrypointExists directory entrypoint = false then
          .error (.PluginPackageError "plugin entrypoint module does not exist in the package")
        else (digestStream tools files).map fun stream => (manifest, tools.sha256 stream)

end WechatBot.PluginPackages
