import SocksRouter.FileTree
import SocksRouter.Toml.Document

/-!
# The version of a project

A module finds the version of the project that it belongs to in the project files of the directories
above it. The nearest file that gives a version counts; a file without one is passed over. Where
there is none at all, the version is `0.0.0`.
-/

namespace SocksRouter

open Text

/-- The name of a project file. -/
def projectFileName : String := "pyproject.toml"

/-- Why a project file gives no answer. -/
inductive VersionError
  /-- The file cannot be read. -/
  | file (cause : FileError)
  /-- The file is no TOML document. -/
  | document (cause : Toml.ParseError)
  /-- The project is described by something that is no table. -/
  | project (word : String)
  deriving DecidableEq, Repr

/-- The wording of a version error. -/
def VersionError.message : VersionError → String
  | .file cause => cause.message
  | .document cause => cause.message
  | .project word => s!"'{word}' object has no attribute 'get'"

/-- The version that a project file gives, if it gives one. -/
def versionIn (path : String) (file : FileContent) : Except VersionError (Option Toml.Value) := do
  let bytes ← (file.readBytes path).mapError .file
  let text ← (decodeUtf8 bytes).mapError fun cause ↦ .file (.notText cause)
  let entries ← (Toml.parse text).mapError .document
  match entries.lookup "project" with
  | none => return none
  | some (.table project) => return (project.lookup "version").filter Toml.Value.isPresent
  | some other => throw (.project other.typeWord)

/-- The version that the first of the given directories with one gives. -/
def nearestVersion (tree : FileTree) : List (List String) → Except VersionError Toml.Value
  | [] => .ok (.text "0.0.0")
  | place :: rest => do
    let steps := place ++ [projectFileName]
    let file := tree.contentAt steps
    if !file.isThere then nearestVersion tree rest
    else match ← versionIn ("/".intercalate steps) file with
      | some version => return version
      | none => nearestVersion tree rest

/-- A place and all places above it, the nearest first. -/
def placesAbove (place : List String) : List (List String) :=
  (List.range (place.length + 1)).reverse.map place.take

/-- The version of the project that a module belongs to. Steps back are taken off its path before
directories are looked at, and a path that leads out of the tree has no project. -/
def projectVersion (tree : FileTree) (modulePath : String) : Except VersionError Toml.Value :=
  match directSteps? modulePath with
  | none | some [] => nearestVersion tree []
  | some steps => nearestVersion tree (placesAbove steps.dropLast)

end SocksRouter
