import SocksRouter.File
import SocksRouter.Text.Fields

/-!
# Files by their paths

A tree of files, given by the paths from its root. A path is read step by step: an empty step and
`.` stay where they are, `..` goes up, and only a directory can be stayed in or left. Above the root
there are directories of which nothing else is known; an absolute path starts there.
-/

namespace SocksRouter

open Text

/-- The steps of a path. -/
def pathSteps (path : String) : List String :=
  (fields (· == '/') path.toList).map String.ofList

/-- The steps of a path that name something. -/
def namedSteps (path : String) : List String :=
  (pathSteps path).filter fun step ↦ !step.isEmpty && step != "."

/-- What a path starts with if it is absolute. Exactly two slashes are kept. -/
def pathRoot (path : String) : String :=
  match path.toList with
  | ['/', '/'] => "//"
  | '/' :: '/' :: c :: _ => if c = '/' then "/" else "//"
  | '/' :: _ => "/"
  | _ => ""

/-- A path that neither stays where it is nor comes back to where it was, as the names it goes
through. There are none for a path that is absolute or leaves the place it starts from. -/
def directSteps? (path : String) : Option (List String) :=
  if pathRoot path ≠ "" then none
  else (namedSteps path).foldlM (fun steps step ↦
    if step ≠ ".." then some (steps ++ [step])
    else if steps.isEmpty then none
    else some steps.dropLast) []

/-- A path without the steps that stay where they are. -/
def tidyPath (path : String) : String :=
  let text := pathRoot path ++ "/".intercalate (namedSteps path)
  if text.isEmpty then "." else text

/-- The last name in a path. -/
def pathName (path : String) : String :=
  (namedSteps path).getLast?.getD ""

/-- How many bytes a name may have. -/
def maxNameBytes : Nat := 255

/-- How many bytes a path may have. -/
def maxPathBytes : Nat := 4095

/-- A place that a path leads to. -/
inductive Place
  /-- A directory above the root. -/
  | above
  /-- The place that names lead to from the root. -/
  | within (names : List String)
  deriving DecidableEq, Repr

/-- The place above a place. -/
def Place.up : Place → Place
  | .above | .within [] => .above
  | .within names => .within names.dropLast

/-- Files by their paths from the root. -/
structure FileTree where
  /-- The files, each with the steps that lead to it. -/
  files : List (List String × FileContent) := []
  deriving Repr

namespace FileTree

/-- A tree of the files at the given paths. -/
def ofList (files : List (String × FileContent)) : FileTree :=
  ⟨files.map fun (path, content) ↦ (namedSteps path, content)⟩

/-- What stands where names lead from the root: a file, or the directory that leads to some. -/
def contentAt (tree : FileTree) (names : List String) : FileContent :=
  if names.isEmpty then .directory
  else match tree.files.lookup names with
    | some content => content
    | none =>
      if tree.files.any fun (steps, content) ↦ names.isPrefixOf steps && content.isThere then
        .directory
      else .missing

/-- What stands at a place. -/
def contentOf (tree : FileTree) : Place → FileContent
  | .above => .directory
  | .within names => tree.contentAt names

/-- Where a name leads from a directory. -/
def enter (place : Place) (name : String) : Except Absence Place :=
  if maxNameBytes < name.utf8ByteSize then .error .longName
  else match place with
    | .above => .error .noEntry
    | .within names => .ok (.within (names ++ [name]))

/-- Where steps lead from a place. -/
def walk (tree : FileTree) (place : Place) : List String → Except Absence Place
  | [] => .ok place
  | step :: rest =>
    match tree.contentOf place with
    | .missing cause => .error cause
    | .locked | .failing _ | .bytes .. => .error .behindFile
    | .directory =>
      if step.isEmpty ∨ step = "." then tree.walk place rest
      else if step = ".." then tree.walk place.up rest
      else match enter place step with
        | .error cause => .error cause
        | .ok place => tree.walk place rest

/-- What a path leads to. -/
def read (tree : FileTree) (path : String) : FileContent :=
  if path.isEmpty then .missing
  else if maxPathBytes < path.utf8ByteSize then .missing .longName
  else
    let start := if pathRoot path = "" then .within [] else .above
    match tree.walk start (pathSteps path) with
    | .ok place => tree.contentOf place
    | .error cause => .missing cause

end FileTree

end SocksRouter
