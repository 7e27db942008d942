/-!
# `GatewayAuth.Settings.Files` — where files are looked up

A relative path is looked up in the working directory, then in the directory above it, and so on to the
root; the first file that is found counts.

## Contents
- `Files`: the files of a machine by their paths from the root, and the working directory.
- `Files.locate`: the place that a path leads to from a directory; a path leads only through directories.
- `Files.candidates`: the places where such a file may lie.
- `Files.find?`: the content of the file that a path means.
-/

namespace GatewayAuth.Settings

/-- The names on the way from the root to a file or directory. -/
abbrev Place := List String

/-- The files of a machine. -/
structure Files where
  contents : List (Place × String)
  /-- The working directory. -/
  current : Place
  deriving Repr

namespace Files

/-- The content of the file at a place. -/
def contentAt? (files : Files) (place : Place) : Option String :=
  (files.contents.find? fun f => f.1 == place).map Prod.snd

/-- Whether a place is a directory: the working directory or a file lies in it or below. -/
def isDirectory (files : Files) (place : Place) : Bool :=
  place.isPrefixOf files.current ||
    files.contents.any fun f => place.isPrefixOf f.1 && place.length < f.1.length

/-- The place that steps lead to from a place. -/
def locate (files : Files) : Place → List String → Option Place
  | here, [] => some here
  | here, step :: steps =>
    if !files.isDirectory here then none
    else if step = "" ∨ step = "." then files.locate here steps
    else if step = ".." then files.locate here.dropLast steps
    else files.locate (here ++ [step]) steps

/-- The parts of a text between slashes. -/
def splitSlashes : List Char → List (List Char)
  | [] => [[]]
  | c :: rest =>
    match splitSlashes rest with
    | [] => [[c]]
    | part :: parts => if c = '/' then [] :: part :: parts else (c :: part) :: parts

/-- The steps of a path. -/
def stepsOf (path : String) : List String := (splitSlashes path.toList).map String.ofList

/-- The content of the file that `steps` lead to from one of the given directories, the first one that has
such a file. -/
def findFrom? (files : Files) (steps : List String) (directories : List Place) : Option String :=
  directories.findSome? fun directory => (files.locate directory steps).bind files.contentAt?

/-- The working directory and all directories above it. -/
def searched (files : Files) : List Place :=
  (List.range (files.current.length + 1)).map fun n => files.current.take (files.current.length - n)

/-- The place that steps lead to if every directory on the way exists. -/
def placeOf (here : Place) (steps : List String) : Place :=
  steps.foldl (fun place step =>
    if step = "" ∨ step = "." then place
    else if step = ".." then place.dropLast
    else place ++ [step]) here

/-- The places where the file may lie that a path means, the first choice first. -/
def candidates (current : Place) (path : String) : List Place :=
  if path.startsWith "/" then [placeOf [] (stepsOf path)]
  else (searched ⟨[], current⟩).map fun directory => placeOf directory (stepsOf path)

/-- The content of the file that a path means. -/
def find? (files : Files) (path : String) : Option String :=
  if path.startsWith "/" then files.findFrom? (stepsOf path) [[]]
  else files.findFrom? (stepsOf path) files.searched

end Files

end GatewayAuth.Settings
