/-
This file defines operations on the text of paths.
-/

namespace Reckon.Path

def isAbsolute (path : String) : Bool := path.toList.head? == some '/'

/-- These are the parts of a path between its slashes. -/
def parts (path : String) : List String := path.splitOn "/"

/-- This drops empty parts and dots from a path, and cancels a part with a double dot after it. The
kept parts are given in reverse. -/
def cleanParts (absolute : Bool) (kept : List String) : List String → List String
  | [] => kept.reverse
  | part :: rest =>
      if part.isEmpty || part == "." then cleanParts absolute kept rest
      else if part == ".." then
        match kept with
        | [] => cleanParts absolute (if absolute then [] else [".."]) rest
        | last :: others =>
            if last == ".." then cleanParts absolute (".." :: kept) rest
            else cleanParts absolute others rest
      else cleanParts absolute (part :: kept) rest

/-- This is the shortest path with the same meaning. -/
def clean (path : String) : String :=
  let kept := String.intercalate "/" (cleanParts (isAbsolute path) [] (parts path))
  if isAbsolute path then "/" ++ kept else if kept.isEmpty then "." else kept

/-- This joins the parts that are not empty. -/
def join (pieces : List String) : String :=
  match pieces.filter fun piece => !piece.isEmpty with
  | [] => ""
  | kept => clean (String.intercalate "/" kept)

/-- This is the path of the directory around the last part of a path. -/
def parent (path : String) : String :=
  match (parts path).dropLast with
  | [] => "."
  | [""] => "/"
  | before => clean (String.intercalate "/" before ++ "/")

end Reckon.Path
