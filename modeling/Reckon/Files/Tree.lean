/-
This file defines trees of files, and what happens when a path in them is read or written.
-/

import Reckon.Files.Path
import Reckon.Text.Glyph

namespace Reckon

open Text

/-- The entries of a folder are sorted by name. -/
inductive FileEntry where
  | file (content : Bytes)
  | folder (entries : List (String × FileEntry))

instance : Inhabited FileEntry := ⟨.folder []⟩

/-- A path can fail to be opened or read in one of these ways. -/
inductive FileProblem where
  | notFound
  | notFolder
  | isFolder
  | denied
  /-- A path has no null character. -/
  | invalid
  | nameTooLong
  deriving DecidableEq, Repr

def FileProblem.text : FileProblem → String
  | .notFound => "no such file or directory"
  | .notFolder => "not a directory"
  | .isFolder => "is a directory"
  | .denied => "permission denied"
  | .invalid => "invalid argument"
  | .nameTooLong => "file name too long"

/-- This describes the failure to open or to read a path. -/
def FileProblem.message (problem : FileProblem) (path : String) : String :=
  match problem with
  | .isFolder => "read " ++ path ++ ": " ++ problem.text
  | _ => "open " ++ path ++ ": " ++ problem.text

namespace FileEntry

def child? (entries : List (String × FileEntry)) (name : String) : Option FileEntry :=
  entries.lookup name

/-- This puts an entry in place of any other one of its name. -/
def putChild (name : String) (entry : FileEntry) :
    List (String × FileEntry) → List (String × FileEntry)
  | [] => [(name, entry)]
  | (other, otherEntry) :: rest =>
      if name = other then (name, entry) :: rest
      else if name < other then (name, entry) :: (other, otherEntry) :: rest
      else (other, otherEntry) :: putChild name entry rest

/-- This is the entry at the end of a chain of names. -/
def get? : List String → FileEntry → Option FileEntry
  | [], entry => some entry
  | name :: names, folder entries =>
      match child? entries name with
      | some entry => get? names entry
      | none => none
  | _ :: _, file _ => none

/-- This puts an entry at the end of a chain of names, with folders on the way. -/
def put (entry : FileEntry) : List String → FileEntry → FileEntry
  | [], _ => entry
  | name :: names, folder entries =>
      folder (putChild name (put entry names ((child? entries name).getD (folder []))) entries)
  | name :: names, file _ => folder [(name, put entry names (folder []))]

def isFolder : FileEntry → Bool
  | folder _ => true
  | file _ => false

mutual

/-- These are the files of an entry in the order of their names, a folder's files in its
place. Each is given with its path below the given one. -/
def filesBelow (path : String) : FileEntry → List (String × Bytes)
  | file content => [(path, content)]
  | folder entries => filesInFolder path entries

def filesInFolder (path : String) : List (String × FileEntry) → List (String × Bytes)
  | [] => []
  | (name, entry) :: entries =>
      filesBelow (Path.join [path, name]) entry ++ filesInFolder path entries

end

end FileEntry

/-- A file tree has a root folder and the chain of names of the current folder. -/
structure FileTree where
  root : FileEntry
  current : List String

namespace FileTree

/-- A name has at most this many bytes. -/
def nameLimit : Nat := 255

/-- A path has fewer bytes than this. -/
def pathLimit : Nat := 4096

/-- This follows the parts of a path from a chain of names, which is given in reverse. -/
def follow (tree : FileTree) (reached : List String) :
    List String → Except FileProblem (List String)
  | [] => .ok reached.reverse
  | part :: rest =>
      match tree.root.get? reached.reverse with
      | some (.folder entries) =>
          if part.isEmpty || part == "." then tree.follow reached rest
          else if part == ".." then tree.follow reached.tail rest
          else if part.utf8ByteSize > nameLimit then .error .nameTooLong
          else if (FileEntry.child? entries part).isSome then tree.follow (part :: reached) rest
          else .error .notFound
      | _ => .error .notFolder

/-- This is the chain of names that a path leads to. -/
def resolve (tree : FileTree) (path : String) : Except FileProblem (List String) :=
  if path.isEmpty then .error .notFound
  else if path.toList.contains '\x00' then .error .invalid
  else if path.utf8ByteSize ≥ pathLimit then .error .nameTooLong
  else
    tree.follow (if Path.isAbsolute path then [] else tree.current.reverse) (Path.parts path)

/-- This is the entry that a path leads to. -/
def entry (tree : FileTree) (path : String) : Except FileProblem FileEntry :=
  match tree.resolve path with
  | .error problem => .error problem
  | .ok names =>
      match tree.root.get? names with
      | some entry => .ok entry
      | none => .error .notFound

/-- This is the content of the file that a path leads to. -/
def read (tree : FileTree) (path : String) : Except FileProblem Bytes :=
  match tree.entry path with
  | .ok (.file content) => .ok content
  | .ok (.folder _) => .error .isFolder
  | .error problem => .error problem

/-- This puts an entry at a path whose parent is there. -/
def place (tree : FileTree) (path : String) (entry : FileEntry) : Option FileTree :=
  match tree.resolve (Path.parent path), (Path.parts path).getLast? with
  | .ok names, some name =>
      match tree.root.get? names with
      | some (.folder _) =>
          some { tree with root := FileEntry.put entry (names ++ [name]) tree.root }
      | _ => none
  | _, _ => none

/-- This writes a file that is there or can be made. Nothing happens where no file can be. -/
def write (tree : FileTree) (path : String) (content : Bytes) : FileTree :=
  if path.isEmpty then tree
  else
    match tree.entry path with
    | .ok (.file _) | .error .notFound => (tree.place path (.file content)).getD tree
    | _ => tree

/-- This makes the folders of a path one after the other. The first one that cannot be made is
named with the reason. -/
def makeFoldersFrom (tree : FileTree) (made : String) :
    List String → Except (String × FileProblem) FileTree
  | [] => .ok tree
  | part :: rest =>
      let made := if made.isEmpty then part else if made == "/" then made ++ part
        else made ++ "/" ++ part
      match tree.entry made with
      | .ok (.folder _) => tree.makeFoldersFrom made rest
      | .ok (.file _) => .error (made, .notFolder)
      | .error .notFound =>
          match tree.place made (.folder []) with
          | some tree => tree.makeFoldersFrom made rest
          | none => .error (made, .notFolder)
      | .error problem => .error (made, problem)

/-- This makes all folders of a clean path. -/
def makeFolders (tree : FileTree) (path : String) : Except (String × FileProblem) FileTree :=
  tree.makeFoldersFrom (if Path.isAbsolute path then "/" else "")
    ((Path.parts path).filter fun part => !part.isEmpty)

/-- These are the paths of the source files below a path, by the ending of their names. -/
def sourceFiles (tree : FileTree) (ending path : String) : Except FileProblem (List String) :=
  match tree.entry path with
  | .error problem => .error problem
  | .ok entry =>
      .ok ((entry.filesBelow path).map Prod.fst |>.filter fun path => path.endsWith ending)

end FileTree

end Reckon
