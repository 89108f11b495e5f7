import Highlighter.Host

/-! Trees of files and directories, in which paths lead from the top. -/

namespace Highlighter

/-- Files with their content and further directories, each under the names on the way to it. Directories on the
way to a file or to another directory need not be listed. -/
structure FileTree where
  files : List (List String × ByteArray) := []
  directories : List (List String) := []

namespace FileTree

inductive Place where
  | file (content : ByteArray)
  | directory (way : List String)

def at? (tree : FileTree) (way : List String) : Option Place :=
  match tree.files.lookup way with
  | some content => some (.file content)
  | none =>
    if way.isEmpty || tree.directories.any way.isPrefixOf || tree.files.any (way.isPrefixOf ·.1) then
      some (.directory way)
    else none

/-- Follows the components of a path from a place. Empty ones and single dots stay in a directory, double dots lead
out of it. -/
def follow (tree : FileTree) : Place → List String → Except ReadError Place
  | place, [] => .ok place
  | .file _, _ :: _ => .error .notADirectory
  | .directory way, component :: rest =>
    if component = "" ∨ component = "." then tree.follow (.directory way) rest
    else if component = ".." then
      if way.isEmpty then .error .notFound else tree.follow (.directory way.dropLast) rest
    else
      match tree.at? (way ++ [component]) with
      | none => .error .notFound
      | some place => tree.follow place rest

/-- What stands at a path. Paths from the root of all files lead out of the tree. -/
def find (tree : FileTree) (path : String) : Except ReadError Place :=
  match Path.parts path with
  | [""] => .error .notFound
  | "" :: _ :: _ => .error .notFound
  | components => tree.follow (.directory []) components

def read (tree : FileTree) (path : String) : Except ReadError ByteArray :=
  match tree.find path with
  | .error reason => .error reason
  | .ok (.directory _) => .error .isADirectory
  | .ok (.file content) => .ok content

def host (tree : FileTree) (bindings : List (String × String)) (input : ByteArray) : Host Id where
  toReaders := .standard
  environment name := bindings.lookup name
  isPresent path := (tree.find path).isOk
  readFile path := tree.read path
  readInput := .ok input

end FileTree

end Highlighter
