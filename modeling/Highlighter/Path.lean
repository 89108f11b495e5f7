import Highlighter.Unicode.Case

/-! File paths: their components and the extension of the file that they name. -/

namespace Highlighter.Path

/-- What stands between the slashes of a path. -/
def parts (path : String) : List String := (path.toList.splitOn '/').map String.ofList

/-- The components of a path. Doubled and final slashes and dots alone make none. -/
def components (path : String) : List String :=
  (parts path).filter fun component => component ≠ "" && component ≠ "."

/-- The file that a path names: its last component, unless that leads upward. -/
def fileName? (path : String) : Option String :=
  match (components path).getLast? with
  | some ".." => none
  | last => last

/-- What follows the last dot of a file's name. A dot in front alone begins no extension. -/
def extensionOf? (fileName : String) : Option String :=
  let backward := fileName.toList.reverse
  match backward.dropWhile (· ≠ '.') with
  | [] => none
  | [_] => none
  | _ :: _ :: _ => some (.ofList (backward.takeWhile (· ≠ '.')).reverse)

def extension? (path : String) : Option String := (fileName? path).bind extensionOf?

def join (directory file : String) : String :=
  if directory = "" || directory.endsWith "/" then directory ++ file else directory ++ "/" ++ file

end Highlighter.Path
