import DebugExpr.Text.Line

/-!
Files as the console finds them: directories of files and of further directories, and the paths that
lead to them.
-/

namespace DebugExpr.Console

inductive FileError where
  | notFound
  | notDirectory
  | isDirectory
  | nameTooLong
  | notPermitted
  | notText
  deriving DecidableEq, Repr, Inhabited

abbrev FileSystem := String → Except FileError String

inductive FileTree where
  | file (text : String)
  | directory (entries : List (String × FileTree))
  deriving Inhabited

namespace FileTree

def maxNameLength : Nat := 255

def maxPathLength : Nat := 4095

/-- Follows the parts of a path from a place; `outer` are the directories around it, the innermost
first. A dot stands for the place itself and two dots for the directory around it, which for the
outermost one is that one. -/
def follow : List FileTree → FileTree → List String → Except FileError FileTree
  | _, place, [] => .ok place
  | _, file _, _ :: _ => .error .notDirectory
  | outer, directory entries, part :: rest =>
      if part = "" ∨ part = "." then
        follow outer (directory entries) rest
      else if part = ".." then
        match outer with
        | [] => follow [] (directory entries) rest
        | around :: further => follow further around rest
      else if maxNameLength < part.utf8ByteSize then
        .error .nameTooLong
      else
        match entries.lookup part with
        | some inner => follow (directory entries :: outer) inner rest
        | none => .error .notFound

def read (outer : List FileTree) (place : FileTree) : FileSystem := fun path =>
  if maxPathLength < path.utf8ByteSize then
    .error .nameTooLong
  else
    let parts := (Text.splitAtEach '/' path.toList).map String.ofList
    let reached :=
      if path.toList.head? = some '/' then
        follow [] (outer.getLast?.getD place) parts
      else
        follow outer place parts
    match reached with
    | .ok (file text) => .ok text
    | .ok (directory _) => .error .isDirectory
    | .error error => .error error

end FileTree

end DebugExpr.Console
