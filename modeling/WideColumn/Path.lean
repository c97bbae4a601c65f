import WideColumn.Text.Quoted
import WideColumn.Text.Utf8

/-!
# Paths

A path names a file or a directory, part by part. It is normalised before it is shown or looked up:
repeated slashes, a slash at the end and parts that stand still are left out. `Directory.find` says
what a path leads to for a program that runs in a directory of texts and knows nothing else: all
that it can tell about other directories is that the way up never ends.
-/

namespace WideColumn

namespace Path

/-! ### Normal form -/

/-- The parts of a path between its slashes. -/
def parts (path : List Char) : List (List Char) :=
  path.splitOn '/'

/-- Whether a part of a path leads anywhere. -/
def moves (part : List Char) : Bool :=
  !part.isEmpty && part != ['.']

/-- The slashes at the start of a path that count: one, or two if there are exactly two. -/
def root : List Char → String
  | '/' :: '/' :: '/' :: _ => "/"
  | '/' :: '/' :: _ => "//"
  | '/' :: _ => "/"
  | _ => ""

/-- A path without repeated slashes, a slash at the end and parts that stand still. -/
def normal (path : String) : String :=
  let chars := path.toList
  let moving := (parts chars).filter moves
  let joined := root chars ++ "/".intercalate (moving.map String.ofList)
  if joined.isEmpty then "." else joined

end Path

/-! ### What a path leads to -/

/-- What there is at a path. -/
inductive FileContent where
  | missing
  | directory
  /-- Nothing can be there, because the path or a part of it is too long. -/
  | tooLong
  /-- Something that cannot be read as a text, and why. -/
  | unreadable (reason : String)
  | text (content : String)
  deriving DecidableEq, Repr

/-- A directory that holds texts by name. -/
structure Directory where
  files : List (String × String)

namespace Directory

/-- The most bytes that the name of a file can have. -/
def maxNameSize : Nat := 255

/-- The most bytes that a path can have. -/
def maxPathSize : Nat := 4095

/-- How far the parts of a path have led. -/
inductive Place where
  | inside
  | outside
  | file (content : String)

/-- Go on from a place by some parts of a path. -/
def follow (directory : Directory) : Place → List (List Char) → FileContent
  | .file content, [] => .text content
  | .inside, [] => .directory
  | .outside, [] => .directory
  -- A file has no parts, not even one that leads up again.
  | .file _, _ :: _ => .missing
  | .inside, part :: rest =>
    if part = ['.', '.'] then directory.follow .outside rest
    else if maxNameSize < (Text.Utf8.encode part).length then .tooLong
    else
      match directory.files.lookup (String.ofList part) with
      | some content => directory.follow (.file content) rest
      | none => .missing
  | .outside, part :: rest =>
    if part = ['.', '.'] then directory.follow .outside rest
    else if maxNameSize < (Text.Utf8.encode part).length then .tooLong
    else .missing

/-- What a path in normal form leads to, for a program that runs in the directory. -/
def find (directory : Directory) (path : String) : FileContent :=
  let chars := path.toList
  -- No file has a name with a null character.
  if '\x00' ∈ chars then .missing
  else if maxPathSize < (Text.Utf8.encode chars).length then .tooLong
  else
    let start := if (Path.root chars).isEmpty then Place.inside else Place.outside
    directory.follow start ((Path.parts chars).filter Path.moves)

end Directory

end WideColumn
