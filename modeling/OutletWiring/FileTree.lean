import OutletWiring.Text.Basic

/-!
# Files and directories

The part of a file system that a command works on: files, each by the names on the way to it from
the root, and the directory in which the command is started.
-/

namespace OutletWiring

inductive Content where
  | text (text : Text)
  /-- Bytes that are not UTF-8. -/
  | binary (bytes : List UInt8)
  /-- Withheld, for a reason of the file system. -/
  | locked (reason : Text)
  deriving DecidableEq

namespace Content

def ofBytes (bytes : ByteArray) : Content :=
  match String.fromUTF8? bytes with
  | some decoded => .text decoded.toList
  | none => .binary bytes.toList

def read : Content → Except Text Text
  | .text shown => .ok shown
  | .binary _ => .error "stream did not contain valid UTF-8"
  | .locked reason => .error reason

end Content

/-- The names on the way from a directory to a file or directory below it. -/
abbrev Path := List Text

namespace Path

/-- The path with the names of a text between slashes; `.` or nothing is no name. -/
def ofText (text : Text) : Path :=
  (Text.split '/' text).filter fun name => !(name.isEmpty || name == ".")

/-- By name, directory by directory. -/
def byName (a b : Path) : Bool :=
  (compare a b).isLE

end Path

/-- What stands at a place that a command is pointed to. -/
inductive Located where
  | missing
  | file (path : Path)
  | directory (base : Path) (files : List Path)

/-- A write that fails, and what it leaves in the file. -/
structure WriteFailure where
  reason : Text
  left : Content

structure FileTree where
  files : List (Path × Content) := []
  directories : List Path := []
  /-- Where a path starts that does not start at the root. -/
  workingDirectory : Path := []
  writeFailure? : Path → Text → Option WriteFailure := fun _ _ => none
  written : List Path := []
  nodup : (files.map Prod.fst).Nodup := by decide

namespace FileTree

/-- A path that is taken already keeps its file. -/
def addFile (tree : FileTree) (path : Path) (content : Content) : FileTree :=
  if h : path ∈ tree.files.map Prod.fst then tree
  else
    { tree with
      files := (path, content) :: tree.files
      nodup := List.nodup_cons.mpr ⟨h, tree.nodup⟩ }

/-- The tree of two lists below the working directory; of two files with one path the last. -/
def ofLists (workingDirectory : Path) (files : List (Path × Content)) (directories : List Path) :
    FileTree :=
  files.foldr (fun file tree => tree.addFile (workingDirectory ++ file.1) file.2)
    { directories := directories.map (workingDirectory ++ ·), workingDirectory := workingDirectory }

def file? (tree : FileTree) (path : Path) : Option Content :=
  tree.files.lookup path

def isDirectory (tree : FileTree) (path : Path) : Bool :=
  path.isPrefixOf tree.workingDirectory || tree.directories.any path.isPrefixOf ||
    tree.files.any fun file => path.isPrefixOf file.1 && path.length < file.1.length

/-- The files below a directory, by their path from it. -/
def below (tree : FileTree) (path : Path) : List Path :=
  (tree.files.filter fun file => path.isPrefixOf file.1).map fun file => file.1.drop path.length

/-- A step from a directory: a name leads down, `..` up, though not above the root. -/
def step? (tree : FileTree) (path : Path) (name : Text) : Option Path :=
  if !tree.isDirectory path then none
  else if name.isEmpty || name == "." then some path
  else if name == ".." then some path.dropLast
  else some (path ++ [name])

/-- The path that an argument leads to, name by name, from the root if it starts with a slash. -/
def resolve? (tree : FileTree) (argument : Text) : Option Path :=
  if argument.isEmpty then none
  else
    (Text.split '/' argument).foldlM tree.step?
      (if argument.head? = some '/' then [] else tree.workingDirectory)

def lookAt (tree : FileTree) (path : Path) : Located :=
  if (tree.file? path).isSome then .file path
  else if tree.isDirectory path then .directory path (tree.below path)
  else .missing

def locate (tree : FileTree) (argument : Text) : Located :=
  match tree.resolve? argument with
  | some path => tree.lookAt path
  | none => .missing

def read (tree : FileTree) (path : Path) : Except Text Text :=
  match tree.file? path with
  | some content => content.read
  | none => .error "No such file or directory (os error 2)"

def replaced (path : Path) (content : Content) (file : Path × Content) : Path × Content :=
  if file.1 = path then (file.1, content) else file

theorem map_fst_replaced (path : Path) (content : Content) (files : List (Path × Content)) :
    (files.map (replaced path content)).map Prod.fst = files.map Prod.fst := by
  rw [List.map_map]
  congr 1
  funext file
  simp only [Function.comp, replaced]
  split <;> rfl

def put (tree : FileTree) (path : Path) (content : Content) : FileTree :=
  { tree with
    files := tree.files.map (replaced path content)
    written := tree.written ++ [path]
    nodup := map_fst_replaced path content tree.files ▸ tree.nodup }

def write (tree : FileTree) (path : Path) (text : Text) : Except Text Unit × FileTree :=
  match tree.writeFailure? path text with
  | none => (.ok (), tree.put path (.text text))
  | some failure => (.error failure.reason, tree.put path failure.left)

end FileTree

end OutletWiring
