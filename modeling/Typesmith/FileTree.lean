import Typesmith.Dict
import Typesmith.Error
import Typesmith.Path

/-! # File trees

Files and directories by their names from the root. The working directory and the directories that
hold it always exist; relative paths start there.
-/

namespace Typesmith

inductive Content where
  | text (value : String)
  | bytes (value : List UInt8)
deriving DecidableEq, Repr

namespace Content

def toBytes : Content → List UInt8
  | text value => value.toUTF8.toList
  | bytes value => value

def text? : Content → Option String
  | text value => some value
  | bytes value => String.fromUTF8? ⟨value.toArray⟩

end Content

inductive FileTree.Entry where
  | file (content : Content)
  | directory
deriving DecidableEq, Repr

structure FileTree where
  /-- The names that lead from the root to the working directory. -/
  base : List String
  entries : Dict FileTree.Entry

namespace FileTree

def empty (base : List String) : FileTree := ⟨base, .empty⟩

instance : Inhabited FileTree := ⟨empty []⟩

def key (names : List String) : String :=
  "/".intercalate names

def entry? (tree : FileTree) (names : List String) : Option Entry :=
  if names.isPrefixOf tree.base then some .directory else tree.entries.get? (key names)

/-- One segment of a path, seen from a directory. -/
def step (tree : FileTree) (names : List String) : String → Except FileError (List String)
  | "" | "." => .ok names
  | ".." => .ok names.dropLast
  | name =>
    if 255 < name.utf8ByteSize then .error .nameTooLong
    else if (tree.entry? (names ++ [name])).isSome then .ok (names ++ [name])
    else .error .notFound

/-- The walk along the segments of a path: only a directory can be left by a further segment. -/
def walk (tree : FileTree) (names : List String) : List String → Except FileError (List String)
  | [] => .ok names
  | segment :: rest =>
    match tree.entry? names with
    | some .directory => (tree.step names segment).bind fun next => walk tree next rest
    | _ => .error .notADirectory

def start (tree : FileTree) (path : String) : List String :=
  if path.toList.head? = some '/' then [] else tree.base

def locate (tree : FileTree) (path : String) : Except FileError (List String) :=
  if path.isEmpty then .error .notFound
  else if path.toList.contains '\x00' then
    .error (.other "file name contained an unexpected NUL byte")
  else tree.walk (tree.start path) (Path.segments path)

def find (tree : FileTree) (path : String) : Except FileError Entry :=
  (tree.locate path).bind fun names =>
    match tree.entry? names with
    | some entry => .ok entry
    | none => .error .notFound

def exists? (tree : FileTree) (path : String) : Bool :=
  match tree.find path with
  | .ok _ => true
  | .error _ => false

def isFile (tree : FileTree) (path : String) : Bool :=
  match tree.find path with
  | .ok (.file _) => true
  | _ => false

def read (tree : FileTree) (path : String) : Except FileError Content :=
  (tree.find path).bind fun
    | .directory => .error .isDirectory
    | .file content => .ok content

def readBytes (tree : FileTree) (path : String) : Except FileError (List UInt8) :=
  (tree.read path).map Content.toBytes

def readText (tree : FileTree) (path : String) : Except FileError String :=
  (tree.read path).bind fun content =>
    match content.text? with
    | some text => .ok text
    | none => .error .notUtf8

/-- The names that a path leads to, read without regard to the entries. -/
def names (tree : FileTree) (path : String) : List String :=
  (Path.segments path).foldl (fun found segment =>
    if segment = "" ∨ segment = "." then found
    else if segment = ".." then found.dropLast
    else found ++ [segment]) (tree.start path)

def write (tree : FileTree) (path : String) (entry : Entry) : FileTree :=
  let target := tree.names path
  let parents := (List.range target.length).map target.take
  let withParents := parents.foldl (fun entries parent =>
    if (tree.entry? parent).isSome then entries else entries.insert (key parent) .directory)
    tree.entries
  if target.isPrefixOf tree.base then tree
  else { tree with entries := withParents.insert (key target) entry }

def remove (tree : FileTree) (path : String) : Except FileError FileTree :=
  (tree.locate path).bind fun names =>
    match tree.entry? names with
    | some (.file _) => .ok { tree with entries := tree.entries.erase (key names) }
    | some .directory => .error .isDirectory
    | none => .error .notFound

end FileTree

end Typesmith
