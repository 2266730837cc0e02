import Conformance.Shown

namespace Conformance

inductive IoError
  | notFound
  | alreadyExists
  | notADirectory
  | isADirectory
  | nameTooLong
  | undecodable
  | nulInName
  | other (text : String)
  deriving DecidableEq, Repr

namespace IoError

def message : IoError → String
  | notFound => "No such file or directory (os error 2)"
  | alreadyExists => "File exists (os error 17)"
  | notADirectory => "Not a directory (os error 20)"
  | isADirectory => "Is a directory (os error 21)"
  | nameTooLong => "File name too long (os error 36)"
  | undecodable => "stream did not contain valid UTF-8"
  | nulInName => "file name contained an unexpected NUL byte"
  | other text => text

end IoError

inductive FileNode
  | file (content : ByteArray)
  | directory

instance : BEq FileNode where
  beq
    | .file a, .file b => a.data == b.data
    | .directory, .directory => true
    | _, _ => false

namespace Path

def isAbsolute (path : String) : Bool := path.toList.head? == some '/'

def names (path : String) : List String :=
  (path.splitOn "/").filter fun n ↦ n ≠ "" && n ≠ "."

def asksForDirectory (path : String) : Bool :=
  match (path.splitOn "/").getLast? with
  | some last => last == "" || last == "." || last == ".."
  | none => true

def join (dir name : String) : String :=
  if dir = "" || dir.toList.getLast? == some '/' then dir ++ name else dir ++ "/" ++ name

def start (path : String) : List String := if isAbsolute path then ["/"] else []

def above (place : List String) : List String :=
  match place.getLast? with
  | none | some ".." => place ++ [".."]
  | some "/" => place
  | some _ => place.dropLast

def ofPlace : List String → String
  | "/" :: names => "/" ++ "/".intercalate names
  | names => "/".intercalate names

end Path

/-- What stands at each place, which is the list of names that leads to it from the working
directory, with `..` for each step up from there, or from the root, which is named by a slash. The
root, the working directory and those above it always exist. -/
structure FileTree where
  workingDirectory : String := ""
  entries : List (List String × FileNode) := []

namespace FileTree

def node? (t : FileTree) (place : List String) : Option FileNode :=
  if place = ["/"] || place.all (· == "..") then some .directory else t.entries.lookup place

def put (t : FileTree) (place : List String) (n : FileNode) : FileTree :=
  { t with entries := (place, n) :: t.entries.filter (·.1 ≠ place) }

/-- Follows names down from `place`; only the last of them may be missing. -/
def follow (t : FileTree) (place : List String) :
    List String → Except IoError (List String × Option FileNode)
  | [] => .ok (place, t.node? place)
  | name :: rest =>
    if name = ".." then t.follow (Path.above place) rest
    else if 255 < name.utf8ByteSize then .error .nameTooLong
    else
      let next := place ++ [name]
      match rest, t.node? next with
      | [], n => .ok (next, n)
      | _, none => .error .notFound
      | _, some (.file _) => .error .notADirectory
      | rest, some .directory => t.follow next rest

def relative (t : FileTree) (path : String) : String :=
  let root := (Path.join t.workingDirectory "").toList
  if root.isPrefixOf path.toList then String.ofList (path.toList.drop root.length) else path

def locate (t : FileTree) (path : String) : Except IoError (List String × Option FileNode) :=
  if path.toList.contains '\x00' then .error .nulInName
  else if path = "" then .error .notFound
  else if 4095 < path.utf8ByteSize then .error .nameTooLong
  else
    let path := t.relative path
    t.follow (Path.start path) (Path.names path)

def isFile (t : FileTree) (path : String) : Bool :=
  match t.locate path with
  | .ok (_, some (.file _)) => !Path.asksForDirectory path
  | _ => false

def readText (t : FileTree) (path : String) : Except IoError String :=
  match t.locate path with
  | .error e => .error e
  | .ok (_, none) => .error .notFound
  | .ok (_, some .directory) => .error .isADirectory
  | .ok (_, some (.file content)) =>
    if Path.asksForDirectory path then .error .notADirectory
    else match String.fromUTF8? content with
      | some text => .ok text
      | none => .error .undecodable

def makeDirectories (t : FileTree) (place : List String) : List String → Except IoError FileTree
  | [] => .ok t
  | name :: rest =>
    if name = ".." then t.makeDirectories (Path.above place) rest
    else if 255 < name.utf8ByteSize then .error .nameTooLong
    else
      let next := place ++ [name]
      match t.node? next with
      | some .directory => t.makeDirectories next rest
      | some (.file _) => .error (if rest.isEmpty then .alreadyExists else .notADirectory)
      | none => (t.put next .directory).makeDirectories next rest

def writeText (t : FileTree) (path : String) (text : String) : Except IoError FileTree :=
  match t.locate path with
  | .error e => .error e
  | .ok (_, some .directory) => .error .isADirectory
  | .ok (place, n) =>
    if Path.asksForDirectory path then .error (if n.isSome then .notADirectory else .isADirectory)
    else .ok (t.put place (.file text.toUTF8))

def writeInto (t : FileTree) (path : String) (text : String) : Except IoError FileTree := do
  let inTree := t.relative path
  if path.toList.contains '\x00' then t.writeText path text
  else
    let t ← t.makeDirectories (Path.start inTree) (Path.names inTree).dropLast
    t.writeText path text

def ofFiles (workingDirectory : String) (files : List (String × FileNode)) : FileTree :=
  files.foldl
    (fun t (path, n) ↦
      let path := t.relative path
      match t.makeDirectories (Path.start path) (Path.names path).dropLast with
      | .ok t => t.put (Path.start path ++ Path.names path) n
      | .error _ => t)
    ⟨workingDirectory, []⟩

def changes (before after : FileTree) : List (List String × FileNode) :=
  (after.entries.filter fun (place, n) ↦ before.node? place != some n).reverse

end FileTree

end Conformance
