/-!
A file tree as a value. It says for every place whether a directory, a file or nothing is there.
Places are lists of names from the working directory downwards, and paths are texts: split at
slashes, without empty segments and single dots. Reading and writing follow a path through
directories that are there; a write replaces one file and changes nothing else.
-/

namespace GuestCases.Files

def isAbsolute (path : String) : Bool :=
  path.toList.head? == some '/'

def beginsWithDot (cs : List Char) : Bool :=
  match cs with
  | ['.'] => true
  | '.' :: '/' :: _ => true
  | _ => false

def dropVoid : List Char → List Char
  | '/' :: rest => dropVoid rest
  | '.' :: '/' :: rest => dropVoid rest
  | ['.'] => []
  | cs => cs

def dropSegment (cs : List Char) : List Char :=
  (cs.dropWhile (· ≠ '/')).drop 1

/-- The directory that the path is in: empty for a path of one segment, and absent for the root
and the empty path. -/
def directoryOf? (path : String) : Option String :=
  let cs := path.toList
  let head := if isAbsolute path || beginsWithDot cs then cs.take 1 else []
  match dropVoid (cs.drop head.length).reverse with
  | [] => if head = ['.'] then some "" else none
  | body => some (String.ofList (head ++ (dropVoid (dropSegment body)).reverse))

def join (directory path : String) : String :=
  if isAbsolute path then path
  else
    match directory.toList.getLast? with
    | none => path
    | some '/' => directory ++ path
    | some _ => directory ++ "/" ++ path

def segments (path : String) : List String :=
  ((path.toList.splitOn '/').filter (!·.isEmpty)).map String.ofList

def endsInSlash (path : String) : Bool :=
  path.toList.getLast? == some '/'

inductive Fault where
  | notFound
  | notDirectory
  | isDirectory
  | nameTooLong
  | zeroInName
  | notText
deriving DecidableEq, Repr

def Fault.message : Fault → String
  | .notFound => "No such file or directory (os error 2)"
  | .notDirectory => "Not a directory (os error 20)"
  | .isDirectory => "Is a directory (os error 21)"
  | .nameTooLong => "File name too long (os error 36)"
  | .zeroInName => "file name contained an unexpected NUL byte"
  | .notText => "stream did not contain valid UTF-8"

/-- The contents of files are compared as the core library does. -/
instance decidableEqContent : DecidableEq ByteArray := ByteArray.instDecidableEq

inductive Node where
  | directory
  | file (content : ByteArray)
deriving DecidableEq

/-- A place: the names on the way from the working directory, or from the root for a place whose
first name is a slash. -/
abbrev Place := List String

/-- Places that are directories in every tree: the working directory, those above it, and the
root. -/
def isFixed (place : Place) : Bool :=
  place == ["/"] || place.all (· == "..")

def above (place : Place) : Place :=
  if place == ["/"] then place
  else if isFixed place then place ++ [".."]
  else place.dropLast

/-- The place that a segment leads to. One dot stays, two dots lead to the place above, and any
other segment is the name of a place below. -/
def advance (place : Place) (segment : String) : Place :=
  if segment = "." then place
  else if segment = ".." then above place
  else place ++ [segment]

structure Tree where
  nodeAt : Place → Option Node

namespace Tree

def empty : Tree := ⟨fun _ => none⟩

def node? (tree : Tree) (place : Place) : Option Node :=
  if isFixed place then some .directory else tree.nodeAt place

def set (tree : Tree) (place : Place) (node : Option Node) : Tree :=
  ⟨fun other => if other = place then node else tree.nodeAt other⟩

def obstacle? (tree : Tree) (place : Place) : Option Fault :=
  match tree.node? place with
  | none => some .notFound
  | some (.file _) => some .notDirectory
  | some .directory => none

def step (tree : Tree) (place : Place) (segment : String) : Except Fault Place :=
  match tree.obstacle? place with
  | some fault => .error fault
  | none =>
    if 255 < segment.utf8ByteSize then .error .nameTooLong else .ok (advance place segment)

def walk (tree : Tree) (place : Place) : List String → Except Fault Place
  | [] => .ok place
  | segment :: rest => (tree.step place segment).bind fun next => tree.walk next rest

def origin (path : String) : Place :=
  if isAbsolute path then ["/"] else []

def nameFault? (path : String) : Option Fault :=
  if '\x00' ∈ path.toList then some .zeroInName
  else if path.isEmpty then some .notFound
  else if 4096 ≤ path.utf8ByteSize then some .nameTooLong
  else none

def read (tree : Tree) (path : String) : Except Fault ByteArray :=
  match nameFault? path with
  | some fault => .error fault
  | none => do
    let place ← tree.walk (origin path) (segments path)
    match tree.node? place with
    | none => .error .notFound
    | some .directory => .error .isDirectory
    | some (.file content) => if endsInSlash path then .error .notDirectory else .ok content

def readText (tree : Tree) (path : String) : Except Fault String :=
  (tree.read path).bind fun content =>
    match String.fromUTF8? content with
    | some text => .ok text
    | none => .error .notText

/-- The place that a file written to the path takes. A path that can only name a directory is
refused before its last name is looked at. -/
def target (tree : Tree) (path : String) : Except Fault Place :=
  match nameFault? path with
  | some fault => .error fault
  | none =>
    match (segments path).getLast? with
    | none => .error .isDirectory
    | some name => do
      let parent ← tree.walk (origin path) (segments path).dropLast
      match tree.obstacle? parent with
      | some fault => .error fault
      | none =>
        if endsInSlash path || name = "." || name = ".." then .error .isDirectory
        else
          let place ← tree.step parent name
          if tree.node? place = some .directory then .error .isDirectory else .ok place

def write (tree : Tree) (path text : String) : Except Fault Tree :=
  (tree.target path).map fun place => tree.set place (some (.file text.toUTF8))

def withDirectories (tree : Tree) (place : Place) : Tree :=
  ⟨fun other => if other.isPrefixOf place then some .directory else tree.nodeAt other⟩

/-- The tree and the place after one more segment. What two dots leave has become a directory. -/
def pass (tree : Tree) (place : Place) (segment : String) : Tree × Place :=
  (if segment = ".." then tree.withDirectories place else tree, advance place segment)

def put (tree : Tree) (path : String) (node : Node) : Tree :=
  let (passed, place) :=
    (segments path).foldl (fun (tree, place) segment => tree.pass place segment)
      (tree, origin path)
  (passed.withDirectories place).set place (some node)

def remove (tree : Tree) (path : String) : Bool × Tree :=
  match tree.read path with
  | .ok _ =>
    match tree.walk (origin path) (segments path) with
    | .ok place => (true, tree.set place none)
    | .error _ => (false, tree)
  | .error _ => (false, tree)

end Tree

end GuestCases.Files
