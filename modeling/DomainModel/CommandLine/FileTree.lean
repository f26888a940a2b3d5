/-!
# File trees

The files and folders below a working folder, and what reading, writing and making folders does to
them. A path is a list of names between slashes; a tree is named by such lists. Around the working
folder there are folders too, of which little is known: those above it are named by dots, and those of
the whole system by a slash in front.
-/

namespace DomainModel

inductive FileFault
  | notFound
  | notFolder
  | isFolder
  | alreadyExists
  | tooLong
  /-- No file can have such a name. -/
  | unnameable
  | undecodable
  | other
deriving Repr, DecidableEq

def FileFault.message : FileFault → String
  | notFound => "no such file or folder"
  | notFolder => "not a folder"
  | isFolder => "a folder, where a file is needed"
  | alreadyExists => "the file exists"
  | tooLong => "the name is too long"
  | unnameable => "no file can have this name"
  | undecodable => "the file is no text in UTF-8"
  | other => "the file cannot be used"

namespace Path

def pieces : List Char → List (List Char)
  | [] => [[]]
  | c :: cs =>
    if c = '/' then [] :: pieces cs
    else
      match pieces cs with
      | [] => [[c]]
      | p :: ps => (c :: p) :: ps

def names (path : String) : List String :=
  ((pieces path.toList).filter (¬·.isEmpty)).map String.ofList

/-- Whether a path ends in a slash, so that only a folder can be meant. -/
def meansFolder (path : String) : Bool := path.toList.getLast? = some '/'

def isAbsolute (path : String) : Bool := path.toList.head? = some '/'

/-- A path in its shortest spelling: no doubled or closing slashes and no single dots. -/
def normalize (path : String) : String :=
  let parts := (names path).filter (· ≠ ".")
  let body := "/".intercalate parts
  if isAbsolute path then "/" ++ body else if parts.isEmpty then "." else body

/-- The path of a name within a folder; an absolute name stands for itself. -/
def join (folder name : String) : String :=
  if isAbsolute name ∨ folder.isEmpty then normalize name else normalize (folder ++ "/" ++ name)

end Path

structure FileTree where
  files : List (List String × ByteArray)
  folders : List (List String)

namespace FileTree

def ofFiles (files : List (String × ByteArray)) : FileTree :=
  let entries := files.map fun f => ((Path.names f.1).filter (· ≠ "."), f.2)
  ⟨entries, entries.flatMap fun e => (List.range e.1.length).map (e.1.take ·)⟩

def sink : List String := ["/", "dev", "null"]

def systemFolders : List (List String) :=
  ["/"] :: ["bin", "dev", "etc", "home", "lib", "media", "mnt", "opt", "proc", "root", "run", "sbin",
    "srv", "sys", "tmp", "usr", "var"].map fun name => ["/", name]

def isOutside (key : List String) : Bool := key.head? = some "/" || key.head? = some ".."

def file? (t : FileTree) (key : List String) : Option ByteArray :=
  if key = sink then some .empty else t.files.lookup key

def isFolder (t : FileTree) (key : List String) : Bool :=
  key.all (· = "..") || key ∈ systemFolders || key ∈ t.folders

def around (folder : List String) : List String :=
  if folder.all (· = "..") then folder ++ [".."]
  else if folder = ["/"] then folder
  else folder.dropLast

def nameLimit : Nat := 255

def pathLimit : Nat := 4095

def names (path : String) : Except FileFault (List String) :=
  if '\x00' ∈ path.toList then .error .unnameable
  else if pathLimit < path.utf8ByteSize then .error .tooLong
  else .ok ((if Path.isAbsolute path then ["/"] else []) ++ Path.names path)

/-- Where a path leads: all that it goes through must be folders, its last name may be new. -/
def locate (t : FileTree) (folder : List String) : List String → Except FileFault (List String)
  | [] => .ok folder
  | name :: rest =>
    if name = "." then t.locate folder rest
    else if name = ".." then t.locate (around folder) rest
    else if name = "/" then t.locate ["/"] rest
    else if nameLimit < name.utf8ByteSize then .error .tooLong
    else
      let key := folder ++ [name]
      if rest.isEmpty then .ok key
      else if t.isFolder key then t.locate key rest
      else if (t.file? key).isSome then .error .notFolder
      else .error .notFound

/-- Where a path leads from the working folder; the empty path leads nowhere. -/
def find (t : FileTree) (path : String) : Except FileFault (List String) := do
  let names ← names path
  if path.isEmpty then throw .notFound
  t.locate [] names

def read (t : FileTree) (path : String) : Except FileFault ByteArray := do
  let key ← t.find path
  if t.isFolder key then throw .isFolder
  match t.file? key with
  | none => throw .notFound
  | some bytes => if Path.meansFolder path then throw .notFolder else return bytes

def put (key : List String) (bytes : ByteArray) :
    List (List String × ByteArray) → List (List String × ByteArray)
  | [] => [(key, bytes)]
  | f :: fs => if f.1 = key then (key, bytes) :: fs else f :: put key bytes fs

def write (t : FileTree) (path : String) (bytes : ByteArray) : Except FileFault FileTree := do
  let key ← t.find path
  if t.isFolder key ∨ Path.meansFolder path then throw .isFolder
  if key = sink then return t
  return { t with files := put key bytes t.files }

def makeFolder (t : FileTree) (names : List String) : Except FileFault FileTree := do
  let key ← t.locate [] names
  if t.isFolder key ∨ (t.file? key).isSome then throw .alreadyExists
  return { t with folders := t.folders ++ [key] }

/-- Whether a folder is there already, after the attempt to make it has failed. -/
def orExisting (t : FileTree) (names : List String) (fault : FileFault) :
    Except FileFault FileTree :=
  match t.locate [] names with
  | .ok key => if t.isFolder key then .ok t else .error fault
  | .error _ => .error fault

/-- Makes a folder and the folders around it, unless they are there; `depth` bounds how many those
are. -/
def makeFoldersWithin : (depth : Nat) → FileTree → List String → Except FileFault FileTree
  | 0, t, names => t.makeFolder names
  | depth + 1, t, names =>
    match t.makeFolder names with
    | .ok t => .ok t
    | .error .notFound =>
      if names.isEmpty then .error .notFound
      else do
        let t ← makeFoldersWithin depth t names.dropLast
        match t.makeFolder names with
        | .ok t => return t
        | .error fault => t.orExisting names fault
    | .error fault => t.orExisting names fault

def makeFolders (t : FileTree) (path : String) : Except FileFault FileTree := do
  let names ← names path
  makeFoldersWithin names.length t names

end FileTree

end DomainModel
