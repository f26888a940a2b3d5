import DomainModel.CommandLine.FileTree

/-!
# File systems

The programs that read and write files, whatever holds these: a tree that is handed on from step
to step, or a disk. A fault ends a program and leaves what it did before.
-/

namespace DomainModel

class FileSystem (m : Type → Type) where
  read (path : String) : ExceptT FileFault m ByteArray
  /-- Replaces the bytes of a file, or makes one in a folder that is there. -/
  write (path : String) (bytes : ByteArray) : ExceptT FileFault m Unit
  /-- Makes a folder and those around it, where they are missing. -/
  makeFolders (path : String) : ExceptT FileFault m Unit

namespace FileTree

-- Contents are compared in the same way under all imports.
attribute [local instance (high)] ByteArray.instDecidableEq

/-- Replaces the tree by what a step makes of it; a step that fails keeps it. -/
def change (step : FileTree → Except FileFault FileTree) :
    ExceptT FileFault (StateM FileTree) Unit :=
  ExceptT.mk fun tree =>
    match step tree with
    | .ok tree => (.ok (), tree)
    | .error fault => (.error fault, tree)

instance : FileSystem (StateM FileTree) where
  read path := ExceptT.mk fun tree => (tree.read path, tree)
  write path bytes := change (·.write path bytes)
  makeFolders path := change (·.makeFolders path)

/-- The files of the working folder that are not in an earlier tree as they are here. -/
def changedSince (now before : FileTree) : List (List String × ByteArray) :=
  now.files.filter fun f => !isOutside f.1 && before.file? f.1 ≠ some f.2

end FileTree

end DomainModel
