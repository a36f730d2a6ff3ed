import AChat.Lib.Stdio

/-!
Owns the file manager, which all sessions share: the list of the file names that
are known to be there.

A name is the byte string of the protocol. The C library reads it up to the first
zero byte. `fileOf` is the path resolution of the operating system.
-/

namespace AChat.FileServer

open Lib

/-- `std::string`. -/
abbrev Name := Bytes

/-- `c_str`, as the C library reads it. -/
def cStr (name : Name) : Name :=
  name.takeWhile fun byte => byte != 0

/-- The path of a file below a directory. -/
def pathOf (baseDir filename : Name) : Name :=
  cStr (baseDir ++ filename)

structure FileManager where
  listFiles : List Name
  basepath : Name
deriving DecidableEq, Repr

namespace FileManager

variable {File : Type} (fileOf : Name → File)

/-- `init` on a directory with these entries. -/
def init (basepath : Name) (entries : List Name) : FileManager where
  listFiles := entries.filter fun entry => entry != [46] && entry != [46, 46]
  basepath := basepath

/-- `addFile`. -/
def addFile (manager : FileManager) (filename : Name) : FileManager :=
  { manager with listFiles := manager.listFiles ++ [cStr filename] }

/-- `isFileExsit`: the name is in the list, or the file can be opened. -/
def isFileExsit (manager : FileManager) (disk : File → Option Bytes) (filename : Name)
    (opens : Bool) : Bool × FileManager :=
  if cStr filename ∈ manager.listFiles then (true, manager)
  else if opens ∧ (disk (fileOf (pathOf manager.basepath (cStr filename)))).isSome then
    (true, manager.addFile filename)
  else (false, manager)

end FileManager

end AChat.FileServer
