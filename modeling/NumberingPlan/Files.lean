import NumberingPlan.Path
import NumberingPlan.Text.Decimal
import NumberingPlan.Text.Quoted

/-! Reading files, and a tree of files that is kept in memory. -/

namespace NumberingPlan

/-- Why a file cannot be read: the system's number for it and its words. -/
structure ReadFault where
  number : Nat
  words : String
  deriving DecidableEq, Repr

namespace ReadFault

def missing : ReadFault := ⟨2, "No such file or directory"⟩

def notDirectory : ReadFault := ⟨20, "Not a directory"⟩

def isDirectory : ReadFault := ⟨21, "Is a directory"⟩

def nameTooLong : ReadFault := ⟨36, "File name too long"⟩

def message (fault : ReadFault) (path : Path) : String :=
  "[Errno " ++ Decimal.text fault.number ++ "] " ++ fault.words ++ ": " ++ Text.quote path.text

end ReadFault

abbrev FileReader := Path → Except ReadFault (List UInt8)

inductive FileEntry where
  | file (bytes : List UInt8)
  | directory
  deriving DecidableEq, Repr

/-- The entries of a tree by their parts below the working directory. A directory is there with
anything that is put into it. -/
abbrev Files := List (List String × FileEntry)

namespace Files

/-- The longest name of an entry, in bytes. -/
def maxNameLength : Nat := 255

def write (files : Files) (parts : List String) (entry : FileEntry) : Files :=
  (parts, entry) :: List.filter (fun kept => kept.1 != parts) files

def delete (files : Files) (parts : List String) : Files :=
  List.filter (fun kept => !parts.isPrefixOf kept.1) files

def found? (files : Files) (parts : List String) : Option FileEntry :=
  match List.lookup parts files with
  | some entry => some entry
  | none =>
    if parts.isEmpty || files.any (fun kept => parts.isPrefixOf kept.1) then some .directory
    else none

def contents : Option FileEntry → Except ReadFault (List UInt8)
  | none => .error .missing
  | some .directory => .error .isDirectory
  | some (.file bytes) => .ok bytes

/-- Goes down one part after the other, each but the last naming a directory. -/
def walk (files : Files) : List String → List String → Except ReadFault (List UInt8)
  | here, [] => contents (files.found? here)
  | here, part :: rest =>
    match files.found? here with
    | none => .error .missing
    | some (.file _) => .error .notDirectory
    | some .directory =>
      if maxNameLength < part.utf8ByteSize then .error .nameTooLong
      else files.walk (if part == ".." then here.dropLast else here ++ [part]) rest

/-- Reads a path below the working directory; outside of it there are only the directories that it
lies in. -/
def reader (files : Files) (working : Path) : FileReader := fun path =>
  if path.isRooted then
    if working.isRooted && working.parts.isPrefixOf path.parts then
      files.walk [] (path.parts.drop working.parts.length)
    else .error (if path.parts.isPrefixOf working.parts then .isDirectory else .missing)
  else files.walk [] path.parts

end Files

end NumberingPlan
