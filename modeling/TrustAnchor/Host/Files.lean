import TrustAnchor.Host
import TrustAnchor.Memory

/-!
A host in memory: a tree of named files, among them the usual character devices and a TPM that answers from
a script.

Names are resolved as on a Unix system: from the root or from the working folder, through folders only.  A
name is only a way to a regular file: the content is kept apart from the names, and who has the file open
reads and writes it also after the name is gone.
-/

namespace TrustAnchor

/-- What a name in the tree refers to. -/
inductive Node
  | folder
  /-- A regular file, by its number. -/
  | file (number : Nat)
  /-- Takes everything and gives nothing. -/
  | null
  /-- Takes everything and gives zeros. -/
  | zero
  /-- Has no room, and gives zeros. -/
  | full
  /-- A TPM with the replies for each connection still to come; without one left it is not there. -/
  | tpm (connections : List (List Bytes))
  deriving Repr

/-- A file that is open for reading and writing. -/
inductive OpenFile
  | null
  | zero
  | full
  /-- A regular file, by its number, and where the next read or write begins. -/
  | file (number offset : Nat)
  /-- A connection to a TPM, with the replies it will give. -/
  | tpm (replies : List Bytes)
  deriving Repr

structure Files where
  /-- Every name from the root, except the root itself. -/
  nodes : List (List String × Node)
  workingFolder : List String
  /-- The contents of all regular files there have been; a file's number is its place. -/
  stored : List Bytes
  /-- The files opened so far; the number under which a file is open is its place. -/
  opened : List OpenFile
  /-- The commands that reached a TPM, the oldest first. -/
  received : List Bytes

namespace Files

/-- The folders in the root of every system. -/
def rootFolders : List String :=
  ["bin", "boot", "dev", "etc", "home", "lib", "media", "mnt", "opt", "proc", "root", "run", "sbin", "srv",
    "sys", "tmp", "usr", "var"]

/-- A tree that holds only what every system has, and the working folder. -/
def bare (workingFolder : List String) : Files where
  nodes :=
    [(["dev", "null"], .null), (["dev", "zero"], .zero), (["dev", "full"], .full), (workingFolder, .folder)]
      ++ rootFolders.map fun name => ([name], .folder)
  workingFolder := workingFolder
  stored := []
  opened := []
  received := []

def find? (files : Files) (name : List String) : Option Node :=
  if name = [] then some .folder
  else
    match files.nodes.find? fun entry => entry.1 == name with
    | none => none
    | some (_, .tpm []) => none
    | some (_, node) => some node

/-- Puts a node under a name, in place of what was there. -/
def put (files : Files) (name : List String) (node : Node) : Files :=
  { files with nodes := (name, node) :: files.nodes.filter fun entry => entry.1 != name }

/-- Removes a name. -/
def erase (files : Files) (name : List String) : Files :=
  { files with nodes := files.nodes.filter fun entry => entry.1 != name }

/-- The content of the regular file with a number. -/
def content (files : Files) (number : Nat) : Bytes := files.stored.getD number []

/-- Changes the content of a regular file. -/
def store (files : Files) (number : Nat) (content : Bytes) : Files :=
  { files with stored := files.stored.set number content }

/-- Gives a content to the regular file under a name, which is a new file if the name leads to none. -/
def save (files : Files) (name : List String) (content : Bytes) : Files :=
  match files.find? name with
  | some (.file number) => files.store number content
  | _ => { files.put name (.file files.stored.length) with stored := files.stored ++ [content] }

/-- The longest name and the longest path, in bytes. -/
def nameLimit : Nat := 255

def pathLimit : Nat := 4095

/-- Follows the components of a path from a name in the tree. -/
def walk (files : Files) : List String → List String → Except IoError (List String)
  | name, [] => .ok name
  | name, component :: rest =>
    match files.find? name with
    | none => .error .notFound
    | some .folder =>
      if component = "" ∨ component = "." then walk files name rest
      else if component = ".." then walk files name.dropLast rest
      else if nameLimit < component.utf8ByteSize then .error .nameTooLong
      else walk files (name ++ [component]) rest
    | some _ => .error .notDirectory

/-- The name in the tree that a path leads to, and what is there. -/
def resolve (files : Files) (path : String) : Except IoError (List String × Node) :=
  if path.toList.contains (Char.ofNat 0) then .error .nulInPath
  else if path = "" then .error .notFound
  else if pathLimit < path.utf8ByteSize then .error .nameTooLong
  else
    let start := if path.toList.head? = some '/' then [] else files.workingFolder
    match files.walk start (path.splitOn "/") with
    | .error error => .error error
    | .ok name =>
      match files.find? name with
      | none => .error .notFound
      | some node => .ok (name, node)

def present (path : String) (files : Files) : Bool := (files.resolve path).isOk

/-- The files with one more open. -/
def withOpened (files : Files) (file : OpenFile) : Files :=
  { files with opened := files.opened ++ [file] }

def openFile (path : String) : EStateM IoError Files Nat := fun files =>
  let number := files.opened.length
  match files.resolve path with
  | .error error => .error error files
  | .ok (_, .folder) => .error .isDirectory files
  | .ok (_, .file file) => .ok number (files.withOpened (.file file 0))
  | .ok (_, .null) => .ok number (files.withOpened .null)
  | .ok (_, .zero) => .ok number (files.withOpened .zero)
  | .ok (_, .full) => .ok number (files.withOpened .full)
  | .ok (_, .tpm []) => .error .notFound files
  | .ok (name, .tpm (replies :: later)) =>
    .ok number ((files.put name (.tpm later)).withOpened (.tpm replies))

def setOpened (files : Files) (number : Nat) (file : OpenFile) : Files :=
  { files with opened := files.opened.set number file }

/-- Bytes written over a content from an offset on; a gap before them is filled with zeros. -/
def writeAt (offset : Nat) (data content : Bytes) : Bytes :=
  Bytes.padTo offset (content.take offset) ++ data ++ content.drop (offset + data.length)

def write (number : Nat) (data : Bytes) : EStateM IoError Files Unit := fun files =>
  match files.opened[number]? with
  | none => .error .notFound files
  | some .null => .ok () files
  | some .zero => .ok () files
  | some .full => if data = [] then .ok () files else .error .noSpace files
  | some (.tpm _) => .ok () { files with received := files.received ++ [data] }
  | some (.file file offset) =>
    .ok () ((files.store file (writeAt offset data (files.content file))).setOpened number
      (.file file (offset + data.length)))

def read (number limit : Nat) : EStateM IoError Files Bytes := fun files =>
  match files.opened[number]? with
  | none => .error .notFound files
  | some .null => .ok [] files
  | some .zero => .ok (Bytes.zeros limit) files
  | some .full => .ok (Bytes.zeros limit) files
  | some (.tpm []) => .ok [] files
  | some (.tpm [last]) => .ok (last.take limit) (files.setOpened number (.tpm []))
  | some (.tpm (reply :: later)) =>
    .ok ((Bytes.padTo limit reply).take limit) (files.setOpened number (.tpm later))
  | some (.file file offset) =>
    let data := ((files.content file).drop offset).take limit
    .ok data (files.setOpened number (.file file (offset + data.length)))

def contents (path : String) (files : Files) : Except FileError Bytes :=
  match files.resolve path with
  | .error error => .error (.opening error)
  | .ok (_, .folder) => .error (.reading .isDirectory)
  | .ok (_, .file number) => .ok (files.content number)
  | .ok _ => .ok []

/-- The tree as a host. -/
def host : Host Files where
  present := present
  openFile := openFile
  write := write
  read := read
  contents := contents
  reserve := Memory.reserve
  readJson? := Json.parse?

end Files

end TrustAnchor
