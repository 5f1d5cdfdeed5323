import ChangeLog.Bytes.Hex
/-
  A directory tree held in memory, the medium the logs are written to. Names map to
  directories, to files, or to a device that is always full; a file's bytes live apart from
  its names, so a log that holds a file open keeps writing to it after its name is taken
  away.

  When the disk is limited, a step runs under faults. A file then grows at most to the size
  limit: a write that would take it further writes the bytes that fit and fails, as writes do
  under a file-size limit, so a failed write can leave part of its bytes behind. When the
  medium also fails its flushes, forcing out the data just written fails with an I/O error
  after the write went through. Shortening a file, creating an empty one and a full sync of a
  file still work.
-/

namespace ChangeLog

/-- The failures of the medium, with the system's wording. -/
inductive IoError where
  | notFound
  | isDirectory
  | exists
  | notDirectory
  | fileTooLarge
  | noSpace
  | invalidArgument
  | addressUnavailable
  | inputOutput
  /-- A failure described by its own text. -/
  | other (text : String)
  deriving DecidableEq, Repr

/-- The text of a failure. -/
def IoError.message : IoError → String
  | .notFound => "No such file or directory (os error 2)"
  | .isDirectory => "Is a directory (os error 21)"
  | .exists => "File exists (os error 17)"
  | .notDirectory => "Not a directory (os error 20)"
  | .fileTooLarge => "File too large (os error 27)"
  | .noSpace => "No space left on device (os error 28)"
  | .invalidArgument => "Invalid argument (os error 22)"
  | .addressUnavailable => "Cannot assign requested address (os error 99)"
  | .inputOutput => "Input/output error (os error 5)"
  | .other t => t

/-- What a name refers to. -/
inductive Node where
  | dir
  | file (ino : Nat)
  | full
  deriving DecidableEq, Repr

/-- An open file: the bytes of a file, or the full device. -/
inductive Handle where
  | file (ino : Nat)
  | full
  deriving DecidableEq, Repr

/-- The directory tree: names, the bytes of each file, and the faults a step runs under. -/
structure Disk where
  entries : List (String × Node) := []
  blobs : List (Nat × Bytes) := []
  nextIno : Nat := 0
  /-- Whether the step runs under faults. -/
  limited : Bool := false
  /-- Under faults, the length that no write takes a file past. -/
  limit : Nat := 0
  /-- Under faults, whether forcing written data out fails. -/
  flushFails : Bool := false

/-- A computation on the disk that may fail; the disk keeps the changes made before a failure. -/
abbrev OnDisk (ε α : Type) := EStateM ε Disk α

namespace Disk

/-- The components of a path, without empty and current-directory parts. The path is cut at
every slash of its characters. -/
def components (path : String) : List String :=
  ((path.toList.splitOn '/').map String.ofList).filter fun c => c != "" && c != "."

/-- A path in its normal form. -/
def normal (path : String) : String := "/".intercalate (components path)

/-- A file name placed in a directory. -/
def join (dir name : String) : String :=
  if dir = "" then name else if dir.endsWith "/" then dir ++ name else dir ++ "/" ++ name

/-- The directory holding a path, the empty path for a bare name. -/
def parent (path : String) : String := "/".intercalate (components path).dropLast

/-- How a path ends: at a name, at a name with slashes after it, or at a dot. The last two
can only name directories. -/
inductive PathEnd where
  | name
  | slash
  | dot
  deriving DecidableEq

/-- How a path ends. -/
def pathEnd (path : String) : PathEnd :=
  let cs := path.toList.reverse
  let trimmed := cs.dropWhile (· = '/')
  match trimmed with
  | ['.'] | '.' :: '/' :: _ => .dot
  | _ => if trimmed.length < cs.length then .slash else .name

/-- What a path refers to; the empty path is the top directory. -/
def lookup (d : Disk) (path : String) : Option Node :=
  let p := normal path
  if p = "" then some .dir else (d.entries.find? (·.1 == p)).map (·.2)

/-- The bytes of a file. -/
def blob (d : Disk) (ino : Nat) : Bytes :=
  ((d.blobs.find? (·.1 == ino)).map (·.2)).getD []

/-- Replaces the bytes of a file. -/
def setBlob (d : Disk) (ino : Nat) (bs : Bytes) : Disk :=
  { d with blobs := (ino, bs) :: d.blobs.filter (·.1 != ino) }

/-- Binds a name to an entry, replacing what it referred to. -/
def bind (d : Disk) (path : String) (e : Node) : Disk :=
  let p := normal path
  { d with entries := (p, e) :: d.entries.filter (·.1 != p) }

/-- Removes a name. -/
def unbind (d : Disk) (path : String) : Disk :=
  let p := normal path
  { d with entries := d.entries.filter (·.1 != p) }

/-- A new empty file under a name. -/
def createFile (d : Disk) (path : String) : Disk × Nat :=
  let ino := d.nextIno
  (({ d with nextIno := ino + 1 }.setBlob ino []).bind path (.file ino), ino)

/-- The bytes of the file a path names, as a reader of the path sees them. -/
def readPath (d : Disk) (path : String) : Except IoError Bytes :=
  match d.lookup path with
  | some (.file ino) => if pathEnd path = .name then .ok (d.blob ino) else .error .notDirectory
  | some .dir => .error .isDirectory
  | some .full => .error .invalidArgument
  | none =>
    match d.lookup (parent path) with
    | some .dir | none => .error .notFound
    | _ => .error .notDirectory

/-- The length a path's metadata reports: a directory reports 4096. -/
def lengthOf (d : Disk) (path : String) : Except IoError Nat :=
  match d.lookup path with
  | some (.file ino) =>
    if pathEnd path = .name then .ok (d.blob ino).length else .error .notDirectory
  | some .dir => .ok 4096
  | some .full => .ok 0
  | none => .error .notFound

/-- The length of an open file. -/
def handleLength (d : Disk) : Handle → Nat
  | .file ino => (d.blob ino).length
  | .full => 0

/-- Makes one directory, whose parent must exist. -/
def mkdir (path : String) : OnDisk IoError Unit := do
  let d ← get
  match d.lookup path with
  | some _ => throw .exists
  | none =>
    match d.lookup (parent path) with
    | some .dir => set (d.bind path .dir)
    | some _ => throw .notDirectory
    | none => throw .notFound

/-- Makes a directory and every missing directory above it. -/
def createDirAll (path : String) : OnDisk IoError Unit := do
  let cs := components path
  let rec go : List String → List String → OnDisk IoError Unit
    | _, [] => pure ()
    | done, c :: rest => do
      let p := "/".intercalate (done ++ [c])
      let d ← get
      match d.lookup p with
      | some .dir => go (done ++ [c]) rest
      | some _ => throw (if rest.isEmpty then .exists else .notDirectory)
      | none => do
        mkdir p
        go (done ++ [c]) rest
  go [] cs

/-- Places a file with its bytes under a path, making the directories above it; a path
whose directories cannot be made is left as it was. -/
def place (d : Disk) (path : String) (bs : Bytes) : Disk :=
  match (createDirAll (parent path)).run d with
  | .ok () d' =>
    let (d'', ino) := d'.createFile path
    d''.setBlob ino bs
  | .error _ _ => d

/-- The bytes of the file a path names, if it names a file. -/
def fileAt? (d : Disk) (path : String) : Option Bytes :=
  match d.lookup path with
  | some (.file ino) => some (d.blob ino)
  | _ => none

/-- Opens a file for reading and appending, creating it empty when missing. A path that ends
in a slash or a dot names a directory, which cannot be opened so: a dot needs the directory
to exist, a slash is refused at once. -/
def openAppend (path : String) : OnDisk IoError Handle := do
  let d ← get
  match pathEnd path with
  | .dot =>
    match d.lookup path with
    | some .dir => throw .isDirectory
    | some _ => throw .notDirectory
    | none =>
      match d.lookup (parent path) with
      | some .dir | none => throw .notFound
      | some _ => throw .notDirectory
  | .slash =>
    match d.lookup (parent path) with
    | some .dir => throw .isDirectory
    | some _ => throw .notDirectory
    | none => throw .notFound
  | .name =>
    match d.lookup path with
    | some (.file ino) => pure (.file ino)
    | some .full => pure .full
    | some .dir => throw .isDirectory
    | none =>
      match d.lookup (parent path) with
      | some .dir =>
        let (d', ino) := d.createFile path
        set d'
        pure (.file ino)
      | some _ => throw .notDirectory
      | none => throw .notFound

/-- The bytes a file can still take: under faults, what is left below the size limit. -/
def room (d : Disk) (ino : Nat) : Nat := d.limit - (d.blob ino).length

/-- Appends bytes to an open file. Under faults, bytes past the size limit are refused: the
write puts down the ones that fit and then fails. -/
def write (h : Handle) (bs : Bytes) : OnDisk IoError Unit := do
  let d ← get
  match h with
  | .full => if bs.isEmpty then pure () else throw .noSpace
  | .file ino =>
    if d.limited && d.room ino < bs.length then do
      set (d.setBlob ino (d.blob ino ++ bs.take (d.room ino)))
      throw .fileTooLarge
    else set (d.setBlob ino (d.blob ino ++ bs))

/-- Sets the length of an open file, cutting it or padding it with zero bytes; under faults
it cannot be padded past the size limit. -/
def setLen (h : Handle) (n : Nat) : OnDisk IoError Unit := do
  let d ← get
  match h with
  | .full => throw .invalidArgument
  | .file ino =>
    let bs := d.blob ino
    if n ≤ bs.length then set (d.setBlob ino (bs.take n))
    else if d.limited && d.limit < n then throw .fileTooLarge
    else set (d.setBlob ino (bs ++ List.replicate (n - bs.length) 0))

/-- Forces an open file, its data and its length, to the medium; the full device refuses. -/
def sync (h : Handle) : OnDisk IoError Unit :=
  match h with
  | .full => throw .invalidArgument
  | .file _ => pure ()

/-- Forces the data just written to an open file out to the medium: under faults, a medium
that fails its flushes refuses, and the full device always does. -/
def syncData (h : Handle) : OnDisk IoError Unit := do
  let d ← get
  match h with
  | .full => throw .invalidArgument
  | .file _ => if d.limited && d.flushFails then throw .inputOutput else pure ()

theorem lookup_bind_self (d : Disk) (p : String) (e : Node) (h : normal p ≠ "") :
    (d.bind p e).lookup p = some e := by
  simp [lookup, bind, h]

end Disk
end ChangeLog
