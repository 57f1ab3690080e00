/-!
# A workspace of files

The directory the tasks run in, as a set of files with their bytes and a set of directories.
Paths are written with `/`; a relative one starts in the workspace, an absolute one at the
host's root. Reading and writing resolve a path one component at a time the way a POSIX system
does: empty and `.` components stay where they are, `..` goes up (above the workspace too,
where the workspace's own directory is named `work`), and every component on the way must be
a directory. A directory exists when it was created or when some file or directory lies below
it. Operations fail with the system's error numbers: a missing entry or parent, a directory
where a file is expected, a file where a directory is expected, an entry that already exists,
or a name too long; a path holding a NUL byte never reaches the system.
-/

namespace PinballAudio.Tooling

/-- Why a file-system operation failed. -/
inductive IoFailure where
  | notFound
  | isADirectory
  | notADirectory
  | alreadyExists
  | nameTooLong
  | nulByte
  | noSpace
  | outOfMemory
  deriving DecidableEq, Repr

def IoFailure.message : IoFailure → String
  | .notFound => "No such file or directory (os error 2)"
  | .isADirectory => "Is a directory (os error 21)"
  | .notADirectory => "Not a directory (os error 20)"
  | .alreadyExists => "File exists (os error 17)"
  | .nameTooLong => "File name too long (os error 36)"
  | .nulByte => "file name contained an unexpected NUL byte"
  | .noSpace => "No space left on device (os error 28)"
  | .outOfMemory => "out of memory"

def pathComponents (path : String) : List String :=
  (path.splitOn "/").filter fun c => c ≠ "" ∧ c ≠ "."

/-- Files with their bytes, and directories created explicitly. -/
structure Workspace where
  files : List (List String × Array UInt8) := []
  dirs : List (List String) := []

namespace Workspace

def below (p q : List String) : Bool := p.length < q.length && p.isPrefixOf q

def isFile (w : Workspace) (p : List String) : Bool := w.files.any (·.1 == p)

def isDir (w : Workspace) (p : List String) : Bool :=
  p.isEmpty || w.dirs.contains p || w.files.any (below p ·.1) || w.dirs.any (below p ·)

def blockedByFile (w : Workspace) (p : List String) : Bool :=
  w.files.any fun f => below f.1 p

def find? (w : Workspace) (p : List String) : Option (Array UInt8) :=
  (w.files.find? (·.1 == p)).map (·.2)

/-- Where a walk along a path stands: a directory of the workspace, a directory `depth` levels
above the workspace (the first of them holds the workspace under the name `work`), or a
directory of the host reached through an absolute path. -/
inductive Place where
  | inside (dir : List String)
  | above (depth : Nat)
  | host (dir : List String)
  deriving DecidableEq, Repr

def Place.parent : Place → Place
  | .inside [] => .above 1
  | .inside dir => .inside dir.dropLast
  | .above d => .above (d + 1)
  | .host dir => .host dir.dropLast

def ownName : String := "work"

/-- One of a task's standard streams. -/
inductive StdStream where
  | input
  | output
  | error
  deriving DecidableEq, Repr

def StdStream.ofDescriptor : String → Option StdStream
  | "0" => some .input
  | "1" => some .output
  | "2" => some .error
  | _ => none

/-- A device of the host. The null device reads as empty, the zero and full devices as endless
zeros, the random device as random bytes; only the full device refuses writes, for want of
space. A standard stream of the task reads as empty, and bytes written to an output stream
join what the task prints there. -/
inductive Device where
  | null
  | zero
  | full
  | random
  | stream (s : StdStream)
  deriving DecidableEq, Repr

def devices : List (String × Device) :=
  [("null", .null), ("zero", .zero), ("full", .full), ("random", .random), ("urandom", .random),
   ("stdin", .stream .input), ("stdout", .stream .output), ("stderr", .stream .error)]

def descriptorDir : List String := ["proc", "self", "fd"]

/-- What a name in a directory stands for. -/
inductive Entry where
  | missing
  | file (path : List String)
  | dir (pl : Place)
  | device (d : Device)
  deriving DecidableEq, Repr

/-- The entry `name` names in the directory `pl`. Of the directories outside the workspace
only the host's root, its `dev` with the devices, its empty `tmp`, the descriptors of the
running process under `proc/self/fd` (reached from `dev/fd` too), and the workspace's own parent
are known; every other name there is missing. -/
def entry (w : Workspace) : Place → String → Entry
  | .inside dir, name =>
    let q := dir ++ [name]
    if w.isDir q then .dir (.inside q) else if w.isFile q then .file q else .missing
  | .above 1, name => if name = ownName then .dir (.inside []) else .missing
  | .above _, _ => .missing
  | .host [], name =>
    if name = "dev" ∨ name = "tmp" ∨ name = "proc" then .dir (.host [name]) else .missing
  | .host ["dev"], name =>
    if name = "fd" then .dir (.host descriptorDir)
    else ((devices.lookup name).map Entry.device).getD .missing
  | .host ["proc"], name => if name = "self" then .dir (.host ["proc", "self"]) else .missing
  | .host ["proc", "self"], name => if name = "fd" then .dir (.host descriptorDir) else .missing
  | .host dir, name =>
    if dir = descriptorDir then
      ((StdStream.ofDescriptor name).map fun s => Entry.device (.stream s)).getD .missing
    else .missing

def nameMax : Nat := 255

def pathMax : Nat := 4096

/-- A path split for resolution: where it starts, the components to walk through, the last
component (none when the path names its starting directory, such as `/`), and whether a slash
ends it. -/
structure PathParts where
  start : Place
  walk : List String
  last : Option String
  trailingSlash : Bool
  deriving DecidableEq, Repr

def PathParts.ofPath (path : String) : PathParts :=
  let segs := path.splitOn "/"
  let start := if path.startsWith "/" then Place.host [] else .inside []
  let named := segs.reverse.dropWhile (· = "")
  match named with
  | [] => { start, walk := [], last := none, trailingSlash := segs.length > 1 }
  | l :: before =>
    { start, walk := before.reverse, last := some l, trailingSlash := named.length < segs.length }

/-- Walk through directories: empty and `.` components stay, `..` goes up, a name must be no
longer than `nameMax` bytes and must be a directory. -/
def walk (w : Workspace) : Place → List String → Except IoFailure Place
  | pl, [] => .ok pl
  | pl, c :: rest =>
    if c = "" ∨ c = "." then w.walk pl rest
    else if c = ".." then w.walk pl.parent rest
    else if c.utf8ByteSize > nameMax then .error .nameTooLong
    else match w.entry pl c with
      | .dir next => w.walk next rest
      | .missing => .error .notFound
      | _ => .error .notADirectory

/-- The checks made before a path reaches the system: it may not hold a NUL byte, may not be
too long, and may not be empty. Past them, the place the last component is looked up in. -/
def resolve (w : Workspace) (path : String) : Except IoFailure (Place × PathParts) :=
  if path.contains (Char.ofNat 0) then .error .nulByte
  else if path.utf8ByteSize ≥ pathMax then .error .nameTooLong
  else if path.isEmpty then .error .notFound
  else
    let parts := PathParts.ofPath path
    match w.walk parts.start parts.walk with
    | .error e => .error e
    | .ok pl => .ok (pl, parts)

/-- Read the file at `path`: a directory reads as an error, a file named with a slash after it
is not a directory, the null device reads as empty, and a device that never ends fills memory. -/
def read (w : Workspace) (path : String) : Except IoFailure (Array UInt8) :=
  match w.resolve path with
  | .error e => .error e
  | .ok (pl, parts) =>
    match parts.last with
    | none => .error .isADirectory
    | some name =>
      if name = "." ∨ name = ".." then .error .isADirectory
      else if name.utf8ByteSize > nameMax then .error .nameTooLong
      else match w.entry pl name with
        | .missing => .error .notFound
        | .dir _ => .error .isADirectory
        | .file q =>
          if parts.trailingSlash then .error .notADirectory
          else .ok ((w.find? q).getD #[])
        | .device d =>
          if parts.trailingSlash then .error .notADirectory
          else match d with
            | .null | .stream _ => .ok #[]
            | _ => .error .outOfMemory

/-- A file opened for writing. -/
inductive Opened where
  | file (path : List String)
  | unseen
  | device (d : Device)
  deriving DecidableEq, Repr

/-- Open `path` for writing, creating the file or emptying it. Opening through a path that ends
in a slash, or naming a directory, is refused as a directory. -/
def create (w : Workspace) (path : String) : Except IoFailure (Workspace × Opened) :=
  match w.resolve path with
  | .error e => .error e
  | .ok (pl, parts) =>
    match parts.last with
    | none => .error .isADirectory
    | some name =>
      if name = "." ∨ name = ".." ∨ parts.trailingSlash then .error .isADirectory
      else if name.utf8ByteSize > nameMax then .error .nameTooLong
      else match w.entry pl name, pl with
        | .dir _, _ => .error .isADirectory
        | .device d, _ => .ok (w, .device d)
        | .file q, _ =>
          .ok ({ w with files := w.files.map fun f => if f.1 == q then (q, #[]) else f }, .file q)
        | .missing, .inside dir =>
          let q := dir ++ [name]
          .ok ({ w with files := w.files ++ [(q, #[])] }, .file q)
        | .missing, _ => .ok (w, .unseen)

/-- Write `bytes` to an opened file: a file of the workspace grows by them, the full device
refuses any bytes, and everything else takes them where the workspace does not see them. -/
def put (w : Workspace) (o : Opened) (bytes : Array UInt8) : Except IoFailure Workspace :=
  match o with
  | .file q => .ok { w with files := w.files.map fun f => if f.1 == q then (q, f.2 ++ bytes) else f }
  | .device .full => if bytes.isEmpty then .ok w else .error .noSpace
  | _ => .ok w

/-- Write `bytes` to the file at `path`, creating or replacing it. -/
def write (w : Workspace) (path : String) (bytes : Array UInt8) : Except IoFailure Workspace :=
  match w.create path with
  | .error e => .error e
  | .ok (w, o) => w.put o bytes

/-- Create the directory `p`, whose parent must exist. -/
def mkdir (w : Workspace) (p : List String) : Except IoFailure Workspace :=
  if w.blockedByFile p then .error .notADirectory
  else if w.isFile p || w.isDir p then .error .alreadyExists
  else if !w.isDir p.dropLast then .error .notFound
  else .ok { w with dirs := w.dirs ++ [p] }

def createDirAllAt (w : Workspace) : List String → Except IoFailure Workspace
  | [] => .ok w
  | c :: rest =>
    let p := c :: rest
    match w.mkdir p with
    | .ok w => .ok w
    | .error .notFound =>
      match w.createDirAllAt p.dropLast with
      | .error e => .error e
      | .ok w =>
        match w.mkdir p with
        | .ok w => .ok w
        | .error e => if w.isDir p then .ok w else .error e
    | .error e => if w.isDir p then .ok w else .error e
termination_by p => p.length
decreasing_by simp

/-- Create the directory at `path` with its parents. -/
def createDirAll (w : Workspace) (path : String) : Except IoFailure Workspace :=
  w.createDirAllAt (pathComponents path)

def listing (w : Workspace) : List (String × Array UInt8) :=
  (w.files.map fun f => ("/".intercalate f.1, f.2)).mergeSort fun a b => a.1 ≤ b.1

def ofFiles (files : List (String × Array UInt8)) : Workspace :=
  files.foldl (fun w f =>
    let p := pathComponents f.1
    { w with files := (w.files.filter (·.1 != p)) ++ [(p, f.2)] }) {}

end Workspace

end PinballAudio.Tooling
