import DeviceLab.Text.Path
import DeviceLab.Unix.Call

/-!
# The files of a bench

A tree of directories, files, links and devices.  A place is the list of the names that lead to it
from the root; what stands there is kept under a number, so that a file has several names where it
is linked, and one that has been removed can still be written to by whoever has it open.  Names are
texts of bytes.

* `Files.locate`: the place that a path leads to; `Files.locateLast`: the directory where the last
  name of a path is entered or taken out.
* `Files.openedAt`, `Files.content`, `Files.writeAt`: files.
* `Files.apply`: a change to the tree.
* `Files.createDirectories`, `Files.childNames`: directories.
-/

namespace DeviceLab.Bench

open Text Unix

/-- A place in the tree: the names that lead to it from the root. -/
abbrev Place := List String

/-- A device. -/
inductive Device where
  /-- Nothing to read, and nothing kept of what is written. -/
  | void
  /-- Zero bytes without end. -/
  | zeros
  /-- Zero bytes to read, and no room to write. -/
  | full
  /-- Bytes without end that follow no rule one would see. -/
  | noise
  /-- The terminal, of which there is none. -/
  | terminal
  /-- The number of the last process, which only the system itself may set. -/
  | lastPid
  deriving DecidableEq, Repr, Inhabited

/-- What stands at a place. -/
inductive Node where
  | directory
  | plain (content : ByteArray)
  | link (target : String)
  | device (device : Device)
  /-- A pipe that has a name. -/
  | namedPipe
  deriving Inhabited

/-- What is kept under a number. -/
structure Entry where
  node : Node
  mode : Nat
  /-- When it was changed for the last time. -/
  modified : Nat := 0
  deriving Inhabited

/-- The tree, and everything that it has ever held. -/
structure Files where
  names : List (Place × Nat) := []
  entries : List (Nat × Entry) := []
  next : Nat := 1
  /-- The time at which changes are made. -/
  now : Nat := 0
  deriving Inhabited

namespace Files

/-- What is kept under a number; number zero is the root. -/
def entry? (files : Files) (number : Nat) : Option Entry :=
  match files.entries.find? fun found => found.1 == number with
  | some found => some found.2
  | none => if number = 0 then some { node := .directory, mode := 0o755 } else none

/-- The number under which something stands at a place. -/
def number? (files : Files) (place : Place) : Option Nat :=
  if place.isEmpty then some 0
  else (files.names.find? fun found => found.1 == place).map (·.2)

def node? (files : Files) (place : Place) : Option Node := do
  return (← files.entry? (← files.number? place)).node

def isDirectory (files : Files) (place : Place) : Bool :=
  files.node? place matches some .directory

def holds (files : Files) (place : Place) : Bool := (files.number? place).isSome

/-- The greatest length of a name, in bytes. -/
def nameLimit : Nat := 255

/-- The length in bytes that a path has to stay below. -/
def pathLimit : Nat := 4096

/-- The greatest number of links on the way to a place. -/
def linkLimit : Nat := 40

/-- Goes from a place, which has to be a directory, to a name in it. -/
def enter (files : Files) (place : Place) (name : String) : Except IoError Place :=
  match files.node? place with
  | none => .error .notFound
  | some .directory =>
    if name = "." then .ok place
    else if name = ".." then .ok place.dropLast
    else if nameLimit < name.length then .error .nameTooLong
    else .ok (place ++ [name])
  | some _ => .error .notADirectory

/-- Follows names from a place, through links; the last name is not followed unless `follow`.
`fuel` bounds the number of names, and `links` the number of links. -/
def walk (files : Files) (follow : Bool) :
    Nat → Nat → Place → List String → Except IoError Place
  | 0, _, _, _ => .error .tooManyLinks
  | _ + 1, _, place, [] => .ok place
  | fuel + 1, links, place, name :: rest => do
    let next ← files.enter place name
    match files.node? next with
    | some (.link target) =>
      if rest.isEmpty && !follow then return next
      if links = 0 then throw .tooManyLinks
      if target.isEmpty then throw .notFound
      files.walk follow fuel (links - 1) (if Path.isAbsolute target then [] else place)
        (Path.names target ++ rest)
    | _ => files.walk follow fuel links next rest

/-- The place to which names lead. -/
def follow (files : Files) (start : Place) (names : List String) : Except IoError Place :=
  files.walk true (names.length + (linkLimit + 1) * pathLimit) linkLimit start names

/-- Where a path begins, seen from a directory, and the names along it. -/
def route (start : Place) (path : String) : Except IoError (Place × List String) :=
  if path.toList.contains '\x00' then
    .error (.invalidInput "file name contained an unexpected NUL byte")
  else if path.isEmpty then .error .notFound
  else if pathLimit ≤ path.length then .error .nameTooLong
  else .ok (if Path.isAbsolute path then [] else start, Path.names path)

/-- The place that a path leads to from a directory.  There may be nothing at the place, but there
is a directory above it. -/
def locate (files : Files) (start : Place) (path : String) : Except IoError Place := do
  let (start, names) ← route start path
  let place ← files.follow start names
  match files.node? place with
  | none | some .directory => return place
  | some _ => if Path.endsInSlash path then throw .notADirectory else return place

/-- The directory that holds the last name of a path, and that name, unless it is a point or the
path is the root. -/
def locateLast (files : Files) (start : Place) (path : String) :
    Except IoError (Place × Option String) := do
  let (start, names) ← route start path
  let holder ← files.follow start names.dropLast
  let above ← files.enter holder "."
  match names.getLast? with
  | none => return (above, none)
  | some last => return (above, if last = "." ∨ last = ".." then none else some last)

/-- The place of the last name of a path itself, even if that is a link. -/
def locateLink (files : Files) (start : Place) (path : String) : Except IoError Place := do
  if Path.endsInSlash path then files.locate start path
  else match ← files.locateLast start path with
    | (holder, some name) => files.enter holder name
    | (_, none) => files.locate start path

def pathOf (place : Place) : String := "/" ++ "/".intercalate place

/-- The content that is kept under a number. -/
def content (files : Files) (number : Nat) : ByteArray :=
  match files.entry? number with
  | some { node := .plain content, .. } => content
  | _ => .empty

/-- Changes what is kept under a number. -/
def update (files : Files) (number : Nat) (change : Entry → Entry) : Files :=
  { files with entries := files.entries.map fun (n, entry) =>
      if n = number then (n, change entry) else (n, entry) }

/-- Gives the file under a number a new content. -/
def setContent (files : Files) (number : Nat) (content : ByteArray) : Files :=
  files.update number fun entry => { entry with node := .plain content, modified := files.now }

/-- A content that is cut, or filled up with zero bytes, to a size. -/
def resized (content : ByteArray) (size : Nat) : ByteArray :=
  if size ≤ content.size then content.extract 0 size
  else content ++ ⟨Array.replicate (size - content.size) 0⟩

/-- A content after some bytes have been written at a position. -/
def written (content : ByteArray) (position : Nat) (bytes : ByteArray) : ByteArray :=
  if position = content.size then content ++ bytes
  else
    let before := resized content position
    before ++ bytes ++ content.extract (position + bytes.size) content.size

/-- Writes to the file under a number. -/
def writeAt (files : Files) (number position : Nat) (bytes : Bytes) : Files :=
  if bytes.isEmpty then files
  else files.setContent number (written (files.content number) position ⟨bytes.toArray⟩)

/-- Enters something new, which stands nowhere in the tree. -/
def nameless (files : Files) (node : Node) (mode : Nat) : Nat × Files :=
  (files.next,
    { files with
      entries := (files.next, { node, mode, modified := files.now }) :: files.entries
      next := files.next + 1 })

/-- Notes the time at the directory above a place. -/
def touchAbove (files : Files) (place : Place) : Files :=
  match files.number? place.dropLast with
  | some number => files.update number fun entry => { entry with modified := files.now }
  | none => files

/-- Gives what is kept under a number a name. -/
def name (files : Files) (place : Place) (number : Nat) : Files :=
  { files with names := files.names ++ [(place, number)] }.touchAbove place

/-- Puts something new at a place. -/
def put (files : Files) (place : Place) (node : Node) (mode : Nat) : Files :=
  let (number, files) := files.nameless node mode
  files.name place number

/-- The number of the file at a place that can be read and written. -/
def fileAt (files : Files) (place : Place) : Except IoError Nat :=
  match files.number? place, files.node? place with
  | some _, some .directory => .error .isADirectory
  | some number, some _ => .ok number
  | _, _ => .error .notFound

def read (files : Files) (place : Place) : Except IoError Bytes :=
  (files.fileAt place).map fun number => (files.content number).toList

/-- The file at a place, which is made if there is none. -/
def openedAt (files : Files) (place : Place) (mode : Nat) : Except IoError (Nat × Files) :=
  match files.fileAt place with
  | .ok number => .ok (number, files)
  | .error .notFound =>
    let (number, files) := files.nameless (.plain .empty) mode
    .ok (number, files.name place number)
  | .error e => .error e

/-- The rights of a new file. -/
def usualMode : Nat := 0o644

/-- The rights of a new directory. -/
def directoryMode : Nat := 0o755

/-- The file that a path leads to, which is made if there is none.  Only the path of a directory
ends in a slash or a point. -/
def opened (files : Files) (start : Place) (path : String) (mode : Nat) :
    Except IoError (Nat × Files) := do
  match ← files.locateLast start path with
  | (holder, some name) =>
    if Path.endsInSlash path then throw .isADirectory
    discard (files.enter holder name)
    files.openedAt (← files.locate start path) mode
  | (_, none) => throw .isADirectory

/-- Gives the file that a path leads to a new content. -/
def write (files : Files) (start : Place) (path : String) (bytes : Bytes) :
    Except IoError Files := do
  let (number, files) ← files.opened start path usualMode
  return files.setContent number ⟨bytes.toArray⟩

/-- The content of the file that a path leads to. -/
def readPath (files : Files) (start : Place) (path : String) : Except IoError Bytes := do
  files.read (← files.locate start path)

/-- Copies the content of a file over that of another one, which is emptied first. -/
def copy (files : Files) (start : Place) (source target : String) : Except IoError Files := do
  let from_ ← files.fileAt (← files.locate start source)
  let (number, files) ← files.opened start target usualMode
  let files := files.setContent number .empty
  return files.setContent number (files.content from_)

/-- Takes the name of a place out of the tree. -/
def forget (files : Files) (place : Place) : Files :=
  { files with names := files.names.filter fun found => found.1 != place }.touchAbove place

/-- Takes a file out of the tree. -/
def remove (files : Files) (start : Place) (path : String) : Except IoError Files := do
  match ← files.locateLast start path with
  | (holder, some name) =>
    let place ← files.enter holder name
    match files.node? place with
    | none => throw .notFound
    | some .directory => throw .isADirectory
    | some _ =>
      if Path.endsInSlash path then throw .notADirectory
      return files.forget place
  | (_, none) => throw .isADirectory

/-- Makes one directory. -/
def createDirectory (files : Files) (start : Place) (path : String) (mode : Nat) :
    Except IoError Files := do
  match ← files.locateLast start path with
  | (holder, some name) =>
    let place ← files.enter holder name
    if files.holds place then throw .alreadyExists
    return files.put place .directory mode
  | (_, none) => throw .alreadyExists

def leadsToDirectory (files : Files) (start : Place) (path : String) : Bool :=
  match files.locate start path with
  | .ok place => files.isDirectory place
  | .error _ => false

/-- Makes one directory, unless there is one. -/
def ensureDirectory (start : Place) (path : String) : ExceptT IoError (StateM Files) Unit := do
  let files ← get
  match files.createDirectory start path directoryMode with
  | .ok files => set files
  | .error e => unless files.leadsToDirectory start path do throw e

/-- Makes the directory that a path names, and first those above it if one of them is missing;
`fuel` bounds their number.  What has been made stays when the next one fails. -/
def ensureAlong (start : Place) : Nat → String → ExceptT IoError (StateM Files) Unit
  | 0, _ => return
  | fuel + 1, path => do
    if path.isEmpty then return
    match (← get).createDirectory start path directoryMode with
    | .error .notFound =>
      match Path.parent? path with
      | some above =>
        ensureAlong start fuel above
        ensureDirectory start path
      | none => throw .notFound
    | _ => ensureDirectory start path

/-- Makes the directory that a path names, and those above it. -/
def createDirectories (start : Place) (path : String) : ExceptT IoError (StateM Files) Unit :=
  ensureAlong start (path.length + 1) path

/-- The names in a directory, sorted. -/
def childNames (files : Files) (place : Place) : List String :=
  let names := files.names.filterMap fun found =>
    if found.1.dropLast == place then found.1.getLast? else none
  names.mergeSort (fun a b => decide (a ≤ b))

/-- The files below a place, by the names that lead to them from there. -/
def filesBelow (files : Files) (place : Place) : List (Place × Bytes) :=
  files.names.filterMap fun (found, number) =>
    match files.entry? number with
    | some { node := .plain content, .. } =>
      if place.isPrefixOf found && found != place then
        some (found.drop place.length, content.toList)
      else none
    | _ => none

/-- The files that can be reached below a place, through links as well, by the names that lead to them
from there.  `fuel` bounds the depth. -/
def filesWithin (files : Files) (place : Place) : Nat → Place → List (Place × Bytes)
  | 0, _ => []
  | fuel + 1, names =>
    match files.follow place names with
    | .error _ => []
    | .ok found =>
      match files.node? found with
      | some .directory =>
        (files.childNames found).flatMap fun name =>
          filesWithin files place fuel (names ++ [name])
      | some (.plain content) => [(names, content.toList)]
      | some (.device _) => [(names, [])]
      | _ => []

/-- The files that can be reached below a place. -/
def filesReached (files : Files) (place : Place) : List (Place × Bytes) :=
  if files.isDirectory place then
    files.filesWithin place ((linkLimit + 1) * (files.names.length + 1)) []
  else []

/-! ### Changes -/

/-- Takes an empty directory out of the tree. -/
def removeDirectory (files : Files) (start : Place) (path : String) : Except IoError Files := do
  let place ← files.locateLink start path
  match files.node? place with
  | none => throw .notFound
  | some .directory =>
    if (Path.names path).getLast? = some "." then throw .invalidArgument
    if (Path.names path).getLast? = some ".." then throw .notEmpty
    if !(files.childNames place).isEmpty then throw .notEmpty
    return files.forget place
  | some _ => throw .notADirectory

/-- Moves what stands at one place to another one; what stood there is replaced. -/
def move (files : Files) (source target : Place) : Files :=
  let files := files.forget target
  let names := files.names.map fun (place, number) =>
    if source.isPrefixOf place then (target ++ place.drop source.length, number)
    else (place, number)
  ({ files with names }.touchAbove source).touchAbove target

/-- Gives what stands at a path another path. -/
def rename (files : Files) (start : Place) (source target : String) : Except IoError Files := do
  let from_ ← files.locateLink start source
  let node ← match files.node? from_ with
    | some node => pure node
    | none => throw .notFound
  let isDirectory := node matches .directory
  match ← files.locateLast start target with
  | (_, none) => throw .alreadyExists
  | (holder, some name) =>
    let goal ← files.enter holder name
    if Path.endsInSlash target && !isDirectory then throw .notADirectory
    if from_ = goal || (files.number? goal).isSome && files.number? goal == files.number? from_ then
      return files
    if isDirectory && from_.isPrefixOf goal then throw .invalidArgument
    match files.node? goal with
    | some .directory =>
      if !isDirectory then throw .isADirectory
      if !(files.childNames goal).isEmpty then throw .notEmpty
    | some _ => if isDirectory then throw .notADirectory
    | none => pure ()
    return files.move from_ goal

/-- Puts something new at a path where there is nothing yet. -/
def create (files : Files) (start : Place) (path : String)
    (put : Files → Place → Except IoError Files) : Except IoError Files := do
  match ← files.locateLast start path with
  | (holder, some name) =>
    let place ← files.enter holder name
    if files.holds place then throw .alreadyExists
    if Path.endsInSlash path then throw .notFound
    put files place
  | (_, none) => throw .alreadyExists

/-- Changes what a path leads to. -/
def updatePath (files : Files) (start : Place) (path : String) (change : Entry → Entry) :
    Except IoError Files := do
  let place ← files.locate start path
  match files.number? place with
  | some number => return files.update number change
  | none => throw .notFound

/-- Carries out a change to the tree, seen from a directory. -/
def apply (files : Files) (start : Place) (change : TreeChange) : Except IoError Files := do
  match change with
  | .makeDirectory path mode => files.createDirectory start path mode
  | .removeDirectory path => files.removeDirectory start path
  | .removeFile path => files.remove start path
  | .rename source target => files.rename start source target
  | .linkTo target path =>
    if target.isEmpty then throw .notFound
    files.create start path fun files place => return files.put place (.link target) 0o777
  | .nameAlso source path =>
    let from_ ← files.locateLink start source
    match files.number? from_ with
    | none => throw .notFound
    | some number =>
      if files.isDirectory from_ then throw .notPermitted
      files.create start path fun files place => return files.name place number
  | .setMode path mode => files.updatePath start path fun entry => { entry with mode }
  | .setTime path time => files.updatePath start path fun entry => { entry with modified := time }
  | .makePipe path mode =>
    files.create start path fun files place => return files.put place .namedPipe mode
  | .resize path size =>
    let number ← files.fileAt (← files.locate start path)
    return files.setContent number (resized (files.content number) size)

/-- What is known about what is kept under a number. -/
def status? (files : Files) (number : Nat) : Option FileStatus := do
  let entry ← files.entry? number
  let (kind, size) := match entry.node with
    | .directory => (FileKind.directory, 4096)
    | .plain content => (.plain, content.size)
    | .link target => (.link, target.length)
    | .device _ => (.device, 0)
    | .namedPipe => (.pipe, 0)
  let links := (files.names.filter fun found => found.2 == number).length
  return { kind, mode := entry.mode, size, modified := entry.modified, number
           links := if kind = .directory then 2 else links }

end Files

end DeviceLab.Bench
