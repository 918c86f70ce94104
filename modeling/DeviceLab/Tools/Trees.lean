import DeviceLab.Text.Path
import DeviceLab.Time.Timestamp
import DeviceLab.Tools.Texts

/-!
# Programs that change files

Programs that make, copy, move and remove files and directories, or change what is kept about them:
`cp`, `mv`, `rm`, `mkdir`, `rmdir`, `touch`, `ln`, `link`, `unlink`, `chmod`, `truncate`, `mktemp`.
-/

namespace DeviceLab.Tools

open Text Unix

namespace Tool

/-- What is known about the file that a path leads to, through a link at its end if `follow`. -/
def status (path : String) (follow : Bool) : Tool (Except IoError FileStatus) :=
  ask (.status path follow)

/-- Whether a path leads to a directory. -/
def isDirectory (path : String) : Tool Bool := do
  match ← status path true with
  | .ok found => return found.kind == .directory
  | .error _ => return false

def names (path : String) : Tool (List String) := return ((← ask (.list path)).toOption).getD []

def change (c : TreeChange) : Tool (Except IoError Unit) := ask (.change c)

/-- Changes the tree of files; complains if that fails, and tells whether it went well. -/
def tryChange (c : TreeChange) (complaint : String) : Tool Bool := do
  match ← change c with
  | .ok () => return true
  | .error e =>
    warn (complaint ++ ": " ++ e.reason)
    return false

/-- Asks whether something may be done; the answer is a line of the input. -/
def confirm (question : String) : Tool Bool := do
  tell ((← get).name ++ ": " ++ question ++ "? ")
  match ← ask (.read 0 4096 true) with
  | .ok (b :: _) => return b == 121 || b == 89
  | _ => return false

end Tool

/-- How deep directories may stand inside of each other. -/
def depthLimit : Nat := 4096

def withoutSlashes (path : String) : String :=
  String.ofList (path.toList.reverse.dropWhile (· == '/')).reverse

def lastName (path : String) : String :=
  let chars := (withoutSlashes path).toList
  let name := String.ofList (chars.reverse.takeWhile (· != '/')).reverse
  if name.isEmpty && !path.isEmpty then "/" else name

/-- The path of what a path leads to inside of a directory. -/
def inside (directory path : String) : String := Path.join directory (lastName path)

/-! ### Where things go -/

/-- What is given a new place, and where. -/
inductive Goals where
  /-- A thing and its new path. -/
  | single (source target : String)
  /-- Things and the directory that they are put into. -/
  | many (sources : List String) (directory : String)

/-- Finds out where operands go. -/
def goalsOf (options : List Given) (operands : List String) : Tool Goals := do
  match lastOf? options 't' with
  | some directory =>
    if operands.isEmpty then Tool.failWords "missing file operand"
    unless ← Tool.isDirectory directory do
      let reason := match ← Tool.status directory true with
        | .ok _ => IoError.notADirectory
        | .error e => e
      Tool.fail ("target directory " ++ Quote.always directory ++ ": " ++ reason.reason)
    return .many operands directory
  | none =>
    match operands with
    | [] => Tool.failWords "missing file operand"
    | [only] => Tool.failWords ("missing destination file operand after " ++ Quote.always only)
    | [source, target] =>
      if !isGiven options 'T' && (← Tool.isDirectory target) then return .many [source] target
      return .single source target
    | _ :: _ :: extra :: _ =>
      if isGiven options 'T' then Tool.failExtra extra
      let target := operands.getLast?.getD ""
      if ← Tool.isDirectory target then return .many operands.dropLast target
      let reason := match ← Tool.status target true with
        | .ok _ => IoError.notADirectory
        | .error e => e
      Tool.fail ("target " ++ Quote.always target ++ ": " ++ reason.reason)

/-- The pairs of things and new paths. -/
def Goals.pairs : Goals → List (String × String)
  | .single source target => [(source, target)]
  | .many sources directory => sources.map fun source => (source, inside directory source)

/-! ### Copying -/

namespace Cp

/-- How things are copied. -/
structure Manner where
  isRecursive : Bool
  keepsLinks : Bool
  preserves : Bool
  neverReplaces : Bool
  asks : Bool
  tells : Bool
  updates : Bool
  linksInstead : Bool

/-- Copies the bytes between two descriptors. -/
def copyBytes (source target : Nat) : Nat → Tool Unit
  | 0 => return
  | fuel + 1 => do
    match ← Tool.ask (.read source Tool.blockSize false) with
    | .ok [] | .error _ => return
    | .ok bytes =>
      discard (Tool.ask (.write target bytes))
      copyBytes source target fuel

/-- Copies a file; `old` is what is known about the file that is replaced. -/
def copyFile (m : Manner) (source target : String) (from_ : FileStatus) (old : Option FileStatus) :
    Tool Unit := do
  match ← Tool.ask (.openFile source .reading) with
  | .error e => Tool.warn ("cannot open " ++ Quote.always source ++ " for reading: " ++ e.reason)
  | .ok input =>
    if old.isNone && Path.endsInSlash target then
      Tool.warn ("cannot create regular file " ++ Quote.always target ++ ": Not a directory")
    else match ← Tool.ask (.openFile target .writing) with
      | .error e =>
        Tool.warn ("cannot create regular file " ++ Quote.always target ++ ": " ++ e.reason)
      | .ok output =>
        copyBytes input output Tool.partLimit
        discard (Tool.ask (.close output))
        let mask ← Tool.ask (.mask none)
        if m.preserves then
          discard (Tool.change (.setMode target from_.mode))
          discard (Tool.change (.setTime target from_.modified))
        else if old.isNone then
          discard (Tool.change (.setMode target (from_.mode &&& (0o777 ^^^ mask))))
    discard (Tool.ask (.close input))

/-- Copies one thing.  `own` is the number of the directory that everything is copied to. -/
def copyOne (m : Manner) : Nat → Option (Nat × String × String) → String → String → Tool Unit
  | 0, _, _, _ => return
  | fuel + 1, own, source, target => do
    match ← Tool.status source (!m.keepsLinks) with
    | .error e => Tool.warn ("cannot stat " ++ Quote.always source ++ ": " ++ e.reason)
    | .ok from_ =>
      let isDirectory := from_.kind == .directory
      if isDirectory && !m.isRecursive then
        return ← Tool.warn ("-r not specified; omitting directory " ++ Quote.always source)
      if let some (number, top, into) := own then
        if number = from_.number then
          return ← Tool.warn ("cannot copy a directory, " ++ Quote.always top ++ ", into itself, " ++
            Quote.always into)
      let old ← match ← Tool.status target true with
        | .ok old => pure (some old)
        | .error .notFound => do
          if let .ok _ ← Tool.status target false then
            if from_.kind = .plain then
              return ← Tool.warn ("not writing through dangling symlink " ++ Quote.always target)
          pure none
        | .error .tooManyLinks => pure none
        | .error e => return ← Tool.warn ("cannot stat " ++ Quote.always target ++ ": " ++ e.reason)
      if let some old := old then
        if old.number = from_.number && !m.linksInstead then
          return ← Tool.warn (Quote.always source ++ " and " ++ Quote.always target ++
            " are the same file")
        if isDirectory && old.kind != .directory then
          return ← Tool.warn ("cannot overwrite non-directory " ++ Quote.always target ++
            " with directory " ++ Quote.always source)
        if !isDirectory && old.kind == .directory then
          return ← Tool.warn ("cannot overwrite directory " ++ Quote.always target ++
            " with non-directory")
        if !isDirectory then
          if m.neverReplaces || m.updates && from_.modified ≤ old.modified then return
          if m.asks then
            unless ← Tool.confirm ("overwrite " ++ Quote.always target) do
              return ← Tool.note 1
      if m.tells && (!isDirectory || old.isNone) then
        Tool.sayLine (Quote.always source ++ " -> " ++ Quote.always target)
      match from_.kind with
      | .directory =>
        if old.isNone then
          unless ← Tool.tryChange (.makeDirectory target (from_.mode ||| 0o700))
            ("cannot create directory " ++ Quote.always target) do return
        let made := ((← Tool.status target true).toOption.map (·.number)).getD 0
        let own := own.or (some (made, source, target))
        let m := { m with keepsLinks := m.keepsLinks || m.isRecursive }
        let names ← Tool.names source
        names.forM fun name => do
          copyOne m fuel own (Path.join source name) (Path.join target name)
        if m.preserves then
          discard (Tool.change (.setMode target from_.mode))
          discard (Tool.change (.setTime target from_.modified))
      | .link =>
        if old.isSome then discard (Tool.change (.removeFile target))
        match ← Tool.ask (.readLink source) with
        | .ok text => discard (Tool.tryChange (.linkTo text target)
            ("cannot create symbolic link " ++ Quote.always target))
        | .error e => Tool.warn ("cannot read symbolic link " ++ Quote.always source ++ ": " ++ e.reason)
      | _ =>
        if m.linksInstead then
          discard (Tool.tryChange (.nameAlso source target) ("cannot create hard link " ++
            Quote.always target ++ " to " ++ Quote.always source))
        else copyFile m source target from_ old

/-- Copies things. -/
def run (words : List String) : Tool Unit := do
  let table : OptionTable :=
    { letters := "abdfHilLnprst:uvxPRS:TZ"
      names := [("archive", .no, 'a'), ("force", .no, 'f'), ("interactive", .no, 'i'),
        ("recursive", .no, 'r'), ("no-clobber", .no, 'n'), ("verbose", .no, 'v'),
        ("no-dereference", .no, 'P'), ("dereference", .no, 'L'), ("update", .possible, 'u'),
        ("target-directory", .required, 't'), ("no-target-directory", .no, 'T'),
        ("preserve", .possible, 'p'), ("link", .no, 'l')] }
  let (options, operands) ← table.read words
  let has (letters : String) : Bool := letters.toList.any (isGiven options)
  if has "n" then
    Tool.complain ("warning: behavior of -n is non-portable and may change in future; " ++
      "use --update=none instead")
  let isRecursive := has "arR"
  let m : Manner :=
    { isRecursive, keepsLinks := has "adP" || isRecursive && !has "LH"
      preserves := has "ap", neverReplaces := has "n", asks := has "i" && !has "n"
      tells := has "v", updates := has "u", linksInstead := has "l" }
  (← goalsOf options operands).pairs.forM fun (source, target) =>
    let isWhole := lastName source == "." || lastName source == ".."
    let target := if isWhole && lastName target == lastName source
      then String.ofList (target.toList.take (target.length - (lastName source).length)) else target
    copyOne m depthLimit none source target

end Cp

/-! ### Moving -/

namespace Mv

/-- Moves one thing. -/
def moveOne (options : List Given) (source target : String) : Tool Unit := do
  let has (letter : Char) : Bool := isGiven options letter
  match ← Tool.status source false with
  | .error e => Tool.warn ("cannot stat " ++ Quote.always source ++ ": " ++ e.reason)
  | .ok from_ =>
    let isDirectory := from_.kind == .directory
    let old ← match ← Tool.status target false with
      | .ok old => pure (some old)
      | .error .notFound => pure none
      | .error e => return ← Tool.warn ("cannot stat " ++ Quote.always target ++ ": " ++ e.reason)
    if let some old := old then
      if has 'n' then return ← Tool.warn ("not replacing " ++ Quote.always target)
      if old.number = from_.number && old.links < 2 || old.number = from_.number && isDirectory then
        return ← Tool.warn (Quote.always source ++ " and " ++ Quote.always target ++
          " are the same file")
      if isDirectory && old.kind != .directory then
        return ← Tool.warn ("cannot overwrite non-directory " ++ Quote.always target ++
          " with directory " ++ Quote.always source)
      if !isDirectory && old.kind == .directory then
        return ← Tool.warn ("cannot overwrite directory " ++ Quote.always target ++
          " with non-directory")
      if has 'u' && from_.modified ≤ old.modified then return
      if has 'i' && !has 'f' then
        unless ← Tool.confirm ("overwrite " ++ Quote.always target) do return ← Tool.note 1
    match ← Tool.change (.rename source target) with
    | .ok () =>
      if has 'v' then
        Tool.sayLine ("renamed " ++ Quote.always source ++ " -> " ++ Quote.always target)
    | .error .invalidArgument =>
      Tool.warn ("cannot move " ++ Quote.always source ++ " to a subdirectory of itself, " ++
        Quote.always target)
    | .error .notEmpty =>
      Tool.warn ("cannot overwrite " ++ Quote.always target ++ ": " ++ IoError.notEmpty.reason)
    | .error e =>
      Tool.warn ("cannot move " ++ Quote.always source ++ " to " ++ Quote.always target ++ ": " ++
        e.reason)

/-- Moves things. -/
def run (words : List String) : Tool Unit := do
  let table : OptionTable :=
    { letters := "bfint:uvS:TZ"
      names := [("force", .no, 'f'), ("interactive", .no, 'i'), ("no-clobber", .no, 'n'),
        ("verbose", .no, 'v'), ("update", .possible, 'u'), ("target-directory", .required, 't'),
        ("no-target-directory", .no, 'T')] }
  let (options, operands) ← table.read words
  (← goalsOf options operands).pairs.forM fun (source, target) => moveOne options source target

end Mv

/-! ### Removing -/

namespace Rm

/-- How things are removed. -/
structure Manner where
  isRecursive : Bool
  isForced : Bool
  asks : Bool
  tells : Bool
  takesDirectories : Bool

/-- What a file is called in a question. -/
def described (status : FileStatus) : String :=
  match status.kind with
  | .directory => "directory"
  | .plain => if status.size = 0 then "regular empty file" else "regular file"
  | .link => "symbolic link"
  | .device => "character special file"
  | .pipe => "fifo"

/-- Removes one thing; tells whether it is gone. -/
def removeOne (m : Manner) : Nat → String → Tool Bool
  | 0, _ => return false
  | fuel + 1, path => do
    let refuse (e : IoError) : Tool Bool := do
      let isMissing := e == .notFound || e == .notADirectory
      unless m.isForced && isMissing do
        Tool.warn ("cannot remove " ++ Quote.always path ++ ": " ++ e.reason)
      return false
    match ← Tool.status path false with
    | .error e => refuse e
    | .ok status =>
      let told (what : String) : Tool Unit := do
        if m.tells then Tool.sayLine (what ++ Quote.always path)
      if status.kind = .directory then
        if !m.isRecursive && !m.takesDirectories then return ← refuse .isADirectory
        if m.isRecursive then
          let names ← Tool.names path
          if m.asks && !names.isEmpty then
            unless ← Tool.confirm ("descend into directory " ++ Quote.always path) do return false
          let gone ← names.mapM fun name => removeOne m fuel (Path.join path name)
          if !gone.all id then return false
        if m.asks then
          unless ← Tool.confirm ("remove directory " ++ Quote.always path) do return false
        match ← Tool.change (.removeDirectory path) with
        | .error e => refuse e
        | .ok () =>
          told "removed directory "
          return true
      else
        if m.asks then
          let question := "remove " ++ described status ++ " " ++ Quote.always path
          unless ← Tool.confirm question do return false
        match ← Tool.change (.removeFile path) with
        | .error e => refuse e
        | .ok () =>
          told "removed "
          return true

/-- Removes things. -/
def run (words : List String) : Tool Unit := do
  let table : OptionTable :=
    { letters := "dfirvIR"
      names := [("force", .no, 'f'), ("recursive", .no, 'r'), ("dir", .no, 'd'),
        ("verbose", .no, 'v'), ("interactive", .possible, 'i'), ("no-preserve-root", .no, 'N'),
        ("preserve-root", .possible, 'P')] }
  let (options, operands) ← table.read words
  let m : Manner :=
    { isRecursive := isGiven options 'r' || isGiven options 'R', isForced := isGiven options 'f'
      asks := isGiven options 'i' && !isGiven options 'f', tells := isGiven options 'v'
      takesDirectories := isGiven options 'd' }
  if operands.isEmpty then
    if m.isForced then return else Tool.failMissing
  operands.forM fun path => do
    let last := lastName path
    if m.isRecursive && path != "" && (last = "." || last = "..") then
      Tool.warn ("refusing to remove '.' or '..' directory: skipping " ++ Quote.always path)
    else if m.isRecursive && path != "" && withoutSlashes path = "" then
      Tool.complain ("it is dangerous to operate recursively on " ++ Quote.always path)
      Tool.warn "use --no-preserve-root to override this failsafe"
    else discard (removeOne m depthLimit path)

end Rm

/-! ### Directories -/

/-- The paths of the directories above a path and of itself, the first one first. -/
def pathsAlong (path : String) : List String :=
  let start := if Path.isAbsolute path then "/" else ""
  let names := Path.names path
  (List.range names.length).map fun n => start ++ "/".intercalate (names.take (n + 1))

namespace Mkdir

/-- Makes one directory; `tolerates` that there is one. -/
def makeOne (mode : Option Nat) (tells tolerates : Bool) (path : String) : Tool Bool := do
  match ← Tool.change (.makeDirectory path 0o777) with
  | .ok () =>
    mode.forM fun mode => discard (Tool.change (.setMode path mode))
    if tells then
      Tool.sayLine ((← get).name ++ ": created directory " ++ Quote.always path)
    return true
  | .error e =>
    if tolerates && (← Tool.isDirectory path) then return true
    Tool.warn ("cannot create directory " ++ Quote.always path ++ ": " ++ e.reason)
    return false

/-- Makes directories one after the other, as long as that goes well. -/
def makeAlong (mode : Option Nat) (tells : Bool) : List String → Tool Unit
  | [] => return
  | path :: rest => do
    if rest.isEmpty then discard (makeOne mode tells true path)
    else if ← Tool.isDirectory path then makeAlong mode tells rest
    else match ← Tool.status path true with
      | .ok _ => Tool.warn ("cannot create directory " ++ Quote.always path ++ ": " ++
          IoError.notADirectory.reason)
      | .error _ => if ← makeOne none tells true path then makeAlong mode tells rest

/-- Makes directories. -/
def run (words : List String) : Tool Unit := do
  let table : OptionTable :=
    { letters := "m:pvZ"
      names := [("mode", .required, 'm'), ("parents", .no, 'p'), ("verbose", .no, 'v')] }
  let (options, operands) ← table.read words
  if operands.isEmpty then Tool.failMissing
  let mode ← match lastOf? options 'm' with
    | none => pure none
    | some text =>
      match Mode.read? (← Tool.ask (.mask none)) true 0o777 text with
      | some mode => pure (some mode)
      | none => Tool.fail ("invalid mode " ++ Quote.always text)
  let tells := isGiven options 'v'
  operands.forM fun path => do
    if isGiven options 'p' && path != "" then
      let along := pathsAlong path
      if along.isEmpty then return
      makeAlong mode tells along
    else discard (makeOne mode tells false path)

end Mkdir

namespace NamedPipe

/-- The rights that an option tells, if there is one. -/
def modeOf (options : List Given) : Tool (Option Nat) := do
  match lastOf? options 'm' with
  | none => return none
  | some text =>
    match Mode.read? (← Tool.ask (.mask none)) false 0o666 text with
    | none => Tool.fail "invalid mode"
    | some mode =>
      if 0o777 < mode then Tool.fail "mode must specify only file permission bits"
      return some mode

/-- The options of the programs that make pipes with names. -/
def options : OptionTable := { letters := "m:Z", names := [("mode", .required, 'm')] }

/-- Makes a pipe with a name. -/
def make (mode : Option Nat) (path : String) : Tool (Except IoError Unit) := do
  match ← Tool.change (.makePipe path 0o666) with
  | .ok () =>
    mode.forM fun mode => discard (Tool.change (.setMode path mode))
    return .ok ()
  | .error e => return .error e

/-- Makes pipes with names. -/
def run (words : List String) : Tool Unit := do
  let (given, operands) ← options.read words
  if operands.isEmpty then Tool.failMissing
  let mode ← modeOf given
  operands.forM fun path => do
    if let .error e ← make mode path then
      Tool.warn ("cannot create fifo " ++ Quote.always path ++ ": " ++ e.reason)

/-- Makes a pipe with a name, and would make devices if there were any to be made. -/
def runOne (words : List String) : Tool Unit := do
  let (given, operands) ← options.read words
  let mode ← modeOf given
  let missing {α : Type} (isDevice : Bool) : Tool α := do
    match operands.getLast? with
    | none => Tool.complain "missing operand"
    | some last => Tool.complain ("missing operand after " ++ Quote.text last)
    if isDevice then Tool.tell "Special files require major and minor device numbers.\n"
    Tool.failUsage
  match operands with
  | [] | [_] => missing false
  | path :: kind :: rest =>
    if kind.startsWith "p" then
      match rest with
      | extra :: _ =>
        Tool.complain ("extra operand " ++ Quote.text extra)
        if rest.length = 2 then
          Tool.tell "Fifos do not have major and minor device numbers.\n"
        Tool.failUsage
      | [] =>
        if let .error e ← make mode path then Tool.warn (Quote.file path ++ ": " ++ e.reason)
    else if rest.length < 2 then missing true
    else
      match rest.drop 2 with
      | extra :: _ => Tool.failExtra extra
      | [] => Tool.fail (Quote.file path ++ ": " ++ IoError.notPermitted.reason)

end NamedPipe

namespace Rmdir

/-- Removes directories one after the other, as long as that goes well. -/
def removeAlong (options : List Given) : Bool → List String → Tool Unit
  | _, [] => return
  | isFirst, path :: rest => do
    if isGiven options 'v' then
      Tool.sayLine ((← get).name ++ ": removing directory, " ++ Quote.always path)
    match ← Tool.change (.removeDirectory path) with
    | .ok () => removeAlong options false rest
    | .error e =>
      unless e == .notEmpty && isGiven options 'I' do
        let what := if isFirst then "failed to remove " else "failed to remove directory "
        Tool.warn (what ++ Quote.always path ++ ": " ++ e.reason)

/-- Removes empty directories. -/
def run (words : List String) : Tool Unit := do
  let table : OptionTable :=
    { letters := "pv"
      names := [("parents", .no, 'p'), ("verbose", .no, 'v'),
        ("ignore-fail-on-non-empty", .no, 'I')] }
  let (options, operands) ← table.read words
  if operands.isEmpty then Tool.failMissing
  operands.forM fun path =>
    let above := if isGiven options 'p' then ((pathsAlong path).dropLast).reverse else []
    removeAlong options true (path :: above)

end Rmdir

/-! ### Times -/

namespace Touch

/-- The number of nanoseconds in a second. -/
def second : Nat := 1000000000

/-- The time that a day and a clock tell. -/
def timeOf (year month day hour minute sec : Nat) : Option Nat :=
  let date : CalendarDay := { year, month, day }
  if 1970 ≤ year && date.isValid && hour < 24 && minute < 60 && sec < 61 then
    some ((date.number.toNat * 86400 + hour * 3600 + minute * 60 + sec) * second)
  else none

/-- The time that digits tell: month, day, hour and minute, perhaps with a year in front and seconds
behind a point. -/
def stamp? (now : Nat) (text : String) : Option Nat := do
  let main := text.toList.takeWhile (· != '.')
  let behind := text.toList.drop (main.length + 1)
  if !(main ++ behind).all Char.isDigit then none
  let sec ← if main.length = text.length then some 0
    else if behind.length = 2 then (String.ofList behind).toNat? else none
  let at_ (first : Nat) : Nat := (String.ofList ((main.drop first).take 2)).toNat?.getD 0
  match main.length with
  | 8 => timeOf (1970 + now / second / 31556952) (at_ 0) (at_ 2) (at_ 4) (at_ 6) sec
  | 10 => timeOf ((if at_ 0 < 69 then 2000 else 1900) + at_ 0) (at_ 2) (at_ 4) (at_ 6) (at_ 8) sec
  | 12 => timeOf (at_ 0 * 100 + at_ 2) (at_ 4) (at_ 6) (at_ 8) (at_ 10) sec
  | _ => none

/-- The time that a text tells: a number of seconds, or a day and a clock. -/
def date? (now : Nat) (text : String) : Option Nat :=
  match text.toList with
  | '@' :: digits => (String.ofList digits).toNat?.map (· * second)
  | _ =>
    if text = "now" || text = "" then some now
    else
      let numbers := ((text.map fun c => if c.isDigit then c else ' ').splitOn " ").filterMap
        (·.toNat?)
      let marks := text.toList.filter fun c => !c.isDigit
      match numbers, marks with
      | [y, m, d], ['-', '-'] => timeOf y m d 0 0 0
      | [y, m, d, h, min], ['-', '-', _, ':'] => timeOf y m d h min 0
      | [y, m, d, h, min, s], ['-', '-', _, ':', ':'] => timeOf y m d h min s
      | [y, m, d, h, min, s], ['-', '-', 'T', ':', ':', 'Z'] => timeOf y m d h min s
      | _, _ => none

/-- Sets the times of files, which are made if there are none. -/
def run (words : List String) : Tool Unit := do
  let table : OptionTable :=
    { letters := "acd:fhmr:t:"
      names := [("no-create", .no, 'c'), ("date", .required, 'd'), ("reference", .required, 'r'),
        ("time", .required, 'T'), ("no-dereference", .no, 'h')] }
  let (options, operands) ← table.read words
  let now ← Tool.ask .time
  let time ← match lastOf? options 'd', lastOf? options 't', lastOf? options 'r' with
    | some text, _, _ =>
      match date? now text with
      | some time => pure time
      | none => Tool.fail ("invalid date format " ++ Quote.text text)
    | _, some text, _ =>
      match stamp? now text with
      | some time => pure time
      | none => Tool.fail ("invalid date format " ++ Quote.text text)
    | _, _, some path =>
      match ← Tool.status path true with
      | .ok status => pure status.modified
      | .error e =>
        Tool.fail ("failed to get attributes of " ++ Quote.always path ++ ": " ++ e.reason)
    | _, _, _ => pure now
  if operands.isEmpty then Tool.failWords "missing file operand"
  operands.forM fun path => do
    if path = "-" then return
    let found ← Tool.status path true
    if let .error e := found then
      if isGiven options 'c' then return
      if path != "" && Path.endsInSlash path then
        return ← Tool.warn ("setting times of " ++ Quote.always path ++ ": " ++ e.reason)
      match ← Tool.ask (.openFile path .appending) with
      | .ok descriptor => discard (Tool.ask (.close descriptor))
      | .error e => return ← Tool.warn ("cannot touch " ++ Quote.always path ++ ": " ++ e.reason)
    discard (Tool.tryChange (.setTime path time) ("setting times of " ++ Quote.always path))

end Touch

/-! ### Links -/

namespace Ln

/-- Makes one link. -/
def linkOne (options : List Given) (source target : String) : Tool Unit := do
  let isSymbolic := isGiven options 's'
  if !isSymbolic then
    match ← Tool.status source false with
    | .error e => return ← Tool.warn ("failed to access " ++ Quote.always source ++ ": " ++ e.reason)
    | .ok status =>
      if status.kind = .directory then
        return ← Tool.warn (Quote.file source ++ ": hard link not allowed for directory")
  if isGiven options 'f' then
    match ← Tool.status target false, ← Tool.status source false with
    | .ok old, .ok from_ =>
      if old.number = from_.number && !isSymbolic then
        return ← Tool.warn (Quote.always source ++ " and " ++ Quote.always target ++
          " are the same file")
      if old.kind = .directory then
        return ← Tool.warn (Quote.always target ++ ": cannot overwrite directory")
      discard (Tool.change (.removeFile target))
    | .ok old, .error _ =>
      if old.kind = .directory then
        return ← Tool.warn (Quote.always target ++ ": cannot overwrite directory")
      discard (Tool.change (.removeFile target))
    | _, _ => pure ()
  let made ← Tool.change (if isSymbolic then .linkTo source target else .nameAlso source target)
  match made with
  | .ok () =>
    if isGiven options 'v' then
      let arrow := if isSymbolic then " -> " else " => "
      Tool.sayLine (Quote.always target ++ arrow ++ Quote.always source)
  | .error e =>
    let kind := if isSymbolic then "symbolic" else "hard"
    let shown := if isSymbolic then
        if source.isEmpty then " -> " ++ Quote.always source else ""
      else if e == .alreadyExists then "" else " => " ++ Quote.always source
    Tool.warn (s!"failed to create {kind} link " ++ Quote.always target ++ shown ++ ": " ++ e.reason)

/-- Makes links. -/
def run (words : List String) : Tool Unit := do
  let table : OptionTable :=
    { letters := "bdfFiLnPrsS:t:Tv"
      names := [("symbolic", .no, 's'), ("force", .no, 'f'), ("no-dereference", .no, 'n'),
        ("verbose", .no, 'v'), ("target-directory", .required, 't'),
        ("no-target-directory", .no, 'T')] }
  let (options, operands) ← table.read words
  let isKept (path : String) : Tool Bool := do
    if !isGiven options 'n' then return false
    match ← Tool.status path false with
    | .ok status => return status.kind == .link
    | .error _ => return false
  match lastOf? options 't', operands with
  | some directory, _ =>
    operands.forM fun source => linkOne options source (inside directory source)
  | none, [] => Tool.failWords "missing file operand"
  | none, [source] => linkOne options source (inside "." source)
  | none, [source, target] =>
    if !isGiven options 'T' && (← Tool.isDirectory target) && !(← isKept target) then
      linkOne options source (inside target source)
    else linkOne options source target
  | none, _ =>
    let target := operands.getLast?.getD ""
    if ← Tool.isDirectory target then
      operands.dropLast.forM fun source => linkOne options source (inside target source)
    else
      let reason := match ← Tool.status target true with
        | .ok _ => IoError.notADirectory
        | .error e => e
      Tool.fail ("target " ++ Quote.always target ++ ": " ++ reason.reason)

end Ln

/-- Makes one more name for a file. -/
def link (words : List String) : Tool Unit := do
  let table : OptionTable := { letters := "" }
  match (← table.read words).2 with
  | [] => Tool.failMissing
  | [only] => Tool.failWords ("missing operand after " ++ Quote.text only)
  | [source, target] =>
    discard (Tool.tryChange (.nameAlso source target)
      ("cannot create link " ++ Quote.always target ++ " to " ++ Quote.always source))
  | _ :: _ :: extra :: _ => Tool.failExtra extra

/-- Removes one file. -/
def unlink (words : List String) : Tool Unit := do
  let table : OptionTable := { letters := "" }
  match (← table.read words).2 with
  | [] => Tool.failMissing
  | [path] =>
    discard (Tool.tryChange (.removeFile path) ("cannot unlink " ++ Quote.always path))
  | _ :: extra :: _ => Tool.failExtra extra

/-! ### Rights and sizes -/

namespace Chmod

/-- Changes the rights of one file, and perhaps of everything below it. -/
def changeOne (options : List Given) (mode : FileStatus → Option Nat) : Nat → String → Tool Unit
  | 0, _ => return
  | fuel + 1, path => do
    match ← Tool.status path true with
    | .error e =>
      if let .ok _ ← Tool.status path false then
        Tool.warn ("cannot operate on dangling symlink " ++ Quote.always path)
      else Tool.warn ("cannot access " ++ Quote.always path ++ ": " ++ e.reason)
    | .ok status =>
      let new := (mode status).getD status.mode
      if ← Tool.tryChange (.setMode path new) ("changing permissions of " ++ Quote.always path) then
        let shown (mode : Nat) : String := Mode.digits mode ++ " (" ++ Mode.shown mode ++ ")"
        if new != status.mode then
          if isGiven options 'v' || isGiven options 'c' then
            Tool.sayLine ("mode of " ++ Quote.always path ++ " changed from " ++
              shown status.mode ++ " to " ++ shown new)
        else if isGiven options 'v' then
          Tool.sayLine ("mode of " ++ Quote.always path ++ " retained as " ++ shown new)
      if isGiven options 'R' && status.kind == .directory then
        (← Tool.names path).forM fun name => do
          let path := Path.join path name
          match ← Tool.status path false with
          | .ok status =>
            if status.kind != .link then changeOne options mode fuel path
          | .error _ => pure ()

/-- Whether a word that looks like options is a mode. -/
def isMode (word : String) : Bool :=
  match word.toList with
  | '-' :: c :: rest => (c :: rest).all fun c => "rwxXstugoa,+-=".toList.contains c
  | _ => false

/-- Changes the rights of files. -/
def run (words : List String) : Tool Unit := do
  let table : OptionTable :=
    { letters := "Rcfv"
      names := [("recursive", .no, 'R'), ("verbose", .no, 'v'), ("changes", .no, 'c'),
        ("silent", .no, 'f'), ("quiet", .no, 'f'), ("reference", .required, 'E')] }
  let modes := words.filter isMode
  let (options, operands) ← table.read (words.filter fun word => !isMode word)
  let mask ← Tool.ask (.mask none)
  match lastOf? options 'E' with
  | some path =>
    match ← Tool.status path true with
    | .error e => Tool.fail ("failed to get attributes of " ++ Quote.always path ++ ": " ++ e.reason)
    | .ok status => operands.forM (changeOne options (fun _ => some status.mode) depthLimit)
  | none =>
    match modes ++ operands with
    | [] => Tool.failMissing
    | [only] => Tool.failWords ("missing operand after " ++ Quote.text only)
    | text :: paths =>
      if (Mode.read? mask false 0 text).isNone then
        Tool.failWords ("invalid mode: " ++ Quote.text text)
      let mode (status : FileStatus) : Option Nat :=
        Mode.read? mask (status.kind == .directory) status.mode text
      paths.forM (changeOne options mode depthLimit)

end Chmod

namespace Truncate

/-- The new size that a text tells, seen from an old one. -/
def size? (old : Nat) (text : String) : Option Nat :=
  match text.toList with
  | '+' :: rest => (scaled? (String.ofList rest)).map (old + ·)
  | '-' :: rest => (scaled? (String.ofList rest)).map (old - ·)
  | '<' :: rest => (scaled? (String.ofList rest)).map (min old)
  | '>' :: rest => (scaled? (String.ofList rest)).map (max old)
  | _ => scaled? text

/-- Cuts files, or fills them up, to a size. -/
def run (words : List String) : Tool Unit := do
  let table : OptionTable :=
    { letters := "cor:s:"
      names := [("size", .required, 's'), ("no-create", .no, 'c'), ("reference", .required, 'r')] }
  let (options, operands) ← table.read words
  match lastOf? options 's' with
  | none => Tool.failWords "you must specify either '--size' or '--reference'"
  | some text =>
    if (size? 0 text).isNone then Tool.fail ("Invalid number: " ++ Quote.text text)
    if operands.isEmpty then Tool.failWords "missing file operand"
    operands.forM fun path => do
      let old ← Tool.status path true
      if isGiven options 'c' && (old matches .error .notFound) then return
      match ← Tool.ask (.openFile path .appending) with
      | .error e =>
        Tool.warn ("cannot open " ++ Quote.always path ++ " for writing: " ++ e.reason)
      | .ok descriptor =>
        discard (Tool.ask (.close descriptor))
        let size := (size? ((old.toOption.map (·.size)).getD 0) text).getD 0
        discard (Tool.tryChange (.resize path size) ("failed to truncate " ++ Quote.always path))

end Truncate

/-! ### Temporary files -/

namespace Mktemp

/-- Characters for a name, out of a number. -/
def charsFor : Nat → Nat → List Char
  | 0, _ => []
  | length + 1, n =>
    let letters := "abcdefghijklmnopqrstuvwxyzABCDEFGHIJKLMNOPQRSTUVWXYZ0123456789".toList
    letters.getD (n % 62) 'a' :: charsFor length (n / 62 * 31 + n % 62 * 7 + 13)

/-- Finds a path at which there is nothing, and uses it. -/
def attempt (front back : String) (length : Nat) (use : String → Tool (Except IoError Unit)) :
    Nat → Nat → Tool (Except IoError String)
  | 0, _ => return .error .alreadyExists
  | fuel + 1, n => do
    let path := front ++ String.ofList (charsFor length n) ++ back
    match ← use path with
    | .ok () => return .ok path
    | .error .alreadyExists => attempt front back length use fuel (n + 1)
    | .error e => return .error e

/-- Makes a file or a directory with a new name. -/
def run (words : List String) (environment : Environment) : Tool Unit := do
  let table : OptionTable :=
    { letters := "dp:qtuV"
      names := [("directory", .no, 'd'), ("quiet", .no, 'q'), ("dry-run", .no, 'u'),
        ("suffix", .required, 's'), ("tmpdir", .possible, 'p')] }
  let (options, operands) ← table.read words
  let temporary := ((environment.lookup "TMPDIR").filter (· != "")).getD "/tmp"
  match operands with
  | _ :: _ :: _ => Tool.failWords "too many templates"
  | _ => pure ()
  let template := operands.headD "tmp.XXXXXXXXXX"
  let home := match lastOf? options 'p' with
    | some directory => some (if directory.isEmpty then temporary else directory)
    | none => if operands.isEmpty || isGiven options 't' then some temporary else none
  let suffix := (lastOf? options 's').getD ""
  let chars := template.toList
  let behind := if suffix.isEmpty then (chars.reverse.takeWhile (· != 'X')).reverse else []
  let chars := chars.take (chars.length - behind.length)
  let marks := (chars.reverse.takeWhile (· == 'X')).length
  if marks < 3 then Tool.fail ("too few X's in template " ++ Quote.always template)
  let front := String.ofList (chars.take (chars.length - marks))
  let front := (home.map fun home => Path.join home front).getD front
  let back := String.ofList behind ++ suffix
  let isDirectory := isGiven options 'd'
  let use (path : String) : Tool (Except IoError Unit) := do
    if isGiven options 'u' then
      match ← Tool.status path false with
      | .ok _ => return .error .alreadyExists
      | .error _ => return .ok ()
    else if isDirectory then
      match ← Tool.change (.makeDirectory path 0o777) with
      | .ok () => Tool.change (.setMode path 0o700)
      | .error e => return .error e
    else
      match ← Tool.ask (.openFile path .creating) with
      | .ok descriptor =>
        discard (Tool.ask (.close descriptor))
        Tool.change (.setMode path 0o600)
      | .error e => return .error e
  match ← attempt front back marks use 1000 ((← Tool.ask .time) / 1000) with
  | .ok path => Tool.sayLine path
  | .error e =>
    let kind := if isDirectory then "directory" else "file"
    unless isGiven options 'q' do
      Tool.complain (s!"failed to create {kind} via template " ++
        Quote.always ((home.map fun home => Path.join home template).getD template) ++ ": " ++
        e.reason)
    Tool.note 1

end Mktemp

end DeviceLab.Tools
