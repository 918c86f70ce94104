import DeviceLab.Tools.Listing

/-!
# Programs that tell facts

Programs that tell the time, the user, the machine, where programs are, and whether files are the
same: `date`, `id`, `whoami`, `groups`, `logname`, `uname`, `arch`, `nproc`, `tty`, `which`, `sync`,
`cmp`.
-/

namespace DeviceLab.Tools

open Text Unix

namespace Facts

open Tool

/-- Complains about words that are too many. -/
def noOperands (operands : List String) : Tool Unit := do
  if let word :: _ := operands then failExtra word

/-- Tells the time. -/
def date (words : List String) : Tool Unit := do
  let table : OptionTable :=
    { letters := "ud:r:RI::f:s:"
      names := [("utc", .no, 'u'), ("universal", .no, 'u'), ("date", .required, 'd'),
        ("reference", .required, 'r'), ("rfc-email", .no, 'R'), ("iso-8601", .possible, 'I')] }
  let (options, operands) ← table.read words
  let now ← ask .time
  let time ← match lastOf? options 'd', lastOf? options 'r' with
    | some text, _ =>
      match Touch.date? now text with
      | some time => pure time
      | none => fail ("invalid date " ++ Quote.text text)
    | none, some path =>
      match ← Tool.status path true with
      | .ok status => pure status.modified
      | .error e => fail (Quote.file path ++ ": " ++ e.reason)
    | none, none => pure now
  let format ← match operands with
    | [] =>
      if isGiven options 'R' then pure "%a, %d %b %Y %H:%M:%S +0000"
      else match lastOf? options 'I' with
        | some "seconds" => pure "%Y-%m-%dT%H:%M:%S+00:00"
        | some "minutes" => pure "%Y-%m-%dT%H:%M+00:00"
        | some "hours" => pure "%Y-%m-%dT%H+00:00"
        | some "ns" => pure "%Y-%m-%dT%H:%M:%S,%N+00:00"
        | some _ => pure "%Y-%m-%d"
        | none => pure "%a %b %e %H:%M:%S UTC %Y"
    | [word] =>
      if word.startsWith "+" then pure (String.ofList (word.toList.drop 1))
      else fail ("invalid date " ++ Quote.text word)
    | _ :: word :: _ => failExtra word
  sayLine (dateText time format)

/-- Tells who the user is. -/
def id (words : List String) : Tool Unit := do
  let table : OptionTable :=
    { letters := "agnruzGZ"
      names := [("group", .no, 'g'), ("groups", .no, 'G'), ("name", .no, 'n'), ("real", .no, 'r'),
        ("user", .no, 'u'), ("zero", .no, 'z')] }
  let (options, operands) ← table.read words
  let chosen := options.filter fun given => "ugG".toList.contains given.letter
  if (chosen.map (·.letter)).eraseDups.length > 1 then
    fail "cannot print \"only\" of more than one choice"
  if chosen.isEmpty && (isGiven options 'n' || isGiven options 'r') then
    fail "cannot print only names or real IDs in default format"
  for name in if operands.isEmpty then ["root"] else operands do
    if name != "root" && name != "0" then warn (Quote.text name ++ ": no such user")
    else if chosen.isEmpty then sayLine "uid=0(root) gid=0(root) groups=0(root)"
    else sayLine (if isGiven options 'n' then "root" else "0")

/-- Tells the name of the user. -/
def whoami (words : List String) : Tool Unit := do
  let (_, operands) ← OptionTable.read { letters := "" } words
  noOperands operands
  sayLine "root"

/-- Tells the groups of users. -/
def groups (words : List String) : Tool Unit := do
  let (_, operands) ← OptionTable.read { letters := "" } words
  if operands.isEmpty then sayLine "root"
  for name in operands do
    if name = "root" then sayLine "root : root" else warn (Quote.text name ++ ": no such user")

/-- Tells who logged in: nobody. -/
def logname (words : List String) : Tool Unit := do
  let (_, operands) ← OptionTable.read { letters := "" } words
  noOperands operands
  fail "no login name"

/-- The facts about a system, by their letters. -/
def systemFacts : List (Char × String) :=
  [('s', "Linux"), ('n', "localhost"), ('r', "6.1.0"), ('v', "#1 SMP"), ('m', "x86_64"),
    ('o', "GNU/Linux")]

/-- Tells facts about the system. -/
def uname (words : List String) : Tool Unit := do
  let table : OptionTable :=
    { letters := "asnrvmpio"
      names := [("all", .no, 'a'), ("kernel-name", .no, 's'), ("nodename", .no, 'n'),
        ("kernel-release", .no, 'r'), ("kernel-version", .no, 'v'), ("machine", .no, 'm'),
        ("operating-system", .no, 'o')] }
  let (options, operands) ← table.read words
  noOperands operands
  let wanted (letter : Char) : Bool :=
    isGiven options 'a' || isGiven options letter || options.isEmpty && letter = 's'
  sayLine (" ".intercalate ((systemFacts.filter fun fact => wanted fact.1).map (·.2)))

/-- Tells one fact. -/
def fact (text : String) (words : List String) : Tool Unit := do
  let (_, operands) ← OptionTable.read { letters := "" } words
  noOperands operands
  sayLine text

/-- Tells that there is no terminal. -/
def tty (words : List String) : Tool Unit := do
  modify fun s => { s with failStatus := 2 }
  let (options, operands) ←
    OptionTable.read { letters := "s", names := [("silent", .no, 's'), ("quiet", .no, 's')] } words
  noOperands operands
  unless isGiven options 's' do sayLine "not a tty"
  note 1

/-- Tells where programs are. -/
def which (words : List String) (environment : Environment) : Tool Unit := do
  let (options, names) ← match OptionTable.readFrom { letters := "as", isStrict := true } words [] [] with
    | .ok found => pure found
    | .error _ =>
      let letter := ((words.headD "").toList.drop 1).headD '-'
      tell ("Illegal option -" ++ letter.toString ++ "\nUsage: /usr/bin/which [-as] args\n")
      throw 2
  if names.isEmpty then note 1
  for name in names do
    let homes := ((environment.lookup "PATH").getD "/bin:/usr/bin").splitOn ":"
    let paths := if name.toList.contains '/' then [name] else homes.map fun home =>
      (if home.isEmpty then "." else home) ++ "/" ++ name
    let found ← paths.filterM fun path => do
      match ← Tool.status path true with
      | .ok status => return status.isExecutable
      | .error _ => return false
    if found.isEmpty then note 1
    unless isGiven options 's' do
      (if isGiven options 'a' then found else found.take 1).forM sayLine

/-- Looks whether files can be opened. -/
def sync (words : List String) : Tool Unit := do
  let (_, operands) ← OptionTable.read
    { letters := "df", names := [("data", .no, 'd'), ("file-system", .no, 'f')] } words
  for path in operands do
    match ← open_ path with
    | .ok descriptor => close descriptor
    | .error e => warn ("error opening " ++ Quote.always path ++ ": " ++ e.reason)

/-! ### The same files -/

/-- Complains, and tells how to get help. -/
def failCompare (detail : String) : Tool α := do
  complain detail
  fail ("Try '" ++ (← get).name ++ " --help' for more information.")

/-- A byte in three octal digits at least. -/
def octalByte (c : Char) : String := padLeft 3 (String.ofList (Nat.toDigits 8 c.toNat)) ' '

/-- Tells whether files are the same. -/
def cmp (words : List String) : Tool Unit := do
  modify fun s => { s with failStatus := 2 }
  let table : OptionTable :=
    { letters := "bi:ln:sv"
      names := [("print-bytes", .no, 'b'), ("ignore-initial", .required, 'i'), ("verbose", .no, 'l'),
        ("bytes", .required, 'n'), ("quiet", .no, 's'), ("silent", .no, 's')] }
  let (options, operands) ← match table.readFrom words [] [] with
    | .ok found => pure found
    | .error detail => failCompare detail
  let count (letter : Char) : Option Nat := (lastOf? options letter).bind scaled?
  match operands with
  | [] => failCompare ("missing operand after " ++ Quote.text (← get).name)
  | first :: others =>
    let second := others.headD "-"
    let tells := !isGiven options 's'
    let read (path : String) : Tool (List Char) := do
      match ← open_ path with
      | .error e => fail (path ++ ": " ++ e.reason)
      | .ok descriptor =>
        match ← readAll descriptor with
        | .error e => fail (path ++ ": " ++ e.reason)
        | .ok text =>
          close descriptor
          let text := text.drop ((count 'i').getD 0)
          return (count 'n').elim text text.take
    let a ← read first
    let b ← read second
    let different := ((a.zip b).zip (List.range a.length)).filter fun ((c, d), _) => c != d
    match different with
    | ((_, _), n) :: _ =>
      note 1
      if isGiven options 'l' then
        for ((c, d), n) in different do
          sayLine (toString (n + 1) ++ " " ++ octalByte c ++ " " ++ octalByte d)
      else if tells then
        let line := ((a.take n).filter (· == '\n')).length + 1
        sayLine (s!"{first} {second} differ: char {n + 1}, line {line}")
    | [] =>
      if a.length != b.length then
        note 1
        let (name, text) := if a.length < b.length then (first, a) else (second, b)
        if tells then
          if text.isEmpty then complain ("EOF on " ++ name ++ " which is empty")
          else
            let lines := (text.filter (· == '\n')).length
            let place := if isGiven options 'l' then ""
              else if text.getLast? == some '\n' then s!", line {lines}"
              else s!", in line {lines + 1}"
            complain ("EOF on " ++ name ++ s!" after byte {text.length}" ++ place)

end Facts

end DeviceLab.Tools
