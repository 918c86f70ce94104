import DeviceLab.Host.IoError
import DeviceLab.Tools.IndentedValues

/-!
# The carrying out of indented scripts

What is known while an indented script is carried out, and how it goes wrong.

* `Indented.State`: what is known.
* `Indented.Running`: the carrying out of a script.
* `Indented.fail`: something goes wrong.
* `Indented.shown`: the text of a value.
-/

namespace DeviceLab.Tools.Indented

open Text Unix Tool

/-! ### The state -/

/-- The values of names. -/
structure Scope where
  values : Std.HashMap String Value := {}
  /-- The scope around. -/
  parent : Option Nat := none
  names : Names := {}
  /-- Whether it is the scope of a kind, whose names functions in it do not see. -/
  isKind : Bool := false
  deriving Inhabited

/-- What is known while a script is carried out. -/
structure State where
  heap : Heap := #[]
  scopes : Array Scope := #[{}]
  /-- The scope at hand. -/
  scope : Nat := 0
  function : String := "<module>"
  /-- How many functions are being carried out. -/
  depth : Nat := 0
  /-- What has been caught and is being dealt with, the last thing first. -/
  handling : List Value := []
  /-- Values that are collected for functions that yield them. -/
  yielded : List (List Value) := []
  path : String := ""
  lines : Array String := #[]
  arguments : List String := []
  environment : Environment := []
  /-- The table of the variables, and the list of the arguments. -/
  environ : Value := .nothing
  words : Value := .nothing
  /-- What is done on signals. -/
  handlers : List (Nat × Value) := []
  /-- Whether output is written at once. -/
  isDirect : Bool := false
  /-- Characters of the input that have been read. -/
  ahead : List Char := []
  /-- Processes that have ended, with how. -/
  finished : List (Nat × Int) := []

/-- What is raised, and where, if that is known. -/
structure Raised where
  value : Value
  place : Option (Span × Option Anchor) := none
  /-- Whether the function at hand has been noted already. -/
  isNoted : Bool := false

/-- The carrying out of a script. -/
abbrev Running := ExceptT Raised (StateT State Tool)

abbrev Caller := Value → List Value → List (String × Value) → Running Value

/-- Something that programs do. -/
def lift (x : Tool α) : Running α := ExceptT.lift (StateT.lift x)

def ask (c : Call) : Running c.Answer := lift (Tool.ask c)

/-! ### Objects -/

def make (o : Object) : Running Value := modifyGet fun s =>
  (.object s.heap.size, { s with heap := s.heap.push o })

def look (v : Value) : Running (Option Object) := do return (← get).heap.get? v

/-- Puts an object in the place of another one. -/
def put (v : Value) (o : Object) : Running Unit :=
  match v with
  | .object n => modify fun s => { s with heap := s.heap.set! n o }
  | _ => pure ()

def makeList (items : List Value) : Running Value := make (.list items.toArray)

def makeTable (entries : List (Value × Value)) : Running Value := make (.table entries.toArray)

def kindOf (v : Value) : Running String := do return kindName (← get).heap v

/-! ### What goes wrong -/

/-- Raises something of a kind, with some values. -/
def failArgs (kind : String) (arguments : List Value) (attributes : List (String × Value)) :
    Running α := do
  let context := (← get).handling.head?
  let value ← make (.error (.native kind) arguments attributes [] none context)
  throw { value }

/-- Raises something of a kind, with a text. -/
def fail (kind detail : String) : Running α := failArgs kind [.text detail] []

/-- A value of a wrong kind. -/
def failType (detail : String) : Running α := fail "TypeError" detail

/-- The number of a failure of the system. -/
def errorNumber (e : IoError) : Nat :=
  match (e.message.splitOn " (os error ") with
  | [_, number] => (String.ofList (number.toList.takeWhile Char.isDigit)).toNat?.getD 0
  | _ => 0

/-- The kind of a failure of the system. -/
def errorKind (e : IoError) : String :=
  match e with
  | .notFound => "FileNotFoundError"
  | .noSuchProcess => "ProcessLookupError"
  | .permissionDenied | .notPermitted => "PermissionError"
  | .alreadyExists => "FileExistsError"
  | .notADirectory => "NotADirectoryError"
  | .isADirectory => "IsADirectoryError"
  | .brokenPipe => "BrokenPipeError"
  | .interrupted => "InterruptedError"
  | .connectionRefused => "ConnectionRefusedError"
  | _ => "OSError"

/-- A failure of the system, perhaps with a path. -/
def failSystem (e : IoError) (paths : List String) : Running α :=
  failArgs (errorKind e) [.whole (errorNumber e), .text e.reason]
    [("errno", .whole (errorNumber e)), ("strerror", .text e.reason),
      ("filename", (paths.head?.map Value.text).getD .nothing),
      ("filename2", (paths[1]?.map Value.text).getD .nothing)]

/-- Notes that something goes wrong in functions of another script, the innermost one last. -/
def throughFrames (frames : List Frame) (x : Running α) : Running α :=
  tryCatch x fun raised => do
    match ← look raised.value with
    | some (.error kind arguments attributes inner cause context) =>
      put raised.value (.error kind arguments attributes (frames ++ inner) cause context)
    | _ => pure ()
    throw raised

/-- A function of another script, with the line that is shown of it and where in it something goes
wrong. -/
def frameOf (path function : String) (line : Nat) (text : String) (first size : Nat) : Frame :=
  let marks := if size = 0 then [] else
    [String.ofList (List.replicate (first + 4) ' ' ++ List.replicate size '^')]
  { function, span := ⟨line, 0, line, 0⟩
    elsewhere := some (path, if text.isEmpty then [] else ("    " ++ text) :: marks) }

/-- The result of a call of the system, or a failure. -/
def orFail (paths : List String) (x : Except IoError α) : Running α :=
  match x with
  | .ok a => return a
  | .error e => failSystem e paths

/-! ### Texts of bytes and of characters -/

def decoded (bytes : String) : String := Octets.toText bytes

def encoded (text : String) : String := Octets.ofText text

/-- Writes a text to the output. -/
def emit (text : String) : Running Unit := do
  lift (say (encoded text))
  if (← get).isDirect then lift flush
  match ← lift (do return (← getThe ToolState).lost) with
  | none => return
  | some e =>
    lift (modifyThe ToolState fun s => { s with lost := none })
    failSystem e []

/-- Writes a text to the output for complaints. -/
def emitComplaint (text : String) : Running Unit := do
  discard (lift (write 2 (encoded text)))

/-! ### The texts of values -/

/-- Whether a kind belongs to another one, both of which every script has. -/
def isNativeKind (wanted : String) : Nat → String → Bool
  | 0, _ => false
  | fuel + 1, name =>
    name == wanted || match errorKinds.lookup name with
      | some parent => isNativeKind wanted fuel parent
      | none => wanted == "object"

/-- The kinds that a kind belongs to, itself first; `fuel` bounds their number. -/
def kindsOf (h : Heap) : Nat → Value → List Value
  | 0, _ => []
  | fuel + 1, kind =>
    kind :: match kind with
      | .native name => match errorKinds.lookup name with
        | some parent => kindsOf h fuel (.native parent)
        | none => []
      | _ => match h.get? kind with
        | some (.kind _ bases _) => bases.flatMap (kindsOf h fuel)
        | _ => []

/-- What a kind of the script says about a name. -/
def kindAttribute? (h : Heap) (kind : Value) (name : String) : Option Value :=
  (kindsOf h 100 kind).findSome? fun k => match h.get? k with
    | some (.kind _ _ attributes) => attributes.lookup name
    | _ => none

/-- What the kind of a value says about a name. -/
def ownMethod? (h : Heap) (v : Value) (name : String) : Option Value :=
  match h.get? v with
  | some (.instance_ kind _) | some (.error kind ..) => kindAttribute? h kind name
  | _ => none

/-- The address that is shown of an object. -/
def addressOf (n : Nat) : String :=
  "0x" ++ String.ofList (hexDigits 12 (0x7f0000000000 + n * 64))

mutual

/-- The text of a value; `exact` tells that it is shown as in a script. -/
def shown (call : Caller) (exact : Bool) : Nat → Value → Running String
  | 0, _ => return "..."
  | fuel + 1, v => do
    match v with
    | .nothing => return "None"
    | .ellipsis => return "Ellipsis"
    | .truth b => return if b then "True" else "False"
    | .whole n => return toString n
    | .real x => return realText x
    | .text s => return if exact then quoted false s else s
    | .bytes s => return quoted true s
    | .tuple items =>
      match ← shownAll call fuel items with
      | [one] => return "(" ++ one ++ ",)"
      | texts => return "(" ++ ", ".intercalate texts ++ ")"
    | .range a b c =>
      let step := if c = 1 then "" else ", " ++ toString c
      return "range(" ++ toString a ++ ", " ++ toString b ++ step ++ ")"
    | .native name =>
      if kindName.isKind name then return "<class '" ++ name ++ "'>"
      if name = "sys.stdout" then
        return "<_io.TextIOWrapper name='<stdout>' mode='w' encoding='utf-8'>"
      return "<built-in function " ++ shortName name ++ ">"
    | .method self name =>
      return "<built-in method " ++ name ++ " of " ++ (← kindOf self) ++ " object>"
    | .module name => return "<module '" ++ name ++ "'>"
    | .object n =>
      let h := (← get).heap
      match h[n]? with
      | some (.list items) =>
        return "[" ++ ", ".intercalate (← shownAll call fuel items.toList) ++ "]"
      | some (.set items) =>
        if items.isEmpty then return "set()"
        return "\x7b" ++ ", ".intercalate (← shownAll call fuel items.toList) ++ "\x7d"
      | some (.table entries) =>
        return "\x7b" ++ ", ".intercalate (← shownEntries call fuel entries.toList) ++ "\x7d"
      | some (.function name ..) => return "<function " ++ name ++ " at " ++ addressOf n ++ ">"
      | some (.bound self function) =>
        let name := match h.get? function with
          | some (.function name ..) => name
          | _ => "function"
        return "<bound method " ++ (← kindOf self) ++ "." ++ name ++ ">"
      | some (.kind name ..) => return "<class '__main__." ++ name ++ "'>"
      | some (.error kind arguments attributes ..) =>
        match if exact then none else kindAttribute? h kind "__str__" with
        | some f => textFrom call f v
        | none => shownError call fuel exact (kindName h v) kind arguments attributes
      | some (.instance_ kind attributes) =>
        let wanted := if exact then ["__repr__"] else ["__str__", "__repr__"]
        match wanted.findSome? (kindAttribute? h kind) with
        | some f => textFrom call f v
        | none =>
          let name := kindName h v
          match kind with
          | .native "subprocess.CompletedProcess" =>
            let kept := attributes.filter fun (name, value) => name != "stderr" && name != "stdout" ||
              !(value matches .nothing)
            let texts ← kept.mapM fun (name, value) => do
              return name ++ "=" ++ (← shown call true fuel value)
            return name ++ "(" ++ ", ".intercalate texts ++ ")"
          | .native _ => return "<" ++ name ++ " object at " ++ addressOf n ++ ">"
          | _ => return "<__main__." ++ name ++ " object at " ++ addressOf n ++ ">"
      | some (.file path mode ..) =>
        return "<_io.TextIOWrapper name=" ++ quoted false path ++ " mode=" ++ quoted false mode
          ++ " encoding='UTF-8'>"
      | some (.stream _) => return "<generator object <genexpr> at " ++ addressOf n ++ ">"
      | none => return ""

/-- The text that a function of the script makes of a value. -/
def textFrom (call : Caller) (f v : Value) : Running String := do
  match ← call f [v] [] with
  | .text s => return s
  | other =>
    failType ("__str__ returned non-string (type " ++ (← kindOf other) ++ ")")

/-- The texts of values, as in a script. -/
def shownAll (call : Caller) : Nat → List Value → Running (List String)
  | 0, _ => return ["..."]
  | _ + 1, [] => return []
  | fuel + 1, v :: rest => do
    let text ← shown call true fuel v
    return text :: (← shownAll call fuel rest)

/-- The texts of the entries of a table. -/
def shownEntries (call : Caller) : Nat → List (Value × Value) → Running (List String)
  | 0, _ => return ["..."]
  | _ + 1, [] => return []
  | fuel + 1, (key, value) :: rest => do
    let text := (← shown call true fuel key) ++ ": " ++ (← shown call true fuel value)
    return text :: (← shownEntries call fuel rest)

/-- The text of what is raised. -/
def shownError (call : Caller) : Nat → Bool → String → Value → List Value →
    List (String × Value) → Running String
  | 0, _, _, _, _, _ => return ""
  | fuel + 1, exact, name, kind, arguments, attributes => do
    if exact then
      let texts ← shownAll call fuel arguments
      return name ++ "(" ++ ", ".intercalate texts ++ ")"
    let belongs (wanted : String) (h : Heap) : Bool :=
      (kindsOf h 100 kind).any fun k => match k with
        | .native name => name == wanted
        | _ => false
    let h := (← get).heap
    match arguments with
    | [n, reason] =>
      if belongs "OSError" h then
        let front := "[Errno " ++ (← shown call false fuel n) ++ "] "
          ++ (← shown call false fuel reason)
        match attributes.lookup "filename", attributes.lookup "filename2" with
        | some (.text path), some (.text other) =>
          return front ++ ": " ++ quoted false path ++ " -> " ++ quoted false other
        | some (.text path), _ => return front ++ ": " ++ quoted false path
        | _, _ => return front
      else if belongs "subprocess.TimeoutExpired" h then
        return "Command '" ++ (← shown call false fuel n) ++ "' timed out after "
          ++ (← shown call false fuel reason) ++ " seconds"
      else if belongs "subprocess.CalledProcessError" h then
        let front := "Command '" ++ (← shown call false fuel reason) ++ "' "
        match n with
        | .whole n =>
          if n < 0 then
            return front ++ "died with <Signals." ++ Signal.name n.natAbs ++ ": "
              ++ toString n.natAbs ++ ">."
          return front ++ "returned non-zero exit status " ++ toString n ++ "."
        | _ => return front
      else shown call true fuel (.tuple arguments)
    | [] => return ""
    | [one] => shown call (belongs "KeyError" h) fuel one
    | several => shown call true fuel (.tuple several)

end

def textOf (call : Caller) (v : Value) : Running String := shown call false 1000 v

def exactTextOf (call : Caller) (v : Value) : Running String := shown call true 1000 v

/-! ### Values as numbers, texts and sequences -/

/-- A value as a whole number. -/
def needWhole (v : Value) : Running Int := do
  match v with
  | .whole n => return n
  | .truth b => return if b then 1 else 0
  | _ => failType ("'" ++ (← kindOf v) ++ "' object cannot be interpreted as an integer")

/-- A value as a real number. -/
def needReal (v : Value) : Running Float := do
  match v.number? with
  | some (.inl n) => return realOfInt n
  | some (.inr x) => return x
  | none => failType ("must be real number, not " ++ (← kindOf v))

def needText (v : Value) : Running String := do
  match v with
  | .text s => return s
  | _ => failType ("expected str instance, " ++ (← kindOf v) ++ " found")

/-- A value as a path. -/
def needPath (v : Value) : Running String := do
  match v with
  | .text s => return encoded s
  | .bytes s => return s
  | _ =>
    failType ("expected str, bytes or os.PathLike object, not " ++ (← kindOf v))

/-- The lines of a text, each with its end. -/
def wholeLines (text : List Char) : List (List Char) :=
  let (last, whole) := text.foldr (fun c (line, whole) =>
    if c = '\n' then ([c], if line.isEmpty then whole else line :: whole)
    else (c :: line, whole)) (([], []) : List Char × _)
  if last.isEmpty then whole else last :: whole

/-- Reads what is left of a file. -/
def readRest (v : Value) : Running String := do
  match ← look v with
  | some (.file path mode (some descriptor) ahead waiting) =>
    let rest ← orFail [] (← lift (Tool.readAll descriptor))
    put v (.file path mode (some descriptor) [] waiting)
    return String.ofList (ahead ++ rest)
  | _ => fail "ValueError" "I/O operation on closed file."

/-- Whether a file holds bytes, and no text. -/
def isBinary (mode : String) : Bool := mode.toList.contains 'b'

def contentValue (mode bytes : String) : Value :=
  if isBinary mode then .bytes bytes else .text (decoded bytes)

/-- All values of a sequence. -/
def itemsOf (call : Caller) (v : Value) : Running (List Value) := do
  let noSequence : Running (List Value) := do
    failType ("'" ++ (← kindOf v) ++ "' object is not iterable")
  match v with
  | .text s => return s.toList.map fun c => .text c.toString
  | .bytes s => return s.toList.map fun c => .whole c.toNat
  | .tuple items => return items
  | .range a b c => return rangeItems a b c
  | .native "sys.stdin" =>
    let rest ← orFail [] (← lift (Tool.readAll 0))
    let ahead := (← get).ahead
    modify fun s => { s with ahead := [] }
    return (wholeLines (ahead ++ rest)).map fun line => .text (decoded (String.ofList line))
  | .native "os.environ" => itemsOfObject noSequence (← get).environ
  | .native "sys.argv" => itemsOfObject noSequence (← get).words
  | .object _ => itemsOfObject noSequence v
  | _ => noSequence
where
  /-- All values of an object. -/
  itemsOfObject (noSequence : Running (List Value)) (v : Value) : Running (List Value) := do
    match ← look v with
    | some (.list items) | some (.set items) => return items.toList
    | some (.table entries) => return entries.toList.map Prod.fst
    | some (.stream items) =>
      put v (.stream [])
      return items
    | some (.file _ mode ..) =>
      let text ← readRest v
      return (wholeLines text.toList).map fun line => contentValue mode (String.ofList line)
    | some (.instance_ kind _) =>
      let h := (← get).heap
      match kindAttribute? h kind "__iter__" with
      | none => noSequence
      | some f =>
        let source ← call f [v] []
        match source with
        | .object _ =>
          if same h source v then takeAll source 1000000 []
          else
            match ← look source with
            | some (.list items) | some (.set items) => return items.toList
            | some (.stream items) =>
              put source (.stream [])
              return items
            | some (.table entries) => return entries.toList.map Prod.fst
            | _ => takeAll source 1000000 []
        | .tuple items => return items
        | .text s => return s.toList.map fun c => .text c.toString
        | _ => noSequence
    | _ => noSequence
  /-- All values that an object gives one by one. -/
  takeAll (source : Value) : Nat → List Value → Running (List Value)
    | 0, found => return found.reverse
    | fuel + 1, found => do
      match ownMethod? (← get).heap source "__next__" with
      | none => return found.reverse
      | some f =>
        let next ← try
            let value ← call f [source] []
            pure (some value)
          catch raised =>
            match ← kindOf raised.value with
            | "StopIteration" => pure none
            | _ => throw raised
        match next with
        | some value => takeAll source fuel (value :: found)
        | none => return found.reverse

/-- An index of a sequence of a size. -/
def indexIn (kind : String) (size : Nat) (index : Value) : Running Nat := do
  match index with
  | .whole n =>
    let n := if n < 0 then n + size else n
    if n < 0 || (size : Int) ≤ n then fail "IndexError" (kind ++ " index out of range")
    return n.toNat
  | .truth b =>
    let n := if b then 1 else 0
    if size ≤ n then fail "IndexError" (kind ++ " index out of range")
    return n
  | _ => do
    let shownKind := if kind = "string" then "string" else kind
    failType (shownKind ++ " indices must be integers or slices, not " ++ (← kindOf index))

/-- Complains about a value that cannot be a key. -/
def needKey (v : Value) : Running Unit := do
  match ← look v with
  | some (.list _) | some (.table _) | some (.set _) =>
    failType ("unhashable type: '" ++ (← kindOf v) ++ "'")
  | _ => return

end DeviceLab.Tools.Indented
