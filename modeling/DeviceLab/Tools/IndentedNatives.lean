import DeviceLab.Tools.IndentedOperators
import DeviceLab.Tools.IndentedSystem

/-!
# What every indented script has

The functions and kinds that every script has, and the modules that it can bring in.

* `Indented.getAttribute`: a part of a value by its name.
* `Indented.moduleValue?`: what is in the modules.
* `Indented.callNative`: the call of a function that every script has.
-/

namespace DeviceLab.Tools.Indented

open Text Unix Tool

/-! ### Modules -/

/-- The names of the modules. -/
def modules : List String :=
  ["sys", "os", "os.path", "time", "signal", "subprocess", "json", "math", "string", "errno",
    "shutil", "traceback"]

/-- The functions in the modules. -/
def moduleFunctions : List (String × List String) :=
  [("sys", ["exit", "getrecursionlimit", "setrecursionlimit", "getsizeof", "exc_info",
      "getdefaultencoding", "getfilesystemencoding", "intern"]),
    ("os", ["getpid", "getppid", "getpgrp", "getpgid", "getsid", "getuid", "geteuid", "getgid",
      "getegid", "getcwd", "cpu_count", "getenv", "putenv", "chdir", "listdir", "mkdir",
      "makedirs", "rmdir", "remove", "unlink", "rename", "replace", "symlink", "link", "mkfifo",
      "chmod", "truncate", "readlink", "stat", "lstat", "access", "umask", "kill", "killpg",
      "setsid", "system", "popen", "fork", "wait", "waitpid", "waitstatus_to_exitcode",
      "WIFEXITED", "WEXITSTATUS", "WIFSIGNALED", "WTERMSIG", "_exit", "abort", "pipe", "close",
      "dup", "dup2", "read", "write", "isatty", "execv", "execvp", "execl", "execlp"]),
    ("os.path", ["join", "basename", "dirname", "split", "splitext", "normpath", "abspath",
      "realpath", "isabs", "expanduser", "expandvars", "exists", "lexists", "isfile", "isdir",
      "islink", "getsize", "getmtime"]),
    ("time", ["time", "sleep", "monotonic", "perf_counter", "process_time", "time_ns",
      "monotonic_ns", "perf_counter_ns"]),
    ("signal", ["signal", "getsignal", "pause", "raise_signal", "default_int_handler",
      "strsignal", "siginterrupt"]),
    ("subprocess", ["run", "call", "check_call", "check_output", "getoutput", "getstatusoutput"]),
    ("json", ["dumps", "loads", "dump", "load"]),
    ("math", ["floor", "ceil", "sqrt", "trunc", "fabs", "pow", "gcd", "isnan", "isinf", "isfinite",
      "factorial", "exp", "log", "log2", "log10", "sin", "cos", "tan", "isqrt"]),
    ("shutil", ["which"]), ("traceback", ["print_exc", "format_exc"])]

/-- The values in the modules that are always the same. -/
def moduleConstants : List (String × Value) :=
  let range (first behind : Nat) : String :=
    String.ofList ((List.range (behind - first)).map fun n => Char.ofNat (first + n))
  [("sys.platform", .text "linux"), ("sys.maxsize", .whole 9223372036854775807),
    ("sys.executable", .text "/usr/bin/python3"), ("sys.byteorder", .text "little"),
    ("sys.version", .text "3.12.3 (main, Mar 23 2026, 19:04:32) [GCC 13.3.0]"),
    ("sys.version_info", .tuple [.whole 3, .whole 12, .whole 3, .text "final", .whole 0]),
    ("sys.stdin", .native "sys.stdin"), ("sys.stdout", .native "sys.stdout"),
    ("sys.stderr", .native "sys.stderr"), ("sys.__stdout__", .native "sys.stdout"),
    ("sys.__stderr__", .native "sys.stderr"),
    ("os.name", .text "posix"), ("os.sep", .text "/"), ("os.linesep", .text "\n"),
    ("os.pathsep", .text ":"), ("os.curdir", .text "."), ("os.pardir", .text ".."),
    ("os.devnull", .text "/dev/null"), ("os.path", .module "os.path"), ("os.F_OK", .whole 0),
    ("os.R_OK", .whole 4), ("os.W_OK", .whole 2), ("os.X_OK", .whole 1), ("os.EX_OK", .whole 0),
    ("os.WNOHANG", .whole 1), ("os.error", .native "OSError"), ("os.path.sep", .text "/"),
    ("signal.SIG_DFL", .whole 0), ("signal.SIG_IGN", .whole 1), ("signal.NSIG", .whole 65),
    ("subprocess.PIPE", .whole (-1)), ("subprocess.STDOUT", .whole (-2)),
    ("subprocess.DEVNULL", .whole (-3)), ("subprocess.Popen", .native "subprocess.Popen"),
    ("subprocess.CalledProcessError", .native "subprocess.CalledProcessError"),
    ("subprocess.SubprocessError", .native "subprocess.SubprocessError"),
    ("subprocess.TimeoutExpired", .native "subprocess.TimeoutExpired"),
    ("subprocess.CompletedProcess", .native "subprocess.CompletedProcess"),
    ("json.JSONDecodeError", .native "json.decoder.JSONDecodeError"),
    ("math.pi", .real (Float.ofBits 0x400921fb54442d18)),
    ("math.e", .real (Float.ofBits 0x4005bf0a8b145769)), ("math.inf", .real (1.0 / 0.0)),
    ("math.nan", .real (0.0 / 0.0)), ("math.tau", .real (Float.ofBits 0x401921fb54442d18)),
    ("string.ascii_lowercase", .text (range 97 123)),
    ("string.ascii_uppercase", .text (range 65 91)),
    ("string.ascii_letters", .text (range 97 123 ++ range 65 91)),
    ("string.digits", .text (range 48 58)), ("errno.ENOENT", .whole 2),
    ("errno.EEXIST", .whole 17), ("errno.EACCES", .whole 13), ("errno.ESRCH", .whole 3),
    ("errno.EPIPE", .whole 32), ("errno.EINTR", .whole 4), ("errno.EPERM", .whole 1),
    ("errno.EINVAL", .whole 22), ("errno.ECHILD", .whole 10), ("errno.EISDIR", .whole 21),
    ("errno.ENOTDIR", .whole 20), ("errno.ENOTEMPTY", .whole 39)]

/-- What is in a module under a name. -/
def moduleValue? (s : State) (module name : String) : Option Value :=
  let full := module ++ "." ++ name
  if full = "sys.argv" then some s.words
  else if full = "os.environ" then some s.environ
  else if module = "signal" && name.startsWith "SIG" && !name.startsWith "SIG_" then
    (Signal.ofName? (String.ofList (name.toList.drop 3))).map fun n => .whole n
  else if ((moduleFunctions.lookup module).getD []).contains name then some (.native full)
  else if name = "__name__" then some (.text module)
  else moduleConstants.lookup full

/-- The functions that every script has. -/
def functions : List String :=
  ["print", "len", "repr", "sorted", "enumerate", "zip", "map", "filter", "any", "all", "min",
    "max", "sum", "abs", "round", "open", "input", "isinstance", "issubclass", "callable",
    "getattr", "setattr", "hasattr", "delattr", "ord", "chr", "hex", "oct", "bin", "divmod", "pow",
    "iter", "next", "reversed", "hash", "id", "exit", "quit", "format", "ascii", "vars", "dir",
    "super", "globals", "locals", "__import__"]

/-- The kinds that every script has. -/
def kinds : List String :=
  ["int", "str", "float", "bool", "list", "tuple", "dict", "set", "bytes", "type", "range",
    "object", "frozenset", "property", "staticmethod", "classmethod"]

/-- A name that every script has. -/
def builtin? (name : String) : Option Value :=
  if functions.contains name || kinds.contains name ||
      (errorKinds.lookup name).isSome && !name.toList.contains '.' then some (.native name)
  else match name with
    | "IOError" | "EnvironmentError" => some (.native "OSError")
    | "NotImplemented" => some (.native "NotImplemented")
    | "Ellipsis" => some .ellipsis
    | _ => none

/-! ### Parts of values -/

/-- What a kind of the script says of a value, perhaps bound to it. -/
def bindTo (call : Caller) (self found : Value) : Running Value := do
  match ← look found with
  | some (.function ..) => make (.bound self found)
  | some (.instance_ (.native "property") attributes) =>
    call ((attributes.lookup "fget").getD .nothing) [self] []
  | some (.instance_ (.native "staticmethod") attributes) =>
    return (attributes.lookup "f").getD .nothing
  | some (.instance_ (.native "classmethod") attributes) =>
    let h := (← get).heap
    let kind := match h.get? self with
      | some (.instance_ kind _) => kind
      | _ => self
    make (.bound kind ((attributes.lookup "f").getD .nothing))
  | _ => return found

def kindValue (v : Value) : Running Value := do
  match ← look v with
  | some (.instance_ kind _) | some (.error kind ..) => return kind
  | _ => return .native (← kindOf v)

/-- The methods of the objects of kinds that every script has. -/
def nativeMethods : List (String × List String) :=
  [("subprocess.Popen",
    ["wait", "poll", "communicate", "kill", "terminate", "send_signal", "__enter__", "__exit__"])]

/-- Complains that a value has no part of a name. -/
def failAttribute (v : Value) (name : String) : Running α := do
  let front ← match v with
    | .module m => pure ("module '" ++ m ++ "'")
    | .native k => pure (if kindName.isKind k then "type object '" ++ shortName k ++ "'"
        else "'builtin_function_or_method' object")
    | v => do
      match ← look v with
      | some (.kind kind ..) => pure ("type object '" ++ kind ++ "'")
      | _ => do pure ("'" ++ (← kindOf v) ++ "' object")
  failArgs "AttributeError" [.text (front ++ " has no attribute '" ++ name ++ "'")]
    [("name", .text name), ("obj", v)]

/-- A part of a value by its name, if there is one. -/
def attribute? (call : Caller) (v : Value) (name : String) : Running (Option Value) := do
  let s ← get
  let h := s.heap
  if (methodNames h v).contains name then return some (.method v name)
  match name, v with
  | "__class__", _ => return some (← kindValue v)
  | "__doc__", _ => return some .nothing
  | _, .module m => return moduleValue? s m name
  | "__name__", .native n | "__qualname__", .native n => return some (.text (shortName n))
  | _, .native n =>
    if n = "sys.stdout" || n = "sys.stderr" || n = "sys.stdin" then
      match name with
      | "buffer" => return some (.native n)
      | "encoding" => return some (.text "utf-8")
      | _ => return none
    let names := match n with
      | "str" => "maketrans" :: textMethods
      | "dict" => tableMethods
      | "list" => listMethods
      | "set" => setMethods
      | "bytes" => ["fromhex"]
      | "object" => ["__init__", "__new__"]
      | _ => if (errorKinds.lookup n).isSome then ["__init__"] else []
    return if names.contains name then some (.native (n ++ "." ++ name)) else none
  | _, _ =>
    match h.get? v with
    | some (.function f ..) =>
      return if name = "__name__" || name = "__qualname__" then some (.text f) else none
    | some (.bound _ f) =>
      match name, h.get? f with
      | "__name__", some (.function f ..) => return some (.text f)
      | "__self__", _ => return none
      | _, _ => return none
    | some (.kind kind ..) =>
      match name, kindAttribute? h v name with
      | _, some found =>
        match h.get? found with
        | some (.function ..) | some (.instance_ (.native "property") _) => return some found
        | _ => return some (← bindTo call v found)
      | "__name__", none | "__qualname__", none => return some (.text kind)
      | _, none => return none
    | some (.instance_ (.native "super") attributes) =>
      let self := (attributes.lookup "self").getD .nothing
      let kind := (attributes.lookup "kind").getD .nothing
      let own ← kindValue self
      let behind := ((kindsOf h 100 own).dropWhile fun k => !same h k kind).drop 1
      let found := behind.findSome? fun k => match h.get? k with
        | some (.kind _ _ attributes) => attributes.lookup name
        | _ => none
      match found with
      | some found => return some (← bindTo call self found)
      | none =>
        if name = "__init__" then return some (.method self "__init__")
        return none
    | some (.instance_ kind attributes) =>
      match attributes.lookup name with
      | some found => return some found
      | none =>
        if name = "__dict__" then
          return some (← makeTable (attributes.map fun (name, v) => (.text name, v)))
        match kind with
        | .native k =>
          if ((nativeMethods.lookup k).getD []).contains name then return some (.method v name)
          return none
        | _ =>
          match kindAttribute? h kind name with
          | some found => return some (← bindTo call v found)
          | none =>
            match kindAttribute? h kind "__getattr__" with
            | some f => return some (← call f [v, .text name] [])
            | none => return none
    | some (.error kind arguments attributes _ cause context) =>
      match attributes.lookup name with
      | some found => return some found
      | none =>
        match name, kind with
        | "args", _ => return some (.tuple arguments)
        | "__cause__", _ => return some (cause.getD .nothing)
        | "__context__", _ => return some (context.getD .nothing)
        | "__traceback__", _ => return some .nothing
        | "code", .native "SystemExit" => return some (arguments.headD .nothing)
        | "value", .native "StopIteration" => return some (arguments.headD .nothing)
        | _, _ =>
          match kindAttribute? h kind name with
          | some found => return some (← bindTo call v found)
          | none =>
            match name, arguments with
            | "errno", [n, _] => return some n
            | "strerror", [_, reason] => return some reason
            | "errno", _ | "strerror", _ | "filename", _ => return some .nothing
            | _, _ => return none
    | some (.file path mode descriptor ..) =>
      match name with
      | "name" => return some (.text path)
      | "mode" => return some (.text mode)
      | "closed" => return some (.truth descriptor.isNone)
      | "buffer" => return some v
      | _ => return none
    | _ => return none

/-- A part of a value by its name. -/
def getAttribute (call : Caller) (v : Value) (name : String) : Running Value := do
  match ← attribute? call v name with
  | some found => return found
  | none => failAttribute v name

/-! ### Items -/

/-- The whole number that a part of a slice is. -/
def placeOf (v : Value) : Running (Option Int) := do
  match v with
  | .nothing => return none
  | .whole n => return some n
  | .truth b => return some (if b then 1 else 0)
  | _ =>
    failType "slice indices must be integers or None or have an __index__ method"

/-- An item of a value. -/
def getItem (call : Caller) (v index : Value) : Running Value := do
  let h := (← get).heap
  let wrongIndex (kind : String) : Running Value := do
    failType (kind ++ " indices must be integers, not '" ++ (← kindOf index) ++ "'")
  match v with
  | .text s =>
    match index with
    | .whole _ | .truth _ =>
      let chars := s.toList
      return .text ((chars.getD (← indexIn "string" chars.length index) ' ').toString)
    | _ => wrongIndex "string"
  | .bytes s =>
    let chars := s.toList
    return .whole (chars.getD (← indexIn "index" chars.length index) ' ').toNat
  | .tuple items => return items.getD (← indexIn "tuple" items.length index) .nothing
  | .range a b c =>
    let items := rangeItems a b c
    return items.getD (← indexIn "range object" items.length index) .nothing
  | _ =>
    match h.get? v with
    | some (.list items) => return items.getD (← indexIn "list" items.size index) .nothing
    | some (.table entries) =>
      needKey index
      match keyPlace? h entries index with
      | some n => return (entries.getD n default).2
      | none =>
        let frames := if same h v (← get).environ then
            [frameOf "<frozen os>" "__getitem__" 685 "" 0 0] else []
        throughFrames frames (failArgs "KeyError" [index] [])
    | some (.instance_ kind _) =>
      match kindAttribute? h kind "__getitem__" with
      | some f => call f [v, index] []
      | none => failType ("'" ++ (← kindOf v) ++ "' object is not subscriptable")
    | _ => failType ("'" ++ (← kindOf v) ++ "' object is not subscriptable")

/-- A part of a sequence. -/
def getSlice (v : Value) (first behind step : Option Int) : Running Value := do
  if step == some 0 then fail "ValueError" "slice step cannot be zero"
  let cut {α : Type} (items : List α) (usual : α) : List α :=
    let whole := items.toArray
    (slicePlaces whole.size first behind step).map fun n => whole.getD n usual
  match v with
  | .text s => return .text (String.ofList (cut s.toList ' '))
  | .bytes s => return .bytes (String.ofList (cut s.toList ' '))
  | .tuple items => return .tuple (cut items .nothing)
  | .range a b c => makeList (cut (rangeItems a b c) .nothing)
  | _ =>
    match ← look v with
    | some (.list items) => makeList (cut items.toList .nothing)
    | some (.table _) => failType "unhashable type: 'slice'"
    | _ => failType ("'" ++ (← kindOf v) ++ "' object is not subscriptable")

/-- Gives an item of a value a new value. -/
def setItem (call : Caller) (v index value : Value) : Running Unit := do
  let h := (← get).heap
  match h.get? v with
  | some (.list items) =>
    match index with
    | .whole _ | .truth _ =>
      let n ← try indexIn "list assignment" items.size index
        catch raised => throw raised
      put v (.list (items.set! n value))
    | _ => discard (indexIn "list" items.size index)
  | some (.table entries) =>
    needKey index
    if same h v (← get).environ then
      match index, value with
      | .text _, .text _ => pure ()
      | .text _, other =>
        failType ("str expected, not " ++ (← kindOf other))
      | other, _ => failType ("str expected, not " ++ (← kindOf other))
    put v (.table (withEntry h entries index value))
  | some (.instance_ kind _) =>
    match kindAttribute? h kind "__setitem__" with
    | some f => discard (call f [v, index, value] [])
    | none =>
      failType ("'" ++ (← kindOf v) ++ "' object does not support item assignment")
  | _ => failType ("'" ++ (← kindOf v) ++ "' object does not support item assignment")

/-- Takes an item away from a value. -/
def removeItem (call : Caller) (v index : Value) : Running Unit := do
  let h := (← get).heap
  match h.get? v with
  | some (.list items) =>
    let n ← indexIn "list assignment" items.size index
    put v (.list (items.toList.take n ++ items.toList.drop (n + 1)).toArray)
  | some (.table entries) =>
    match keyPlace? h entries index with
    | some n => put v (.table (entries.toList.take n ++ entries.toList.drop (n + 1)).toArray)
    | none => failArgs "KeyError" [index] []
  | some (.instance_ kind _) =>
    match kindAttribute? h kind "__delitem__" with
    | some f => discard (call f [v, index] [])
    | none => failType ("'" ++ (← kindOf v) ++ "' object doesn't support item deletion")
  | _ => failType ("'" ++ (← kindOf v) ++ "' object doesn't support item deletion")

/-- Whether a value counts as true. -/
def truthOf (call : Caller) (v : Value) : Running Bool := do
  let h := (← get).heap
  match ownMethod? h v "__bool__", ownMethod? h v "__len__" with
  | some f, _ => return isTrue h (← call f [v] [])
  | none, some f => return isTrue h (← call f [v] [])
  | none, none => return isTrue h v

/-- The number of parts of a value. -/
def sizeOf (call : Caller) (v : Value) : Running Nat := do
  let h := (← get).heap
  match v with
  | .text s | .bytes s => return s.length
  | .tuple items => return items.length
  | .range a b c => return (rangeItems a b c).length
  | _ =>
    match h.get? v with
    | some (.list items) | some (.set items) => return items.size
    | some (.table entries) => return entries.size
    | _ =>
      match ownMethod? h v "__len__" with
      | some f => return (← needWhole (← call f [v] [])).toNat
      | none => failType ("object of type '" ++ (← kindOf v) ++ "' has no len()")

/-- Whether a value is among the parts of another one. -/
def isAmong (call : Caller) (v whole : Value) : Running Bool := do
  let h := (← get).heap
  match whole with
  | .text s =>
    match v with
    | .text part =>
      let chars := s.toList
      return (List.range (chars.length + 1)).any fun n => startsWith (chars.drop n) part.toList
    | _ =>
      failType ("'in <string>' requires string as left operand, not " ++ (← kindOf v))
  | .bytes s =>
    match v with
    | .bytes part =>
      let chars := s.toList
      return (List.range (chars.length + 1)).any fun n => startsWith (chars.drop n) part.toList
    | .whole n => return s.toList.contains (Char.ofNat n.toNat)
    | _ =>
      failType ("a bytes-like object is required, not '" ++ (← kindOf v) ++ "'")
  | _ =>
    match h.get? whole with
    | some (.table entries) => return (keyPlace? h entries v).isSome
    | _ =>
      match ownMethod? h whole "__contains__" with
      | some f => truthOf call (← call f [whole, v] [])
      | none =>
        let isPart ← match h.get? whole with
          | some (.list _) | some (.set _) | some (.stream _) | some (.instance_ ..)
          | some (.file ..) => pure true
          | _ => pure (whole matches .tuple _ | .range _ _ _)
        unless isPart do
          failType ("argument of type '" ++ (← kindOf whole) ++ "' is not iterable")
        let items ← itemsOf call whole
        return items.any (same h v)

/-! ### Kinds -/

/-- Whether a value is of a kind, or of one of several kinds. -/
def isOfKind (v kind : Value) : Running Bool := do
  let h := (← get).heap
  let wanted := match kind with
    | .tuple kinds => kinds
    | k => [k]
  let own ← kindValue v
  let all := kindsOf h 100 own
  return wanted.any fun k =>
    all.any (same h k) || match k, v with
      | .native "object", _ => true
      | .native "int", .truth _ => true
      | .native name, _ => (errorKinds.lookup name).isNone && kindName h v == name
      | _, _ => false

/-- The number that a text tells, in a base. -/
def wholeOfText? (base : Nat) (text : String) : Option Int :=
  let chars := (stripped true true isBlank text).toList
  let (isNegative, chars) := match chars with
    | '-' :: rest => (true, rest)
    | '+' :: rest => (false, rest)
    | rest => (false, rest)
  let marks : List (Char × Nat) := [('x', 16), ('o', 8), ('b', 2)]
  let (base, chars) := match chars with
    | '0' :: c :: rest =>
      match marks.lookup c.toLower with
      | some b => if base = b || base = 0 then (b, rest) else (base, chars)
      | none => (base, chars)
    | _ => (base, chars)
  let base := if base = 0 then 10 else base
  let value (c : Char) : Nat :=
    if c.isDigit then c.toNat - 48
    else if c.isAlpha then c.toLower.toNat - 87 else 99
  let isSpaced := chars.head? == some '_' || chars.getLast? == some '_'
  let digits := chars.filter (· != '_')
  if digits.isEmpty || isSpaced || digits.any fun c => base ≤ value c then none
  else
    let n : Nat := digits.foldl (fun n c => n * base + value c) 0
    some (if isNegative then -(n : Int) else n)

/-- A value as a whole number, as far as it tells one. -/
def toWhole (call : Caller) (arguments : List Value) : Running Value := do
  match arguments with
  | [] => return .whole 0
  | v :: more =>
    let base ← match more with
      | b :: _ => do pure (← needWhole b).toNat
      | [] => pure 10
    match v with
    | .whole n => return .whole n
    | .truth b => return .whole (if b then 1 else 0)
    | .real x =>
      match wholePart? x with
      | some n => return .whole n
      | none =>
        if x.isNaN then fail "ValueError" "cannot convert float NaN to integer"
        fail "OverflowError" "cannot convert float infinity to integer"
    | .text s | .bytes s =>
      match wholeOfText? base s with
      | some n => return .whole n
      | none =>
        fail "ValueError" ("invalid literal for int() with base " ++ toString base ++ ": "
          ++ (← exactTextOf call v))
    | v =>
      match ownMethod? (← get).heap v "__int__" with
      | some f => call f [v] []
      | none =>
        failType ("int() argument must be a string, a bytes-like object or a real number, not '"
          ++ (← kindOf v) ++ "'")

/-- A value as a real number, as far as it tells one. -/
def toReal (call : Caller) (arguments : List Value) : Running Value := do
  match arguments with
  | [] => return .real 0
  | v :: _ =>
    match v.number?, v with
    | some (.inl n), _ => return .real (realOfInt n)
    | some (.inr x), _ => return .real x
    | none, .text s =>
      let body := stripped true true isBlank s
      match Shell.Format.realOf? (body.toList.filter (· != '_')) with
      | some (x, []) =>
        if body.toList.any fun c => c = 'x' || c = 'X' then
          fail "ValueError" ("could not convert string to float: " ++ (← exactTextOf call v))
        return .real (Float.ofBits x.bits)
      | _ => fail "ValueError" ("could not convert string to float: " ++ (← exactTextOf call v))
    | none, v =>
      failType ("float() argument must be a string or a real number, not '" ++ (← kindOf v) ++ "'")

/-- A number rounded to the nearest whole one, or to some places; of two that are as near, the even
one. -/
def rounded (x : Float) (places : Option Int) : Value :=
  match places with
  | none =>
    match floor? x with
    | none => .real x
    | some n =>
      let rest := x - realOfInt n
      .whole (if rest < 0.5 then n else if 0.5 < rest then n + 1 else if n % 2 = 0 then n else n + 1)
  | some p =>
    let f : Format := { precision := some p.toNat, letter := some 'f' }
    match Shell.Format.realOf? (f.real x).toList with
    | some (y, _) => .real (Float.ofBits y.bits)
    | none => .real x

/-- An object of a kind that every script has. -/
def makeNative (call : Caller) (kind : String) (arguments : List Value)
    (named : List (String × Value)) : Running Value := do
  let items : Running (List Value) := match arguments with
    | [] => return []
    | v :: _ => itemsOf call v
  match kind with
  | "int" => toWhole call arguments
  | "float" => toReal call arguments
  | "str" =>
    match arguments with
    | [] => return .text ""
    | .bytes s :: _ :: _ => return .text (decoded s)
    | v :: _ => return .text (← textOf call v)
  | "bool" => match arguments with
    | [] => return .truth false
    | v :: _ => return .truth (← truthOf call v)
  | "bytes" => match arguments with
    | .text s :: _ :: _ => return .bytes (encoded s)
    | .text _ :: _ => failType "string argument without an encoding"
    | .whole n :: _ => return .bytes (String.ofList (List.replicate n.toNat (Char.ofNat 0)))
    | _ =>
      let found ← items
      return .bytes (String.ofList (found.filterMap fun v => match v with
        | .whole n => some (Char.ofNat n.toNat)
        | _ => none))
  | "list" => makeList (← items)
  | "tuple" => return .tuple (← items)
  | "set" | "frozenset" =>
    let found ← items
    found.forM needKey
    make (.set (onlyOnce (← get).heap found))
  | "dict" =>
    let found ← match arguments with
      | [] => pure []
      | v :: _ => entriesOf call v
    let all := found ++ named.map fun (name, v) => (.text name, v)
    let h := (← get).heap
    make (.table (all.foldl (fun kept (key, v) => withEntry h kept key v) #[]))
  | "range" =>
    match ← arguments.mapM needWhole with
    | [b] => return .range 0 b 1
    | [a, b] => return .range a b 1
    | [a, b, c] =>
      if c = 0 then fail "ValueError" "range() arg 3 must not be zero"
      return .range a b c
    | _ => failType "range expected at least 1 argument, got 0"
  | "type" => kindValue (arguments.headD .nothing)
  | "object" => make (.instance_ (.native "object") [])
  | "property" => make (.instance_ (.native "property") [("fget", arguments.headD .nothing)])
  | "staticmethod" | "classmethod" =>
    make (.instance_ (.native kind) [("f", arguments.headD .nothing)])
  | _ =>
    let context := (← get).handling.head?
    let attributes := match arguments with
      | [n, reason, path] =>
        if isNativeKind "OSError" 20 kind then
          [("errno", n), ("strerror", reason), ("filename", path)] else []
      | _ => []
    let kept := if attributes.isEmpty then arguments else arguments.take 2
    make (.error (.native kind) kept attributes [] none context)

/-! ### Functions -/

/-- Prints values. -/
def printValues (call : Caller) (arguments : List Value) (named : List (String × Value)) :
    Running Value := do
  for (name, _) in named do
    unless ["sep", "end", "file", "flush"].contains name do
      failType ("'" ++ name ++ "' is an invalid keyword argument for print()")
  let part (name usual : String) : Running String := do
    match named.lookup name with
    | none | some .nothing => return usual
    | some (.text s) => return s
    | some v =>
      failType (name ++ " must be None or a string, not " ++ (← kindOf v))
  let sep ← part "sep" " "
  let ending ← part "end" "\n"
  let texts ← arguments.mapM (textOf call)
  let text := sep.intercalate texts ++ ending
  match named.lookup "file" with
  | none | some .nothing | some (.native "sys.stdout") => emit text
  | some (.native "sys.stderr") => emitComplaint text
  | some file => do
    let write ← getAttribute call file "write"
    discard (call write [.text text] [])
  match named.lookup "flush" with
  | some v => if isTrue (← get).heap v then
      match named.lookup "file" with
      | none | some .nothing | some (.native _) => lift flush
      | some file => discard (callMethod call file "flush" [] [])
  | none => pure ()
  return .nothing

/-- The least or the greatest of some values. -/
def extreme (call : Caller) (isMost : Bool) (arguments : List Value) (named : List (String × Value)) :
    Running Value := do
  let name := if isMost then "max" else "min"
  let items ← match arguments with
    | [v] => itemsOf call v
    | [] => failType (name ++ " expected at least 1 argument, got 0")
    | several => pure several
  let keyOf (v : Value) : Running Value := do
    match named.lookup "key" with
    | none | some .nothing => return v
    | some f => call f [v] []
  match items with
  | [] =>
    match named.lookup "default" with
    | some v => return v
    | none => fail "ValueError" (name ++ "() iterable argument is empty")
  | v :: rest =>
    let mut best := v
    let mut bestKey ← keyOf v
    for w in rest do
      let key ← keyOf w
      let isBetter ← if isMost then lessOrFail call ">" bestKey key
        else lessOrFail call "<" key bestKey
      if isBetter then
        best := w
        bestKey := key
    return best

/-- Values side by side, up to the end of the shortest sequence. -/
def sideBySide : Nat → List (List Value) → List Value
  | 0, _ => []
  | fuel + 1, columns =>
    if columns.isEmpty || columns.any List.isEmpty then []
    else .tuple (columns.filterMap List.head?) :: sideBySide fuel (columns.map (List.drop 1))

/-- A function of the module of mathematics. -/
def mathFunction (name : String) (arguments : List Value) : Running Value := do
  let x ← needReal (arguments.headD .nothing)
  let whole (n : Option Int) : Running Value := do
    match n with
    | some n => return .whole n
    | none =>
      if x.isNaN then fail "ValueError" "cannot convert float NaN to integer"
      fail "OverflowError" "cannot convert float infinity to integer"
  match name, arguments with
  | "floor", [.whole n] | "ceil", [.whole n] | "trunc", [.whole n] => return .whole n
  | "floor", _ => whole (floor? x)
  | "ceil", _ => whole ((floor? (-x)).map fun n => -n)
  | "trunc", _ => whole (wholePart? x)
  | "sqrt", _ =>
    if x < 0 then fail "ValueError" "math domain error"
    return .real x.sqrt
  | "fabs", _ => return .real x.abs
  | "isnan", _ => return .truth x.isNaN
  | "isinf", _ => return .truth x.isInf
  | "isfinite", _ => return .truth x.isFinite
  | "exp", _ => return .real x.exp
  | "sin", _ => return .real x.sin
  | "cos", _ => return .real x.cos
  | "tan", _ => return .real x.tan
  | "log", [_] | "log2", _ | "log10", _ =>
    if x ≤ 0 then fail "ValueError" "math domain error"
    return .real (if name = "log" then x.log else if name = "log2" then x.log2 else x.log10)
  | "log", _ => return .real (x.log / (← needReal (arguments[1]?.getD .nothing)).log)
  | "pow", _ => return .real (x.pow (← needReal (arguments[1]?.getD .nothing)))
  | "gcd", _ =>
    let numbers ← arguments.mapM needWhole
    let common : Nat := numbers.foldl (fun a b => a.gcd b.natAbs) 0
    return .whole common
  | "factorial", [.whole n] =>
    if n < 0 then fail "ValueError" "factorial() not defined for negative values"
    let product : Nat := (List.range n.toNat).foldl (fun a k => a * (k + 1)) 1
    return .whole product
  | "isqrt", [.whole n] => return .whole n.toNat.sqrt
  | _, _ => failType (name ++ "() takes exactly one argument")

/-- The functions of a module. -/
def moduleFunction (call : Caller) (module name : String) (arguments : List Value)
    (named : List (String × Value)) : Running Value := do
  match module, name with
  | "os", _ => osFunction call name arguments named
  | "os.path", _ => pathFunction name arguments
  | "subprocess", _ => processFunction call name arguments named
  | "math", _ => mathFunction name arguments
  | "sys", "exit" => failArgs "SystemExit" arguments []
  | "sys", "getrecursionlimit" => return .whole 1000
  | "sys", "getdefaultencoding" | "sys", "getfilesystemencoding" => return .text "utf-8"
  | "sys", "intern" => return arguments.headD .nothing
  | "sys", "exc_info" =>
    match (← get).handling with
    | v :: _ => return .tuple [← kindValue v, v, .nothing]
    | [] => return .tuple [.nothing, .nothing, .nothing]
  | "time", "sleep" =>
    match arguments with
    | [v] =>
      pause call v
      return .nothing
    | _ => failType ("time.sleep() takes exactly one argument (" ++ toString arguments.length
        ++ " given)")
  | "time", _ =>
    let now ← ask .time
    return if name.endsWith "_ns" then .whole now else secondsOf now
  | "signal", "signal" =>
    arrange (arguments.headD .nothing) (arguments[1]?.getD .nothing)
  | "signal", "getsignal" => arrangedFor (← signalNumber (arguments.headD .nothing))
  | "signal", "pause" =>
    ask (.rest Runs.longTime)
    dealWithSignals call
    return .nothing
  | "signal", "raise_signal" =>
    let (own, _) ← ask .self
    orFail [] (← ask (.signal own (← signalNumber (arguments.headD .nothing))))
    dealWithSignals call
    return .nothing
  | "signal", "strsignal" =>
    return .text (Signal.notice (← signalNumber (arguments.headD .nothing)))
  | "signal", "default_int_handler" => failArgs "KeyboardInterrupt" [] []
  | "json", "dumps" =>
    let v := arguments.headD .nothing
    return .text (← Json.write call (Json.styleOf named) (named.lookup "default") 100000 0 v)
  | "json", "dump" =>
    let text ← Json.write call (Json.styleOf named) (named.lookup "default") 100000 0
      (arguments.headD .nothing)
    let write ← getAttribute call (arguments[1]?.getD .nothing) "write"
    discard (call write [.text text] [])
    return .nothing
  | "json", "loads" =>
    match arguments with
    | .text s :: _ => Json.read s
    | .bytes s :: _ => Json.read (decoded s)
    | v :: _ =>
      failType ("the JSON object must be str, bytes or bytearray, not " ++ (← kindOf v))
    | [] => failType "loads() missing 1 required positional argument: 's'"
  | "json", "load" =>
    match ← callMethod call (arguments.headD .nothing) "read" [] [] with
    | .text s => Json.read s
    | .bytes s => Json.read (decoded s)
    | _ => return .nothing
  | "shutil", "which" =>
    let environment ← currentEnvironment call
    let name ← needPath (arguments.headD .nothing)
    for home in ((environment.lookup "PATH").getD "/bin:/usr/bin").splitOn ":" do
      let path := joinedPath home name
      match ← ask (.status path true) with
      | .ok status => if status.isExecutable then return .text (decoded path)
      | .error _ => pure ()
    return .nothing
  | _, _ => return .nothing

/-- Calls a function that every script has. -/
def callNative (call : Caller) (name : String) (arguments : List Value)
    (named : List (String × Value)) : Running Value := do
  let h := (← get).heap
  let first := arguments.headD .nothing
  let second := arguments[1]?.getD .nothing
  let based (base : Nat) (mark : String) : Running Value := do
    let n ← needWhole first
    return .text ((if n < 0 then "-" else "") ++ mark
      ++ String.ofList (Nat.toDigits base n.natAbs))
  match name with
  | "print" => printValues call arguments named
  | "len" => return .whole (← sizeOf call first)
  | "repr" | "ascii" => return .text (← exactTextOf call first)
  | "sorted" => makeList (← sorted call (← itemsOf call first) named)
  | "reversed" => make (.stream (← itemsOf call first).reverse)
  | "enumerate" =>
    let start ← match argument arguments named 1 "start" with
      | some v => needWhole v
      | none => pure 0
    let items ← itemsOf call first
    make (.stream (items.zipIdx.map fun (v, (n : Nat)) => .tuple [.whole (start + (n : Int)), v]))
  | "zip" =>
    let columns ← arguments.mapM (itemsOf call)
    make (.stream (sideBySide ((columns.head?.map List.length).getD 0) columns))
  | "map" =>
    let columns ← (arguments.drop 1).mapM (itemsOf call)
    let rows := sideBySide ((columns.head?.map List.length).getD 0) columns
    let found ← rows.mapM fun row => do
      match row with
      | .tuple values => call first values []
      | v => return v
    make (.stream found)
  | "filter" =>
    let items ← itemsOf call second
    let kept ← items.filterM fun v => do
      match first with
      | .nothing => truthOf call v
      | f =>
        let r ← call f [v] []
        truthOf call r
    make (.stream kept)
  | "any" | "all" =>
    let mut found := false
    for v in ← itemsOf call first do
      if (← truthOf call v) == (name == "any") then found := true
    return .truth (found == (name == "any"))
  | "min" => extreme call false arguments named
  | "max" => extreme call true arguments named
  | "sum" =>
    let items ← itemsOf call first
    let start : Value := match second with
      | .nothing => .whole 0
      | v => v
    items.foldlM (binary call "+" "+") start
  | "divmod" =>
    return .tuple [← binary call "//" "//" first second, ← binary call "%" "%" first second]
  | "pow" =>
    match first, second, (arguments[2]? : Option Value) with
    | .whole n, .whole m, some (.whole k) => return .whole ((n.pow m.toNat).fmod k)
    | _, _, _ => binary call "**" "**" first second
  | "abs" =>
    match first.number? with
    | some (.inl n) => return .whole n.natAbs
    | some (.inr x) => return .real x.abs
    | none => failType ("bad operand type for abs(): '" ++ (← kindOf first) ++ "'")
  | "round" =>
    let places ← match second with
      | .nothing => pure none
      | v => do pure (some (← needWhole v))
    match first.number? with
    | some (.inl n) => return .whole n
    | some (.inr x) => return rounded x places
    | none => failType ("type " ++ (← kindOf first) ++ " doesn't define __round__ method")
  | "open" =>
    let mode ← match argument arguments named 1 "mode" with
      | some v => needText v
      | none => pure "r"
    openFile ((argument arguments named 0 "file").getD .nothing) mode
  | "input" =>
    match arguments with
    | v :: _ => emit (← textOf call v)
    | [] => pure ()
    lift flush
    match ← fileMethod call (.native "sys.stdin") "readline" [] with
    | .text "" => fail "EOFError" "EOF when reading a line"
    | .text s => return .text (if s.endsWith "\n" then String.ofList s.toList.dropLast else s)
    | v => return v
  | "isinstance" =>
    let areKinds := match second with
      | .tuple kinds => kinds
      | k => [k]
    for k in areKinds do
      let isOne := match k, h.get? k with
        | .native name, _ => kindName.isKind name || name.startsWith "subprocess."
        | _, some (.kind ..) => true
        | _, _ => false
      unless isOne do
        failType "isinstance() arg 2 must be a type, a tuple of types, or a union"
    return .truth (← isOfKind first second)
  | "issubclass" =>
    let wanted := match second with
      | .tuple kinds => kinds
      | k => [k]
    return .truth (wanted.any fun k => (kindsOf h 100 first).any (same h k) ||
      k matches .native "object")
  | "callable" =>
    let isOne := match first, h.get? first with
      | .native _, _ | .method _ _, _ => true
      | _, some (.function ..) | _, some (.bound ..) | _, some (.kind ..) => true
      | _, _ => (ownMethod? h first "__call__").isSome
    return .truth isOne
  | "getattr" =>
    let part ← needText second
    match ← attribute? call first part, arguments[2]? with
    | some v, _ => return v
    | none, some v => return v
    | none, none => failAttribute first part
  | "hasattr" => return .truth (← attribute? call first (← needText second)).isSome
  | "setattr" =>
    setAttribute first (← needText second) (arguments[2]?.getD .nothing)
    return .nothing
  | "ord" =>
    match first with
    | .text s | .bytes s =>
      match s.toList with
      | [c] => return .whole c.toNat
      | chars =>
        failType ("ord() expected a character, but string of length " ++ toString chars.length
          ++ " found")
    | v => failType ("ord() expected string of length 1, but " ++ (← kindOf v) ++ " found")
  | "chr" =>
    let n ← needWhole first
    if n < 0 || 0x110000 ≤ n then fail "ValueError" "chr() arg not in range(0x110000)"
    return .text (Char.ofNat n.toNat).toString
  | "hex" => based 16 "0x"
  | "oct" => based 8 "0o"
  | "bin" => based 2 "0b"
  | "iter" => make (.stream (← itemsOf call first))
  | "next" =>
    match h.get? first, arguments[1]? with
    | some (.stream (v :: rest)), _ =>
      put first (.stream rest)
      return v
    | some (.stream []), some v => return v
    | some (.stream []), none => failArgs "StopIteration" [] []
    | some (.file ..), _ =>
      match ← fileMethod call first "readline" [], arguments[1]? with
      | .text "", some v => return v
      | .text "", none => failArgs "StopIteration" [] []
      | v, _ => return v
    | _, _ =>
      match ownMethod? h first "__next__" with
      | some f => call f [first] []
      | none => failType ("'" ++ (← kindOf first) ++ "' object is not an iterator")
  | "id" | "hash" =>
    match first with
    | .object n => return .whole (0x7f0000000000 + n * 64)
    | .whole n => return .whole n
    | _ => return .whole 0
  | "exit" | "quit" => failArgs "SystemExit" arguments []
  | "format" => return .text (← formatValue call first (← needText (arguments[1]?.getD (.text ""))))
  | "dict.fromkeys" =>
    let items ← itemsOf call first
    make (.table (items.foldl (fun kept key => withEntry h kept key second) #[]))
  | _ =>
    if kinds.contains name || (errorKinds.lookup name).isSome then
      makeNative call name arguments named
    else if name = "subprocess.Popen" then startObject call arguments named
    else
      let parts := name.splitOn "."
      let module := ".".intercalate parts.dropLast
      let last := parts.getLastD ""
      if ["str", "list", "dict", "set"].contains module then
        callMethod call first last (arguments.drop 1) named
      else if last = "__init__" then
        match arguments, h.get? first with
        | _ :: rest, some (.error kind _ attributes frames cause context) =>
          put first (.error kind rest attributes frames cause context)
          return .nothing
        | _, _ => return .nothing
      else moduleFunction call module last arguments named

end DeviceLab.Tools.Indented
