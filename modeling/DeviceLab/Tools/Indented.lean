import DeviceLab.Tools.IndentedNatives

/-!
# Indented scripts are carried out

* `Indented.evaluate`: the value of an expression.
* `Indented.execute`: a statement is carried out.
* `Indented.report`: what is said about something that nobody has caught.
* `Indented.run`: the program.
-/

namespace DeviceLab.Tools.Indented

open Text Unix Tool

/-- How the carrying out goes on behind a statement. -/
inductive Flow where
  | next
  | leave
  | proceed
  | give (v : Value)

/-! ### Names -/

/-- The scope at hand. -/
def currentScope : Running Scope := do
  let s ← get
  return s.scopes.getD s.scope {}

def changeScope (n : Nat) (f : Scope → Scope) : Running Unit :=
  modify fun s => { s with scopes := s.scopes.modify n f }

/-- The value of a name in a scope or in one around it; `fuel` bounds their number. -/
def lookUp (s : State) (name : String) (isFirst : Bool) : Nat → Nat → Option (Option Value)
  | 0, _ => none
  | fuel + 1, n =>
    let scope := s.scopes.getD n {}
    let around : Option (Option Value) := match scope.parent with
      | some parent => lookUp s name false fuel parent
      | none => none
    if scope.isKind && !isFirst then around
    else
      match scope.values[name]? with
      | some v => some (some v)
      | none =>
        let isOwn := n != 0 && !scope.isKind && scope.names.bound.contains name &&
          !scope.names.globals.contains name && !scope.names.outer.contains name
        if isOwn then some none
        else if scope.names.globals.contains name then
          ((s.scopes.getD 0 {}).values[name]?).map some
        else around

/-- The value of a name. -/
def valueOf (name : String) : Running Value := do
  let s ← get
  match lookUp s name true 1000 s.scope with
  | some (some v) => return v
  | some none =>
    fail "UnboundLocalError"
      ("cannot access local variable '" ++ name ++ "' where it is not associated with a value")
  | none =>
    match name, builtin? name with
    | _, some v => return v
    | "__name__", none => return .text "__main__"
    | "__file__", none => return .text s.path
    | _, none =>
      let hint := if modules.contains name then "name '" ++ name
          ++ "' is not defined. Did you forget to import '" ++ name ++ "'?"
        else "name '" ++ name ++ "' is not defined"
      failArgs "NameError" [.text hint] [("name", .text name)]

/-- The scope in which a name of a function around is bound. -/
def outerScope (s : State) (name : String) : Nat → Option Nat → Option Nat
  | 0, _ => none
  | _ + 1, none => none
  | fuel + 1, some n =>
    let scope := s.scopes.getD n {}
    if !scope.isKind && (scope.values[name]?).isSome then some n
    else outerScope s name fuel scope.parent

/-- The scope in which a name is given a value. -/
def targetScope (name : String) : Running Nat := do
  let s ← get
  let scope := s.scopes.getD s.scope {}
  if scope.names.globals.contains name then return 0
  if scope.names.outer.contains name then
    return (outerScope s name 1000 scope.parent).getD s.scope
  return s.scope

/-- Gives a name a value. -/
def setName (name : String) (v : Value) : Running Unit := do
  changeScope (← targetScope name) fun scope =>
    { scope with values := scope.values.insert name v }

/-- Takes the value of a name away. -/
def removeName (name : String) : Running Unit := do
  let n ← targetScope name
  let scope := (← get).scopes.getD n {}
  if (scope.values[name]?).isNone then
    failArgs "NameError" [.text ("name '" ++ name ++ "' is not defined")] [("name", .text name)]
  changeScope n fun scope => { scope with values := scope.values.erase name }

/-- The names in a target. -/
def targetNames : Nat → Expr → List String
  | 0, _ => []
  | fuel + 1, e =>
    match e with
    | .name s => [s]
    | .list items | .tuple items => items.flatMap (targetNames fuel)
    | .spread e => targetNames fuel e
    | .located _ _ e => targetNames fuel e
    | _ => []

/-! ### Where things go wrong -/

/-- Notes the place of what goes wrong, if it is not known yet. -/
def atPlace (span : Span) (anchor : Option Anchor) (x : Running α) : Running α :=
  tryCatch x fun raised =>
    if raised.isNoted || raised.place.isSome then throw raised
    else throw { raised with place := some (span, anchor) }

/-- Notes that something went through the function at hand. -/
def noteFrame (raised : Raised) : Running Raised := do
  if raised.isNoted then return raised
  match raised.place, ← look raised.value with
  | some (span, anchor), some (.error kind arguments attributes frames cause context) =>
    let frame : Frame := { function := (← get).function, span, anchor }
    put raised.value (.error kind arguments attributes (frame :: frames) cause context)
  | _, _ => pure ()
  return { raised with isNoted := true }

/-! ### Functions -/

/-- Names with commas between them, the last one behind an "and". -/
def listed (names : List String) : String :=
  let names := names.map fun name => "'" ++ name ++ "'"
  match names with
  | [] => ""
  | [a] => a
  | [a, b] => a ++ " and " ++ b
  | names => ", ".intercalate names.dropLast ++ ", and " ++ names.getLastD ""

/-- The plural of a word, if there is not just one thing. -/
def plural (n : Nat) (word : String) : String := if n = 1 then word else word ++ "s"

/-- What is known of a function that is called. -/
structure Signature where
  name : String
  plain : List (String × Option Value)
  spread : Option String
  named : List (String × Option Value)
  spreadNames : Option String

/-- The values of the parameters of a function. -/
def bindArguments (f : Signature) (arguments : List Value) (named : List (String × Value)) :
    Running (List (String × Value)) := do
  let given := f.plain.zip arguments |>.map fun ((name, _), v) => (name, v)
  let more := arguments.drop f.plain.length
  if !more.isEmpty && f.spread.isNone then
    let most := f.plain.length
    let least := (f.plain.filter fun p => p.2.isNone).length
    let takes := if least = most then toString most else "from " ++ toString least ++ " to "
      ++ toString most
    let were := if arguments.length = 1 then "was" else "were"
    failType (f.name ++ "() takes " ++ takes ++ " positional " ++ plural most "argument" ++ " but "
      ++ toString arguments.length ++ " " ++ were ++ " given")
  let mut values := given
  let mut rest : List (Value × Value) := []
  for (name, v) in named do
    if (f.plain ++ f.named).any fun p => p.1 == name then
      if values.any fun p => p.1 == name then
        failType (f.name ++ "() got multiple values for argument '" ++ name ++ "'")
      values := values ++ [(name, v)]
    else if f.spreadNames.isSome then rest := rest ++ [(.text name, v)]
    else failType (f.name ++ "() got an unexpected keyword argument '" ++ name ++ "'")
  let missingOf (parameters : List (String × Option Value)) (values : List (String × Value)) :
      List String :=
    (parameters.filter fun p => p.2.isNone && !values.any fun q => q.1 == p.1).map Prod.fst
  let missing := missingOf f.plain values
  unless missing.isEmpty do
    failType (f.name ++ "() missing " ++ toString missing.length ++ " required positional "
      ++ plural missing.length "argument" ++ ": " ++ listed missing)
  let missing := missingOf f.named values
  unless missing.isEmpty do
    failType (f.name ++ "() missing " ++ toString missing.length ++ " required keyword-only "
      ++ plural missing.length "argument" ++ ": " ++ listed missing)
  let usual := (f.plain ++ f.named).filterMap fun (name, v) =>
    if values.any fun q => q.1 == name then none else v.map fun v => (name, v)
  let spread := match f.spread with
    | some name => [(name, Value.tuple more)]
    | none => []
  let spreadNames ← match f.spreadNames with
    | some name => do pure [(name, ← makeTable rest)]
    | none => pure []
  return values ++ usual ++ spread ++ spreadNames

/-- The most functions that are carried out one inside of the other. -/
def depthMost : Nat := 999

/-- The most values that are collected of a function that yields them. -/
def yieldMost : Nat := 20000

/-- What stops a function that has yielded enough values. -/
def enough : Value := .native "enough"

/-- Does something in a scope of its own, as a function; puts everything back behind it. -/
def inScope (function : String) (scope : Scope) (x : Running α) : Running α := do
  let before ← get
  if depthMost ≤ before.depth then fail "RecursionError" "maximum recursion depth exceeded"
  let n := before.scopes.size
  set { before with
    scopes := before.scopes.push scope, scope := n, function, depth := before.depth + 1 }
  let back : Running Unit := modify fun s =>
    { s with scope := before.scope, function := before.function, depth := before.depth }
  let result ← tryCatch x fun raised => do
    let raised ← noteFrame raised
    back
    throw { value := raised.value }
  back
  return result

/-- The name of a function that is defined here, with the names around it. -/
def fullName (name : String) : Running String := do
  let s ← get
  if s.scope = 0 then return name
  if (← currentScope).isKind then return s.function ++ "." ++ name
  if s.function = "<module>" then return name
  return s.function ++ ".<locals>." ++ name

/-! ### Expressions -/

/-- Whether a part of a text between braces names something by its number. -/
def fieldNumber? (name : String) : Option Nat :=
  if !name.isEmpty && name.toList.all Char.isDigit then name.toNat? else none

/-- A text whose braces stand for values; `next` counts those without a name. -/
def formatBraces (call : Caller) (arguments : List Value) (named : List (String × Value)) :
    Nat → Nat → List Char → List String → Running (String × Nat)
  | 0, next, _, done => return (String.join done.reverse, next)
  | _ + 1, next, [], done => return (String.join done.reverse, next)
  | fuel + 1, next, c :: rest, done => do
    match c, rest with
    | '\x7b', '\x7b' :: rest =>
      formatBraces call arguments named fuel next rest ("\x7b" :: done)
    | '\x7d', '\x7d' :: rest =>
      formatBraces call arguments named fuel next rest ("\x7d" :: done)
    | '\x7d', _ => fail "ValueError" "Single '\x7d' encountered in format string"
    | '\x7b', rest =>
      match bracePart 0 rest [] with
      | none => fail "ValueError" "Single '\x7b' encountered in format string"
      | some (part, rest) =>
        let front := part.takeWhile fun c => c != ':' && c != '!'
        let behind := part.drop front.length
        let (conversion, behind) := match behind with
          | '!' :: c :: more => (some c, more)
          | _ => (none, behind)
        let layout := behind.drop 1
        let first := front.takeWhile fun c => c != '.' && c != '['
        let name := String.ofList first
        let (v, next) ← match fieldNumber? name with
          | some n =>
            match arguments[n]? with
            | some v => pure (v, next)
            | none =>
              fail "IndexError" ("Replacement index " ++ toString n
                ++ " out of range for positional args tuple")
          | none =>
            if name.isEmpty then
              match arguments[next]? with
              | some v => pure (v, next + 1)
              | none =>
                fail "IndexError" ("Replacement index " ++ toString next
                  ++ " out of range for positional args tuple")
            else
              match named.lookup name with
              | some v => pure (v, next)
              | none => failArgs "KeyError" [.text name] []
        let v ← parts fuel v (front.drop first.length)
        let v ← converted call conversion v
        let (layout, next) ← formatBraces call arguments named fuel next layout []
        let text ← formatValue call v layout
        formatBraces call arguments named fuel next rest (text :: done)
    | c, rest => formatBraces call arguments named fuel next rest (c.toString :: done)
where
  /-- The part of a value that names and indices tell. -/
  parts : Nat → Value → List Char → Running Value
    | 0, v, _ => return v
    | _ + 1, v, [] => return v
    | fuel + 1, v, c :: rest => do
      if c = '.' then
        let name := rest.takeWhile fun c => c != '.' && c != '['
        let found ← getAttribute call v (String.ofList name)
        parts fuel found (rest.drop name.length)
      else
        let name := rest.takeWhile (· != ']')
        let index : Value := match fieldNumber? (String.ofList name) with
          | some n => .whole n
          | none => .text (String.ofList name)
        let found ← getItem call v index
        parts fuel found (rest.drop (name.length + 1))

/-- Complains about a sequence with a wrong number of values. -/
def failUnpack (expected given : Nat) (isLeast : Bool) : Running α :=
  if given < expected then
    fail "ValueError" ("not enough values to unpack (expected " ++ (if isLeast then "at least " else "")
      ++ toString expected ++ ", got " ++ toString given ++ ")")
  else fail "ValueError" ("too many values to unpack (expected " ++ toString expected ++ ")")

def bringModule (name : String) : Running Value := do
  if modules.contains name then return .module name
  if name = "__future__" || name = "typing" then return .module name
  failArgs "ModuleNotFoundError" [.text ("No module named '" ++ name ++ "'")] [("name", .text name)]

mutual

/-- The value of an expression. -/
def evaluate : Nat → Expr → Running Value
  | 0, _ => fail "RecursionError" "maximum recursion depth exceeded"
  | fuel + 1, e => do
    let call : Caller := callValue fuel
    match e with
    | .nothing => return .nothing
    | .ellipsis => return .ellipsis
    | .truth b => return .truth b
    | .whole n => return .whole n
    | .real x => return .real x
    | .text s => return .text s
    | .bytes s => return .bytes s
    | .formatted parts => return .text (← partsText fuel parts)
    | .name s => valueOf s
    | .list items => makeList (← evaluateAll fuel items)
    | .tuple items => return .tuple (← evaluateAll fuel items)
    | .set items =>
      let values ← evaluateAll fuel items
      values.forM needKey
      make (.set (onlyOnce (← get).heap values))
    | .table entries =>
      let found ← evaluateEntries fuel entries
      let h := (← get).heap
      make (.table (found.foldl (fun kept (key, v) => withEntry h kept key v) #[]))
    | .spread e => evaluate fuel e
    | .attribute e name => getAttribute call (← evaluate fuel e) name
    | .item e index =>
      let v ← evaluate fuel e
      match index.bare with
      | .slice first behind step =>
        let part (e : Option Expr) : Running (Option Int) := do
          match e with
          | some e => placeOf (← evaluate fuel e)
          | none => return none
        let first ← part first
        let behind ← part behind
        let step ← part step
        getSlice v first behind step
      | _ => getItem call v (← evaluate fuel index)
    | .slice _ _ _ => return .nothing
    | .call f arguments =>
      match f.bare, arguments with
      | .name "super", [] => makeSuper
      | .name "globals", [] | .name "locals", [] =>
        let scope ← currentScope
        makeTable (scope.values.toList.map fun (name, v) => (.text name, v))
      | _, _ =>
        let f ← evaluate fuel f
        let (values, named) ← evaluateArguments fuel arguments
        callValue fuel f values named
    | .unary op e => unary call op (← evaluate fuel e)
    | .binary op a b =>
      let a ← evaluate fuel a
      let b ← evaluate fuel b
      binary call op op a b
    | .compare a more =>
      let a ← evaluate fuel a
      compareAll fuel a more
    | .both a b =>
      let a ← evaluate fuel a
      if ← truthOf call a then evaluate fuel b else return a
    | .either a b =>
      let a ← evaluate fuel a
      if ← truthOf call a then return a else evaluate fuel b
    | .no e =>
      let v ← evaluate fuel e
      return .truth !(← truthOf call v)
    | .choice test a b =>
      let v ← evaluate fuel test
      if ← truthOf call v then evaluate fuel a else evaluate fuel b
    | .lambda parameters body =>
      makeFunction fuel "<lambda>" parameters {} [.give (some body)]
    | .comprehension making key value clauses =>
      let bound := clauses.flatMap fun clause => match clause with
        | .values target _ => targetNames 100 target
        | .test _ => []
      let s ← get
      let n := s.scopes.size
      let scope : Scope := { parent := some s.scope, names := { bound } }
      set { s with scopes := s.scopes.push scope, scope := n, yielded := [] :: s.yielded }
      let back : Running (List Value) := modifyGet fun t =>
        ((t.yielded.headD []).reverse, { t with scope := s.scope, yielded := t.yielded.drop 1 })
      let isTable := making matches .table
      let _ ← tryCatch (clausesEach fuel isTable key value clauses) fun raised => do
        let _ ← back
        throw raised
      let found ← back
      match making with
      | .list => makeList found
      | .stream => make (.stream found)
      | .set =>
        found.forM needKey
        make (.set (onlyOnce (← get).heap found))
      | .table =>
        let h := (← get).heap
        make (.table (found.foldl (fun kept v => match v with
          | .tuple [key, v] => withEntry h kept key v
          | _ => kept) #[]))
    | .keep name e =>
      let v ← evaluate fuel e
      setName name v
      return v
    | .yield e =>
      let v ← match e with
        | some e => evaluate fuel e
        | none => pure .nothing
      modify fun s => match s.yielded with
        | found :: rest => { s with yielded := (v :: found) :: rest }
        | [] => s
      if yieldMost ≤ ((← get).yielded.headD []).length then throw { value := enough }
      return .nothing
    | .located span anchor e => atPlace span anchor (evaluate fuel e)

/-- The object that stands for the kinds behind the one at hand. -/
def makeSuper : Running Value := do
  let s ← get
  let scope := s.scopes.getD s.scope {}
  let self := (scope.values[" self"]?).getD .nothing
  let around := scope.parent.map fun n => s.scopes.getD n {}
  match around.bind fun scope => scope.values["__class__"]? with
  | some kind => make (.instance_ (.native "super") [("self", self), ("kind", kind)])
  | none => fail "RuntimeError" "super(): no arguments"

/-- The text of the parts of a text with expressions in it. -/
def partsText : Nat → List Part → Running String
  | 0, _ => return ""
  | _ + 1, [] => return ""
  | fuel + 1, part :: rest => do
    let first ← match part with
      | .text s => pure s
      | .field e shown conversion format => do
        let v ← evaluate fuel e
        let conversion := if shown.isSome && conversion.isNone && format.isEmpty then some 'r'
          else conversion
        let v ← converted (callValue fuel) conversion v
        let layout ← partsText fuel format
        pure (shown.getD "" ++ (← formatValue (callValue fuel) v layout))
    return first ++ (← partsText fuel rest)

/-- The values of expressions, some of which may stand for several ones. -/
def evaluateAll : Nat → List Expr → Running (List Value)
  | 0, _ => return []
  | _ + 1, [] => return []
  | fuel + 1, e :: rest => do
    match e.bare with
    | .spread e =>
      let v ← evaluate fuel e
      let items ← itemsOf (callValue fuel) v
      return items ++ (← evaluateAll fuel rest)
    | _ =>
      let v ← evaluate fuel e
      return v :: (← evaluateAll fuel rest)

/-- The entries of a table. -/
def evaluateEntries : Nat → List (Option Expr × Expr) → Running (List (Value × Value))
  | 0, _ => return []
  | _ + 1, [] => return []
  | fuel + 1, (key, e) :: rest => do
    match key with
    | some key =>
      let key ← evaluate fuel key
      needKey key
      let v ← evaluate fuel e
      return (key, v) :: (← evaluateEntries fuel rest)
    | none =>
      let v ← evaluate fuel e
      let entries ← entriesOf (callValue fuel) v
      return entries ++ (← evaluateEntries fuel rest)

/-- The values that are given to a function. -/
def evaluateArguments : Nat → List (Passing × Expr) →
    Running (List Value × List (String × Value))
  | 0, _ => return ([], [])
  | _ + 1, [] => return ([], [])
  | fuel + 1, (passing, e) :: rest => do
    let v ← evaluate fuel e
    let (values, named) ← evaluateArguments fuel rest
    match passing with
    | .byPlace => return (v :: values, named)
    | .spread => return ((← itemsOf (callValue fuel) v) ++ values, named)
    | .byName name => return (values, (name, v) :: named)
    | .spreadNames =>
      let entries ← entriesOf (callValue fuel) v
      let more ← entries.mapM fun (key, v) => do return (← needText key, v)
      return (values, more ++ named)

/-- Compares a value with others, one after the other. -/
def compareAll : Nat → Value → List (String × Expr) → Running Value
  | 0, _, _ => return .nothing
  | _ + 1, _, [] => return .truth true
  | fuel + 1, a, (op, e) :: rest => do
    let call : Caller := callValue fuel
    let b ← evaluate fuel e
    let holds ← match op with
      | "==" => isEqual call a b
      | "!=" => do pure !(← isEqual call a b)
      | "in" => isAmong call a b
      | "not in" => do pure !(← isAmong call a b)
      | "is" => do pure (isIdentical (← get).heap a b)
      | "is not" => do pure !(isIdentical (← get).heap a b)
      | op => inOrder call op a b
    if !holds then return .truth false
    compareAll fuel b rest

/-- Collects the values of a comprehension. -/
def clausesEach : Nat → Bool → Expr → Expr → List Clause → Running Unit
  | 0, _, _, _, _ => return
  | fuel + 1, isTable, key, value, [] => do
    let v ← if isTable then do
        let key ← evaluate fuel key
        needKey key
        pure (.tuple [key, ← evaluate fuel value])
      else evaluate fuel value
    modify fun s => match s.yielded with
      | found :: rest => { s with yielded := (v :: found) :: rest }
      | [] => s
  | fuel + 1, isTable, key, value, clause :: rest => do
    match clause with
    | .test e =>
      let v ← evaluate fuel e
      if ← truthOf (callValue fuel) v then clausesEach fuel isTable key value rest
    | .values target source =>
      let source ← evaluate fuel source
      let items ← match source with
        | .tuple items => pure items
        | v => itemsOf (callValue fuel) v
      itemsEach fuel isTable key value target rest items

/-- Collects the values of a comprehension for each of some values. -/
def itemsEach : Nat → Bool → Expr → Expr → Expr → List Clause → List Value → Running Unit
  | 0, _, _, _, _, _, _ => return
  | _ + 1, _, _, _, _, _, [] => return
  | fuel + 1, isTable, key, value, target, clauses, v :: rest => do
    assign fuel target v
    clausesEach fuel isTable key value clauses
    itemsEach fuel isTable key value target clauses rest

/-- Gives a target a value. -/
def assign : Nat → Expr → Value → Running Unit
  | 0, _, _ => return
  | fuel + 1, target, v => do
    match target with
    | .name s => setName s v
    | .attribute e name =>
      let object ← evaluate fuel e
      setAttribute object name v
    | .item e index =>
      let object ← evaluate fuel e
      let index ← evaluate fuel index
      setItem (callValue fuel) object index v
    | .list targets | .tuple targets =>
      let items ← match v with
        | .tuple items => pure items
        | v =>
          try itemsOf (callValue fuel) v
          catch raised =>
            match ← kindOf raised.value with
            | "TypeError" =>
              failType ("cannot unpack non-iterable " ++ (← kindOf v) ++ " object")
            | _ => throw raised
      let front := targets.takeWhile fun e => !(e.bare matches .spread _)
      if front.length = targets.length then
        if items.length != targets.length then failUnpack targets.length items.length false
        assignAll fuel targets items
      else
        let back := targets.drop (front.length + 1)
        let least := front.length + back.length
        if items.length < least then failUnpack least items.length true
        assignAll fuel front (items.take front.length)
        let middle := (items.drop front.length).take (items.length - least)
        let rest ← makeList middle
        match (targets.drop front.length).head? with
        | some e => match e.bare with
          | .spread e => assign fuel e rest
          | _ => pure ()
        | none => pure ()
        assignAll fuel back (items.drop (items.length - back.length))
    | .located span _ e => atPlace span none (assign fuel e v)
    | _ => return

/-- Gives targets their values. -/
def assignAll : Nat → List Expr → List Value → Running Unit
  | fuel + 1, target :: targets, v :: rest => do
    assign fuel target v
    assignAll fuel targets rest
  | _, _, _ => return

/-- A new function. -/
def makeFunction : Nat → String → Parameters → Names → List Stmt → Running Value
  | 0, _, _, _, _ => return .nothing
  | fuel + 1, name, .mk plain spread named spreadNames, names, body => do
    let defaults (parameters : List (String × Option Expr)) :
        Running (List (String × Option Value)) :=
      parameters.mapM fun (name, e) => do
        match e with
        | some e => return (name, some (← evaluate fuel e))
        | none => return (name, none)
    let plain ← defaults plain
    let named ← defaults named
    let full ← fullName name
    make (.function full plain spread named spreadNames names body (← get).scope)

/-- Calls a function. -/
def callValue : Nat → Value → List Value → List (String × Value) → Running Value
  | 0, _, _, _ => fail "RecursionError" "maximum recursion depth exceeded"
  | fuel + 1, f, arguments, named => do
    let call : Caller := callValue fuel
    match f with
    | .native name => callNative call name arguments named
    | .method self name =>
      match self, name with
      | .text s, "format" =>
        let (text, _) ← formatBraces call arguments named (s.length * 4 + 100) 0 s.toList []
        return .text text
      | _, _ =>
        match ← look self with
        | some (.instance_ (.native "subprocess.Popen") _) =>
          processMethod call self name arguments named
        | some (.error kind _ attributes frames cause context) =>
          if name = "__init__" then
            put self (.error kind arguments attributes frames cause context)
            return .nothing
          callMethod call self name arguments named
        | some (.instance_ _ _) =>
          if name = "__init__" then return .nothing
          callMethod call self name arguments named
        | _ => callMethod call self name arguments named
    | _ =>
      match ← look f with
      | some (.bound self f) => callValue fuel f (self :: arguments) named
      | some (.function name plain spread named' spreadNames names body scope) =>
        let values ← bindArguments ⟨name, plain, spread, named', spreadNames⟩ arguments named
        let values := match arguments.head? with
          | some v => (" self", v) :: values
          | none => values
        let own := values.map Prod.fst
        let scope : Scope :=
          { values := Std.HashMap.ofList values, parent := some scope
            names := { names with bound := own ++ names.bound } }
        if names.yields then
          modify fun s => { s with yielded := [] :: s.yielded }
          let back : Running (List Value) := modifyGet fun s =>
            ((s.yielded.headD []).reverse, { s with yielded := s.yielded.drop 1 })
          tryCatch (do discard (inScope name scope (executeAll fuel body))) fun raised => do
            match raised.value with
            | .native "enough" => return
            | _ =>
              discard back
              throw raised
          make (.stream (← back))
        else
          match ← inScope name scope (executeAll fuel body) with
          | .give v => return v
          | _ => return .nothing
      | some (.kind name _ _) =>
        let h := (← get).heap
        let isError := (kindsOf h 100 f).any fun k => k matches .native "BaseException"
        let context := (← get).handling.head?
        let object ← if isError then make (.error f arguments [] [] none context)
          else make (.instance_ f [])
        match kindAttribute? h f "__init__" with
        | some init =>
          match ← callValue fuel init (object :: arguments) named with
          | .nothing => pure ()
          | other =>
            failType ("__init__() should return None, not '" ++ (← kindOf other) ++ "'")
        | none =>
          unless isError || arguments.isEmpty && named.isEmpty do
            failType (shortName name ++ "() takes no arguments")
        return object
      | some (.instance_ ..) =>
        match ownMethod? (← get).heap f "__call__" with
        | some g => callValue fuel g (f :: arguments) named
        | none => failType ("'" ++ (← kindOf f) ++ "' object is not callable")
      | _ => failType ("'" ++ (← kindOf f) ++ "' object is not callable")

/-- Carries out statements. -/
def executeAll : Nat → List Stmt → Running Flow
  | 0, _ => fail "RecursionError" "maximum recursion depth exceeded"
  | _ + 1, [] => return .next
  | fuel + 1, s :: rest => do
    match ← execute fuel s with
    | .next => executeAll fuel rest
    | flow => return flow

/-- Carries out a statement. -/
def execute : Nat → Stmt → Running Flow
  | 0, _ => fail "RecursionError" "maximum recursion depth exceeded"
  | fuel + 1, s => do
    let call : Caller := callValue fuel
    match s with
    | .located span s => atPlace span none (execute fuel s)
    | .run e =>
      discard (evaluate fuel e)
      return .next
    | .pass => return .next
    | .leave => return .leave
    | .proceed => return .proceed
    | .give value =>
      match value with
      | some e => return .give (← evaluate fuel e)
      | none => return .give .nothing
    | .assign targets value =>
      let v ← evaluate fuel value
      targets.forM fun target => assign fuel target v
      return .next
    | .update op target value =>
      match target with
      | .located span anchor target =>
        atPlace span anchor (execute fuel (.update op target value))
      | .attribute e name =>
        let object ← evaluate fuel e
        let before ← getAttribute call object name
        let v ← evaluate fuel value
        setAttribute object name (← update call op before v)
        return .next
      | .item e index =>
        let object ← evaluate fuel e
        let index ← evaluate fuel index
        let before ← getItem call object index
        let v ← evaluate fuel value
        setItem call object index (← update call op before v)
        return .next
      | target =>
        let before ← evaluate fuel target
        let v ← evaluate fuel value
        assign fuel target (← update call op before v)
        return .next
    | .choose test yes no =>
      let v ← evaluate fuel test
      if ← truthOf call v then executeAll fuel yes else executeAll fuel no
    | .loop test body other => repeatWhile fuel test body other
    | .each target source body other =>
      let v ← evaluate fuel source
      match v with
      | .native "sys.stdin" => repeatLines fuel v target body other
      | _ =>
        match ← look v with
        | some (.file ..) => repeatLines fuel v target body other
        | some (.list _) => repeatItems fuel v 0 target body other
        | _ =>
          let items ← itemsOf call v
          repeatEach fuel target body other items
    | .define name parameters names body decorators =>
      let f ← makeFunction fuel name parameters names body
      let decorators ← evaluateAll fuel decorators
      let f ← decorators.reverse.foldlM (fun f g => callValue fuel g [f] []) f
      setName name f
      return .next
    | .kind name bases body =>
      let bases ← evaluateAll fuel bases
      let full ← fullName name
      let s ← get
      let scope : Scope := { parent := some s.scope, isKind := true }
      let attributes ← inScope full scope (do
        discard (executeAll fuel body)
        return (← currentScope).values.toList)
      let v ← make (.kind name bases attributes)
      changeScope s.scopes.size fun scope =>
        { scope with values := scope.values.insert "__class__" v }
      setName name v
      return .next
    | .raise what cause => raiseValue fuel what cause
    | .attempt body handlers other final =>
      let result ← tryCatch (do
          let flow ← tryCatch (do return Sum.inl (← executeAll fuel body)) fun raised => do
            return Sum.inr (← noteFrame raised)
          match flow with
          | .inl .next => return Except.ok (← executeAll fuel other)
          | .inl flow => return .ok flow
          | .inr raised => return .ok (← handle fuel raised handlers))
        fun raised => do return Except.error (← noteFrame raised)
      let finish ← executeAll fuel final
      match finish, result with
      | .next, .ok flow => return flow
      | .next, .error raised => throw raised
      | flow, _ => return flow
    | .within items body => carryWithin fuel items body
    | .bring names =>
      names.forM fun (name, other) => do
        let module ← bringModule name
        match other with
        | some other => setName other module
        | none =>
          let first := (name.splitOn ".").headD name
          setName first (.module first)
      return .next
    | .bringFrom module names =>
      let m ← bringModule module
      let isFree := module = "__future__" || module = "typing"
      for (name, other) in names do
        if name = "*" then
          for part in (moduleFunctions.lookup module).getD [] do
            setName part (.native (module ++ "." ++ part))
        else
          match ← attribute? call m name with
          | some v => setName (other.getD name) v
          | none =>
            if isFree then setName (other.getD name) .nothing
            else
              let place := if module = "sys" || module = "time" then "unknown location"
                else "/usr/lib/python3.12/" ++ module ++ ".py"
              failArgs "ImportError"
                [.text ("cannot import name '" ++ name ++ "' from '" ++ module ++ "' (" ++ place
                  ++ ")")] []
      return .next
    | .delete targets =>
      targets.forM (remove fuel)
      return .next
    | .affirm test detail =>
      let v ← evaluate fuel test
      if ← truthOf call v then return .next
      match detail with
      | some e =>
        let v ← evaluate fuel e
        failArgs "AssertionError" [v] []
      | none => failArgs "AssertionError" [] []

/-- Takes the value of a target away. -/
def remove : Nat → Expr → Running Unit
  | 0, _ => return
  | fuel + 1, target => do
    match target with
    | .located span anchor e => atPlace span anchor (remove fuel e)
    | .name s => removeName s
    | .item e index =>
      let object ← evaluate fuel e
      let index ← evaluate fuel index
      removeItem (callValue fuel) object index
    | .attribute e name =>
      let object ← evaluate fuel e
      match ← look object with
      | some (.instance_ kind attributes) =>
        if attributes.any fun entry => entry.1 == name then
          put object (.instance_ kind (attributes.filter fun entry => entry.1 != name))
        else failAttribute object name
      | _ => failAttribute object name
    | _ => return

/-- Raises what a statement tells. -/
def raiseValue : Nat → Option Expr → Option Expr → Running Flow
  | 0, _, _ => return .next
  | fuel + 1, what, cause => do
    let instanceOf (v : Value) : Running Value := do
      let isKind ← match v with
        | .native name => pure (errorKinds.lookup name).isSome
        | v => do pure ((← look v) matches some (.kind ..))
      let v ← if isKind then callValue fuel v [] [] else pure v
      match ← look v with
      | some (.error ..) => return v
      | _ => failType "exceptions must derive from BaseException"
    match what with
    | none =>
      match (← get).handling with
      | v :: _ => throw { value := v, isNoted := true }
      | [] => fail "RuntimeError" "No active exception to reraise"
    | some e =>
      let v ← instanceOf (← evaluate fuel e)
      let causeValue ← match cause with
        | some e => do
          match ← evaluate fuel e with
          | .nothing => pure (some Value.nothing)
          | c => do pure (some (← instanceOf c))
        | none => pure none
      let s ← get
      match s.heap.get? v with
      | some (.error kind arguments attributes frames oldCause context) =>
        let current := s.handling.find? fun w => !same s.heap v w
        put v (.error kind arguments attributes frames (causeValue.or oldCause)
          (context.or current))
      | _ => pure ()
      throw { value := v }

/-- Deals with what has been raised, if there is a handler for it. -/
def handle : Nat → Raised → List (Option Expr × Option String × List Stmt) → Running Flow
  | 0, raised, _ => throw raised
  | _ + 1, raised, [] => throw raised
  | fuel + 1, raised, (what, name, body) :: rest => do
    let before := (← get).handling
    modify fun s => { s with handling := raised.value :: before }
    let back : Running Unit := modify fun s => { s with handling := before }
    let fits ← match what with
      | none => pure true
      | some e => tryCatch (do isOfKind raised.value (← evaluate fuel e)) fun other => do
        back
        throw other
    if !fits then
      back
      handle fuel raised rest
    else
      if let some name := name then setName name raised.value
      let flow ← tryCatch (executeAll fuel body) fun other => do
        let other ← noteFrame other
        back
        throw other
      back
      if let some name := name then
        changeScope (← targetScope name) fun scope =>
          { scope with values := scope.values.erase name }
      return flow

/-- Carries out a block within something that is entered before it and left behind it. -/
def carryWithin : Nat → List (Expr × Option Expr) → List Stmt → Running Flow
  | 0, _, _ => return .next
  | fuel + 1, [], body => executeAll fuel body
  | fuel + 1, (e, target) :: rest, body => do
    let call : Caller := callValue fuel
    let v ← evaluate fuel e
    let leaving ← match ← attribute? call v "__enter__", ← attribute? call v "__exit__" with
      | some enter, some leaving => do
        let entered ← call enter [] []
        match target with
        | some target => assign fuel target entered
        | none => pure ()
        pure leaving
      | _, _ =>
        failType ("'" ++ (← kindOf v) ++ "' object does not support the context manager protocol")
    let flow ← tryCatch (carryWithin fuel rest body) fun raised => do
      let raised ← noteFrame raised
      let kind ← kindValue raised.value
      let r ← call leaving [kind, raised.value, .nothing] []
      if ← truthOf call r then return .leave
      throw raised
    match flow with
    | .leave =>
      return .next
    | flow =>
      discard (call leaving [.nothing, .nothing, .nothing] [])
      return flow

/-- Takes notice of signals, and lets some time go by, between two rounds of a loop. -/
def breathe : Nat → Running Unit
  | 0 => return
  | fuel + 1 => do
    ask (.pass 2000)
    dealWithSignals (callValue fuel)

/-- Repeats statements as long as a test holds. -/
def repeatWhile : Nat → Expr → List Stmt → List Stmt → Running Flow
  | 0, _, _, _ => return .next
  | fuel + 1, test, body, other => do
    let v ← evaluate fuel test
    if ← truthOf (callValue fuel) v then
      match ← executeAll fuel body with
      | .leave => return .next
      | .give v => return .give v
      | _ =>
        breathe fuel
        repeatWhile fuel test body other
    else executeAll fuel other

/-- Repeats statements for each of some values. -/
def repeatEach : Nat → Expr → List Stmt → List Stmt → List Value → Running Flow
  | 0, _, _, _, _ => return .next
  | fuel + 1, _, _, other, [] => executeAll fuel other
  | fuel + 1, target, body, other, v :: rest => do
    assign fuel target v
    match ← executeAll fuel body with
    | .leave => return .next
    | .give v => return .give v
    | _ =>
      breathe fuel
      repeatEach fuel target body other rest

/-- Repeats statements for each value of a list, which they may change. -/
def repeatItems : Nat → Value → Nat → Expr → List Stmt → List Stmt → Running Flow
  | 0, _, _, _, _, _ => return .next
  | fuel + 1, source, n, target, body, other => do
    let next ← match ← look source with
      | some (.list items) => pure items[n]?
      | _ => pure none
    match next with
    | none => executeAll fuel other
    | some v =>
      assign fuel target v
      match ← executeAll fuel body with
      | .leave => return .next
      | .give v => return .give v
      | _ =>
        breathe fuel
        repeatItems fuel source (n + 1) target body other

/-- Repeats statements for each line of a file. -/
def repeatLines : Nat → Value → Expr → List Stmt → List Stmt → Running Flow
  | 0, _, _, _, _ => return .next
  | fuel + 1, file, target, body, other => do
    let line ← fileMethod (callValue fuel) file "readline" []
    if ← truthOf (callValue fuel) line then
      assign fuel target line
      match ← executeAll fuel body with
      | .leave => return .next
      | .give v => return .give v
      | _ =>
        breathe fuel
        repeatLines fuel file target body other
    else executeAll fuel other

end

/-! ### What nobody has caught -/

/-- The marks below a line of the script that show what went wrong. -/
def marks (line : String) (span : Span) (anchor : Option Anchor) : Option String :=
  let chars := line.toList
  let indent := (chars.takeWhile isBlank).length
  let size := (stripped true true isBlank line).length
  let behind := if span.lastLine = span.line then span.behind else indent + size
  let first := max span.column indent
  let anchor := if span.lastLine = span.line then anchor else none
  if behind ≤ first then none
  else
    let isWhole := size ≤ behind - first
    let signAt (n : Nat) : Char := match anchor with
      | some a => if a.first ≤ n && n < a.behind then '^' else '~'
      | none => '^'
    if isWhole && anchor.isNone then none
    else
      let shown := (List.range (behind - first)).map fun k => signAt (first + k)
      some ("    " ++ String.ofList (List.replicate (first - indent) ' ' ++ shown))

/-- The lines about a function in which something went wrong. -/
def frameLines (path : String) (lines : Array String) (f : Frame) : List String :=
  let path := (f.elsewhere.map Prod.fst).getD path
  let front := "  File \"" ++ path ++ "\", line " ++ toString f.span.line ++ ", in "
    ++ shortName f.function
  if let some (_, shown) := f.elsewhere then front :: shown
  else if path.startsWith "<" then [front]
  else
    match lines[f.span.line - 1]? with
    | none => [front]
    | some line =>
      let text := stripped true true isBlank line
      front :: ("    " ++ text) :: (marks line f.span f.anchor).toList

/-- The lines about functions; those that repeat themselves are counted. -/
def allFrameLines (path : String) (lines : Array String) : List Frame → Option (String × Nat) → Nat →
    List String
  | [], _, count => repeats count
  | f :: rest, last, count =>
    let key := (f.function, f.span.line)
    if last == some key then
      if count < 3 then
        frameLines path lines f ++ allFrameLines path lines rest last (count + 1)
      else allFrameLines path lines rest last (count + 1)
    else
      repeats count ++ frameLines path lines f ++ allFrameLines path lines rest (some key) 1
where
  /-- The line about functions that are not shown. -/
  repeats (count : Nat) : List String :=
    if count ≤ 3 then []
    else
      let n := count - 3
      ["  [Previous line repeated " ++ toString n ++ " more " ++ plural n "time" ++ "]"]

/-- What is said about something that was raised. -/
def report (call : Caller) : Nat → Value → Running String
  | 0, _ => return ""
  | fuel + 1, v => do
    let s ← get
    match s.heap.get? v with
    | some (.error kind _ _ frames cause context) =>
      let front ← match cause, context with
        | some .nothing, _ => pure ""
        | some c, _ => do
          pure ((← report call fuel c) ++ "\nThe above exception was the direct cause of the "
            ++ "following exception:\n\n")
        | none, some c => do
          if same s.heap c v then pure ""
          else
            pure ((← report call fuel c) ++ "\nDuring handling of the above exception, another "
              ++ "exception occurred:\n\n")
        | none, none => pure ""
      let body := if frames.isEmpty then [] else
        "Traceback (most recent call last):" :: allFrameLines s.path s.lines frames none 0
      let name := match kind with
        | .native name => name
        | _ => "__main__." ++ kindName s.heap v
      let name := if name.startsWith "__main__." then String.ofList (name.toList.drop 9) else name
      let detail ← textOf call v
      let last := if detail.isEmpty then name else name ++ ": " ++ detail
      return front ++ "\n".intercalate (body ++ [last]) ++ "\n"
    | _ => return ""

/-- What is said about a script that cannot be read. -/
def faultReport (path : String) (lines : Array String) (fault : Fault) : String :=
  let line := (lines[fault.span.line - 1]?).getD ""
  let indent := (line.toList.takeWhile isBlank).length
  let text := stripped true true isBlank line
  let behind := if fault.span.lastLine = fault.span.line then fault.span.behind
    else indent + text.length
  let first := fault.span.column - indent
  let size := max 1 (behind - indent - first)
  let shown := if fault.isVague then []
    else ["    " ++ String.ofList (List.replicate first ' ' ++ List.replicate size '^')]
  "\n".intercalate
    (["  File \"" ++ path ++ "\", line " ++ toString fault.span.line, "    " ++ text] ++ shown
      ++ [fault.kind ++ ": " ++ fault.detail]) ++ "\n"

/-! ### The program -/

/-- How deep a script is carried out at most. -/
def fuelOfScript : Nat := 1000000000000

/-- Where a script comes from. -/
structure Origin where
  /-- The path that is shown. -/
  path : String
  /-- The words that the script is given, its own name first. -/
  words : List String

/-- Variables with one about the set of characters, if nothing tells it. -/
def withCharacters (environment : Environment) : Environment :=
  let tells (name : String) : Bool := (environment.lookup name).any fun v => !v.isEmpty
  let isUsual (name : String) : Bool := (environment.lookup name).any fun v => v = "C" || v = "POSIX"
  if tells "LC_ALL" then environment
  else if tells "LC_CTYPE" then
    if isUsual "LC_CTYPE" then Runs.withVariable environment "LC_CTYPE" "C.UTF-8" else environment
  else if tells "LANG" && !isUsual "LANG" then environment
  else Runs.withVariable environment "LC_CTYPE" "C.UTF-8"

/-- Writes what is left to be written; gives the status. -/
def finish (status : Nat) : Tool Nat := do
  flush
  match (← get).lost with
  | none => return status
  | some e =>
    modify fun s => { s with lost := none }
    discard (write 2 ("Exception ignored in: <_io.TextIOWrapper name='<stdout>' mode='w' "
      ++ "encoding='utf-8'>\nBrokenPipeError: [Errno 32] " ++ e.reason ++ "\n"))
    return 120

/-- The status that a script ends with, given what nobody has caught. -/
def statusAfter (raised : Raised) : Running Nat := do
  let call : Caller := callValue fuelOfScript
  match ← look raised.value with
  | some (.error (.native "SystemExit") arguments ..) =>
    match arguments with
    | [] | [.nothing] => return 0
    | [.whole n] => return (n % 256).toNat
    | [.truth b] => return if b then 1 else 0
    | [v] =>
      lift flush
      emitComplaint ((← textOf call v) ++ "\n")
      return 1
    | several =>
      lift flush
      emitComplaint ((← textOf call (.tuple several)) ++ "\n")
      return 1
  | _ =>
    lift flush
    emitComplaint (← report call 50 raised.value)
    match ← kindOf raised.value with
    | "KeyboardInterrupt" =>
      ask (.arrange Signal.interrupt .usual)
      let (own, _) ← ask .self
      discard (ask (.signal own Signal.interrupt))
      return 130
    | _ => return 1

/-- Carries out a script. -/
def carryOut (origin : Origin) (isDirect : Bool) (source : String) (environment : Environment) :
    Tool Unit := do
  let text := source.toList.filter (· != '\r')
  let lines := ((Tool.lines text).map String.ofList).toArray
  match readScript text with
  | .error fault =>
    flush
    discard (write 2 (encoded (faultReport origin.path lines fault)))
    throw 1
  | .ok script =>
    let body : Running Unit := do
      let environ ← makeTable (environment.map fun (name, v) =>
        (.text (decoded name), .text (decoded v)))
      let words ← makeList (origin.words.map fun word => .text (decoded word))
      modify fun s => { s with environ, words }
      match ← ask (.arranged Signal.interrupt) with
      | .usual => ask (.arrange Signal.interrupt .caught)
      | _ => pure ()
      ask (.arrange Signal.pipe .ignored)
      ask (.arrange Signal.fileSize .ignored)
      discard (executeAll fuelOfScript script)
    let whole : Running Nat :=
      tryCatch (do
        body
        return 0) fun raised => do statusAfter (← noteFrame raised)
    let (result, _) ← whole.run.run { path := origin.path, lines, isDirect }
    let status := match result with
      | .ok status => status
      | .error _ => 1
    throw (← finish status)

/-- What the words of the program ask for. -/
structure Request where
  isDirect : Bool := false
  command : Option String := none
  words : List String := []
  showsVersion : Bool := false
  wrong : Option String := none

/-- Reads the letters of a word; gives the words that are left to be read, if there may be more
options among them. -/
def readLetters : List Char → Request → List String → Request × Option (List String)
  | [], r, rest => (r, some rest)
  | c :: more, r, rest =>
    if c = 'u' then readLetters more { r with isDirect := true } rest
    else if c = 'V' then ({ r with showsVersion := true }, none)
    else if c = 'c' then
      match more, rest with
      | [], [] => ({ r with wrong := some "Argument expected for the -c option" }, none)
      | [], command :: rest => ({ r with command := some command, words := rest }, none)
      | more, rest => ({ r with command := some (String.ofList more), words := rest }, none)
    else if "bBdEhiIOPqsSvx".toList.contains c then readLetters more r rest
    else if c = 'W' || c = 'X' then (r, some (if more.isEmpty then rest.drop 1 else rest))
    else ({ r with wrong := some ("Unknown option: -" ++ c.toString) }, none)

/-- Reads the words of the program; `fuel` bounds their number. -/
def readWords : Nat → List String → Request → Request
  | 0, _, r => r
  | _, [], r => r
  | fuel + 1, word :: rest, r =>
    if word = "--version" then { r with showsVersion := true }
    else if word = "-" || !word.startsWith "-" then { r with words := word :: rest }
    else if word = "--" then { r with words := rest }
    else
      match readLetters (word.toList.drop 1) r rest with
      | (r, some rest) => readWords fuel rest r
      | (r, none) => r

/-- The time that it takes to get started. -/
def startNanos : Nat := 12000000

/-- The program that carries out indented scripts. -/
def run (words : List String) (environment : Environment) : Tool Unit := do
  Tool.ask (.pass startNanos)
  let environment := withCharacters environment
  let r := readWords (words.length + 1) words { isDirect := (environment.lookup "PYTHONUNBUFFERED").any (!·.isEmpty) }
  let name := (← get).name
  if let some detail := r.wrong then
    tell (detail ++ "\nusage: " ++ name
      ++ " [option] ... [-c cmd | -m mod | file | -] [arg] ...\n"
      ++ "Try \x60python -h' for more information.\n")
    throw 2
  if r.showsVersion then
    sayLine "Python 3.12.3"
  else
    match r.command, r.words with
    | some command, words =>
      carryOut ⟨"<string>", "-c" :: words⟩ r.isDirect (Octets.toText command) environment
    | none, [] | none, "-" :: _ =>
      let text ← Tool.readAll 0
      let source := Octets.toText (String.ofList (text.toOption.getD []))
      let words := if r.words.isEmpty then [""] else r.words
      carryOut ⟨"<stdin>", words⟩ r.isDirect source environment
    | none, path :: more =>
      let full ← if path.startsWith "/" then pure path
        else do pure (joinedPath (← Tool.ask .directory) path)
      let failOpen (e : IoError) : Tool Unit := do
        let number := toString (errorNumber e)
        tell (name ++ ": can't open file " ++ quoted false full ++ ": [Errno " ++ number ++ "] "
          ++ e.reason ++ "\n")
        throw 2
      match ← Tool.ask (.openFile path .reading) with
      | .error e => failOpen e
      | .ok descriptor =>
        match ← Tool.readAll descriptor with
        | .error .isADirectory =>
          tell ("/usr/bin/python3: can't find '__main__' module in "
            ++ quoted false (normalPath full) ++ "\n")
          throw 1
        | .error e => failOpen e
        | .ok text =>
          discard (Tool.ask (.close descriptor))
          carryOut ⟨full, path :: more⟩ r.isDirect (Octets.toText (String.ofList text)) environment

end DeviceLab.Tools.Indented
