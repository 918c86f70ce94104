import DeviceLab.Tools.IndentedTokens

/-!
# Indented scripts

A script is a list of statements; some of them have blocks of others.

* `Indented.Expr`, `Indented.Stmt`: what a script is made of.
* `Indented.readScript`: a script as it is written, or what is wrong with it.
-/

namespace DeviceLab.Tools.Indented

/-! ### Scripts -/

/-- The parts of an expression that a complaint about it points at. -/
structure Anchor where
  first : Nat
  behind : Nat
  deriving Inhabited

/-- How a value is given to a function. -/
inductive Passing where
  | byPlace
  /-- All values of a sequence, each by its place. -/
  | spread
  | byName (name : String)
  /-- All entries of a table, each by its name. -/
  | spreadNames

/-- The kind of what a comprehension makes. -/
inductive Making where
  | list
  | set
  | table
  | stream
  deriving DecidableEq

mutual

/-- An expression. -/
inductive Expr where
  | nothing
  | ellipsis
  | truth (b : Bool)
  | whole (n : Nat)
  | real (x : Float)
  | text (s : String)
  | bytes (s : String)
  | formatted (parts : List Part)
  | name (s : String)
  | list (items : List Expr)
  | tuple (items : List Expr)
  | set (items : List Expr)
  /-- A table; a missing key stands for all entries of another table. -/
  | table (entries : List (Option Expr × Expr))
  | spread (e : Expr)
  | attribute (e : Expr) (name : String)
  | item (e index : Expr)
  | slice (first behind step : Option Expr)
  | call (f : Expr) (arguments : List (Passing × Expr))
  | unary (op : String) (e : Expr)
  | binary (op : String) (a b : Expr)
  | compare (a : Expr) (more : List (String × Expr))
  | both (a b : Expr)
  | either (a b : Expr)
  | no (e : Expr)
  | choice (test a b : Expr)
  | lambda (parameters : Parameters) (body : Expr)
  | comprehension (making : Making) (key value : Expr) (clauses : List Clause)
  | keep (name : String) (e : Expr)
  | yield (e : Option Expr)
  /-- An expression with its place. -/
  | located (span : Span) (anchor : Option Anchor) (e : Expr)

/-- A part of a text with expressions in it. -/
inductive Part where
  | text (s : String)
  | field (e : Expr) (shown : Option String) (conversion : Option Char) (format : List Part)

/-- A part of a comprehension: values from somewhere, or a test. -/
inductive Clause where
  | values (target source : Expr)
  | test (e : Expr)

/-- The parameters of a function, with their defaults. -/
inductive Parameters where
  | mk (plain : List (String × Option Expr)) (spread : Option String)
      (named : List (String × Option Expr)) (spreadNames : Option String)

end

instance : Inhabited Expr := ⟨.nothing⟩
instance : Inhabited Parameters := ⟨.mk [] none [] none⟩

/-- What a function is made of. -/
structure Names where
  /-- The names that are bound in it. -/
  bound : List String := []
  /-- Names that are bound at the outermost level, and in a function around. -/
  globals : List String := []
  outer : List String := []
  /-- Whether it yields values one by one. -/
  yields : Bool := false
  deriving Inhabited

/-- A statement. -/
inductive Stmt where
  | run (e : Expr)
  | assign (targets : List Expr) (value : Expr)
  | update (op : String) (target value : Expr)
  | choose (test : Expr) (yes no : List Stmt)
  | loop (test : Expr) (body other : List Stmt)
  | each (target source : Expr) (body other : List Stmt)
  | define (name : String) (parameters : Parameters) (names : Names) (body : List Stmt)
      (decorators : List Expr)
  | kind (name : String) (bases : List Expr) (body : List Stmt)
  | give (value : Option Expr)
  | leave
  | proceed
  | pass
  | raise (what cause : Option Expr)
  | attempt (body : List Stmt) (handlers : List (Option Expr × Option String × List Stmt))
      (other final : List Stmt)
  | within (items : List (Expr × Option Expr)) (body : List Stmt)
  | bring (names : List (String × Option String))
  | bringFrom (module : String) (names : List (String × Option String))
  | delete (targets : List Expr)
  | affirm (test : Expr) (detail : Option Expr)
  | located (span : Span) (s : Stmt)
  deriving Inhabited

/-! ### Reading -/

/-- What is left of a script. -/
structure Reader where
  rest : List Placed
  /-- The place behind what was read last. -/
  lastLine : Nat := 1
  lastBehind : Nat := 0
  /-- The names of the functions that are being read, the innermost one first. -/
  names : List Names := [{}]
  inLoop : Nat := 0

/-- The reading of a part of a script, or what is wrong with it. -/
abbrev Reading := EStateM Fault Reader

/-- The token at hand with its place. -/
def peekPlaced : Reading Placed := do
  return (← get).rest.headD { token := .over, span := ⟨1, 0, 1, 0⟩ }

def peek : Reading Token := do return (← peekPlaced).token

/-- The token behind the one at hand. -/
def peekNext : Reading Token := do
  return (((← get).rest.drop 1).headD { token := .over, span := ⟨1, 0, 1, 0⟩ }).token

/-- Goes on behind the token at hand. -/
def skip : Reading Unit := modify fun s =>
  match s.rest with
  | [] => s
  | placed :: rest =>
    { s with rest, lastLine := placed.span.lastLine, lastBehind := placed.span.behind }

/-- Complains about a place. -/
def failAt (span : Span) (detail : String) : Reading α := throw { detail, span }

/-- Complains about the token at hand. -/
def failHere : Reading α := do
  let placed ← peekPlaced
  match placed.token with
  | .indent =>
    let fault : Fault :=
      { kind := "IndentationError", detail := "unexpected indent", span := placed.span
        isVague := true }
    throw fault
  | .newline => failAt { placed.span with behind := placed.span.column + 1 } "invalid syntax"
  | _ => failAt placed.span "invalid syntax"

/-- Whether the token at hand is a sign. -/
def isSign (sign : String) : Reading Bool := do
  return match ← peek with
    | .sign s => s == sign
    | _ => false

/-- Takes a sign if it is the token at hand. -/
def takeSign (sign : String) : Reading Bool := do
  if ← isSign sign then
    skip
    return true
  return false

def needSign (sign : String) : Reading Unit := do
  unless ← takeSign sign do failHere

/-- Whether the token at hand is a keyword. -/
def isKeyword (word : String) : Reading Bool := do
  return match ← peek with
    | .keyword s => s == word
    | _ => false

/-- Takes a keyword if it is the token at hand. -/
def takeKeyword (word : String) : Reading Bool := do
  if ← isKeyword word then
    skip
    return true
  return false

/-- Takes a name. -/
def needName : Reading String := do
  match ← peek with
  | .name s =>
    skip
    return s
  | _ => failHere

/-- Notes that a name is bound. -/
def bind (name : String) : Reading Unit := modify fun s =>
  match s.names with
  | n :: outer => { s with names := { n with bound := name :: n.bound } :: outer }
  | [] => s

/-- Changes what is known of the names of the function at hand. -/
def noteNames (change : Names → Names) : Reading Unit := modify fun s =>
  match s.names with
  | n :: outer => { s with names := change n :: outer }
  | [] => s

/-- What has been read from a place on. -/
def spanFrom (start : Span) : Reading Span := do
  let s ← get
  return ⟨start.line, start.column, s.lastLine, s.lastBehind⟩

def locate (start : Span) (e : Expr) (anchor : Option Anchor) : Reading Expr := do
  return .located (← spanFrom start) anchor e

/-- An expression without its place. -/
def Expr.bare : Expr → Expr
  | .located _ _ e => e
  | e => e

/-- The place of an expression, if it is known. -/
def Expr.span? : Expr → Option Span
  | .located span _ _ => some span
  | _ => none

/-- What is said of an expression that nothing can be assigned to. -/
def Expr.kindShown : Expr → String
  | .nothing => "None"
  | .ellipsis => "ellipsis"
  | .truth b => if b then "True" else "False"
  | .whole _ | .real _ | .text _ | .bytes _ => "literal"
  | .formatted _ => "f-string expression"
  | .call _ _ => "function call"
  | .compare _ _ => "comparison"
  | .lambda _ _ => "lambda"
  | .table _ => "dict literal"
  | .set _ => "set display"
  | .choice _ _ _ => "conditional expression"
  | .tuple _ => "tuple"
  | .list _ => "list"
  | _ => "expression"

/-- Binds the names in a target; complains about anything that is no target.  `sign` tells what
follows, and `fuel` bounds the depth. -/
def bindTarget (whole : Span) (isSingle : Bool) : Nat → Expr → Reading Unit
  | 0, _ => failHere
  | fuel + 1, e => do
    match e.bare with
    | .name s => bind s
    | .list items | .tuple items => items.forM (bindTarget whole false fuel)
    | .spread e => bindTarget whole false fuel e
    | .attribute _ _ | .item _ _ => return
    | other =>
      let span := e.span?.getD whole
      let hint := match other with
        | .nothing | .truth _ | .ellipsis => ""
        | _ => if isSingle then " here. Maybe you meant '==' instead of '='?" else ""
      failAt span ("cannot assign to " ++ other.kindShown ++ hint)

def comparisonSigns : List String := ["<", ">", "==", ">=", "<=", "!="]

/-- Whether an expression can start with a token. -/
def Token.startsExpr : Token → Bool
  | .name _ | .whole _ | .real _ | .text _ | .bytes _ | .formatted _ => true
  | .keyword s => ["None", "True", "False", "not", "lambda", "yield", "await"].contains s
  | .sign s => ["(", "[", "\x7b", "-", "+", "~", "...", "*"].contains s
  | _ => false

/-- The token of an operator with two operands, by its level; higher levels bind more closely. -/
def operatorAt (level : Nat) : List String :=
  match level with
  | 0 => ["|"]
  | 1 => ["^"]
  | 2 => ["&"]
  | 3 => ["<<", ">>"]
  | 4 => ["+", "-"]
  | 5 => ["*", "/", "//", "%", "@"]
  | _ => []

mutual

/-- Reads an expression that may be given a name. -/
def readNamed : Nat → Reading Expr
  | 0 => failHere
  | fuel + 1 => do
    match ← peek, ← peekNext with
    | .name s, .sign ":=" =>
      skip
      skip
      bind s
      return .keep s (← readExpr fuel)
    | _, _ => readExpr fuel

/-- Reads an expression. -/
def readExpr : Nat → Reading Expr
  | 0 => failHere
  | fuel + 1 => do
    let start := (← peekPlaced).span
    if ← takeKeyword "lambda" then
      let parameters ← readParameters fuel ":" []
      needSign ":"
      let body ← readExpr fuel
      locate start (.lambda parameters body) none
    else
      let a ← readEither fuel
      if ← isKeyword "if" then
        skip
        let test ← readEither fuel
        unless ← takeKeyword "else" do
          failAt (← spanFrom start) "expected 'else' after 'if' expression"
        let b ← readExpr fuel
        locate start (.choice test a b) none
      else return a

/-- Reads alternatives. -/
def readEither : Nat → Reading Expr
  | 0 => failHere
  | fuel + 1 => do
    let a ← readBoth fuel
    if ← takeKeyword "or" then return .either a (← readEither fuel) else return a

/-- Reads conditions that hold together. -/
def readBoth : Nat → Reading Expr
  | 0 => failHere
  | fuel + 1 => do
    let a ← readNot fuel
    if ← takeKeyword "and" then return .both a (← readBoth fuel) else return a

/-- Reads a condition that may be turned around. -/
def readNot : Nat → Reading Expr
  | 0 => failHere
  | fuel + 1 => do
    if ← takeKeyword "not" then return .no (← readNot fuel) else readComparison fuel

/-- Reads a comparison. -/
def readComparison : Nat → Reading Expr
  | 0 => failHere
  | fuel + 1 => do
    let start := (← peekPlaced).span
    let a ← readBinary fuel 0
    let more ← readComparisons fuel
    if more.isEmpty then return a else locate start (.compare a more) none

/-- Reads what a value is compared with. -/
def readComparisons : Nat → Reading (List (String × Expr))
  | 0 => failHere
  | fuel + 1 => do
    let op ← match ← peek with
      | .sign s => pure (if comparisonSigns.contains s then some s else none)
      | .keyword "in" => pure (some "in")
      | .keyword "not" => do
        match ← peekNext with
        | .keyword "in" => pure (some "not in")
        | _ => pure none
      | .keyword "is" => do
        match ← peekNext with
        | .keyword "not" => pure (some "is not")
        | _ => pure (some "is")
      | _ => pure none
    match op with
    | none => return []
    | some op =>
      skip
      if op = "not in" || op = "is not" then skip
      let b ← readBinary fuel 0
      return (op, b) :: (← readComparisons fuel)

/-- Reads operations of a level and of higher ones. -/
def readBinary : Nat → Nat → Reading Expr
  | 0, _ => failHere
  | fuel + 1, level => do
    if 5 < level then readUnary fuel
    else
      let start := (← peekPlaced).span
      let a ← readBinary fuel (level + 1)
      moreBinary fuel level start a

/-- Goes on with operations of a level. -/
def moreBinary : Nat → Nat → Span → Expr → Reading Expr
  | 0, _, _, _ => failHere
  | fuel + 1, level, start, a => do
    let placed ← peekPlaced
    match placed.token with
    | .sign op =>
      if (operatorAt level).contains op then
        skip
        let b ← readBinary fuel (level + 1)
        let anchor : Anchor := ⟨placed.span.column, placed.span.behind⟩
        moreBinary fuel level start (← locate start (.binary op a b) (some anchor))
      else return a
    | _ => return a

/-- Reads a value with signs in front of it. -/
def readUnary : Nat → Reading Expr
  | 0 => failHere
  | fuel + 1 => do
    let start := (← peekPlaced).span
    match ← peek with
    | .sign op =>
      if op = "-" || op = "+" || op = "~" then
        skip
        let e ← readUnary fuel
        locate start (.unary op e) none
      else readPower fuel
    | .keyword "await" =>
      skip
      readUnary fuel
    | _ => readPower fuel

/-- Reads a power. -/
def readPower : Nat → Reading Expr
  | 0 => failHere
  | fuel + 1 => do
    let start := (← peekPlaced).span
    let a ← readPrimary fuel
    let placed ← peekPlaced
    if ← takeSign "**" then
      let b ← readUnary fuel
      locate start (.binary "**" a b) (some ⟨placed.span.column, placed.span.behind⟩)
    else return a

/-- Reads a value with what is done with it. -/
def readPrimary : Nat → Reading Expr
  | 0 => failHere
  | fuel + 1 => do
    let start := (← peekPlaced).span
    let e ← readAtom fuel
    morePrimary fuel start e

/-- Goes on with what is done with a value. -/
def morePrimary : Nat → Span → Expr → Reading Expr
  | 0, _, _ => failHere
  | fuel + 1, start, e => do
    let placed ← peekPlaced
    match placed.token with
    | .sign "." =>
      skip
      let name ← needName
      morePrimary fuel start (← locate start (.attribute e name) none)
    | .sign "(" =>
      skip
      let arguments ← readArguments fuel
      needSign ")"
      morePrimary fuel start (← locate start (.call e arguments) none)
    | .sign "[" =>
      skip
      let index ← readIndex fuel
      needSign "]"
      let anchor : Anchor := ⟨placed.span.column, (← get).lastBehind⟩
      morePrimary fuel start (← locate start (.item e index) (some anchor))
    | _ => return e

/-- Reads what stands between brackets behind a value. -/
def readIndex : Nat → Reading Expr
  | 0 => failHere
  | fuel + 1 => do
    let first ← readSlice fuel
    if ← isSign "," then return .tuple (first :: (← readMore fuel "]")) else return first

/-- Reads an index, or a part of a sequence. -/
def readSlice : Nat → Reading Expr
  | 0 => failHere
  | fuel + 1 => do
    let part : Reading (Option Expr) := do
      if (← peek).startsExpr then return some (← readNamed fuel) else return none
    let first ← part
    if ← takeSign ":" then
      let behind ← part
      let step ← if ← takeSign ":" then part else pure none
      return .slice first behind step
    else
      match first with
      | some e => return e
      | none => failHere

/-- Reads further values behind a comma, up to a sign. -/
def readMore : Nat → String → Reading (List Expr)
  | 0, _ => failHere
  | fuel + 1, closing => do
    if ← takeSign "," then
      if ← isSign closing then return []
      let e ← readSpread fuel
      return e :: (← readMore fuel closing)
    return []

/-- Reads a value that may stand for several ones. -/
def readSpread : Nat → Reading Expr
  | 0 => failHere
  | fuel + 1 => do
    if ← takeSign "*" then return .spread (← readBinary fuel 0) else readNamed fuel

/-- Reads the values that are given to a function. -/
def readArguments : Nat → Reading (List (Passing × Expr))
  | 0 => failHere
  | fuel + 1 => do
    if ← isSign ")" then return []
    let one ← (do
      if ← takeSign "**" then
        let e ← readExpr fuel
        return (.spreadNames, e)
      else if ← takeSign "*" then
        let e ← readExpr fuel
        return (.spread, e)
      else
        match ← peek, ← peekNext with
        | .name s, .sign "=" =>
          skip
          skip
          let e ← readExpr fuel
          return (.byName s, e)
        | _, _ =>
          let start := (← peekPlaced).span
          let e ← readNamed fuel
          if ← isKeyword "for" then
            let clauses ← readClauses fuel
            let e ← locate start (.comprehension .stream e e clauses) none
            return (.byPlace, e)
          else return (.byPlace, e) : Reading (Passing × Expr))
    if ← takeSign "," then
      let more ← readArguments fuel
      match one.1, more with
      | .byName _, (.byPlace, _) :: _ =>
        failAt (← peekPlaced).span "positional argument follows keyword argument"
      | _, _ => return one :: more
    if (← isSign ")") then return [one]
    if (← peek).startsExpr then
      let start := one.2.span?.getD (← peekPlaced).span
      let _ ← readExpr fuel
      failAt (← spanFrom start) "invalid syntax. Perhaps you forgot a comma?"
    failHere

/-- Reads the parts of a comprehension. -/
def readClauses : Nat → Reading (List Clause)
  | 0 => failHere
  | fuel + 1 => do
    if ← takeKeyword "for" then
      let start := (← peekPlaced).span
      let target ← readTargets fuel
      bindTarget start false 100 target
      unless ← takeKeyword "in" do failHere
      let source ← readEither fuel
      return .values target source :: (← readClauses fuel)
    else if ← takeKeyword "if" then
      let test ← readEither fuel
      return .test test :: (← readClauses fuel)
    else return []

/-- Reads the targets of a loop. -/
def readTargets : Nat → Reading Expr
  | 0 => failHere
  | fuel + 1 => do
    let start := (← peekPlaced).span
    let one : Reading Expr := do
      if ← takeSign "*" then return .spread (← readPrimary fuel) else readPrimary fuel
    let first ← one
    if ← isSign "," then
      let more ← readMoreTargets fuel
      locate start (.tuple (first :: more)) none
    else return first

/-- Reads further targets behind a comma. -/
def readMoreTargets : Nat → Reading (List Expr)
  | 0 => failHere
  | fuel + 1 => do
    if ← takeSign "," then
      if ← isKeyword "in" then return []
      if ← isSign ")" then return []
      let e ← if ← takeSign "*" then do pure (.spread (← readPrimary fuel)) else readPrimary fuel
      return e :: (← readMoreTargets fuel)
    return []

/-- Reads a value that stands by itself. -/
def readAtom : Nat → Reading Expr
  | 0 => failHere
  | fuel + 1 => do
    let placed ← peekPlaced
    let start := placed.span
    let simple (e : Expr) : Reading Expr := do
      skip
      locate start e none
    match placed.token with
    | .name s => simple (.name s)
    | .whole n => simple (.whole n)
    | .real x => simple (.real x)
    | .bytes s => simple (.bytes s)
    | .text _ | .formatted _ =>
      let parts ← readTexts fuel
      match parts with
      | [.text s] => locate start (.text s) none
      | [] => locate start (.text "") none
      | parts => locate start (.formatted parts) none
    | .keyword "None" => simple .nothing
    | .keyword "True" => simple (.truth true)
    | .keyword "False" => simple (.truth false)
    | .keyword "yield" =>
      skip
      noteNames fun n => { n with yields := true }
      let e ← if (← peek).startsExpr then do pure (some (← readList fuel)) else pure none
      if (← get).names.length < 2 then failAt (← spanFrom start) "'yield' outside function"
      return .yield e
    | .sign "..." => simple .ellipsis
    | .sign "(" =>
      skip
      if ← takeSign ")" then locate start (.tuple []) none
      else
        let first ← readSpread fuel
        if ← isKeyword "for" then
          let clauses ← readClauses fuel
          needSign ")"
          locate start (.comprehension .stream first first clauses) none
        else if ← isSign "," then
          let more ← readMore fuel ")"
          needSign ")"
          locate start (.tuple (first :: more)) none
        else
          unless ← isSign ")" do
            if (← peek).startsExpr then
              let from_ := first.span?.getD start
              let _ ← readExpr fuel
              failAt (← spanFrom from_) "invalid syntax. Perhaps you forgot a comma?"
          needSign ")"
          return first
    | .sign "[" =>
      skip
      if ← takeSign "]" then locate start (.list []) none
      else
        let first ← readSpread fuel
        if ← isKeyword "for" then
          let clauses ← readClauses fuel
          needSign "]"
          locate start (.comprehension .list first first clauses) none
        else
          let more ← readMore fuel "]"
          unless ← isSign "]" do
            if (← peek).startsExpr then
              let from_ := (more.getLastD first).span?.getD start
              let _ ← readExpr fuel
              failAt (← spanFrom from_) "invalid syntax. Perhaps you forgot a comma?"
          needSign "]"
          locate start (.list (first :: more)) none
    | .sign "\x7b" =>
      skip
      if ← takeSign "\x7d" then locate start (.table []) none
      else if ← isSign "**" then
        let entries ← readEntries fuel
        needSign "\x7d"
        locate start (.table entries) none
      else
        let first ← readSpread fuel
        if ← takeSign ":" then
          let value ← readExpr fuel
          if ← isKeyword "for" then
            let clauses ← readClauses fuel
            needSign "\x7d"
            locate start (.comprehension .table first value clauses) none
          else
            let more ← if ← takeSign "," then readEntries fuel else pure []
            needSign "\x7d"
            locate start (.table ((some first, value) :: more)) none
        else if ← isKeyword "for" then
          let clauses ← readClauses fuel
          needSign "\x7d"
          locate start (.comprehension .set first first clauses) none
        else
          let more ← readMore fuel "\x7d"
          needSign "\x7d"
          locate start (.set (first :: more)) none
    | _ => failHere

/-- Reads the entries of a table. -/
def readEntries : Nat → Reading (List (Option Expr × Expr))
  | 0 => failHere
  | fuel + 1 => do
    if ← isSign "\x7d" then return []
    let entry ← (do
      if ← takeSign "**" then
        let e ← readBinary fuel 0
        return (none, e)
      else
        let key ← readExpr fuel
        needSign ":"
        let value ← readExpr fuel
        return (some key, value) : Reading (Option Expr × Expr))
    if ← takeSign "," then return entry :: (← readEntries fuel) else return [entry]

/-- Reads texts that stand one behind the other. -/
def readTexts : Nat → Reading (List Part)
  | 0 => failHere
  | fuel + 1 => do
    match ← peek with
    | .text s =>
      skip
      match ← readTexts fuel with
      | .text t :: more => return .text (s ++ t) :: more
      | more => return .text s :: more
    | .formatted pieces =>
      skip
      let parts ← readPieces fuel pieces
      return parts ++ (← readTexts fuel)
    | _ => return []

/-- The parts of a text with expressions in it. -/
def readPieces : Nat → List Piece → Reading (List Part)
  | 0, _ => failHere
  | _ + 1, [] => return []
  | fuel + 1, piece :: rest => do
    match piece with
    | .text s => return .text s :: (← readPieces fuel rest)
    | .field source line column shown conversion format =>
      match innerTokens source line column with
      | .error e => throw e
      | .ok inner =>
        let s ← get
        set { s with rest := inner }
        let e ← readList fuel
        match ← peek with
        | .newline | .over => pure ()
        | _ => failHere
        let t ← get
        set { t with rest := s.rest, lastLine := s.lastLine, lastBehind := s.lastBehind }
        let format ← readPieces fuel format
        return .field e shown conversion format :: (← readPieces fuel rest)

/-- Reads a value, or several ones with commas between them. -/
def readList : Nat → Reading Expr
  | 0 => failHere
  | fuel + 1 => do
    let start := (← peekPlaced).span
    let first ← readSpread fuel
    if ← isSign "," then
      let more ← readMoreList fuel
      locate start (.tuple (first :: more)) none
    else
      match first with
      | .spread _ => locate start (.tuple [first]) none
      | _ => return first

/-- Reads further values behind a comma, as long as there are any. -/
def readMoreList : Nat → Reading (List Expr)
  | 0 => failHere
  | fuel + 1 => do
    if ← takeSign "," then
      if !(← peek).startsExpr then return []
      let e ← readSpread fuel
      return e :: (← readMoreList fuel)
    return []

/-- Reads parameters up to a sign; `found` holds what has been read, the last one first. -/
def readParameters : Nat → String → List (String × Option Expr) → Reading Parameters
  | 0, _, _ => failHere
  | fuel + 1, closing, found => do
    if ← isSign closing then return .mk found.reverse none [] none
    else if ← takeSign "/" then
      discard (takeSign ",")
      readParameters fuel closing found
    else if ← takeSign "**" then
      let name ← readParameter fuel closing
      discard (takeSign ",")
      return .mk found.reverse none [] (some name.1)
    else if ← takeSign "*" then
      let spread ← if ← isSign "," then pure none else do pure (some (← readParameter fuel closing).1)
      discard (takeSign ",")
      let (named, rest) ← readNamedParameters fuel closing []
      return .mk found.reverse spread named rest
    else
      let one ← readParameter fuel closing
      unless ← takeSign "," do
        return .mk (one :: found).reverse none [] none
      readParameters fuel closing (one :: found)

/-- Reads parameters that are given by name. -/
def readNamedParameters : Nat → String → List (String × Option Expr) →
    Reading (List (String × Option Expr) × Option String)
  | 0, _, _ => failHere
  | fuel + 1, closing, found => do
    if ← isSign closing then return (found.reverse, none)
    else if ← takeSign "**" then
      let name ← readParameter fuel closing
      discard (takeSign ",")
      return (found.reverse, some name.1)
    else
      let one ← readParameter fuel closing
      unless ← takeSign "," do return ((one :: found).reverse, none)
      readNamedParameters fuel closing (one :: found)

/-- Reads a parameter with its default. -/
def readParameter : Nat → String → Reading (String × Option Expr)
  | 0, _ => failHere
  | fuel + 1, closing => do
    let name ← needName
    if closing = ")" then
      if ← takeSign ":" then discard (readExpr fuel)
    if ← takeSign "=" then return (name, some (← readExpr fuel)) else return (name, none)

end

/-- The operators that change a target. -/
def updates : List String :=
  ["+=", "-=", "*=", "/=", "//=", "%=", "**=", "&=", "|=", "^=", ">>=", "<<=", "@="]

/-- A statement with its place. -/
def locateStmt (start : Span) (s : Stmt) : Reading Stmt := do
  return .located (← spanFrom start) s

/-- Reads targets and a value with equality signs between them. -/
def readAssign : Nat → Span → List Expr → Reading Stmt
  | 0, _, _ => failHere
  | fuel + 1, start, targets => do
    let value ← readList fuel
    if ← isSign "=" then
      bindTarget start true 100 value
      skip
      readAssign fuel start (targets ++ [value])
    else locateStmt start (.assign targets value)

/-- Reads a name with dots. -/
def readDotted : Nat → Reading String
  | 0 => failHere
  | fuel + 1 => do
    let name ← needName
    if ← takeSign "." then return name ++ "." ++ (← readDotted fuel) else return name

/-- Reads the name that something is given. -/
def readAs : Reading (Option String) := do
  if ← takeKeyword "as" then return some (← needName) else return none

/-- Reads names that are brought in. -/
def readBrought : Nat → Reading (List (String × Option String))
  | 0 => failHere
  | fuel + 1 => do
    if ← isSign ")" then return []
    let name ← if ← takeSign "*" then pure "*" else needName
    let other ← readAs
    bind (other.getD name)
    if ← takeSign "," then return (name, other) :: (← readBrought fuel) else return [(name, other)]

/-- Reads modules that are brought in. -/
def readModules : Nat → Reading (List (String × Option String))
  | 0 => failHere
  | fuel + 1 => do
    let name ← readDotted fuel
    let other ← readAs
    bind (other.getD ((name.splitOn ".").headD name))
    if ← takeSign "," then return (name, other) :: (← readModules fuel) else return [(name, other)]

/-- Reads names with commas between them. -/
def readNames : Nat → Reading (List String)
  | 0 => failHere
  | fuel + 1 => do
    let name ← needName
    if ← takeSign "," then return name :: (← readNames fuel) else return [name]

/-- Reads a statement that has no block. -/
def readSimple (fuel : Nat) : Reading Stmt := do
  let placed ← peekPlaced
  let start := placed.span
  let value : Reading (Option Expr) := do
    if (← peek).startsExpr then return some (← readList fuel) else return none
  match placed.token with
  | .keyword "pass" =>
    skip
    return .pass
  | .keyword "break" =>
    skip
    if (← get).inLoop = 0 then failAt start "'break' outside loop"
    return .leave
  | .keyword "continue" =>
    skip
    if (← get).inLoop = 0 then failAt start "'continue' not properly in loop"
    return .proceed
  | .keyword "return" =>
    skip
    let value ← value
    if (← get).names.length < 2 then failAt (← spanFrom start) "'return' outside function"
    return .give value
  | .keyword "raise" =>
    skip
    let what ← if (← peek).startsExpr then do pure (some (← readExpr fuel)) else pure none
    let cause ← if ← takeKeyword "from" then do pure (some (← readExpr fuel)) else pure none
    locateStmt start (.raise what cause)
  | .keyword "global" =>
    skip
    let names ← readNames fuel
    noteNames fun n => { n with globals := names ++ n.globals }
    return .pass
  | .keyword "nonlocal" =>
    skip
    let names ← readNames fuel
    if (← get).names.length < 2 then
      failAt (← spanFrom start) "nonlocal declaration not allowed at module level"
    noteNames fun n => { n with outer := names ++ n.outer }
    return .pass
  | .keyword "del" =>
    skip
    let e ← readList fuel
    match e.bare with
    | .tuple items => locateStmt start (.delete items)
    | _ => locateStmt start (.delete [e])
  | .keyword "assert" =>
    skip
    let test ← readExpr fuel
    let detail ← if ← takeSign "," then do pure (some (← readExpr fuel)) else pure none
    return .located (test.span?.getD start) (.affirm test detail)
  | .keyword "import" =>
    skip
    let names ← readModules fuel
    locateStmt start (.bring names)
  | .keyword "from" =>
    skip
    let module ← readDotted fuel
    unless ← takeKeyword "import" do failHere
    let inParens ← takeSign "("
    let names ← readBrought fuel
    if inParens then needSign ")"
    locateStmt start (.bringFrom module names)
  | _ =>
    let e ← readList fuel
    match ← peek with
    | .sign "=" =>
      bindTarget start true 100 e
      skip
      readAssign fuel start [e]
    | .sign ":" =>
      match e.bare with
      | .name _ | .attribute _ _ | .item _ _ =>
        skip
        discard (readExpr fuel)
        if ← takeSign "=" then
          bindTarget start true 100 e
          let value ← readList fuel
          locateStmt start (.assign [e] value)
        else return .pass
      | _ => failHere
    | .sign op =>
      if updates.contains op then
        match e.bare with
        | .name s => bind s
        | .attribute _ _ | .item _ _ => pure ()
        | other => failAt (e.span?.getD start) ("'" ++ other.kindShown ++ "' is an illegal expression for augmented assignment")
        skip
        let value ← readList fuel
        locateStmt start (.update (String.ofList op.toList.dropLast) e value)
      else locateStmt start (.run e)
    | .text _ | .name _ | .whole _ | .formatted _ =>
      match e.bare with
      | .name "print" | .name "exec" =>
        let name := match e.bare with
          | .name s => s
          | _ => ""
        let _ ← readList fuel
        failAt (← spanFrom start)
          ("Missing parentheses in call to '" ++ name ++ "'. Did you mean " ++ name ++ "(...)?")
      | _ => failHere
    | _ => locateStmt start (.run e)

/-- Reads the rest of a line of statements without blocks. -/
def readLine : Nat → Reading (List Stmt)
  | 0 => failHere
  | fuel + 1 => do
    let s ← readSimple fuel
    if ← takeSign ";" then
      match ← peek with
      | .newline =>
        skip
        return [s]
      | _ => return s :: (← readLine fuel)
    else
      match ← peek with
      | .newline =>
        skip
        return [s]
      | .over => return [s]
      | _ => failHere

/-- Takes the colon in front of a block. -/
def needColon : Reading Unit := do
  unless ← takeSign ":" do
    let placed ← peekPlaced
    match placed.token with
    | .newline =>
      failAt { placed.span with behind := placed.span.column + 1 } "expected ':'"
    | _ => failHere

mutual

/-- Reads a block; `what` tells what it belongs to, and `line` where that is. -/
def readBlock : Nat → String → Nat → Reading (List Stmt)
  | 0, _, _ => failHere
  | fuel + 1, what, line => do
    needColon
    match ← peek with
    | .newline =>
      skip
      match ← peek with
      | .indent =>
        skip
        readBody fuel
      | _ =>
        let placed ← peekPlaced
        let fault : Fault :=
          { kind := "IndentationError"
            detail := "expected an indented block after " ++ what ++ " on line " ++ toString line
            span := { placed.span with lastLine := placed.span.line
                                       behind := placed.span.column + 1 } }
        throw fault
    | _ => readLine fuel

/-- Reads the statements of a block up to its end. -/
def readBody : Nat → Reading (List Stmt)
  | 0 => failHere
  | fuel + 1 => do
    match ← peek with
    | .dedent =>
      skip
      return []
    | .over => return []
    | _ =>
      let first ← readStmt fuel
      return first ++ (← readBody fuel)

/-- Reads the body of a loop. -/
def readLoop : Nat → String → Nat → Reading (List Stmt × List Stmt)
  | 0, _, _ => failHere
  | fuel + 1, what, line => do
    modify fun s => { s with inLoop := s.inLoop + 1 }
    let body ← readBlock fuel what line
    modify fun s => { s with inLoop := s.inLoop - 1 }
    let elseLine := (← peekPlaced).span.line
    if ← takeKeyword "else" then return (body, ← readBlock fuel "'else' statement" elseLine)
    return (body, [])

/-- Reads what comes behind the first test of a choice. -/
def readOther : Nat → Reading (List Stmt)
  | 0 => failHere
  | fuel + 1 => do
    let line := (← peekPlaced).span.line
    if ← takeKeyword "elif" then
      let test ← readNamed fuel
      let yes ← readBlock fuel "'elif' statement" line
      return [.choose test yes (← readOther fuel)]
    else if ← takeKeyword "else" then readBlock fuel "'else' statement" line
    else return []

/-- Reads the handlers of an attempt. -/
def readHandlers : Nat → Reading (List (Option Expr × Option String × List Stmt))
  | 0 => failHere
  | fuel + 1 => do
    let line := (← peekPlaced).span.line
    if ← takeKeyword "except" then
      discard (takeSign "*")
      let what ← if ← isSign ":" then pure none else do pure (some (← readList fuel))
      let name ← readAs
      if let some name := name then bind name
      let body ← readBlock fuel "'except' statement" line
      return (what, name, body) :: (← readHandlers fuel)
    else return []

/-- Reads the things that a block is carried out with. -/
def readItems : Nat → Reading (List (Expr × Option Expr))
  | 0 => failHere
  | fuel + 1 => do
    let e ← readExpr fuel
    let target ← if ← takeKeyword "as" then do
        let start := (← peekPlaced).span
        let target ← readPrimary fuel
        bindTarget start false 100 target
        pure (some target)
      else pure none
    if ← takeSign "," then return (e, target) :: (← readItems fuel) else return [(e, target)]

/-- Reads a function behind its keyword. -/
def readFunction : Nat → Nat → List Expr → Reading Stmt
  | 0, _, _ => failHere
  | fuel + 1, line, decorators => do
    let name ← needName
    bind name
    unless ← isSign "(" do
      failAt (← peekPlaced).span "expected '('"
    skip
    modify fun s => { s with names := {} :: s.names }
    let parameters ← readParameters fuel ")" []
    needSign ")"
    if ← takeSign "->" then discard (readExpr fuel)
    let loops := (← get).inLoop
    modify fun s => { s with inLoop := 0 }
    let body ← readBlock fuel "function definition" line
    let names := (← get).names.headD {}
    modify fun s => { s with names := s.names.drop 1, inLoop := loops }
    return .define name parameters names body decorators

/-- Reads a statement. -/
def readStmt : Nat → Reading (List Stmt)
  | 0 => failHere
  | fuel + 1 => do
    let placed ← peekPlaced
    let line := placed.span.line
    match placed.token with
    | .keyword "if" =>
      skip
      let test ← readNamed fuel
      let yes ← readBlock fuel "'if' statement" line
      return [.choose test yes (← readOther fuel)]
    | .keyword "while" =>
      skip
      let test ← readNamed fuel
      let (body, other) ← readLoop fuel "'while' statement" line
      return [.loop test body other]
    | .keyword "for" =>
      skip
      let target ← readTargets fuel
      bindTarget placed.span false 100 target
      unless ← takeKeyword "in" do failHere
      let source ← readList fuel
      let (body, other) ← readLoop fuel "'for' statement" line
      return [← locateStmt placed.span (.each target source body other)]
    | .keyword "def" =>
      skip
      return [← readFunction fuel line []]
    | .keyword "async" =>
      skip
      readStmt fuel
    | .keyword "class" =>
      skip
      let name ← needName
      bind name
      let bases ← if ← takeSign "(" then do
          let arguments ← readArguments fuel
          needSign ")"
          pure (arguments.map Prod.snd)
        else pure []
      modify fun s => { s with names := {} :: s.names }
      let body ← readBlock fuel "class definition" line
      modify fun s => { s with names := s.names.drop 1 }
      return [.kind name bases body]
    | .keyword "try" =>
      skip
      let body ← readBlock fuel "'try' statement" line
      let handlers ← readHandlers fuel
      let elseLine := (← peekPlaced).span.line
      let other ← if ← takeKeyword "else" then readBlock fuel "'else' statement" elseLine
        else pure []
      let finalLine := (← peekPlaced).span.line
      let final ← if ← takeKeyword "finally" then readBlock fuel "'finally' statement" finalLine
        else if handlers.isEmpty then
          failAt (← peekPlaced).span "expected 'except' or 'finally' block"
        else pure []
      return [.attempt body handlers other final]
    | .keyword "with" =>
      skip
      let items ← readItems fuel
      return [.within items (← readBlock fuel "'with' statement" line)]
    | .sign "@" =>
      skip
      let decorator ← readNamed fuel
      match ← peek with
      | .newline => skip
      | _ => failHere
      match ← readStmt fuel with
      | [.define name parameters names body decorators] =>
        return [.define name parameters names body (decorator :: decorators)]
      | other => return other
    | _ => readLine fuel

end

/-- Reads all statements. -/
def readAll : Nat → Reading (List Stmt)
  | 0 => failHere
  | fuel + 1 => do
    match ← peek with
    | .over => return []
    | .newline =>
      skip
      readAll fuel
    | _ =>
      let first ← readStmt fuel
      return first ++ (← readAll fuel)

/-- A script as it is written, or what is wrong with it. -/
def readScript (text : List Char) : Except Fault (List Stmt) :=
  match tokens text with
  | .error e => .error e
  | .ok found =>
    match (readAll (found.length * 24 + 64)).run { rest := found } with
    | .ok script _ => .ok script
    | .error e _ => .error e

end DeviceLab.Tools.Indented
