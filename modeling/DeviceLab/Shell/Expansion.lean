import DeviceLab.Shell.Arithmetic
import DeviceLab.Shell.Pattern
import DeviceLab.Shell.State

/-!
# What words say

The parts of a word are replaced by what they stand for: parameters by their values, commands by their
output, expressions by numbers.  What has been put in is then divided into fields at separators, and a
field with a pattern in it becomes the paths that it stands for.

* `expandField`: a word that stays one text.
* `expandFields`: a word that becomes any number of texts.
* `expandPattern`: a word as a pattern.
* `fieldsOf`: the fields of a text that is read.
-/

namespace DeviceLab.Shell

open Unix

/-- A part of what a word says. -/
inductive Piece where
  /-- A quotation mark; with one, even an empty text is a field. -/
  | mark
  | cell (cell : Cell)
  deriving DecidableEq, Repr, Inhabited

def Piece.cell? : Piece → Option Cell
  | .mark => none
  | .cell c => some c

/-- A part of what a word says that is divided into fields. -/
structure Region where
  first : Nat
  behind : Nat
  /-- Whether only the parameters of a script are divided. -/
  onlyParameters : Bool := false
  deriving Repr, Inhabited

/-- What a word says, as far as it is known. -/
structure Expanded where
  pieces : Array Piece := #[]
  regions : Array Region := #[]
  deriving Inhabited

/-- The expansion of a part of a word. -/
abbrev Expanding := StateT Expanded Interpreting

/-- How a part of a word is expanded. -/
structure Manner where
  /-- Whether the word is divided into fields. -/
  isFull : Bool := false
  /-- Whether it may start with the name of a home. -/
  atTilde : Bool := false
  /-- Whether it is the value of a variable, in which a home may follow a colon. -/
  isValue : Bool := false
  isQuoted : Bool := false
  /-- Whether it stands in the place of a parameter, so that its own text is divided, too. -/
  isSubstitute : Bool := false
  /-- Whether it is passed over. -/
  isDropped : Bool := false

/-! ### Text -/

def textOf (pieces : List Piece) : String :=
  String.ofList (pieces.filterMap fun piece => piece.cell?.map (·.char))

def cellsOf (pieces : List Piece) : List Cell := pieces.filterMap Piece.cell?

/-- Adds the characters of a text. -/
def put (manner : Manner) (text : List Char) : Expanding Unit :=
  unless manner.isDropped || text.isEmpty do
    modify fun e => { e with
      pieces := text.foldl (fun pieces c => pieces.push (.cell ⟨c, manner.isQuoted⟩)) e.pieces }

def putPiece (manner : Manner) (piece : Piece) : Expanding Unit :=
  unless manner.isDropped do modify fun e => { e with pieces := e.pieces.push piece }

/-- The number of pieces so far. -/
def position : Expanding Nat := return (← get).pieces.size

/-- Lets what has been added since a position be divided into fields. -/
def divide (first : Nat) (onlyParameters : Bool) : Expanding Unit :=
  modify fun e => { e with
    regions := e.regions.push { first, behind := e.pieces.size, onlyParameters } }

/-- Takes away what has been added since a position. -/
def takeBack (first : Nat) : Expanding (List Piece) :=
  modifyGet fun e =>
    ((e.pieces.extract first e.pieces.size).toList,
      { pieces := e.pieces.extract 0 first
        regions := e.regions.filter fun region => region.first < first })

/-! ### Parameters -/

/-- The separators that divide fields when nothing else is said. -/
def usualSeparators : String := " \t\n"

/-- The options in the order in which they are told. -/
def optionOrder : List Char :=
  ['p', 'u', 'b', 'a', 'C', 'E', 'V', 'v', 'x', 's', 'n', 'm', 'i', 'I', 'f', 'e']

/-- The parameters of a script one behind the other, with something between them. -/
def joined (parameters : List String) (between : List Char) : List Char :=
  between.intercalate (parameters.map String.toList)

/-- What stands between the parameters of a script when they are taken together. -/
def betweenParameters (s : State) (name : String) (isFull isQuoted : Bool) : List Char :=
  if name = "@" && isQuoted && isFull then ['\x00']
  else
    match s.value? "IFS" with
    | none => [' ']
    | some separators => if isQuoted || !isFull then separators.toList.take 1 else ['\x00']

/-- The value of a parameter. -/
def parameterValue (s : State) (name : String) (isFull isQuoted : Bool) : Option (List Char) :=
  match name with
  | "$" => some (toString s.pid).toList
  | "?" => some (toString s.status).toList
  | "#" => some (toString s.parameters.length).toList
  | "!" => s.background.map fun pid => (toString pid).toList
  | "-" => some (optionOrder.filter s.has)
  | "@" | "*" => some (joined s.parameters (betweenParameters s name isFull isQuoted))
  | _ =>
    match name.toNat? with
    | some 0 => some s.title.toList
    | some n => s.parameters[n - 1]?.map String.toList
    | none => (s.value? name).map String.toList

/-- The directory of a user by name. -/
def homeOf? (s : State) (name : String) : Option String :=
  if name.isEmpty then s.value? "HOME"
  else [("root", "/root"), ("daemon", "/usr/sbin"), ("bin", "/bin"), ("sys", "/dev"),
    ("nobody", "/nonexistent")].lookup name

/-- The home at the start of a part of a word, behind its tilde, and the elements behind its name. -/
def home? (s : State) (isValue : Bool) (elements : List Element) :
    Option (String × List Element) :=
  let isInName : Element → Bool
    | .char c => c != '/' && !(isValue && c == ':')
    | _ => false
  let name := elements.takeWhile isInName
  let rest := elements.drop name.length
  let isOver := match rest with
    | [] | .char _ :: _ | .close :: _ | .closeExpression :: _ => true
    | _ => false
  if isOver then
    (homeOf? s (String.ofList ((Word.plain? name).getD []))).map fun home => (home, rest)
  else none

/-- The plain characters at the start of some elements; in a value, up to a colon. -/
def plainRun (isValue : Bool) : List Element → List Char → List Char × List Element
  | .char c :: rest, run =>
    if isValue && c == ':' then ((c :: run).reverse, rest) else plainRun isValue rest (c :: run)
  | rest, run => (run.reverse, rest)

/-- Whether elements start with a mark that is closed behind every parameter of the script. -/
def everyParameter? : List Element → Option (List Element)
  | .parameter "@" .value false :: .mark :: rest => some rest
  | _ => none

/-- Complains about a variable without a value, or with an empty one. -/
def failUnset (name message : String) : Interpreting α := Shell.fail s!"{name}: {message}"

/-- Gives a value to what a word names. -/
def assignParameter (name value : String) : Interpreting Unit := do
  if !isName name then Shell.fail s!"{name}: bad variable name"
  Shell.assign name value

section

variable (output : Option Command → Interpreting String)

/-- What is expanded. -/
inductive Expansion where
  /-- Elements up to one that closes them. -/
  | elements (elements : List Element) (inMarks : Bool)
  /-- A parameter, with the elements behind it. -/
  | parameter (name : String) (use : ParameterUse) (nonempty : Bool) (rest : List Element)

/-- The value of an expression. -/
def sumOf (text : String) : Interpreting Int := do
  let s ← get
  match Arithmetic.evaluate s.value? text with
  | .ok (value, assigned) =>
    assigned.forM fun (name, n) => Shell.assign name (toString n)
    return value
  | .error (.expression detail) =>
    Shell.fail ("arithmetic expression: " ++ detail ++ ": \"" ++ text ++ "\"")
  | .error (.number text) => Shell.fail s!"Illegal number: {text}"
  | .error .overflow =>
    let self ← Shell.ask .self
    discard (Shell.ask (.signal self.1 8))
    Shell.stopWith 136

/-- Expands something; gives the elements behind it.  `fuel` bounds the number of elements. -/
def expandPart : Nat → Expansion → Manner → Expanding (List Element)
  | 0, _, _ => return []
  | fuel + 1, .elements elements inMarks, manner => do
    if manner.atTilde then
      let manner := { manner with atTilde := false }
      if let .char '~' :: rest := elements then
        if let some (home, rest) := home? (← (get : Interpreting State)) manner.isValue rest then
          put { manner with isQuoted := true } home.toList
          return ← expandPart fuel (.elements rest inMarks) manner
      return ← expandPart fuel (.elements elements inMarks) manner
    let isQuoted := manner.isQuoted || inMarks
    match elements with
    | [] => return []
    | .close :: rest | .closeExpression :: rest => return rest
    | .char _ :: _ =>
      let (run, rest) := plainRun manner.isValue elements []
      let first ← position
      put { manner with isQuoted } run
      if manner.isSubstitute && !isQuoted && !manner.isDropped then divide first false
      let atTilde := manner.isValue && run.getLast? == some ':'
      expandPart fuel (.elements rest inMarks) { manner with atTilde }
    | .quoted c :: rest =>
      put { manner with isQuoted := true } [c]
      expandPart fuel (.elements rest inMarks) manner
    | .mark :: rest =>
      match if inMarks then none else everyParameter? rest with
      | some behind =>
        discard (expandPart fuel (.parameter "@" .value false []) { manner with isQuoted := true })
        expandPart fuel (.elements behind inMarks) manner
      | none =>
        putPiece manner .mark
        expandPart fuel (.elements rest (!inMarks)) manner
    | .parameter name use nonempty :: rest =>
      let rest ← expandPart fuel (.parameter name use nonempty rest) { manner with isQuoted }
      expandPart fuel (.elements rest inMarks) manner
    | .command body :: rest =>
      unless manner.isDropped do
        let text := (← output body).toList.filter (· != '\x00')
        let first ← position
        put { manner with isQuoted } (text.reverse.dropWhile (· == '\n')).reverse
        unless isQuoted do divide first false
      expandPart fuel (.elements rest inMarks) manner
    | .expression :: rest =>
      let first ← position
      let rest ← expandPart fuel (.elements rest false) { isDropped := manner.isDropped }
      unless manner.isDropped do
        let text := textOf (← takeBack first)
        put { manner with isQuoted } (toString (← sumOf text)).toList
        unless isQuoted do divide first false
      expandPart fuel (.elements rest inMarks) manner
  | fuel + 1, .parameter name use nonempty rest, manner => do
    let s ← (get : Interpreting State)
    let isMeasured := use == .alternative || use == .length
    if use = .unknown then
      unless manner.isDropped do Shell.fail "Bad substitution"
    let isFull := manner.isFull && !isMeasured && !manner.isDropped
    let value := parameterValue s name isFull manner.isQuoted
    let isSet := use != .unknown && value.any fun value => !nonempty || !value.isEmpty
    let first ← position
    let chars := value.getD []
    /- The value is divided unless it is quoted; of quoted values only the parameters are. -/
    let record : Expanding Unit := do
      if manner.isQuoted then
        if name = "@" && !s.parameters.isEmpty then divide first true
      else divide first false
    let putValue : Expanding Unit := unless manner.isDropped do
      put manner chars
      record
    let word (isDropped : Bool) : Expanding (List Element) :=
      expandPart fuel (.elements rest false)
        { manner with atTilde := true, isSubstitute := true, isDropped }
    let inner (isDropped : Bool) : Expanding (List Element) :=
      expandPart fuel (.elements rest false) { atTilde := true, isDropped }
    match use with
    | .alternative =>
      let rest ← word (manner.isDropped || !isSet)
      unless manner.isDropped || isSet do record
      return rest
    | .fallback | .unknown =>
      if isSet then putValue
      word (manner.isDropped || isSet)
    | .assigned | .required =>
      if isSet || manner.isDropped then
        if isSet then putValue
        return ← inner true
      let behind ← inner false
      let text := textOf (← takeBack first)
      if use = .required then
        let isSilent := match rest with
          | .close :: _ => true
          | _ => false
        failUnset name <|
          if isSilent then "parameter not set" ++ (if nonempty then " or null" else "") else text
      assignParameter name text
      put manner text.toList
      record
      return behind
    | .value | .length | .cut _ _ =>
      if !isSet && !manner.isDropped && s.has 'u' then failUnset name "parameter not set"
      match use with
      | .length =>
        unless manner.isDropped do
          put manner (toString chars.length).toList
          record
        return rest.drop 1
      | .cut atStart longest =>
        let isDropped := manner.isDropped || !isSet
        let behind ← inner isDropped
        unless isDropped do
          let pattern := cellsOf (← takeBack first)
          let cells := chars.map fun c => (⟨c, manner.isQuoted⟩ : Cell)
          let cut := if atStart then Pattern.cutStart pattern cells longest
            else Pattern.cutEnd pattern cells longest
          cut.forM fun cell => putPiece manner (.cell cell)
          record
        return behind
      | _ =>
        if isSet then putValue
        return rest

/-- What a word says. -/
def expandWord (word : Word) (manner : Manner) : Interpreting Expanded := do
  let (_, e) ← (expandPart output (word.length * 4 + 64) (.elements word false) manner).run {}
  return e

/-! ### Fields -/

/-- The dividing of pieces into fields. -/
structure Division where
  /-- Where the field at hand starts. -/
  start : Nat := 0
  /-- The fields, the last one first. -/
  fields : List (List Piece) := []
  /-- Whether blanks have ended the last field. -/
  isBlank : Bool := false
  /-- The number of fields that may still be divided, if that is limited. -/
  left : Option Nat := none
  /-- Where blanks at the end begin, once nothing is divided any more. -/
  trailing : Option Nat := none

/-- Goes on with a character at a place.  `isSeparator` and `isBlank` tell what kind of character it
is, and `isKept` whether blanks are no different from other separators. -/
def Division.step (d : Division) (pieces : Array Piece) (at_ : Nat)
    (isSeparator isBlank isKept : Bool) : Division :=
  if d.left = some 0 then
    if isBlank then { d with trailing := some (d.trailing.getD at_) }
    else
      let trailing := if isSeparator && d.isBlank then d.trailing else none
      { d with trailing, isBlank := false }
  else
    let q := if d.isBlank && isSeparator then at_ + 1 else at_
    let start := if d.isBlank then q else d.start
    if d.isBlank && isBlank then { d with start }
    else if !isSeparator || d.isBlank then { d with start, isBlank := false }
    else
      let blank := if isKept then d.isBlank else isBlank
      if q = start && blank then { d with start := at_ + 1, isBlank := false }
      else
        match d.left with
        | some 1 => { d with start, left := some 0, trailing := some q, isBlank := blank }
        | left =>
          { d with
            start := at_ + 1
            left := left.map (· - 1)
            isBlank := blank
            fields := (pieces.extract start q).toList :: d.fields }

/-- The fields of pieces. -/
def divided (e : Expanded) (separators : List Char) (limit : Option Nat) : List (List Piece) :=
  let go (d : Division) (region : Region) (afterParameters : Bool) : Division :=
    let places := List.range' region.first (region.behind - region.first)
    places.foldl (fun d at_ =>
      let c := ((e.pieces[at_]?.bind Piece.cell?).map (·.char)).getD 'x'
      let isMark := (e.pieces[at_]?.bind Piece.cell?).isNone
      let isNone := c == '\x00' && !isMark
      let isSeparator := isNone || !region.onlyParameters && !isMark && separators.contains c
      let isBlank := isSeparator && (isNone || usualSeparators.toList.contains c)
      d.step e.pieces at_ isSeparator isBlank (afterParameters || region.onlyParameters))
      { d with isBlank := false }
  let (d, onlyParameters) := e.regions.foldl (fun (d, after) region =>
    (go d region after, region.onlyParameters)) (({ left := limit } : Division), false)
  let behind := if onlyParameters then e.pieces.size else d.trailing.getD e.pieces.size
  let last := (e.pieces.extract d.start behind).toList
  (if last.isEmpty && !onlyParameters then d.fields else last :: d.fields).reverse

/-! ### Paths -/

/-- Cells in which a backslash has been taken away from what it keeps from having a meaning. -/
def unescaped : List Cell → List Cell
  | ⟨'\\', false⟩ :: cell :: rest => { cell with isQuoted := true } :: unescaped rest
  | cell :: rest => cell :: unescaped rest
  | [] => []

/-- Whether brackets that have been opened are closed in front of a slash. -/
def closesBrackets : List Cell → Bool
  | cell :: next :: rest =>
    cell.char != '/' && (next == ⟨']', false⟩ || closesBrackets (next :: rest))
  | _ => false

/-- Whether cells hold a pattern. -/
def holdsPattern : List Cell → Bool
  | [] => false
  | cell :: rest =>
    if cell = ⟨'*', false⟩ || cell = ⟨'?', false⟩ then true
    else if cell = ⟨'[', false⟩ then
      let listed := match rest with
        | ⟨'!', false⟩ :: listed => listed
        | _ => rest
      closesBrackets listed || holdsPattern rest
    else holdsPattern rest

/-- The names in some cells, between slashes. -/
def namesIn (cells : List Cell) : List (List Cell) :=
  let (last, names) := cells.foldr (fun cell (name, names) =>
    if cell.char == '/' then ([], name :: names) else (cell :: name, names)) ([], [])
  last :: names

def plainText (cells : List Cell) : String := String.ofList (cells.map (·.char))

/-- The paths that names with patterns stand for, behind a path that has been found; `isFirst` tells
whether there is none yet. -/
def pathsFrom : String → Bool → List (List Cell) → Interpreting (List String)
  | path, _, [] => return [path]
  | path, isFirst, name :: rest => do
    let open_ (name : String) : String := if rest.isEmpty then path ++ name else path ++ name ++ "/"
    if !holdsPattern name then
      let isLiteral := rest.all fun name => !holdsPattern name
      if isLiteral then
        let whole := path ++ "/".intercalate ((name :: rest).map plainText)
        if isFirst then return []
        match ← Shell.ask (.status whole false) with
        | .ok _ => return [whole]
        | .error _ => return []
      return ← pathsFrom (open_ (plainText name)) isFirst rest
    match ← Shell.ask (.list (if path.isEmpty then "." else path)) with
    | .error _ => return []
    | .ok names =>
      let isHidden := name.head?.any fun cell => cell.char == '.'
      let names := "." :: ".." :: names
      let fitting := names.filter fun found =>
        (isHidden || !found.startsWith ".") && Pattern.accepts name found.toList
      if rest.isEmpty then return fitting.map open_
      else
        let found ← fitting.mapM fun found => pathsFrom (open_ found) false rest
        return found.flatten

/-- The paths that a field stands for, sorted, or its text if it stands for none. -/
def pathsOf (field : List Piece) : Interpreting (List String) := do
  let cells := cellsOf field
  let isPattern := cells.any fun cell => "*?[".toList.contains cell.char && !cell.isQuoted
  if (← get).has 'f' || !isPattern then return [plainText cells]
  let paths ← pathsFrom "" true (namesIn (unescaped cells))
  return if paths.isEmpty then [plainText cells]
    else paths.mergeSort fun a b => decide (a ≤ b)

/-! ### Words -/

/-- The separators at which fields are divided. -/
def separators (s : State) : List Char := ((s.value? "IFS").getD usualSeparators).toList

def expandField (word : Word) (manner : Manner) : Interpreting String := do
  return textOf (← expandWord output word manner).pieces.toList

/-- A word that becomes any number of texts. -/
def expandFields (word : Word) : Interpreting (List String) := do
  let e ← expandWord output word { isFull := true, atTilde := true }
  let fields := divided e (separators (← get)) none
  return (← fields.mapM pathsOf).flatten

def expandPattern (word : Word) : Interpreting (List Cell) := do
  return cellsOf (← expandWord output word { atTilde := true }).pieces.toList

def expandValue (value : Word) : Interpreting String :=
  expandField output value { atTilde := true, isValue := true }

end

/-- The fields of a text that is read, of which no more than a number are divided.  Characters behind
a backslash do not divide it. -/
def fieldsOf (cells : List Cell) (separators : List Char) (limit : Nat) : List String :=
  let pieces := (cells.map Piece.cell).toArray
  let runs := cells.foldl (fun (at_, regions) cell =>
    (at_ + 1,
      if cell.isQuoted then regions
      else match regions with
        | { first, behind, onlyParameters } :: rest =>
          if behind = at_ then
            ({ first, behind := at_ + 1, onlyParameters } : Region) :: rest
          else { first := at_, behind := at_ + 1 } :: regions
        | [] => [{ first := at_, behind := at_ + 1 }])) (0, ([] : List Region))
  (divided { pieces, regions := runs.2.reverse.toArray } separators (some limit)).map textOf

end DeviceLab.Shell
