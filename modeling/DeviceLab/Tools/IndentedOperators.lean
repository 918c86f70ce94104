import DeviceLab.Tools.IndentedMethods

/-!
# Operators of indented scripts

* `Indented.binary`, `Indented.unary`: operations on values.
* `Indented.compareBy`: comparisons of values.
-/

namespace DeviceLab.Tools.Indented

open Text Unix Tool

/-- The name under which a kind of the script says what an operator does, and the one for the value
on the right. -/
def operatorNames : List (String × String × String) :=
  [("+", "__add__", "__radd__"), ("-", "__sub__", "__rsub__"), ("*", "__mul__", "__rmul__"),
    ("/", "__truediv__", "__rtruediv__"), ("//", "__floordiv__", "__rfloordiv__"),
    ("%", "__mod__", "__rmod__"), ("**", "__pow__", "__rpow__"), ("@", "__matmul__", "__rmatmul__"),
    ("&", "__and__", "__rand__"), ("|", "__or__", "__ror__"), ("^", "__xor__", "__rxor__"),
    ("<<", "__lshift__", "__rlshift__"), (">>", "__rshift__", "__rrshift__")]

/-- An operation on whole numbers, or nothing if their kind has none. -/
def wholeOperation? (op : String) (n m : Int) : Running (Option Value) := do
  let bits (f : Nat → Nat → Nat) : Value :=
    if 0 ≤ n && 0 ≤ m then .whole (f n.toNat m.toNat : Nat)
    else
      let width := max n.natAbs.log2 m.natAbs.log2 + 2
      let size := Int.pow 2 width
      let r : Int := (f (n % size).toNat (m % size).toNat : Nat)
      let r := r % size
      .whole (if size / 2 ≤ r then r - size else r)
  match op with
  | "+" => return some (.whole (n + m))
  | "-" => return some (.whole (n - m))
  | "*" => return some (.whole (n * m))
  | "/" =>
    if m = 0 then fail "ZeroDivisionError" "division by zero"
    return some (.real (realOfInt n / realOfInt m))
  | "//" =>
    if m = 0 then fail "ZeroDivisionError" "integer division or modulo by zero"
    return some (.whole (n.fdiv m))
  | "%" =>
    if m = 0 then fail "ZeroDivisionError" "integer modulo by zero"
    return some (.whole (n.fmod m))
  | "**" =>
    if m < 0 then
      if n = 0 then fail "ZeroDivisionError" "0.0 cannot be raised to a negative power"
      return some (.real ((realOfInt n).pow (realOfInt m)))
    return some (.whole (n.pow m.toNat))
  | "<<" | ">>" =>
    if m < 0 then fail "ValueError" "negative shift count"
    return some (.whole (if op = "<<" then n * Int.pow 2 m.toNat else n.fdiv (Int.pow 2 m.toNat)))
  | "&" => return some (bits Nat.land)
  | "|" => return some (bits Nat.lor)
  | "^" => return some (bits Nat.xor)
  | _ => return none

/-- An operation on real numbers, or nothing if their kind has none. -/
def realOperation? (op : String) (x y : Float) : Running (Option Value) := do
  let down (z : Float) : Float := z.floor
  match op with
  | "+" => return some (.real (x + y))
  | "-" => return some (.real (x - y))
  | "*" => return some (.real (x * y))
  | "/" =>
    if y == 0 then fail "ZeroDivisionError" "float division by zero"
    return some (.real (x / y))
  | "//" =>
    if y == 0 then fail "ZeroDivisionError" "float floor division by zero"
    return some (.real (down (x / y)))
  | "%" =>
    if y == 0 then fail "ZeroDivisionError" "float modulo"
    return some (.real (x - y * down (x / y)))
  | "**" =>
    if x == 0 && y < 0 then
      fail "ZeroDivisionError" "0.0 cannot be raised to a negative power"
    return some (.real (x.pow y))
  | _ => return none

/-- The values a number of times. -/
def repeated (items : List α) (n : Int) : List α := (List.replicate n.toNat items).flatten

/-- An operation on sets. -/
def setOperation? (h : Heap) (op : String) (xs ys : Array Value) : Option (Array Value) :=
  let isIn (vs : Array Value) (v : Value) : Bool := vs.any (same h v)
  match op with
  | "|" => some (onlyOnce h (xs.toList ++ ys.toList))
  | "&" => some (xs.filter (isIn ys))
  | "-" => some (xs.filter fun v => !isIn ys v)
  | "^" => some (xs.filter (fun v => !isIn ys v) ++ ys.filter fun v => !isIn xs v)
  | _ => none

/-- An operation on values that are no objects of kinds of the script, or nothing if there is none. -/
def plainOperation? (call : Caller) (op : String) (a b : Value) : Running (Option Value) := do
  let h := (← get).heap
  match a.number?, b.number? with
  | some (.inl n), some (.inl m) => do
    match a, b, op with
    | .truth p, .truth q, "&" => return some (.truth (p && q))
    | .truth p, .truth q, "|" => return some (.truth (p || q))
    | .truth p, .truth q, "^" => return some (.truth (p != q))
    | _, _, _ => wholeOperation? op n m
  | some (.inl n), some (.inr y) => realOperation? op (realOfInt n) y
  | some (.inr x), some (.inl m) => realOperation? op x (realOfInt m)
  | some (.inr x), some (.inr y) => realOperation? op x y
  | left, right =>
    match op, a, b with
    | "+", .text s, .text t => return some (.text (s ++ t))
    | "+", .bytes s, .bytes t => return some (.bytes (s ++ t))
    | "+", .tuple xs, .tuple ys => return some (.tuple (xs ++ ys))
    | "+", .text _, other =>
      failType ("can only concatenate str (not \"" ++ (← kindOf other) ++ "\") to str")
    | "+", .tuple _, other =>
      failType ("can only concatenate tuple (not \"" ++ (← kindOf other) ++ "\") to tuple")
    | "+", .bytes _, other =>
      failType ("can't concat " ++ (← kindOf other) ++ " to bytes")
    | "%", .text s, values => return some (.text (← formatPercent call s values))
    | "*", _, _ =>
      let times (v : Value) (n : Int) : Running (Option Value) := do
        match v with
        | .text s => return some (.text (String.ofList (repeated s.toList n)))
        | .bytes s => return some (.bytes (String.ofList (repeated s.toList n)))
        | .tuple items => return some (.tuple (repeated items n))
        | _ =>
          match h.get? v with
          | some (.list items) => return some (← makeList (repeated items.toList n))
          | _ => return none
      let isSequence (v : Value) : Bool := match v with
        | .text _ | .bytes _ | .tuple _ => true
        | _ => (h.get? v) matches some (.list _)
      match left, right with
      | none, some (.inl n) => times a n
      | some (.inl n), none => times b n
      | _, _ =>
        if isSequence a then
          failType ("can't multiply sequence by non-int of type '" ++ (← kindOf b) ++ "'")
        if isSequence b then
          failType ("can't multiply sequence by non-int of type '" ++ (← kindOf a) ++ "'")
        return none
    | _, _, _ =>
      match h.get? a, h.get? b with
      | some (.list xs), some (.list ys) =>
        if op = "+" then return some (← make (.list (xs ++ ys)))
        return none
      | some (.list _), _ =>
        if op = "+" then
          failType ("can only concatenate list (not \"" ++ (← kindOf b) ++ "\") to list")
        return none
      | some (.set xs), some (.set ys) =>
        match setOperation? h op xs ys with
        | some items => return some (← make (.set items))
        | none => return none
      | some (.table xs), some (.table ys) =>
        if op = "|" then
          return some (← make (.table
            (ys.foldl (fun kept (key, v) => withEntry h kept key v) xs)))
        return none
      | _, _ => return none

/-- An operation on two values; `shownOp` is the operator in complaints. -/
def binary (call : Caller) (op shownOp : String) (a b : Value) : Running Value := do
  let h := (← get).heap
  let names := operatorNames.lookup op
  let tryOwn (v w : Value) (name : Option String) : Running (Option Value) := do
    match name.bind (ownMethod? h v) with
    | some f =>
      match ← call f [v, w] [] with
      | .native "NotImplemented" => return none
      | r => return some r
    | none => return none
  match ← tryOwn a b (names.map Prod.fst) with
  | some r => return r
  | none =>
    match ← tryOwn b a (names.map Prod.snd) with
    | some r => return r
    | none =>
      match ← plainOperation? call op a b with
      | some r => return r
      | none =>
        let shown := if op = "**" && shownOp = "**" then "** or pow()" else shownOp
        failType ("unsupported operand type(s) for " ++ shown ++ ": '" ++ (← kindOf a) ++ "' and '"
          ++ (← kindOf b) ++ "'")

/-- An operation that changes its first value, which may be changed in its place. -/
def update (call : Caller) (op : String) (a b : Value) : Running Value := do
  let h := (← get).heap
  let own := (operatorNames.lookup op).bind fun (name, _) =>
    ownMethod? h a ("__i" ++ String.ofList (name.toList.drop 2))
  match own, h.get? a with
  | some f, _ => call f [a, b] []
  | none, some (.list xs) =>
    match op with
    | "+" =>
      let items ← itemsOf call b
      put a (.list (xs ++ items.toArray))
      return a
    | _ => binary call op (op ++ "=") a b
  | none, some (.set xs) =>
    match h.get? b with
    | some (.set ys) =>
      match setOperation? h op xs ys with
      | some items =>
        put a (.set items)
        return a
      | none => binary call op (op ++ "=") a b
    | _ => binary call op (op ++ "=") a b
  | none, some (.table xs) =>
    match op, h.get? b with
    | "|", some (.table ys) =>
      put a (.table (ys.foldl (fun kept (key, v) => withEntry h kept key v) xs))
      return a
    | _, _ => binary call op (op ++ "=") a b
  | none, _ => binary call op (op ++ "=") a b

/-- An operation on a single value. -/
def unary (call : Caller) (op : String) (a : Value) : Running Value := do
  let own := match op with
    | "-" => "__neg__"
    | "+" => "__pos__"
    | _ => "__invert__"
  match ownMethod? (← get).heap a own with
  | some f => call f [a] []
  | none =>
    match op, a.number? with
    | "-", some (.inl n) => return .whole (-n)
    | "-", some (.inr x) => return .real (-x)
    | "+", some (.inl n) => return .whole n
    | "+", some (.inr x) => return .real x
    | "~", some (.inl n) => return .whole (-n - 1)
    | _, _ => failType ("bad operand type for unary " ++ op ++ ": '" ++ (← kindOf a) ++ "'")

/-- Whether two values are the same, as far as kinds of the script tell. -/
def isEqual (call : Caller) (a b : Value) : Running Bool := do
  let h := (← get).heap
  match ownMethod? h a "__eq__", ownMethod? h b "__eq__" with
  | some f, _ => return isTrue (← get).heap (← call f [a, b] [])
  | none, some f => return isTrue (← get).heap (← call f [b, a] [])
  | none, none => return same h a b

/-- Whether two values are one. -/
def isIdentical (h : Heap) (a b : Value) : Bool :=
  match a, b with
  | .object n, .object m => n == m
  | .real x, .real y => x.toBits == y.toBits
  | .truth p, .truth q => p == q
  | .truth _, _ | _, .truth _ => false
  | _, _ => kindName h a == kindName h b && same h a b

/-- A comparison by its order. -/
def inOrder (call : Caller) (op : String) (a b : Value) : Running Bool := do
  let h := (← get).heap
  let own := match op with
    | "<" => ("__lt__", "__gt__")
    | ">" => ("__gt__", "__lt__")
    | "<=" => ("__le__", "__ge__")
    | _ => ("__ge__", "__le__")
  match ownMethod? h a own.1, ownMethod? h b own.2 with
  | some f, _ => return isTrue (← get).heap (← call f [a, b] [])
  | none, some f => return isTrue (← get).heap (← call f [b, a] [])
  | none, none =>
    let isNaN (v : Value) : Bool := match v with
      | .real x => x.isNaN
      | _ => false
    if isNaN a || isNaN b then
      if a.number?.isSome && b.number?.isSome then return false
    match op with
    | "<" => lessOrFail call op a b
    | ">" =>
      match less? h depthLimit b a with
      | some r => return r
      | none => lessOrFail call op a b
    | "<=" | ">=" =>
      let (x, y) := if op = "<=" then (a, b) else (b, a)
      match less? h depthLimit x y with
      | some r => return r || same h a b
      | none => lessOrFail call op a b
    | _ => return false

end DeviceLab.Tools.Indented
