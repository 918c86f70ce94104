import DeviceLab.Json.Document

/-!
# Tables under construction

A TOML document names its tables in any order, and says of each name at most once what it stands
for.  A table therefore remembers whether a header has named it and whether dotted keys made it.

* `Node.define`: a header `[a.b]`.
* `Node.append`: a header `[[a.b]]`, which adds an element to an array of tables.
* `Node.assign`: a key with its value inside a section.
-/

namespace DeviceLab.Toml

open Json

/-- What a name stands for. -/
inductive Node where
  | leaf (value : Document)
  /-- A table; it is `implicit` until a header names it, and `dotted` when dotted keys made it. -/
  | table (implicit dotted : Bool) (entries : List (String × Node))
  /-- An array of tables; headers and keys go to its last element. -/
  | tables (elements : List (List (String × Node)))

abbrev Entries := List (String × Node)

mutual

/-- The document of a name. -/
def Node.toDocument : Node → Document
  | .leaf value => value
  | .table _ _ entries => .object (entryDocuments entries) .whole
  | .tables elements => .array (elementDocuments elements) .whole

/-- The documents of a table's entries. -/
def entryDocuments : List (String × Node) → List (Option String × Document)
  | [] => []
  | (name, node) :: rest => (some name, node.toDocument) :: entryDocuments rest

/-- The documents of an array's elements. -/
def elementDocuments : List (List (String × Node)) → List Document
  | [] => []
  | entries :: rest => .object (entryDocuments entries) .whole :: elementDocuments rest

end

/-- Changes or makes the entry of a name. -/
def alter (name : String) (change : Option Node → Option Node) : Entries → Option Entries
  | [] => (change none).map fun node => [(name, node)]
  | (other, node) :: rest =>
    if name = other then (change (some node)).map fun node => (name, node) :: rest
    else (alter name change rest).map fun rest => (other, node) :: rest

/-- Changes the last element of an array. -/
def alterLast (change : Entries → Option Entries) : List Entries → Option (List Entries)
  | [] => none
  | [element] => (change element).map fun element => [element]
  | element :: rest => (alterLast change rest).map fun rest => element :: rest

/-- Changes the entries of the table that a path leads to, and makes the tables that are missing on
the way.  `change` learns whether dotted keys made that table, and so does `here` for the table at
the start.  A path of dotted keys does not lead into a table that a header has named. -/
def alterAt (dotted : Bool) (change : Bool → Entries → Option Entries) (here : Bool) :
    List String → Entries → Option Entries
  | [], entries => change here entries
  | name :: path, entries =>
    alter name (fun
      | none => (alterAt dotted change dotted path []).map fun made => .table true dotted made
      | some (.leaf _) => none
      | some (.tables elements) =>
        (alterLast (alterAt dotted change false path) elements).map .tables
      | some (.table implicit wasDotted inner) =>
        if dotted && !implicit then none
        else (alterAt dotted change wasDotted path inner).map fun inner =>
          .table implicit wasDotted inner)
      entries

/-- Splits off the last part of a path. -/
def splitLast : List String → Option (List String × String)
  | [] => none
  | [name] => some ([], name)
  | name :: path => (splitLast path).map fun (front, last) => (name :: front, last)

/-- A header names a table that does not exist or exists only because of longer names. -/
def define (path : List String) (root : Entries) : Option Entries := do
  let (front, last) ← splitLast path
  alterAt false (fun _ => alter last fun
    | none => some (.table false false [])
    | some (.table true false inner) => some (.table false false inner)
    | some _ => none) false front root

/-- A header in double brackets adds an element to an array that such headers have made. -/
def append (path : List String) (root : Entries) : Option Entries := do
  let (front, last) ← splitLast path
  alterAt false (fun _ => alter last fun
    | none => some (.tables [[]])
    | some (.tables elements) => some (.tables (elements ++ [[]]))
    | some _ => none) false front root

/-- Gives a new key its value.  All parts of the key but the last lead through tables that dotted
keys made. -/
def assign (key : List String) (value : Document) (entries : Entries) : Option Entries := do
  let (front, last) ← splitLast key
  alterAt true (fun here entries =>
    if !front.isEmpty && !here then none
    else alter last (fun
      | none => some (.leaf value)
      | some _ => none) entries) false front entries

/-- Gives a key its value in the section of a header. -/
def assignIn (header key : List String) (value : Document) (root : Entries) : Option Entries :=
  alterAt false (fun _ => assign key value) false header root

end DeviceLab.Toml
