import DeviceLab.Shell.Expansion
import DeviceLab.Shell.Jobs

/-!
# Redirections

What descriptors stand for while a command is carried out.  What they stood for before is kept under
numbers that no script can name, and put back afterwards.

* `Shell.aimOf`: a redirection with its words expanded.
* `Shell.redirectWith`: carries out redirections.
* `Shell.restore`: puts back what descriptors stood for.
-/

namespace DeviceLab.Shell

open Unix

/-- A redirection with its words expanded. -/
inductive Aim where
  | file (descriptor : Nat) (mode : OpenMode) (path : String)
  /-- To a file that is written, whatever it holds. -/
  | overwrite (descriptor : Nat) (path : String)
  | same (descriptor : Nat) (source : Option Nat)
  | text (descriptor : Nat) (word : Word)

/-- What a descriptor stood for: another descriptor that keeps it, or nothing. -/
abbrev Kept := List (Nat × Option Nat)

/-- The first of the descriptors that no script can name. -/
def hiddenDescriptor : Nat := 10

/-- The greatest text that is put into a pipe without a child. -/
def smallText : Nat := 4096

/-- The reason of a failure that concerns a path: what is missing has a text of its own. -/
def reasonOf (e : IoError) (missing : String) : String :=
  match e with
  | .notFound | .notADirectory => missing
  | e => e.reason

section

variable (output : Option Command → Interpreting String)

/-- A redirection with its words expanded. -/
def aimOf : Redirection → Interpreting Aim
  | .to n (.file mode) target => do
    return .file n mode (← expandField output target { atTilde := true })
  | .to n .overwrite target => do
    return .overwrite n (← expandField output target { atTilde := true })
  | .to n .same target => do
    let fail {α : Type} : Interpreting α := Shell.fail "Syntax error: Bad fd number"
    match ← expandFields output target with
    | [] => Shell.fail "redir error"
    | text :: _ =>
      match text.toList with
      | ['-'] => return .same n none
      | [c] => if c.isDigit then return .same n (some (c.toNat - '0'.toNat)) else fail
      | _ => fail
  | .toDescriptor n source => return .same n source
  | .toText n number => do
    return .text n (((← get).texts.lookup number).getD [])

/-- Opens a file. -/
def openFor (mode : OpenMode) (path : String) : Interpreting Nat := do
  match ← ask (.openFile path mode) with
  | .ok n => return n
  | .error e =>
    if mode = .reading then fail (s!"cannot open {path}: " ++ reasonOf e "No such file")
    else fail (s!"cannot create {path}: " ++ reasonOf e "Directory nonexistent")

/-- Opens a file to be written; one that holds something is refused if the shell was told so. -/
def openToWrite (path : String) : Interpreting Nat := do
  if (← get).has 'C' then
    match ← ask (.status path true) with
    | .error _ => openFor .creating path
    | .ok status =>
      if status.kind = .plain then fail s!"cannot create {path}: File exists"
      openFor .writing path
  else openFor .writing path

/-- A new pipe: the descriptor to read from and the one to write to. -/
def newPipe : Interpreting (Nat × Nat) := do
  match ← ask .pipe with
  | .ok ends => return ends
  | .error _ => fail "Pipe call failed"

/-- A pipe that holds a text; gives the descriptor to read it from. -/
def pipeWith (text : String) : Interpreting Nat := do
  let (out, in_) ← newPipe
  if text.length ≤ smallText then discard (writeTo in_ text)
  else
    discard <| fork fun _ => do
      discard (Routine.ask (.close out))
      discard (Routine.ask (.write in_ (Text.Octets.toBytes text)))
      return 0
  discard (ask (.close in_))
  return out

/-- Opens what a redirection leads to; `none` is closed, and a descriptor that stays as it is gives
nothing. -/
def openAim : Aim → Interpreting (Option (Nat × Option Nat × Bool))
  | .file n .writing path => do return some (n, some (← openToWrite path), true)
  | .file n mode path => do return some (n, some (← openFor mode path), true)
  | .overwrite n path => do return some (n, some (← openFor .writing path), true)
  | .same n source => return if source == some n then none else some (n, source, false)
  | .text n word => do
    let text ← expandField output word { isQuoted := true }
    return some (n, some (← pipeWith text), true)

/-- Keeps what a descriptor stands for, unless that has been done. -/
def keep (kept : Kept) (n : Nat) : Interpreting Kept := do
  if (kept.lookup n).isSome then return kept
  match ← ask (.duplicate n hiddenDescriptor) with
  | .ok m =>
    discard (ask (.close n))
    return (n, some m) :: kept
  | .error .badDescriptor => return (n, none) :: kept
  | .error e =>
    discard (ask (.close n))
    fail s!"{n}: {e.reason}"

/-- Lets a descriptor stand for another one. -/
def point (n : Nat) (source : Option Nat) (isOwn : Bool) : Interpreting Unit := do
  match source with
  | none => discard (ask (.close n))
  | some m =>
    if m = n then return
    match ← ask (.replace m n) with
    | .ok _ => if isOwn then discard (ask (.close m))
    | .error e => fail s!"{m}: {e.reason}"

/-- Carries out redirections one after the other; gives what is to be put back, even if one fails. -/
def redirectWith (saves : Bool) : List Aim → Kept → Interpreting (Kept × Bool)
  | [], kept => return (kept, true)
  | aim :: rest, kept => do
    let opened ← try
        let opened ← openAim output aim
        pure (some opened)
      catch
        | .error => pure none
        | e => throw e
    match opened with
    | none => return (kept, false)
    | some none => redirectWith saves rest kept
    | some (some (n, source, isOwn)) =>
      let kept? ← try
          let kept ← if saves then
              if source = some n then
                pure (if (kept.lookup n).isSome then kept else (n, none) :: kept)
              else keep kept n
            else pure kept
          pure (some kept)
        catch
          | .error => pure none
          | e => throw e
      match kept? with
      | none => return (kept, false)
      | some kept =>
        let done ← try
            point n source isOwn
            pure true
          catch
            | .error => pure false
            | e => throw e
        if done then redirectWith saves rest kept else return (kept, false)

/-- Carries out redirections for good, or fails. -/
def redirectForGood (aims : List Aim) : Interpreting Unit := do
  let (_, done) ← redirectWith output false aims []
  unless done do throw .error

end

/-- Puts back what descriptors stood for, the last one first. -/
def restore (kept : Kept) : Interpreting Unit :=
  kept.forM fun (n, hidden) => do
    match hidden with
    | some m =>
      discard (ask (.replace m n))
      discard (ask (.close m))
    | none => discard (ask (.close n))

/-- Lets redirections stay as they are. -/
def forget (kept : Kept) : Interpreting Unit :=
  kept.forM fun (_, hidden) => hidden.forM fun m => discard (ask (.close m))

end DeviceLab.Shell
