import DeviceLab.Bench.Session

/-!
# The command line of the program

A command line is carried out on a bench that holds the files that it asks for; what it writes there
is written to the files of the system afterwards.  Processes run on the bench only.
-/

namespace DeviceLab.Bench.World

open Text

/-- Puts a file or a directory of the system on a bench, if there is one. -/
def loadFrom (w : World) (path : String) : IO World := do
  try
    let real ← IO.FS.realPath path
    if ← real.isDir then return (host.createDirectories path w).2
    let bytes ← IO.FS.readBinFile real
    let w := (host.createDirectories ((Path.parent? path).getD "") w).2
    return (host.writeFile path bytes.toList w).2
  catch _ => return w

/-- Carries out a command line on a bench with every file that it asks for; gives the bench before
and after it.  What is asked for may depend on what is found, so this is done again until nothing
new is asked for. -/
def invokeOnFiles (args : List String) (w : World) (known : List String) :
    Nat → IO (CommandLine.Outcome × World × World)
  | 0 =>
    let (o, after) := w.invoke args
    return (o, w, after)
  | rounds + 1 => do
    let (o, session) := Session.invoke args { world := w }
    let fresh := session.sought.eraseDups.filter fun path => !known.contains path
    if fresh.isEmpty then return (o, w, session.world)
    invokeOnFiles args (← fresh.foldlM loadFrom w) (fresh ++ known) rounds

/-- The files that a bench holds with other bytes than before. -/
def changes (before after : World) : List (String × Bytes) :=
  (after.files.filesBelow []).filterMap fun (place, bytes) =>
    match before.files.read place with
    | .ok old => if old == bytes then none else some (Files.pathOf place, bytes)
    | .error _ => some (Files.pathOf place, bytes)

/-- Writes files of a bench to the system. -/
def store (files : List (String × Bytes)) : IO Unit :=
  files.forM fun (path, bytes) => do
    IO.FS.createDirAll ((Path.parent? path).getD "")
    IO.FS.writeBinFile path ⟨bytes.toArray⟩

/-- A bench in the directory and with the variables of the program. -/
def ofSystem : IO World := do
  let directory := Path.parts (← IO.currentDir).toString
  let temporary := Path.parts ((← IO.getEnv "TMPDIR").getD "/tmp")
  let settings ← ["PATH", "HOME"].filterMapM fun name => do
    return (← IO.getEnv name).map fun value => (name, value)
  let w : World := { directory, temporary, environment := settings }
  return [directory, temporary].foldl (fun w place =>
    (host.createDirectories (Files.pathOf place) w).2) w.withPrograms

end DeviceLab.Bench.World

/-- Carries out a command line; gives the exit code. -/
def main (args : List String) : IO UInt32 := do
  let (o, before, after) ← (← DeviceLab.Bench.World.ofSystem).invokeOnFiles args [] 100
  DeviceLab.Bench.World.store (before.changes after)
  (← IO.getStderr).putStr o.errors
  (← IO.getStdout).putStr o.output
  return UInt32.ofNat (o.code % 256).toNat
