import DeviceLab.Bench.Host
import DeviceLab.CommandLine.Program

/-!
# Command lines on a bench

`World.invoke` carries out a command line on a bench, signals included.  A bench holds no more files
than it was given; `Session.host` notes the paths that are asked for, so that whoever sets the bench
up can tell which files a command line depends on.
-/

namespace DeviceLab

namespace Bench

open CommandLine

/-- A bench with the paths that have been asked for, the last one first. -/
structure Session where
  world : World
  sought : List String := []

namespace Session

def note (paths : List String) (s : Session) : Session := { s with sought := paths ++ s.sought }

/-- The bench of a session, as a host that notes the paths that it is asked for. -/
def host : Host Session :=
  let plain := Bench.host.along world fun world s => { s with world }
  { plain with
    readFile := fun path => do
      modify (note [path])
      plain.readFile path
    pathExists := fun path => do
      modify (note [path])
      plain.pathExists path
    spawn := fun spec capture => do
      modify (note (spec.argv.map fun arg => Path.join (spec.cwd.getD "") arg))
      plain.spawn spec capture }

/-- Carries out a command line in a session. -/
def invoke (args : List String) (s : Session) : Outcome × Session :=
  let (o, s) := (CommandLine.perform host args).run s
  (o.interrupted s.world.received s.world.forced, s)

end Session

/-- Carries out a command line on a bench. -/
def World.invoke (args : List String) (w : World) : Outcome × World :=
  let (o, s) := Session.invoke args { world := w }
  (o, s.world)

end Bench

end DeviceLab
