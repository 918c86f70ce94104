import DeviceLab.Bench.Host
import DeviceLab.Config.Json

/-!
# Scenes

A scene tells what there is on a bench at first: the files and directories below one directory, and
whether the list of processes is shown from a file there.

* `Scene.decoder`: a scene in JSON.
* `Scene.setUp`: the bench.
* `World.textsBelow`: what a bench holds below a directory.
-/

namespace DeviceLab.Bench

open Json Text

/-- What there is on a bench at first. -/
structure Scene where
  directories : List String := []
  texts : List (String × String) := []
  /-- Files by their bytes in hexadecimal digits. -/
  hexTexts : List (String × String) := []
  /-- Whether a file in place of the table is shown as the list of processes. -/
  listing : Bool := false

namespace Scene

/-- The number of a hexadecimal digit. -/
def hexDigit (c : Char) : Nat := if c.isDigit then c.toNat - 48 else c.toLower.toNat - 87

/-- The bytes that pairs of hexadecimal digits tell. -/
def hexBytes : List Char → Bytes
  | a :: b :: rest => (hexDigit a * 16 + hexDigit b).toUInt8 :: hexBytes rest
  | _ => []

/-- A scene in JSON; every field may be missing. -/
def decoder : Decoder Scene :=
  Record.decoder <|
    Scene.mk <$> .withDefault "dirs" (list text) []
      <*> .withDefault "files" decodeTexts []
      <*> .withDefault "files_hex" decodeTexts []
      <*> .withDefault "ps" flag false

def files (scene : Scene) : List (String × Bytes) :=
  scene.texts.map (fun (name, text) => (name, Utf8.encode text)) ++
    scene.hexTexts.map fun (name, digits) => (name, hexBytes digits.toList)

/-- The devices of a bench. -/
def devices : List (String × Device) :=
  [("null", .void), ("zero", .zeros), ("full", .full), ("tty", .terminal), ("random", .noise),
    ("urandom", .noise)]

/-- The users of a bench other than the first: name, number, group, what it is called, and where its
files are. -/
def servants : List (String × Nat × Nat × String × String) :=
  [("daemon", 1, 1, "daemon", "/usr/sbin"), ("bin", 2, 2, "bin", "/bin"), ("sys", 3, 3, "sys", "/dev"),
    ("sync", 4, 65534, "sync", "/bin"), ("games", 5, 60, "games", "/usr/games"),
    ("man", 6, 12, "man", "/var/cache/man"), ("lp", 7, 7, "lp", "/var/spool/lpd"),
    ("mail", 8, 8, "mail", "/var/mail"), ("news", 9, 9, "news", "/var/spool/news"),
    ("uucp", 10, 10, "uucp", "/var/spool/uucp"), ("proxy", 13, 13, "proxy", "/bin"),
    ("www-data", 33, 33, "www-data", "/var/www"), ("backup", 34, 34, "backup", "/var/backups"),
    ("list", 38, 38, "Mailing List Manager", "/var/list"), ("irc", 39, 39, "ircd", "/run/ircd"),
    ("_apt", 42, 65534, "", "/nonexistent"), ("nobody", 65534, 65534, "nobody", "/nonexistent")]

/-- The users of a bench in lines. -/
def users : String :=
  "root:x:0:0:root:/root:/bin/bash\n" ++
    String.join (servants.map fun (name, user, group, title, home) =>
      let shell := if name = "sync" then "/bin/sync" else "/usr/sbin/nologin"
      s!"{name}:x:{user}:{group}:{title}:{home}:{shell}\n")

/-- The directories that there are on every bench. -/
def usualDirectories : List String :=
  ["/tmp", "/etc", "/dev", "/dev/shm", "/root", "/home", "/boot", "/media", "/mnt", "/opt", "/proc",
    "/run", "/srv", "/sys", "/var/tmp", "/var/log", "/var/lib", "/var/cache", "/var/spool", "/usr/etc",
    "/usr/games", "/usr/include", "/usr/lib", "/usr/lib64", "/usr/libexec", "/usr/local/bin",
    "/usr/sbin", "/usr/share", "/usr/src"]

/-- The links that there are on every bench. -/
def usualLinks : List (Place × String) :=
  [(["lib"], "usr/lib"), (["lib64"], "usr/lib64"), (["sbin"], "usr/sbin"),
    (["dev", "fd"], "/proc/self/fd")]

/-- The rights of directories that have others than usual. -/
def unusualModes : List (Place × Nat) :=
  [(["tmp"], 0o1777), (["var", "tmp"], 0o1777), (["dev", "shm"], 0o1777), (["root"], 0o700)]

/-- A bench with a directory and what a scene puts there; paths that cannot be made are passed
over. -/
def setUp (scene : Scene) (base : String) : World :=
  let directory (w : World) (path : String) : World := (host.createDirectories path w).2
  let file (w : World) (path : String) (bytes : Bytes) : World :=
    (host.writeFile path bytes (directory w ((Path.parent? path).getD ""))).2
  let w : World :=
    { listing := if scene.listing then some (Path.parts base ++ ["listing"]) else none
      environment := [("PATH", "/usr/bin:/bin"), ("HOME", "/root")] }
  let w := (usualDirectories ++ base :: scene.directories.map (Path.join base)).foldl directory w.withPrograms
  let w := file w "/etc/passwd" (Utf8.encode users)
  let files := devices.foldl (fun (files : Files) (name, device) =>
    files.put ["dev", name] (.device device) 0o666) w.files
  let files := usualLinks.foldl (fun (files : Files) (place, target) =>
    files.put place (.link target) 0o777) files
  let files := unusualModes.foldl (fun (files : Files) (place, mode) =>
    (files.number? place).elim files fun number =>
      files.update number fun entry => { entry with mode }) files
  let w := { w with files }
  scene.files.foldl (fun w (name, bytes) => file w (Path.join base name) bytes) w

end Scene

/-- The files that can be reached below a directory, by their paths from there, as text. -/
def World.textsBelow (w : World) (path : String) : List (String × String) :=
  match w.files.locate w.directory (Octets.ofText path) with
  | .error _ => []
  | .ok place => (w.files.filesReached place).map fun (names, bytes) =>
      (Octets.toText ("/".intercalate names), Utf8.decodeLossy bytes)

end DeviceLab.Bench
