import DeviceLab.Config.Validate
import DeviceLab.Dispatch.Template

/-!
# The context of a run

Directories, the name of the installed package and the environment of test processes, found out
once and read everywhere after.

* `Config.packageNameFile`: where the package name is looked up when the configuration has none.
* `RunContext.ofConfig`: the context, given the package name.
* `RunContext.values`: the values that templates may name.
-/

namespace DeviceLab

/-- Why there is no context. -/
inductive ContextError where
  | packageName (path : String) (cause : IoError)
  | emptyPackageName (path : String)
  deriving DecidableEq, Repr

def ContextError.message : ContextError → String
  | .packageName path cause => s!"failed to read package name from {path}: {cause.message}"
  | .emptyPackageName path => s!"package name file {path} is empty"

def Config.packageNameFile (c : Config) : String :=
  match c.paths.packageNameFile with
  | some path => c.workPath path
  | none => Path.join c.paths.workDir "package-name.txt"

/-- Everything that is the same for all suites of a run. -/
structure RunContext where
  workDir : String
  uploadDir : String
  installerPath : String
  packageName : Option String
  symbolsPath : Option String
  xrePath : Option String
  utilityPath : Option String
  certsPath : String
  modulesDir : Option String
  remoteWebserver : String
  deviceIp : String
  consoleHost : String
  /-- Variables of every test process. -/
  childEnv : List (String × String)
  deriving DecidableEq, Repr

namespace RunContext

open Json

/-- The variable that names the upload directory. -/
def uploadVariable : String := "MOZ_UPLOAD_DIR"

/-- The variable that names the directory for minidumps. -/
def minidumpVariable : String := "MINIDUMP_SAVE_PATH"

/-- The variable that names the tool that reads minidumps. -/
def stackwalkVariable : String := "MINIDUMP_STACKWALK"

/-- The context of a configuration, given the name of the package. -/
def ofConfig (c : Config) (packageName : Option String) : RunContext :=
  let paths := c.paths
  let uploadDir := c.workPath paths.uploadDir
  let env := enter uploadVariable uploadDir (enter minidumpVariable uploadDir [])
  { workDir := paths.workDir
    uploadDir
    installerPath := c.workPath paths.installerPath
    packageName
    symbolsPath := paths.symbolsPath
    xrePath := paths.xreDir.map fun dir => Path.join (c.workPath dir) "xre"
    utilityPath := paths.xreDir.map fun dir => Path.join (c.workPath dir) "bin"
    certsPath := Path.join (Path.join paths.workDir "tests") "certs"
    modulesDir := paths.modulesDir.map c.workPath
    remoteWebserver := paths.remoteWebserver
    deviceIp := paths.deviceIp
    consoleHost := paths.consoleHost
    childEnv :=
      match paths.minidumpStackwalk with
      | some path => enter stackwalkVariable (c.workPath path) env
      | none => env }

/-- The package name in the text of its file. -/
def packageNameOf (path text : String) : Except ContextError String :=
  let name := Text.trimmed text
  if name.isEmpty then .error (.emptyPackageName path) else .ok name

/-- Enters a value if there is one. -/
def enterSome (name : String) (value : Option String) (values : Values) : Values :=
  match value with
  | some value => enter name value values
  | none => values

/-- The values that templates may name; what is not configured has none. -/
def values (ctx : RunContext) : Values :=
  [("app", ctx.packageName), ("remote_webserver", some ctx.remoteWebserver),
    ("xre_path", ctx.xrePath), ("utility_path", ctx.utilityPath),
    ("device_ip", some ctx.deviceIp), ("certs_path", some ctx.certsPath),
    ("symbols_path", ctx.symbolsPath), ("modules_dir", ctx.modulesDir),
    ("installer_path", some ctx.installerPath)].foldl
    (fun found (name, value) => enterSome name value found) []

end RunContext

end DeviceLab
