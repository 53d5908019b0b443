import ContainerKernel.FileTree
import ContainerKernel.Settings.Document

/-!
# Settings in files

Settings are read from the file at a path. The settings know the file that they came from.
-/

namespace ContainerKernel

/-- Why a file gives no settings. -/
inductive SettingsFileError where
  | emptyPath
  | read (path : Bytes) (cause : PathError)
  | parse (path : Bytes) (cause : SettingsError)
deriving DecidableEq, Repr, Inhabited

/-- The text of the error. -/
def SettingsFileError.message : SettingsFileError → Bytes
  | emptyPath => utf8 "config: empty path"
  | read path cause => utf8 "config: read " ++ path ++ utf8 ": " ++ cause.message
  | parse path cause => utf8 "config: parse " ++ path ++ utf8 ": " ++ cause.message

/-- The breakdown that an error is, if it is one. -/
def SettingsFileError.breakdown? : SettingsFileError → Option Document.Breakdown
  | parse _ cause => cause.breakdown?
  | _ => none

namespace Settings

/-- The settings that a file gives over a base. -/
def loadOver (tree : FileTree) (path : Bytes) (base : Settings) :
    Except SettingsFileError Settings :=
  if path = [] then .error .emptyPath
  else
    let way := Path.absolute tree.workingDirectory path
    match tree.read way with
    | .error cause => .error (.read (Path.text way) cause)
    | .ok contents =>
      match parseOver contents base with
      | .error cause => .error (.parse (Path.text way) cause)
      | .ok settings => .ok { settings with path := Path.text way }

/-- The settings that a file gives over the default ones. -/
def load (tree : FileTree) (path : Bytes) : Except SettingsFileError Settings :=
  loadOver tree path {}

end Settings

end ContainerKernel
