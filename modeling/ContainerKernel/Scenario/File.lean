import ContainerKernel.FileTree
import ContainerKernel.Scenario

/-!
# Scenarios in files

Scenarios are read from the file at a path, or from all scenario files of a directory, in the
order of their names.
-/

namespace ContainerKernel

/-- The scenarios of a file. -/
structure ScenarioFile where
  path : Bytes
  scenarios : List Scenario
deriving DecidableEq, Repr, Inhabited

/-- Why a file or a directory gives no scenarios. -/
inductive ScenarioFileError where
  | read (path : Bytes) (cause : PathError)
  | parse (path : Bytes) (cause : ScenarioError)
  | list (path : Bytes) (cause : PathError)
deriving DecidableEq, Repr, Inhabited

/-- The text of the error. -/
def ScenarioFileError.message : ScenarioFileError → Bytes
  | read path cause => utf8 "fixtures: read " ++ path ++ utf8 ": " ++ cause.message
  | parse path cause => utf8 "fixtures: parse " ++ path ++ utf8 ": " ++ cause.message
  | list path cause => utf8 "fixtures: read dir " ++ path ++ utf8 ": " ++ cause.message

/-- The breakdown that an error is, if it is one. -/
def ScenarioFileError.breakdown? : ScenarioFileError → Option Document.Breakdown
  | parse _ cause => cause.breakdown?
  | _ => none

namespace ScenarioFile

/-- The scenarios of the file at a path. -/
def load (tree : FileTree) (path : Bytes) : Except ScenarioFileError ScenarioFile :=
  let way := Path.absolute tree.workingDirectory path
  match tree.read way with
  | .error cause => .error (.read (Path.text way) cause)
  | .ok contents =>
    match Scenario.parse contents with
    | .error cause => .error (.parse (Path.text way) cause)
    | .ok scenarios => .ok { path := Path.text way, scenarios }

/-- What follows the last dot of a name, with the dot. -/
def extension (name : Bytes) : Bytes :=
  if name.contains 46 then 46 :: (name.reverse.takeWhile (· ≠ 46)).reverse else []

/-- Whether a name is one of a scenario file. -/
def hasScenarioName (name : Bytes) : Bool :=
  extension name = utf8 ".yml" || extension name = utf8 ".yaml"

/-- The scenario files of a directory, in the order of their names, or the first error. -/
def loadAll (tree : FileTree) (directory : Bytes) :
    Except ScenarioFileError (List ScenarioFile) :=
  match tree.list directory with
  | .error cause => .error (.list directory cause)
  | .ok names =>
    (names.filter hasScenarioName).mapM fun name =>
      load tree (directory ++ Path.divider :: name)

end ScenarioFile

end ContainerKernel
