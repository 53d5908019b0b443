import ContainerKernel.Document.Scalar.TextField
import ContainerKernel.Settings.Document

/-!
# Settings as a document

Settings are written as a document that gives all of them, in a fixed order, indented by two.
-/

namespace ContainerKernel.Settings

/-- The step of indentation. -/
def indentStep : Nat := 2

/-- A line of a section: a key, and a value that may end its line itself. -/
def sectionLine (key : String) (value : List Char) : List Char :=
  List.replicate indentStep ' ' ++ key.toList ++ [':', ' '] ++ value ++
    (if value.getLast?.any Document.isBreak then [] else ['\n'])

/-- The value of a text. -/
def textValue (text : Bytes) : List Char :=
  Document.TextField.written indentStep (2 * indentStep) text

/-- The value of a number. -/
def numberValue (number : Int) : List Char :=
  (if number < 0 then ['-'] else []) ++ Nat.toDigits 10 number.natAbs

/-- The characters of the document that gives the settings. -/
def documentChars (settings : Settings) : List Char :=
  "list:\n".toList ++ sectionLine "growth" (textValue settings.growth.name) ++
    sectionLine "max_len" (numberValue settings.listLimit) ++
    "string:\n".toList ++ sectionLine "max_len" (numberValue settings.stringLimit) ++
    "faults:\n".toList ++ sectionLine "policy" (textValue settings.policy.name) ++
    sectionLine "exit_code" (numberValue settings.exitCode)

/-- The document that gives the settings. -/
def render (settings : Settings) : Bytes :=
  encodeChars settings.documentChars

end ContainerKernel.Settings
