import ContainerKernel.Text.Quoted

/-!
# The options of the command

Options come before the paths. Each begins with one dash or two. A switch may be given a truth
value behind an equals sign, and an option with a value takes it from there or from the next
argument. Two dashes alone end the options, and so does the first argument that is none.
-/

namespace ContainerKernel

/-- The options of the command. -/
structure Options where
  /-- The settings file for scenarios without settings of their own; empty for none. -/
  settingsPath : Bytes := []
  /-- Whether the counters are printed after the run. -/
  metrics : Bool := false
  /-- Whether the log shows everything. -/
  verbose : Bool := false
deriving DecidableEq, Repr, Inhabited

/-- Why the arguments cannot be used. -/
inductive OptionError where
  | badSyntax (argument : Bytes)
  | undefined (name : Bytes)
  | needsValue (name : Bytes)
  | invalidTruth (value name : Bytes)
  /-- Nothing is wrong, but help is asked for. -/
  | help
deriving DecidableEq, Repr, Inhabited

namespace Options

/-- The options and what they are for. -/
def defaults : Bytes :=
  utf8 "  -config string\n"
    ++ utf8 "    \tkernel configuration file applied to scenarios without an inline config\n"
    ++ utf8 "  -metrics\n    \tprint allocation metrics after the run\n"
    ++ utf8 "  -v\tenable debug logging\n"

/-- The help text. -/
def help : Bytes :=
  utf8 "Usage of kernel-fixture:\n" ++ defaults

/-- The text shown when no path is given. -/
def usage : Bytes :=
  utf8 "usage: kernel-fixture [options] <fixture.yml>...\n" ++ defaults

end Options

/-- The text of an option error: what is wrong, and the help text. -/
def OptionError.message (error : OptionError) : Bytes :=
  (match error with
    | badSyntax argument => utf8 "bad flag syntax: " ++ argument ++ utf8 "\n"
    | undefined name => utf8 "flag provided but not defined: -" ++ name ++ utf8 "\n"
    | needsValue name => utf8 "flag needs an argument: -" ++ name ++ utf8 "\n"
    | invalidTruth value name =>
      utf8 "invalid boolean value " ++ quoted value ++ utf8 " for -" ++ name
        ++ utf8 ": parse error\n"
    | help => []) ++ Options.help

/-- An argument that is an option: its name, and the value behind an equals sign. -/
structure OptionArgument where
  name : Bytes
  value : Option Bytes
deriving DecidableEq, Repr, Inhabited

/-- What an argument is. -/
inductive ArgumentForm where
  | path
  | endOfOptions
  | option (argument : OptionArgument)
  | malformed
deriving DecidableEq, Repr, Inhabited

namespace OptionArgument

/-- The dash that options begin with. -/
def dash : UInt8 := 45

/-- The sign before a value. -/
def equals : UInt8 := 61

/-- Cut the name and the value of an option apart; a name has at least one byte. -/
def split (text : Bytes) : OptionArgument :=
  let name := text.take 1 ++ (text.drop 1).takeWhile (· ≠ equals)
  if name.length < text.length then ⟨name, some (text.drop (name.length + 1))⟩ else ⟨name, none⟩

/-- Read the text after the dashes. -/
def afterDashes (text : Bytes) : ArgumentForm :=
  match text with
  | [] => .malformed
  | first :: _ =>
    if first = dash ∨ first = equals then .malformed else .option (split text)

/-- What an argument is. -/
def form (argument : Bytes) : ArgumentForm :=
  match argument with
  | first :: second :: rest =>
    if first ≠ dash then .path
    else if second ≠ dash then afterDashes (second :: rest)
    else if rest = [] then .endOfOptions
    else afterDashes rest
  | _ => .path

end OptionArgument

namespace Options

/-- The truth value that a word means. -/
def truth? (word : Bytes) : Option Bool :=
  if word ∈ ["1", "t", "T", "TRUE", "true", "True"].map utf8 then some true
  else if word ∈ ["0", "f", "F", "FALSE", "false", "False"].map utf8 then some false
  else none

/-- The truth value of a switch, which is true when none is given. -/
def switch (argument : OptionArgument) : Except OptionError Bool :=
  match argument.value with
  | none => .ok true
  | some word =>
    match truth? word with
    | some value => .ok value
    | none => .error (.invalidTruth word argument.name)

/-- The options after one more, and whether that one takes its value from the next argument. -/
def add (options : Options) (given : OptionArgument) : Except OptionError (Options × Bool) :=
  if given.name = utf8 "metrics" then
    (switch given).map fun metrics => ({ options with metrics }, false)
  else if given.name = utf8 "v" then
    (switch given).map fun verbose => ({ options with verbose }, false)
  else if given.name = utf8 "config" then
    match given.value with
    | some settingsPath => .ok ({ options with settingsPath }, false)
    | none => .ok (options, true)
  else if given.name = utf8 "help" ∨ given.name = utf8 "h" then .error .help
  else .error (.undefined given.name)

/--
Read options off the front of the arguments: the options and the arguments left. `awaiting` tells
whether the next argument is the path of the settings file.
-/
def readFrom : Options → Bool → List Bytes → Except OptionError (Options × List Bytes)
  | options, false, [] => .ok (options, [])
  | _, true, [] => .error (.needsValue (utf8 "config"))
  | options, true, argument :: rest =>
    readFrom { options with settingsPath := argument } false rest
  | options, false, argument :: rest =>
    match OptionArgument.form argument with
    | .path => .ok (options, argument :: rest)
    | .endOfOptions => .ok (options, rest)
    | .malformed => .error (.badSyntax argument)
    | .option given =>
      match options.add given with
      | .error cause => .error cause
      | .ok (next, awaiting) => readFrom next awaiting rest

/-- Read the options and the paths of the command. -/
def read (arguments : List Bytes) : Except OptionError (Options × List Bytes) :=
  readFrom {} false arguments

end Options

end ContainerKernel
