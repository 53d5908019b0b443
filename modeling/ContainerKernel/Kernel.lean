import ContainerKernel.ByteString
import ContainerKernel.Log
import ContainerKernel.Metrics
import ContainerKernel.Settings

/-!
# The kernel

A kernel owns containers and hands out handles to them: the n-th container made, list or string,
has handle n, and stays what it is. An operation either succeeds and answers, or it is a misuse
of exactly one kind. A misuse changes no container: it is counted, logged, and returned to the
caller, and under the abort policy the diagnostic line is printed and the program's exit is
called for as well. The exit is recorded and not performed, so a run can go on after it.

Main definitions: `Kernel.attempt` is what an operation does when it is used well,
`Kernel.step` adds what a misuse does, and `Kernel.run` does operations one after another.
-/

namespace ContainerKernel

/-- A container of a kernel. -/
inductive Container where
  | list (contents : DynamicList Value)
  | string (contents : ByteString)
deriving Repr, Inhabited

/-- The state of a kernel. -/
structure Kernel where
  /-- The settings in force. -/
  settings : Settings
  /-- The containers in the order in which they were made. -/
  containers : Array Container := #[]
  /-- The counters, where the kernel has any. -/
  metrics : Option Metrics := none
deriving Repr, Inhabited

/-- An operation on a kernel. -/
inductive Operation where
  | listNew
  | listAppend (handle : Int) (value : Option Value)
  | listAt (handle index : Int)
  | listLength (handle : Int)
  | listItems (handle : Int)
  | stringNew (data : Bytes)
  | stringAdd (handle : Int) (suffix : Bytes)
  | stringConcat (handle suffix : Int)
  | stringLength (handle : Int)
  | stringAt (handle index : Int)
  | stringBytes (handle : Int)
deriving DecidableEq, Repr, Inhabited

/-- The answer to an operation that succeeds. -/
inductive Reply where
  | done
  | handle (handle : Int)
  | value (value : Value)
  | length (length : Nat)
  | items (items : List Value)
  | byte (byte : UInt8)
  | bytes (bytes : Bytes)
deriving DecidableEq, Repr, Inhabited

/-- A misuse: the kind under which it is counted and logged, the fault, and the line that is
printed if the program is to end because of it. -/
structure Misuse where
  kind : FaultClass
  fault : Fault
  diagnostic : Bytes
deriving DecidableEq, Repr, Inhabited

namespace Misuse

/-- The handle names no list. -/
def noList (handle : Int) : Misuse where
  kind := .handle
  fault := .handle .list handle
  diagnostic := utf8 "Invalid list handle " ++ decimal handle ++ utf8 "!"

/-- The handle names no string. -/
def noString (handle : Int) : Misuse where
  kind := .handle
  fault := .handle .string handle
  diagnostic := utf8 "Invalid string handle " ++ decimal handle ++ utf8 "!"

/-- The list refuses an item. -/
def unappended (handle : Int) (fault : Fault) : Misuse where
  kind := .allocation
  fault
  diagnostic := utf8 "Cannot append to list " ++ decimal handle ++ utf8 ": " ++ fault.message
    ++ utf8 "!"

/-- There is no item at the index. -/
def noItem (index : Int) (fault : Fault) : Misuse where
  kind := .index
  fault
  diagnostic := utf8 "Cannot get list item at index " ++ decimal index ++ utf8 "!"

/-- There is no byte at the index. -/
def noByte (index : Int) (fault : Fault) : Misuse where
  kind := .index
  fault
  diagnostic := utf8 "Cannot get string byte at index " ++ decimal index ++ utf8 "!"

/-- The string is longer than the limit. -/
def tooLong (size limit : Int) : Misuse where
  kind := .allocation
  fault := .allocation (utf8 "string") size limit
  diagnostic := utf8 "Cannot allocate string of " ++ decimal size ++ utf8 " bytes!"

/-- Two strings are too long to be joined. -/
def unjoined (fault : Fault) : Misuse where
  kind := .allocation
  fault
  diagnostic := utf8 "Cannot allocate string: " ++ fault.message ++ utf8 "!"

end Misuse

/-- The log line of a misuse. -/
def Settings.faultLine (settings : Settings) (misuse : Misuse) : LogLine where
  level := .error
  fields := [
    ("msg", utf8 "container fault"),
    ("kind", misuse.kind.label),
    ("policy", settings.policy.name),
    ("err", misuse.fault.message)]

/-- What an operation does outside the kernel. -/
structure Effects where
  stderr : Bytes := []
  log : List LogLine := []
  exits : List Int := []
deriving DecidableEq, Repr, Inhabited

/-- The effects of one thing and then of another. -/
def Effects.append (first second : Effects) : Effects :=
  ⟨first.stderr ++ second.stderr, first.log ++ second.log, first.exits ++ second.exits⟩

instance : Append Effects := ⟨Effects.append⟩

/-- What comes of an operation: an answer or a failure, and the effects. -/
structure Outcome where
  result : Except Failure Reply
  effects : Effects
deriving Repr, Inhabited

namespace Kernel

/-- A kernel without containers. -/
def start (settings : Settings) (metrics : Option Metrics) : Kernel :=
  { settings := settings.effective, metrics }

/-- The container that a handle names. -/
def container? (kernel : Kernel) (handle : Int) : Option Container :=
  if handle < 1 then none else kernel.containers[handle.toNat - 1]?

/-- The list that a handle names, or the misuse that it names none. -/
def list (kernel : Kernel) (handle : Int) : Except Misuse (DynamicList Value) :=
  match kernel.container? handle with
  | some (.list contents) => .ok contents
  | _ => .error (.noList handle)

/-- The string that a handle names, or the misuse that it names none. -/
def string (kernel : Kernel) (handle : Int) : Except Misuse ByteString :=
  match kernel.container? handle with
  | some (.string contents) => .ok contents
  | _ => .error (.noString handle)

/-- The kernel with one container more, and its handle. -/
def add (kernel : Kernel) (contents : Container) : Kernel × Int :=
  ({ kernel with containers := kernel.containers.push contents }, kernel.containers.size + 1)

/-- The kernel with a list replaced. -/
def setList (kernel : Kernel) (handle : Int) (contents : DynamicList Value) : Kernel :=
  { kernel with
    containers := kernel.containers.setIfInBounds (handle.toNat - 1) (.list contents) }

/-- Count something, where there are counters. -/
def observe (kernel : Kernel) (count : Metrics → Metrics) : Kernel :=
  { kernel with metrics := kernel.metrics.map count }

/-- An empty list with the growth and the limit of the settings. -/
def newList (kernel : Kernel) : DynamicList Value :=
  { growth := kernel.settings.growth, maxLength := kernel.settings.listLimit }

/-- Store a new string, unless it is longer than the settings allow. -/
def store (kernel : Kernel) (text : ByteString) : Except Misuse (Kernel × Reply) :=
  let limit := kernel.settings.stringLimit
  if limit > 0 ∧ (text.length : Int) > limit then
    .error (.tooLong text.length limit)
  else
    let (stored, handle) := kernel.add (.string text)
    .ok (stored.observe fun metrics => (metrics.observeString text.length).1, .handle handle)

/-- Store the outcome of a join, which may have been refused for its length. -/
def storeJoined (kernel : Kernel) : Except Fault ByteString → Except Misuse (Kernel × Reply)
  | .ok text => kernel.store text
  | .error fault => .error (.unjoined fault)

/-- Append a value to a list; a missing value is stored as nil. -/
def appendTo (kernel : Kernel) (handle : Int) (contents : DynamicList Value)
    (value : Option Value) : Except Misuse (Kernel × Reply) :=
  match contents.append (value.getD .nil) with
  | .error fault => .error (.unappended handle fault)
  | .ok (grown, events) =>
    let counted := kernel.observe fun metrics => events.foldl Metrics.observeListEvent metrics
    .ok (counted.setList handle grown, .done)

/-- What an operation does when it is used well, or the misuse that it is. -/
def attempt (kernel : Kernel) : Operation → Except Misuse (Kernel × Reply)
  | .listNew =>
    let (grown, handle) := kernel.add (.list kernel.newList)
    .ok (grown, .handle handle)
  | .listAppend handle value => do
    let contents ← kernel.list handle
    kernel.appendTo handle contents value
  | .listAt handle index => do
    let contents ← kernel.list handle
    match contents.itemAt index with
    | .ok value => .ok (kernel, .value value)
    | .error fault => .error (.noItem index fault)
  | .listLength handle => do
    let contents ← kernel.list handle
    .ok (kernel, .length contents.length)
  | .listItems handle => do
    let contents ← kernel.list handle
    .ok (kernel, .items contents.items.toList)
  | .stringNew data => kernel.store (.ofTerminated data)
  | .stringAdd handle suffix => do
    let text ← kernel.string handle
    kernel.storeJoined (text.appendTerminated suffix)
  | .stringConcat handle suffix => do
    let text ← kernel.string handle
    let tail ← kernel.string suffix
    kernel.storeJoined (text.append tail)
  | .stringLength handle => do
    let text ← kernel.string handle
    .ok (kernel, .length text.length)
  | .stringAt handle index => do
    let text ← kernel.string handle
    match text.byteAt index with
    | .ok byte => .ok (kernel, .byte byte)
    | .error fault => .error (.noByte index fault)
  | .stringBytes handle => do
    let text ← kernel.string handle
    .ok (kernel, .bytes text.bytes)

/-- What a misuse does: it is counted and logged, and returned or made the reason for an exit. -/
def report (kernel : Kernel) (misuse : Misuse) : Kernel × Outcome :=
  let counted := kernel.observe fun metrics => (metrics.observeFault misuse.kind.label).1
  let line := kernel.settings.faultLine misuse
  if kernel.settings.policy = .abort then
    let code := kernel.settings.exitCode
    (counted, ⟨.error (.joined (.exit code) (.fault misuse.fault)),
      ⟨misuse.diagnostic ++ utf8 "\n", [line], [code]⟩⟩)
  else (counted, ⟨.error (.fault misuse.fault), ⟨[], [line], []⟩⟩)

/-- One operation. -/
def step (kernel : Kernel) (operation : Operation) : Kernel × Outcome :=
  match kernel.attempt operation with
  | .ok (next, reply) => (next, ⟨.ok reply, {}⟩)
  | .error misuse => kernel.report misuse

/-- Operations one after another, with what comes of each. -/
def run (kernel : Kernel) : List Operation → Kernel × List Outcome
  | [] => (kernel, [])
  | operation :: rest =>
    let (next, outcome) := kernel.step operation
    let (last, outcomes) := next.run rest
    (last, outcome :: outcomes)

/-- The number of lists and the number of strings. -/
def counts (kernel : Kernel) : Nat × Nat :=
  (kernel.containers.countP fun | .list _ => true | .string _ => false,
    kernel.containers.countP fun | .list _ => false | .string _ => true)

end Kernel

end ContainerKernel
