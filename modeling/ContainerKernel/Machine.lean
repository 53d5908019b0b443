import ContainerKernel.Kernel
import Std.Data.ExtTreeMap

/-!
# The kernel as a machine

A machine keeps what a kernel owns in tables that are changed in place: one counter gives out the
handles, one table holds the lists and another one the strings. An operation is a call that goes
through checks and changes in a fixed order and stops at the first check that fails. What it has
done by then, to the tables, to the counters and outside, stays done: a call that fails leaves a
state just as one that succeeds does.

Main definitions: `Machine.call` is what an operation does, `Machine.step` is one call with what
comes of it, and `Machine.run` does calls one after another.
-/

namespace ContainerKernel

/-- The state of a machine. -/
structure Machine where
  /-- The settings in force. -/
  settings : Settings
  /-- The handle of the container that is made next. -/
  nextHandle : Int := 1
  lists : Std.ExtTreeMap Int (DynamicList Value) := ∅
  strings : Std.ExtTreeMap Int ByteString := ∅
  /-- The counters, where the machine has any. -/
  metrics : Option Metrics := none
deriving Inhabited

namespace Machine

/-- A call under way: the machine as it is, and what the call has done outside it so far. -/
structure Progress where
  machine : Machine
  effects : Effects := {}
deriving Inhabited

/-- A part of a call. It gives a value or fails, and leaves its progress in both cases. -/
abbrev Action (α : Type) : Type :=
  EStateM Failure Progress α

/-- A machine without containers. -/
def start (settings : Settings) (metrics : Option Metrics) : Machine :=
  { settings := settings.effective, metrics }

/-! ## Parts of calls -/

/-- Look at the machine. -/
def look {α : Type} (view : Machine → α) : Action α := do
  return view (← get).machine

/-- Change the machine. -/
def change (update : Machine → Machine) : Action Unit :=
  modify fun progress => { progress with machine := update progress.machine }

/-- Do something outside. -/
def emit (effects : Effects) : Action Unit :=
  modify fun progress => { progress with effects := progress.effects ++ effects }

/-- Count something, where there are counters. -/
def count (counted : Metrics → Metrics) : Action Unit :=
  change fun machine => { machine with metrics := machine.metrics.map counted }

/--
Report a misuse: it is counted and logged under its kind and then returned. Under the abort policy
the diagnostic is printed and the exit called for before that.
-/
def raise {α : Type} (misuse : Misuse) : Action α := do
  count fun metrics => (metrics.observeFault misuse.kind.label).1
  let settings ← look settings
  emit { log := [settings.faultLine misuse] }
  if settings.policy = .abort then
    emit { stderr := misuse.diagnostic ++ utf8 "\n" }
    emit { exits := [settings.exitCode] }
    throw (.joined (.exit settings.exitCode) (.fault misuse.fault))
  else throw (.fault misuse.fault)

/-- Take the next handle. The counter is a word, and the last word is followed by the first. -/
def takeHandle : Action Int := do
  let handle ← look nextHandle
  change fun machine => { machine with nextHandle := Word.wrap (handle + 1) }
  return handle

/-- Put a list under a handle. -/
def putList (handle : Int) (contents : DynamicList Value) : Action Unit :=
  change fun machine => { machine with lists := machine.lists.insert handle contents }

/-- Put a string under a handle. -/
def putString (handle : Int) (contents : ByteString) : Action Unit :=
  change fun machine => { machine with strings := machine.strings.insert handle contents }

/-- The list under a handle. -/
def listFor (handle : Int) : Action (DynamicList Value) := do
  match ← look fun machine => machine.lists[handle]? with
  | some contents => return contents
  | none => raise (.noList handle)

/-- The string under a handle. -/
def stringFor (handle : Int) : Action ByteString := do
  match ← look fun machine => machine.strings[handle]? with
  | some contents => return contents
  | none => raise (.noString handle)

/-- Give the list under a handle a larger buffer. -/
def growList (handle : Int) (contents : DynamicList Value) : Action (DynamicList Value) := do
  let capacity := contents.growth.nextCapacity contents.limit contents.capacity
    (contents.length + 1)
  let grown := { contents with capacity }
  putList handle grown
  count fun metrics => (metrics.observeGrow capacity).1
  return grown

/--
Append an item to the list under a handle, whose buffer grows first if it is full; or say why the
list takes no item.
-/
def appendItem (handle : Int) (contents : DynamicList Value) (item : Value) :
    Action (Option Fault) := do
  if (contents.length : Int) ≥ contents.limit then
    return some (.allocation (utf8 "list") (contents.length + 1) contents.limit)
  else
    let roomy ← if (contents.length : Int) = contents.capacity then growList handle contents
      else pure contents
    putList handle { roomy with items := roomy.items.push item }
    count Metrics.observeAppend
    return none

/-- Store a new string, unless it is longer than the settings allow. -/
def storeString (text : ByteString) : Action Reply := do
  let limit ← look fun machine => machine.settings.stringLimit
  if limit > 0 ∧ (text.length : Int) > limit then raise (.tooLong text.length limit)
  else
    let handle ← takeHandle
    putString handle text
    count fun metrics => (metrics.observeString text.length).1
    return .handle handle

/-- Store the outcome of a join, which may have been refused for its length. -/
def storeJoined : Except Fault ByteString → Action Reply
  | .ok text => storeString text
  | .error fault => raise (.unjoined fault)

/-! ## Calls -/

/-- What an operation does. -/
def call : Operation → Action Reply
  | .listNew => do
    let handle ← takeHandle
    let settings ← look settings
    putList handle { growth := settings.growth, maxLength := settings.listLimit }
    return .handle handle
  | .listAppend handle value => do
    let contents ← listFor handle
    match ← appendItem handle contents (value.getD .nil) with
    | none => return .done
    | some fault => raise (.unappended handle fault)
  | .listAt handle index => do
    let contents ← listFor handle
    match contents.itemAt index with
    | .ok value => return .value value
    | .error fault => raise (.noItem index fault)
  | .listLength handle => do
    let contents ← listFor handle
    return .length contents.length
  | .listItems handle => do
    let contents ← listFor handle
    return .items contents.items.toList
  | .stringNew data => storeString (.ofTerminated data)
  | .stringAdd handle suffix => do
    let text ← stringFor handle
    storeJoined (text.appendTerminated suffix)
  | .stringConcat handle suffix => do
    let text ← stringFor handle
    let tail ← stringFor suffix
    storeJoined (text.append tail)
  | .stringLength handle => do
    let text ← stringFor handle
    return .length text.length
  | .stringAt handle index => do
    let text ← stringFor handle
    match text.byteAt index with
    | .ok byte => return .byte byte
    | .error fault => raise (.noByte index fault)
  | .stringBytes handle => do
    let text ← stringFor handle
    return .bytes text.bytes

/-- One operation, with what comes of it. -/
def step (machine : Machine) (operation : Operation) : Machine × Outcome :=
  match (call operation).run { machine } with
  | .ok reply left => (left.machine, ⟨.ok reply, left.effects⟩)
  | .error failure left => (left.machine, ⟨.error failure, left.effects⟩)

/-- Operations one after another, with what comes of each. -/
def run (machine : Machine) : List Operation → Machine × List Outcome
  | [] => (machine, [])
  | operation :: rest =>
    let (next, outcome) := machine.step operation
    let (last, outcomes) := next.run rest
    (last, outcome :: outcomes)

/-- The number of lists and the number of strings. -/
def counts (machine : Machine) : Nat × Nat :=
  (machine.lists.size, machine.strings.size)

end Machine

end ContainerKernel
