import ContainerKernel.Document.Decode

/-!
# Keys as values

A mapping that merges others has to know which keys it has given already, and to that end its keys
are read as values of any kind. Two of them are the same when they mean the same. A collection
cannot be compared with other keys: where one stands, the reading breaks down. It is read all the
same before that, so that a flaw inside of it comes first.

Inside a key, mappings give keys too. The keys given so far count for the mappings that are members
of a sequence and for those that a mapping merges, but not for what stands under a key.
-/

namespace ContainerKernel.Document

/-- What a key stands for. -/
inductive KeyValue where
  | text (bytes : Bytes)
  | timestamp (source : Bytes)
  /-- Neither a text nor a timestamp. -/
  | plain (meaning : Meaning)
  | collection (kind : CollectionKind)
deriving DecidableEq, Repr, Inhabited

namespace KeyValue

/-- Whether two keys are the same. What is no number is not even the same as itself. -/
def same : KeyValue → KeyValue → Bool
  | plain (.real .nan), _ => false
  | plain (.real (.finite negative magnitude)), plain (.real (.finite negative' magnitude')) =>
    magnitude.quotient.1 * magnitude'.quotient.2 = magnitude'.quotient.1 * magnitude.quotient.2 &&
      (negative = negative' || magnitude.significand = 0)
  | first, second => first = second

/-- The key that a scalar is. -/
def ofScalar (meaning : Meaning) (bytes : Bytes) : KeyValue :=
  match meaning with
  | .text => text bytes
  | .timestamp => timestamp bytes
  | meaning => plain meaning

end KeyValue

namespace Decode

/-- Whether a key merges its value. -/
def isMerge : Node → Bool
  | .scalar info _ value => value = ['<', '<'] && info.tag = .merge
  | _ => false

/-- The nodes that a merged value brings: itself, or the members of a sequence. -/
def mergeSources : Node → List Node
  | .sequence _ _ items => items
  | node => [node]

/-- The value that a mapping merges, if it does. -/
def merged? (entries : List (Node × Node)) : Option Node :=
  (entries.reverse.find? fun (key, _) => isMerge key).map (·.2)

/-- The kind of a mapping with the given entries. -/
def mappingKind (tree : Tree) (entries : List (Node × Node)) : CollectionKind :=
  let isText : Node × Node → Bool := fun (key, _) =>
    let tag := (tree.resolve key).info.tag
    tag = .str || tag = .merge
  if entries.all isText then .textMapping else .mapping

/--
Add a key to those that are given, unless it is given already. Where none are kept, none is added.
-/
def giveKey (key : KeyValue) : Option (List KeyValue) → Decode (Bool × Option (List KeyValue))
  | none =>
    match key with
    | .collection _ => throw .key
    | _ => return (true, none)
  | some given =>
    match key with
    | .collection kind => throw (.breakdown ⟨kind⟩)
    | _ => return if given.any key.same then (false, some given) else (true, some (key :: given))

mutual

/--
Read a key, or a part of one, as a value of any kind, with the keys given so far and those given
then. The first argument bounds the depth.
-/
def keyValue (tree : Tree) :
    Nat → Node → Option (List KeyValue) → Decode (Option KeyValue × Option (List KeyValue))
  | 0, _, _ => throw .reference
  | bound + 1, node, given =>
    visit tree node fun node => do
      match node with
      | .scalar info _ value =>
        let (meaning, bytes) ← meaningOf info value
        return (some (.ofScalar meaning bytes), given)
      | .sequence _ _ items =>
        let given ← items.foldlM (fun given item => do
          return (← keyValue tree bound item given).2) given
        return (some (.collection .sequence), given)
      | .mapping _ _ entries =>
        match repeatedKeys entries with
        | problem :: problems =>
          noteAll (problem :: problems)
          return (none, given)
        | [] =>
          let kind := mappingKind tree entries
          return (some (.collection kind), ← keyEntries tree kind bound entries given)
      | .reference .. => return (none, given)

/--
Read the entries of a mapping of a kind inside a key, and then what it merges. The keys of a
mapping of texts are read as texts.
-/
def keyEntries (tree : Tree) (kind : CollectionKind) :
    Nat → List (Node × Node) → Option (List KeyValue) → Decode (Option (List KeyValue))
  | 0, _, _ => throw .reference
  | bound + 1, entries, given => do
    let own ← entries.foldlM (fun given (key, value) => do
      if isMerge key then return given
      let read ←
        if kind = .textMapping then (·.map KeyValue.text) <$> text tree key
        else Prod.fst <$> keyValue tree bound key none
      match read with
      | none => return given
      | some read =>
        let (isNew, given) ← giveKey read given
        if isNew then
          let _ ← keyValue tree bound value none
        return given) given
    match merged? entries with
    | none => return own
    | some merged =>
      let start ← ownKeys tree bound entries own
      let all ← (mergeSources merged).foldlM (fun given source =>
        visit tree source fun node => do
          match node with
          | .mapping _ _ entries =>
            match repeatedKeys entries with
            | [] => keyEntries tree kind bound entries given
            | problems =>
              noteAll problems
              return given
          | _ => throw .merge) (some start)
      return own.bind fun _ => all

/-- The keys given so far, or else those of a mapping that merges others. -/
def ownKeys (tree : Tree) :
    Nat → List (Node × Node) → Option (List KeyValue) → Decode (List KeyValue)
  | _, _, some given => return given
  | 0, _, none => throw .reference
  | bound + 1, entries, none =>
    entries.foldlM (fun given (key, _) => do
      let (read, given') ← keyValue tree bound key (some given)
      match read with
      | none => return given'.getD given
      | some read => return (← giveKey read given').2.getD given) []

end

/--
The keys given so far, or else those of a mapping that merges others. An alias that is met again
while it is being followed is a flaw, so that the depth is at most that of the document for each
alias.
-/
def givenKeys (tree : Tree) (entries : List (Node × Node)) (given : Option (List KeyValue)) :
    Decode (List KeyValue) :=
  ownKeys tree ((tree.size + 2) * (tree.size + 2)) entries given

end Decode

end ContainerKernel.Document
