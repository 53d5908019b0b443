import ContainerKernel.Document.Key

/-!
# Reading records from a document

A record has named fields; a mapping of a document gives some of them. Reading is strict: a field
that the record does not have is a problem as well, and so is a field that is given twice. What is
null leaves a field as it is.

A mapping may merge other mappings. Their entries count as if they stood in the mapping, but its
own entries come first, and among the merged ones the first of each name.
-/

namespace ContainerKernel.Document

namespace Decode

/-! ## Records -/

/-- Whether a node is a collection that is tagged as null. -/
def isNullCollection : Node → Bool
  | .sequence info _ _ => info.tag = .null
  | .mapping info _ _ => info.tag = .null
  | _ => false

/--
Read what a place may go without; `wanted` names what would fill it. A collection that is tagged
as null does not fit such a place, whatever it holds, and problems mark the name with a star then.
-/
def optional {α : Type} (wanted : String) (read : Tree → Node → Decode (Option α)) (tree : Tree)
    (node : Node) : Decode (Option α) :=
  if isNullCollection (tree.resolve node) then
    visit tree node fun node => do
      misfitCollection ("*" ++ wanted) node
      return none
  else read tree node

/-- A field of a record: its name, and what a node does to the record. -/
structure RecordField (σ : Type) where
  name : Bytes
  set : Tree → Node → σ → Decode σ

/-- A field whose value is read and put into the record. -/
def field {σ α : Type} (name : String) (read : Tree → Node → Decode (Option α))
    (put : α → σ → σ) : RecordField σ where
  name := utf8 name
  set tree node record := do
    match ← read tree node with
    | some value => return put value record
    | none => return record

/-- The record with the keys that entries have given it already. -/
structure Layered (σ : Type) where
  record : σ
  /-- The keys that may not be given again, when entries are merged. -/
  given : Option (List KeyValue) := none

/-- Put the entries of one mapping, apart from what it merges, into a record. -/
def ownEntries {σ : Type} (typeName : String) (fields : List (RecordField σ)) (tree : Tree) :
    List (Node × Node) → List Bytes → Layered σ → Decode (Layered σ)
  | [], _, layered => return layered
  | (key, value) :: rest, done, layered => do
    if isMerge key then ownEntries typeName fields tree rest done layered
    else
      match ← text tree key with
      | none => ownEntries typeName fields tree rest done layered
      | some name =>
        if (layered.given.getD []).any (KeyValue.same (.text name)) then
          ownEntries typeName fields tree rest done layered
        else
          let layered := { layered with given := layered.given.map (.text name :: ·) }
          match fields.find? (·.name = name) with
          | none =>
            note (.unknownField key.info.line name (utf8 typeName))
            ownEntries typeName fields tree rest done layered
          | some field =>
            if done.contains name then
              note (.repeatedField key.info.line name (utf8 typeName))
              ownEntries typeName fields tree rest done layered
            else
              let record ← field.set tree value layered.record
              ownEntries typeName fields tree rest (name :: done) { layered with record }

/-- Put a mapping into a record, and then what it merges. The first argument bounds the depth of
merging. -/
def mappingLayers {σ : Type} (typeName : String) (fields : List (RecordField σ)) (tree : Tree) :
    Nat → List (Node × Node) → Layered σ → Decode (Bool × Layered σ)
  | 0, _, _ => throw .reference
  | bound + 1, entries, layered => do
    match repeatedKeys entries with
    | problem :: problems =>
      noteAll (problem :: problems)
      return (false, layered)
    | [] =>
      let own ← ownEntries typeName fields tree entries [] layered
      match merged? entries with
      | none => return (true, own)
      | some merged =>
        let given ← givenKeys tree entries own.given
        let all ← (mergeSources merged).foldlM (fun layered source =>
          visit tree source fun node =>
            match node with
            | .mapping _ _ entries => do
              return (← mappingLayers typeName fields tree bound entries layered).2
            | _ => throw .merge) { own with given := some given }
        return (true, { all with given := own.given.bind fun _ => all.given })

/-- Read a record over a start, from a mapping. -/
def record {σ : Type} (typeName : String) (fields : List (RecordField σ)) (start : σ) (tree : Tree)
    (node : Node) : Decode (Option σ) :=
  visit tree node fun node => do
    match node with
    | .mapping _ _ entries =>
      let (fits, layered) ←
        mappingLayers typeName fields tree (tree.size + 1) entries { record := start }
      return if fits then some layered.record else none
    | .scalar info _ value =>
      misfitScalar typeName node info value
      return none
    | _ =>
      misfit typeName node
      return none

/-- A field that is a record of its own, whose fields are kept with those around it. -/
def part {σ : Type} (name typeName : String) (fields : List (RecordField σ)) : RecordField σ where
  name := utf8 name
  set tree node start := do return (← record typeName fields start tree node).getD start

/--
The record that a document gives over a start; no document leaves the start as it is. The document
counts as one visit.
-/
def ofBytes {σ : Type} (read : Tree → Node → Decode (Option σ)) (start : σ) (bytes : Bytes) :
    Except ReadError σ :=
  match Tree.ofBytes bytes with
  | .error flaw => .error (.flawed flaw)
  | .ok none => .ok start
  | .ok (some tree) =>
    match StateT.run (do countVisit; read tree tree.root) {} with
    | .error flaw => .error (.flawed flaw)
    | .ok (value, progress) =>
      if progress.problems.isEmpty then .ok (value.getD start)
      else .error (.unfit progress.problems)

end Decode

end ContainerKernel.Document
