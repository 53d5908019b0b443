import ContainerKernel.Document.Node.Compose
import ContainerKernel.Number.Decimal
import ContainerKernel.Text.Base64
import ContainerKernel.Text.Quoted

/-!
# Reading values from a document

A node of a document is read as a value of a wanted kind: a text, a number, a truth value or a
sequence. Reading is strict: a value that does not fit and a key that stands twice are problems.
All problems of a document are collected in the order in which they are found. Null gives no
value.

An alias is read as the node that it names, each time anew. So that a short document cannot ask
for endless work, the visits to nodes are counted, and too great a share of visits under aliases
is a flaw.
-/

namespace ContainerKernel.Document

/-- Something in a document that does not fit. -/
inductive Problem where
  /-- A value that does not fit its place; a scalar is quoted. -/
  | mismatch (line : Nat) (tag : Tag) (value : Bytes) (wanted : Bytes)
  /-- A key that names no field of the record. -/
  | unknownField (line : Nat) (field : Bytes) (record : Bytes)
  /-- A field that is given twice. -/
  | repeatedField (line : Nat) (field : Bytes) (record : Bytes)
  /-- A key that stands twice in a mapping. -/
  | repeatedKey (line : Nat) (key : Bytes) (firstLine : Nat)
deriving DecidableEq, Repr, Inhabited

namespace Problem

/-- A value as problems quote it: at most ten bytes, or else the first seven. -/
def excerpt (value : Bytes) : Bytes :=
  if value.length > 10 then utf8 " `" ++ value.take 7 ++ utf8 "...`"
  else utf8 " `" ++ value ++ utf8 "`"

/-- The text of a problem. -/
def message : Problem → Bytes
  | mismatch line tag value wanted =>
    utf8 "line " ++ naturalDecimal line ++ utf8 ": cannot unmarshal " ++ tag.text
      ++ (if tag = .seq ∨ tag = .map then value else excerpt value) ++ utf8 " into " ++ wanted
  | unknownField line field record =>
    utf8 "line " ++ naturalDecimal line ++ utf8 ": field " ++ field ++ utf8 " not found in type "
      ++ record
  | repeatedField line field record =>
    utf8 "line " ++ naturalDecimal line ++ utf8 ": field " ++ field
      ++ utf8 " already set in type " ++ record
  | repeatedKey line key firstLine =>
    utf8 "line " ++ naturalDecimal line ++ utf8 ": mapping key " ++ quoted key
      ++ utf8 " already defined at line " ++ naturalDecimal firstLine

end Problem

/-- Why a document gives no record. -/
inductive ReadError where
  /-- The document itself cannot be read. -/
  | flawed (flaw : Flaw)
  /-- The document does not fit the record. -/
  | unfit (problems : List Problem)
deriving DecidableEq, Repr, Inhabited

/--
The text of a reading error. What is wrong with a flawed document is not said, unless reading it
has broken down.
-/
def ReadError.message : ReadError → Bytes
  | flawed (.breakdown cause) => cause.message
  | flawed _ => utf8 "yaml: <syntax>"
  | unfit problems =>
    utf8 "yaml: unmarshal errors:"
      ++ problems.flatMap fun problem => utf8 "\n  " ++ problem.message

/-- The breakdown that an error is, if it is one. -/
def ReadError.breakdown? : ReadError → Option Breakdown
  | flawed (.breakdown cause) => some cause
  | _ => none

/-- What a reading has found and done so far. -/
structure ReadProgress where
  problems : List Problem := []
  /-- The number of visits to nodes. -/
  visits : Nat := 0
  /-- The number of visits under an alias. -/
  aliasVisits : Nat := 0
  /-- The aliases that are being followed, by their indices in the text, the innermost first. -/
  followed : List Nat := []
deriving DecidableEq, Repr, Inhabited

/-- A reading, which collects problems and may find a flaw. -/
abbrev Decode := StateT ReadProgress (Except Flaw)

namespace Decode

/-- Note problems. -/
def noteAll (problems : List Problem) : Decode Unit :=
  modify fun progress => { progress with problems := progress.problems ++ problems }

/-- Note a problem. -/
def note (problem : Problem) : Decode Unit :=
  noteAll [problem]

/-! ## Visits -/

/-- The numbers of visits between which the share of visits under aliases is narrowed. -/
def narrowFrom : Nat := 400000

/-- The number of visits from which on the share is narrow. -/
def narrowAt : Nat := 4000000

/--
Whether too many visits are under aliases. A few are always fine. Otherwise their share may be 99
of a hundred up to the first bound, 10 of a hundred from the second on, and goes down evenly in
between.
-/
def excessive (visits aliasVisits : Nat) : Bool :=
  let width := narrowAt - narrowFrom
  aliasVisits > 100 && visits > 1000 &&
    if visits ≤ narrowFrom then 100 * aliasVisits > 99 * visits
    else if visits ≥ narrowAt then 10 * aliasVisits > visits
    else 100 * width * aliasVisits + 89 * (visits - narrowFrom) * visits > 99 * width * visits

/-- Count a visit. -/
def countVisit : Decode Unit := do
  let progress ← get
  let visits := progress.visits + 1
  let aliasVisits := progress.aliasVisits + if progress.followed.isEmpty then 0 else 1
  if excessive visits aliasVisits then throw .expansion
  set { progress with visits, aliasVisits }

/--
Visit a node. An alias leads on to the node that it names; one that is met again while it is being
followed is a flaw.
-/
def visit {α : Type} (tree : Tree) (node : Node) (read : Node → Decode α) : Decode α := do
  countVisit
  match node with
  | .reference _ _ index _ =>
    let followed := (← get).followed
    if followed.contains index then throw .reference
    modify fun progress => { progress with followed := index :: followed }
    countVisit
    let result ← read (tree.resolve node)
    modify fun progress => { progress with followed }
    return result
  | _ => read node

/-- The text of a node; only scalars have one. -/
def textOf : Node → List Char
  | .scalar _ _ value => value
  | .reference _ name _ _ => name
  | _ => []

/-- Note that a node does not fit. -/
def misfit (wanted : String) (node : Node) : Decode Unit :=
  note (.mismatch node.info.line node.info.tag (encodeChars (textOf node)) (utf8 wanted))

/-! ## Keys that stand twice -/

/-- Whether two keys are of the same form. -/
def sameForm : Node → Node → Bool
  | .scalar .., .scalar .. => true
  | .sequence .., .sequence .. => true
  | .mapping .., .mapping .. => true
  | .reference .., .reference .. => true
  | _, _ => false

/-- The problems of keys that stand twice, by pairs. -/
def repeatedKeys : List (Node × Node) → List Problem
  | [] => []
  | (key, _) :: rest =>
    (rest.filterMap fun (later, _) =>
      if sameForm key later && textOf key = textOf later then
        some (.repeatedKey later.info.line (encodeChars (textOf later)) key.info.line)
      else none) ++ repeatedKeys rest

/-! ## Scalars -/

/-- What a scalar means and the bytes that it stands for; it has to look like its tag. -/
def meaningOf (info : NodeInfo) (value : List Char) : Decode (Meaning × Bytes) :=
  if info.tag = .binary then
    match Base64.decode? value with
    | some bytes => return (.text, bytes)
    | none => throw .scalar
  else
    match Meaning.ofTagged? info.tag value with
    | some meaning => return (meaning, encodeChars value)
    | none => throw .scalar

/-- What does not fit a scalar: a collection, which may also have keys that stand twice. -/
def misfitCollection (wanted : String) (node : Node) : Decode Unit :=
  match node with
  | .mapping _ _ entries =>
    match repeatedKeys entries with
    | [] => misfit wanted node
    | problems => noteAll problems
  | _ => misfit wanted node

/-- Note that a scalar does not fit, unless it is null. -/
def misfitScalar (wanted : String) (node : Node) (info : NodeInfo) (value : List Char) :
    Decode Unit := do
  let (meaning, _) ← meaningOf info value
  if meaning ≠ .null then misfit wanted node

/-- Read a scalar that is not null. -/
def scalar {α : Type} (wanted : String) (fit : Meaning → Bytes → Option α) (tree : Tree)
    (node : Node) : Decode (Option α) :=
  visit tree node fun node => do
    match node with
    | .scalar info _ value =>
      let (meaning, bytes) ← meaningOf info value
      if meaning = .null then return none
      match fit meaning bytes with
      | some fitting => return some fitting
      | none =>
        misfit wanted node
        return none
    | _ =>
      misfitCollection wanted node
      return none

/-- Read a text: whatever a scalar means, its source counts. `wanted` names it in problems. -/
def namedText (wanted : String) : Tree → Node → Decode (Option Bytes) :=
  scalar wanted fun _ bytes => some bytes

/-- Read a text that has no name of its own. -/
def text : Tree → Node → Decode (Option Bytes) :=
  namedText "string"

/--
The signed word of a number: the part before the point. Numbers below every word, and the one
just above, become the smallest word; all greater numbers have none.
-/
def wordOfReal? : Real → Option Int
  | .nan => none
  | .infinite negative => if negative then some Word.smallest else none
  | .finite negative magnitude =>
    let whole : Int := if negative then -(magnitude.floor : Int) else magnitude.floor
    if whole > Word.largest + 1 then none else some (wordOfDouble whole)

/-- Read a signed word; `wanted` names it in problems. -/
def word (wanted : String) : Tree → Node → Decode (Option Int) :=
  scalar wanted fun meaning _ =>
    match meaning with
    | .integer value => if Word.holds value then some value else none
    | .real value => wordOfReal? value
    | _ => none

/-- Read a truth value; where one is wanted, some more words mean one. -/
def truth : Tree → Node → Decode (Option Bool) :=
  scalar "bool" fun meaning bytes =>
    match meaning with
    | .bool value => some value
    | .text =>
      if (Meaning.trueWords.map encodeChars).contains bytes then some true
      else if (Meaning.falseWords.map encodeChars).contains bytes then some false
      else none
    | _ => none

/-! ## Sequences -/

/-- Read a sequence; members that give nothing are dropped. -/
def sequence {α : Type} (wanted : String) (item : Tree → Node → Decode (Option α)) (tree : Tree)
    (node : Node) : Decode (Option (List α)) :=
  visit tree node fun node => do
    match node with
    | .sequence _ _ items => return some ((← items.mapM (item tree)).filterMap id)
    | .scalar info _ value =>
      misfitScalar wanted node info value
      return none
    | _ =>
      misfitCollection wanted node
      return none

end Decode

end ContainerKernel.Document
