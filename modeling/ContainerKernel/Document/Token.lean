import ContainerKernel.Document.Mark

/-!
# Tokens and comments

The characters of a document are cut into tokens. Collections that are shown by indentation have
tokens of their own where they start and end, although no character stands for them. Comments are
no tokens: each is kept beside them with the place of the token that it belongs to.
-/

namespace ContainerKernel.Document

/-- What kind of collection a node is where values of every kind may stand. -/
inductive CollectionKind where
  | sequence
  /-- A mapping all of whose keys are texts. -/
  | textMapping
  /-- A mapping with other keys. -/
  | mapping
deriving DecidableEq, Repr, Inhabited

/--
The end of a reading that cannot go on: keys are to be told apart, and one of them is a
collection.
-/
structure Breakdown where
  key : CollectionKind
deriving DecidableEq, Repr, Inhabited

/-- The text of a breakdown. -/
def Breakdown.message (breakdown : Breakdown) : Bytes :=
  utf8 "runtime error: hash of unhashable type " ++
    match breakdown.key with
    | .sequence => utf8 "[]interface \x7b\x7d"
    | .textMapping => utf8 "map[string]interface \x7b\x7d"
    | .mapping => utf8 "map[interface \x7b\x7d]interface \x7b\x7d"

/-- Why a document cannot be read at all. -/
inductive Flaw where
  /-- Bytes of no character, or a character that documents may not hold. -/
  | unreadable
  /-- Characters that make no token at their place. -/
  | token
  /-- Tokens that make no document in their order. -/
  | arrangement
  /-- An alias of an anchor that is not there, or of one that contains it. -/
  | reference
  /-- A scalar that is not what its tag says. -/
  | scalar
  /-- A merge of something other than mappings. -/
  | merge
  /-- A collection as a key of a mapping that is itself part of a key. -/
  | key
  /-- A collection as a key where keys have to be told apart. -/
  | breakdown (cause : Breakdown)
  /-- Aliases that make much more of a document than stands in it. -/
  | expansion
deriving DecidableEq, Repr, Inhabited

/-- How a scalar is written. -/
inductive ScalarStyle where
  | plain
  | singleQuoted
  | doubleQuoted
  | literal
  | folded
deriving DecidableEq, Repr, Inhabited

/-- What a token is. -/
inductive TokenKind where
  | streamEnd
  | versionDirective (major minor : Nat)
  | tagDirective (handle : List Char) (start : Bytes)
  | documentStart
  | documentEnd
  | blockSequenceStart
  | blockMappingStart
  | blockEnd
  | flowSequenceStart
  | flowSequenceEnd
  | flowMappingStart
  | flowMappingEnd
  | blockEntry
  | flowEntry
  | key
  | value
  | reference (name : List Char)
  | anchor (name : List Char)
  | tag (handle : List Char) (suffix : Bytes)
  | scalar (value : List Char) (style : ScalarStyle)
deriving DecidableEq, Repr, Inhabited

/-- A token and where it starts. -/
structure Token where
  kind : TokenKind
  start : Mark
deriving DecidableEq, Repr, Inhabited

/-- Which side of a token a comment stands on. -/
inductive CommentSide where
  /-- On lines before it. -/
  | head
  /-- Behind it on its line. -/
  | line
  /-- On lines after it. -/
  | foot
deriving DecidableEq, Repr, Inhabited

/-- A comment of one line or of several. -/
structure Comment where
  side : CommentSide
  text : List Char
  /-- The comment belongs to the first token that does not start before this index. -/
  target : Nat
  /-- Where the search that found the comment began. -/
  searchIndex : Nat := 0
  /-- The place of the first comment sign, its column counted from one. -/
  start : Mark
  /-- The index where the comment ends. -/
  endIndex : Nat := 0
deriving DecidableEq, Repr, Inhabited

end ContainerKernel.Document
