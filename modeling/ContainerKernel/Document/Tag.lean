import ContainerKernel.Text.Bytes

/-!
# Tags

A tag says what a node is. The tags of the standard types are written with two exclamation marks;
they abbreviate a longer text, which means the same. The text of a tag may hold any bytes.
-/

namespace ContainerKernel.Document

/-- What a node is. -/
inductive Tag where
  | null
  | bool
  | int
  | float
  | timestamp
  | binary
  | str
  | seq
  | map
  | merge
  | other (text : Bytes)
deriving DecidableEq, Repr, Inhabited

namespace Tag

/-- The text that two exclamation marks abbreviate. -/
def standardStart : Bytes :=
  utf8 "tag:yaml.org,2002:"

/-- The tag that says nothing: an exclamation mark alone. -/
def lone : Bytes :=
  utf8 "!"

/-- The text of a tag, the standard ones abbreviated. -/
def text : Tag → Bytes
  | null => utf8 "!!null"
  | bool => utf8 "!!bool"
  | int => utf8 "!!int"
  | float => utf8 "!!float"
  | timestamp => utf8 "!!timestamp"
  | binary => utf8 "!!binary"
  | str => utf8 "!!str"
  | seq => utf8 "!!seq"
  | map => utf8 "!!map"
  | merge => utf8 "!!merge"
  | other text => text

/-- The tags that have names of their own. -/
def named : List Tag :=
  [null, bool, int, float, timestamp, binary, str, seq, map, merge]

/-- A text with the long start of the standard tags abbreviated. -/
def abbreviate (text : Bytes) : Bytes :=
  if standardStart.isPrefixOf text then utf8 "!!" ++ text.drop standardStart.length else text

/-- The tag of a text, which may be abbreviated or not. -/
def ofText (written : Bytes) : Tag :=
  let short := abbreviate written
  (named.find? fun tag => tag.text = short).getD (other short)

end Tag

end ContainerKernel.Document
