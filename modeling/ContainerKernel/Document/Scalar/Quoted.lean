import ContainerKernel.Document.Scalar.Fold

/-!
# Quoted scalars

Between single quotes a quote is written twice and nothing else is special. Between double quotes
a backslash starts an escape, which may also swallow a line end. In both, lines are folded.
-/

namespace ContainerKernel.Document.QuotedScalar

/-- The value of a hexadecimal digit. -/
def hexValue? (digit : Char) : Option Nat :=
  if '0' ≤ digit && digit ≤ '9' then some (digit.toNat - 48)
  else if 'a' ≤ digit && digit ≤ 'f' then some (digit.toNat - 87)
  else if 'A' ≤ digit && digit ≤ 'F' then some (digit.toNat - 55)
  else none

/-- The number that hexadecimal digits write. -/
def hexNumber? (digits : List Char) : Option Nat :=
  digits.foldl (fun number digit => do return (← number) * 16 + (← hexValue? digit)) (some 0)

/-- The character that a letter after a backslash stands for. -/
def simpleEscape? : Char → Option Char
  | '0' => some (Char.ofNat 0)
  | 'a' => some (Char.ofNat 7)
  | 'b' => some (Char.ofNat 8)
  | 't' => some '\t'
  | '\t' => some '\t'
  | 'n' => some '\n'
  | 'v' => some (Char.ofNat 11)
  | 'f' => some (Char.ofNat 12)
  | 'r' => some '\r'
  | 'e' => some (Char.ofNat 27)
  | ' ' => some ' '
  | '"' => some '"'
  | '\'' => some '\''
  | '\\' => some '\\'
  | 'N' => some (Char.ofNat 0x85)
  | '_' => some (Char.ofNat 0xA0)
  | 'L' => some (Char.ofNat 0x2028)
  | 'P' => some (Char.ofNat 0x2029)
  | _ => none

/-- The number of digits that a letter after a backslash announces. -/
def escapeDigits? : Char → Option Nat
  | 'x' => some 2
  | 'u' => some 4
  | 'U' => some 8
  | _ => none

/-- The character after a backslash, with the number of characters that write it. -/
def escape? : List Char → Option (Char × Nat)
  | [] => none
  | letter :: rest =>
    match simpleEscape? letter with
    | some value => some (value, 1)
    | none => do
      let count ← escapeDigits? letter
      let digits := rest.take count
      let number ← hexNumber? digits
      if digits.length = count && number.isValidChar then
        some (Char.ofNat number, count + 1)
      else none

/-- What ends a run of characters inside quotes. -/
inductive RunEnd where
  /-- The closing quote. -/
  | quote
  /-- A blank or a line end. -/
  | blank
  /-- A line end that a backslash swallows. -/
  | swallowedBreak
deriving DecidableEq, Repr, Inhabited

/-- Put a character before those of a run. -/
def onto (value : Char) : List Char × RunEnd × Cursor → List Char × RunEnd × Cursor
  | (text, runEnd, cursor) => (value :: text, runEnd, cursor)

/--
Read the characters up to a blank or the closing quote. The first argument bounds their number.
-/
def readRun (single : Bool) : Nat → Cursor → Except Flaw (List Char × RunEnd × Cursor)
  | 0, cursor => .ok ([], .blank, cursor)
  | bound + 1, cursor =>
    match cursor.rest with
    | [] => .ok ([], .blank, cursor)
    | value :: rest =>
      if isSpaceOrTab value || isBreak value then .ok ([], .blank, cursor)
      else if single then
        if value = '\'' then
          if rest.head? = some '\'' then
            (readRun single bound (cursor.skip.skip.ask 2)).map (onto '\'')
          else .ok ([], .quote, cursor)
        else (readRun single bound (cursor.skip.ask 2)).map (onto value)
      else if value = '"' then .ok ([], .quote, cursor)
      else if value = '\\' then
        if startsWith isBreak rest then .ok ([], .swallowedBreak, cursor.skip.skipBreak.ask 1)
        else
          match escape? rest with
          | none => .error .token
          | some (escaped, width) =>
            (readRun single bound ((Cursor.skipMany (width + 1) cursor).ask 2)).map (onto escaped)
      else (readRun single bound (cursor.skip.ask 2)).map (onto value)

/--
Read on up to the closing quote. The first argument bounds the number of characters, and the third
that of runs.
-/
def readWords (size : Nat) (single : Bool) : Nat → Cursor → Except Flaw (List Char × Cursor)
  | 0, _ => .error .token
  | bound + 1, start =>
    let cursor := start.ask Cursor.markerAhead
    if cursor.rest.isEmpty || (cursor.column = 0 && atDocumentMarker cursor.rest) then
      .error .token
    else
      match readRun single size cursor with
      | .error flaw => .error flaw
      | .ok (text, .quote, after) => .ok (text, after.skip)
      | .ok (text, runEnd, after) =>
        if after.rest.head? = some (if single then '\'' else '"') then .ok (text, after.skip)
        else
          match Gap.take 0 size { broken := runEnd = .swallowedBreak } after with
          | .error flaw => .error flaw
          | .ok (gap, following) =>
            (readWords size single bound following).map fun (more, last) =>
              (text ++ gap.text ++ more, last)

/-- Read a quoted scalar from its opening quote on: its text, and the cursor behind it. -/
def read (single : Bool) (cursor : Cursor) : Except Flaw (List Char × Cursor) :=
  let size := cursor.rest.length
  readWords size single (size + 1) cursor.skip

end ContainerKernel.Document.QuotedScalar
