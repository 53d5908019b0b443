import ContainerKernel.Metrics
import ContainerKernel.Number.ByteAmount

/-!
# The printed summary of the counters

Four counts with their digits in groups of three, and the bytes of all strings as an amount with
a unit. The readings are doubles, and the printed numbers are the words that those make.
-/

namespace ContainerKernel

/-- A count as the summary writes it. -/
def summaryCount (reading : Int) : Bytes :=
  groupedDecimal (wordOfDouble (doubleInt reading))

/--
The unsigned word of a reading. A negative reading has the word with the same bits, and one too
large for a signed word keeps its value as long as an unsigned word holds it.
-/
def unsignedWord (reading : Int) : Nat :=
  let value := doubleInt reading
  if 0 ≤ value ∧ value < Word.range then value.toNat
  else if value < 0 then (wordOfDouble value % Word.range).toNat
  else 9223372036854775808

/-- The lines of the summary. -/
def Snapshot.summary (snapshot : Snapshot) : Bytes :=
  utf8 "list appends:        " ++ summaryCount snapshot.listAppends ++ utf8 "\n"
    ++ utf8 "list reallocations:  " ++ summaryCount snapshot.listReallocations ++ utf8 "\n"
    ++ utf8 "list slots:          " ++ summaryCount snapshot.listSlots ++ utf8 "\n"
    ++ utf8 "string allocations:  " ++ summaryCount snapshot.stringAllocations ++ utf8 "\n"
    ++ utf8 "string bytes:        " ++ byteAmount (unsignedWord snapshot.stringBytes) ++ utf8 "\n"

end ContainerKernel
