import ContainerKernel.Number.Decimal
import ContainerKernel.Number.Word
import ContainerKernel.Text.Quoted

/-!
# Growth policies

How many slots a full list gets when it has to grow. Doubling starts from one slot and doubles,
but never beyond the limit on the length; every other policy gives exactly the slots needed. The
reckoning is in signed 64-bit words, where a doubled capacity may wrap around to a negative
number: then the slots needed decide.
-/

namespace ContainerKernel

/-- A growth policy: the two that have names, and codes that name none. -/
inductive Growth where
  | doubling
  | exact
  | unnamed (code : Int)
deriving DecidableEq, Repr, Inhabited

namespace Growth

/-- The policy with the given code. -/
def ofCode (code : Int) : Growth :=
  if code = 0 then doubling else if code = 1 then exact else unnamed code

/-- The code of a policy. -/
def code : Growth → Int
  | doubling => 0
  | exact => 1
  | unnamed code => code

/-- The name of a policy in settings. -/
def name : Growth → Bytes
  | doubling => utf8 "doubling"
  | exact => utf8 "exact"
  | unnamed code => utf8 "growth(" ++ decimal code ++ utf8 ")"

/-- The policy of a name; the empty name is the default, doubling. -/
def ofName? (name : Bytes) : Option Growth :=
  if name = [] ∨ name = utf8 "doubling" then some doubling
  else if name = utf8 "exact" then some exact
  else none

/--
The capacity after growing from `capacity` so that `needed` slots are there, under a limit on the
length. Only doubling looks at the limit, because only doubling can overshoot it.
-/
def nextCapacity (growth : Growth) (limit capacity needed : Int) : Int :=
  match growth with
  | doubling =>
    let doubled := Word.wrap (capacity * 2)
    let enough := if doubled < needed then needed else doubled
    if enough > limit ∨ enough < 0 then limit else enough
  | _ => needed

end Growth

/-- The message about a name that no growth policy has. -/
def unknownGrowthMessage (name : Bytes) : Bytes :=
  utf8 "unknown list growth policy " ++ quoted name

end ContainerKernel
