import ContainerKernel.Metrics

/-!
# The registry's view of the counters

A registry presents each counter as a family: a name, a line of help and samples. The families
stand in the order of their names. The family of fault counts has one sample for each class that
has occurred and is missing while none has.
-/

namespace ContainerKernel

/-- One reading with its labels. -/
structure Sample where
  labels : List (String × Bytes)
  value : Nat
deriving Repr, Inhabited

/-- A counter as a registry presents it. -/
structure Family where
  name : String
  help : String
  samples : List Sample
deriving Repr, Inhabited

namespace Metrics

/-- A family of one counter without labels. -/
def single (name help : String) (counter : Counter) : Family :=
  ⟨name, help, [⟨[], counter.reading⟩]⟩

/-- The family of fault counts. -/
def faultFamily (metrics : Metrics) : List Family :=
  if metrics.faults.isEmpty then []
  else [⟨"able_kernel_faults_total", "Total number of container misuse faults by kind.",
    metrics.faultCounts.map fun (name, count) => ⟨[("kind", name)], count⟩⟩]

/-- All families in the order of their names. -/
def families (metrics : Metrics) : List Family :=
  metrics.faultFamily ++ [
    single "able_kernel_list_appends_total"
      "Total number of items appended to dynamic lists." metrics.listAppends,
    single "able_kernel_list_reallocations_total"
      "Total number of dynamic list buffer reallocations." metrics.listReallocations,
    single "able_kernel_list_slots_allocated_total"
      "Total number of list slots allocated across all reallocations." metrics.listSlots,
    single "able_kernel_string_allocations_total"
      "Total number of byte strings allocated." metrics.stringAllocations,
    single "able_kernel_string_bytes_allocated_total"
      "Total number of bytes allocated for byte strings." metrics.stringBytes]

end Metrics

end ContainerKernel
