import TableAudit.Plan.Schema
import TableAudit.Schema.Fingerprint

/-! A cache of plans by the fingerprint of their schemas. Schemas that cannot be planned leave it as
it is. -/
namespace TableAudit

/-- A plan that a cache has made; two of one cache are the same if their numbers are. -/
structure SharedPlan where
  number : Nat
  plan : AuditPlan

structure PlanCache where
  source : LocaleSource
  made : Nat
  entries : Std.TreeMap String SharedPlan

namespace PlanCache

def empty (source : LocaleSource) : PlanCache := ⟨source, 0, ∅⟩

/-- The plan of a schema, which is made if the cache does not have it. -/
def get (c : PlanCache) (s : Schema) : Except PlanError SharedPlan × PlanCache :=
  match c.entries[s.fingerprint]? with
  | some shared => (.ok shared, c)
  | none =>
    match s.plan c.source with
    | .error e => (.error e, c)
    | .ok plan =>
      let shared := ⟨c.made, plan⟩
      (.ok shared,
        { c with made := c.made + 1, entries := c.entries.insert s.fingerprint shared })

def contains (c : PlanCache) (s : Schema) : Bool := c.entries.contains s.fingerprint

/-- Drops the plan of a schema and says whether there was one; a later one gets a number of its
own. -/
def invalidate (c : PlanCache) (s : Schema) : Bool × PlanCache :=
  (c.contains s, { c with entries := c.entries.erase s.fingerprint })

def clear (c : PlanCache) : PlanCache := { c with entries := ∅ }

def size (c : PlanCache) : Nat := c.entries.size

def isEmpty (c : PlanCache) : Bool := c.entries.isEmpty

end PlanCache
end TableAudit
