import PlanQuota.Engine

/-! A remote side in memory. It answers one catalog to every question and keeps what was set. -/
namespace PlanQuota

structure Memory where
  catalog : Catalog
  /-- What every read fails with, if it does. -/
  readFault : Option Failure
  /-- What every set fails with, if it does. -/
  setFault : Option Failure
  deriving Repr

namespace Memory

def new (catalog : Catalog) : Memory := ⟨catalog, none, none⟩

def faultOr {α : Type} (a : α) : Option Failure → Except Failure α
  | some failure => .error failure
  | none => .ok a

/-- Setting a plan leaves the catalog as it is. -/
def remote : Remote Memory where
  read _ _ m := ⟨faultOr m.catalog m.readFault, [], m⟩
  set _ m := ⟨faultOr () m.setFault, [], m⟩

end Memory
end PlanQuota
