import MessageRouting.Failure
import MessageRouting.Table

/-!
# Registries

A registry holds things of one sort by their names, each name once.
-/

namespace MessageRouting

/-- Named things of one sort. -/
structure Registry (α : Type) where
  /-- What the things are called in faults. -/
  sort : String
  /-- The things by their names. -/
  items : Table α := []

namespace Registry

variable {α : Type}

/-- Registers a thing under a name that is not taken. -/
def register (registry : Registry α) (name : String) (item : α) : Except Fault (Registry α) :=
  if registry.items.has name then .error (.duplicateRegistration registry.sort name)
  else .ok { registry with items := registry.items.insert name item }

/-- The thing of a name. -/
def get? (registry : Registry α) (name : String) : Option α := registry.items.find? name

/-- The name is taken. -/
def contains (registry : Registry α) (name : String) : Bool := registry.items.has name

/-- The names in ascending order. -/
def names (registry : Registry α) : List String := registry.items.names

/-- How many things there are. -/
def size (registry : Registry α) : Nat := registry.items.length

/-- The registry without any things. -/
def clear (registry : Registry α) : Registry α := { registry with items := [] }

/-! ## Laws -/

/-- Exactly under a free name a thing is registered. -/
theorem register_eq_ok_iff {registry after : Registry α} {name : String} {item : α} :
    registry.register name item = .ok after ↔
      registry.contains name = false ∧
        after = { registry with items := registry.items.insert name item } := by
  unfold register contains
  cases registry.items.has name <;> simp [eq_comm]

/-- A registration adds the one thing and keeps all others. -/
theorem get?_of_register {registry after : Registry α} {name : String} {item : α}
    (registered : registry.register name item = .ok after) (other : String) :
    after.get? other = if other = name then some item else registry.get? other := by
  obtain ⟨-, rfl⟩ := register_eq_ok_iff.1 registered
  exact Table.find?_insert name other item registry.items

@[simp] theorem get?_clear (registry : Registry α) (name : String) : registry.clear.get? name = none := rfl

end Registry

end MessageRouting
