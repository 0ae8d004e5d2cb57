/-!
# Capabilities

A driver may offer a way to produce a value in two forms: one that answers at once and one that is
waited for. Of the two the first is used; a driver that offers neither lacks the capability. What a
factory answers may differ from one invocation to the next, so a factory is a function of the number of
invocations before.
-/

namespace Schemata

/-- How one invocation of a factory ends. -/
inductive Attempt (α : Type) where
  | value (value : α)
  | failed (reason : String)
  | panicked
deriving Repr, DecidableEq

/-- The end of each invocation, counted from zero. -/
abbrev Factory (α : Type) := Nat → Attempt α

/-- The forms in which a driver offers a capability. -/
structure Factories (α : Type) where
  sync : Option (Factory α)
  async : Option (Factory α)

/-- Neither form. -/
def Factories.none {α : Type} : Factories α :=
  ⟨.none, .none⟩

inductive CapabilityKind where
  | sync
  | async
  | absent
deriving Repr, DecidableEq

def CapabilityKind.name : CapabilityKind → String
  | sync => "Sync"
  | async => "Async"
  | absent => "Absent"

/-- What a driver may be able to provide. -/
inductive CapabilityName where
  | connectionFactory
  | optionsFactory
  | ddlGenerator
deriving Repr, DecidableEq

namespace CapabilityName

def all : List CapabilityName :=
  [connectionFactory, optionsFactory, ddlGenerator]

def text : CapabilityName → String
  | connectionFactory => "connectionFactory"
  | optionsFactory => "optionsFactory"
  | ddlGenerator => "ddlGenerator"

end CapabilityName

/-- The form of a capability that is used. -/
inductive Capability (α : Type) where
  | sync (factory : Factory α)
  | async (factory : Factory α)
  | absent

namespace Capability

/-- Of the forms that are offered, the one that is used. -/
def detect {α : Type} (f : Factories α) : Capability α :=
  match f.sync, f.async with
  | some factory, _ => sync factory
  | none, some factory => async factory
  | none, none => absent

def kind {α : Type} : Capability α → CapabilityKind
  | sync _ => .sync
  | async _ => .async
  | absent => .absent

def factory? {α : Type} : Capability α → Option (Factory α)
  | sync factory => some factory
  | async factory => some factory
  | absent => none

/-- The capability as diagnostics show it. -/
def describe {α : Type} (c : Capability α) : String :=
  "Capability::" ++ c.kind.name

end Capability

end Schemata
