import Schemata.Backend
import Schemata.Provider.Flight
import Schemata.Text.Shown

/-!
# Binders

A binder looks at a driver once, settles which form of each capability it will use, and keeps every
value that is produced. Connection and options are shared by single flight, each in a cell of its own.
The tasks of both cells take turns on one queue, which runs while some caller has to wait: whoever
waits for the one value also lets the tasks that were left behind for the other one end.
The generator is the driver's own, or else the built-in one of the backend that the driver's name
denotes.
-/

namespace Schemata

/-- A driver as it is supplied: its declared name and what it offers. -/
structure Provider (γ ω : Type) where
  name : String
  connection : Factories γ
  options : Factories ω
  generator : Option Generator

/-- Why a bound driver has no value to give. -/
inductive ProviderError where
  | capabilityMissing (provider : String) (capability : CapabilityName)
  /-- No generator of its own, and a name that denotes no backend. -/
  | unrecognized (provider : String)
  | failed (provider : String) (capability : CapabilityName) (reason : String)
  | panicked (provider : String) (capability : CapabilityName)
deriving Repr, DecidableEq

namespace ProviderError

def message : ProviderError → String
  | capabilityMissing provider capability =>
    "provider `" ++ provider ++ "` exposes no `" ++ capability.text ++ "` capability"
  | unrecognized provider =>
    "provider `" ++ provider ++ "` has no DDL generator and matches no known backend"
  | failed provider capability reason =>
    "provider `" ++ provider ++ "` failed to produce `" ++ capability.text ++ "`: " ++ reason
  | panicked provider capability =>
    "provider `" ++ provider ++ "` failed to produce `" ++ capability.text ++ "`: task panicked"

end ProviderError

/-- What a bound driver exposes. -/
structure CapabilitySet where
  providerName : String
  connectionFactory : CapabilityKind
  optionsFactory : CapabilityKind
  ddlGenerator : Bool
deriving Repr, DecidableEq

namespace CapabilitySet

def describe (c : CapabilitySet) : String :=
  "CapabilitySet \x7b provider_name: " ++ Text.shown c.providerName
    ++ ", connection_factory: " ++ c.connectionFactory.name
    ++ ", options_factory: " ++ c.optionsFactory.name
    ++ ", ddl_generator: " ++ toString c.ddlGenerator ++ " \x7d"

end CapabilitySet

structure Binder (γ ω : Type) where
  name : String
  connectionCapability : Capability γ
  optionsCapability : Capability ω
  ownGenerator : Option Generator
  connection : Flight γ
  options : Flight ω
  /-- The generator, once it has been asked for with success. -/
  generator : Option Generator

namespace Binder

variable {γ ω : Type}

def bind (p : Provider γ ω) : Binder γ ω where
  name := p.name
  connectionCapability := Capability.detect p.connection
  optionsCapability := Capability.detect p.options
  ownGenerator := p.generator
  connection := Flight.start
  options := Flight.start
  generator := none

def capabilities (b : Binder γ ω) : CapabilitySet where
  providerName := b.name
  connectionFactory := b.connectionCapability.kind
  optionsFactory := b.optionsCapability.kind
  ddlGenerator := b.ownGenerator.isSome

/-- The binder as diagnostics show it. -/
def describe (b : Binder γ ω) : String :=
  "ProviderBinder \x7b capabilities: " ++ b.capabilities.describe
    ++ ", connection_ready: " ++ toString b.connection.value.isSome
    ++ ", options_ready: " ++ toString b.options.value.isSome ++ " \x7d"

/-- What a caller gets from the end of its task. -/
def resultOf {α : Type} (provider : String) (capability : CapabilityName) :
    Attempt α → Except ProviderError α
  | .value v => .ok v
  | .failed reason => .error (.failed provider capability reason)
  | .panicked => .error (.panicked provider capability)

/-- A request for a value of a capability; see `Flight.request`. -/
def resolve {α : Type} (provider : String) (name : CapabilityName) (capability : Capability α)
    (abandoned callers : Nat) (cell : Flight α) : List (Except ProviderError α) × Flight α :=
  match capability.factory? with
  | none => (List.replicate callers (.error (.capabilityMissing provider name)), cell)
  | some factory =>
    let (attempts, cell) := cell.request factory abandoned callers
    (attempts.map (resultOf provider name), cell)

/-- Lets the tasks that wait for a value of a capability take their turns. -/
def settle {α : Type} (capability : Capability α) (cell : Flight α) : Flight α :=
  match capability.factory? with
  | none => cell
  | some factory => cell.drain factory

/-- Whether so many callers of a cell include one that waits. A value that is there is had at once. -/
def waits {α : Type} (callers : Nat) (cell : Flight α) : Bool :=
  decide (0 < callers) && cell.value.isNone

/-- A request for the connection. -/
def requestConnection (b : Binder γ ω) (abandoned callers : Nat) :
    List (Except ProviderError γ) × Binder γ ω :=
  let (results, connection) :=
    resolve b.name .connectionFactory b.connectionCapability abandoned callers b.connection
  let options := if waits callers b.connection then settle b.optionsCapability b.options else b.options
  (results, { b with connection, options })

/-- A request for the connection options. -/
def requestOptions (b : Binder γ ω) (abandoned callers : Nat) :
    List (Except ProviderError ω) × Binder γ ω :=
  let (results, options) :=
    resolve b.name .optionsFactory b.optionsCapability abandoned callers b.options
  let connection :=
    if waits callers b.options then settle b.connectionCapability b.connection else b.connection
  (results, { b with connection, options })

/-- The generator that the binder settles on. -/
def chooseGenerator (b : Binder γ ω) : Except ProviderError Generator :=
  match b.ownGenerator with
  | some g => .ok g
  | none =>
    match Backend.ofProviderName? b.name with
    | some backend => .ok backend.generator
    | none => .error (.unrecognized b.name)

/-- The generator, which is kept once it has been chosen. -/
def ddlGenerator (b : Binder γ ω) : Except ProviderError Generator × Binder γ ω :=
  match b.generator with
  | some g => (.ok g, b)
  | none =>
    match b.chooseGenerator with
    | .ok g => (.ok g, { b with generator := some g })
    | .error e => (.error e, b)

/-- The invocations of the two forms of a capability. -/
def invocations {α : Type} (capability : Capability α) (cell : Flight α) : Nat × Nat :=
  match capability.kind with
  | .sync => (cell.invocations, 0)
  | .async => (0, cell.invocations)
  | .absent => (0, 0)

end Binder

end Schemata
