import BufferTelemetry.Registry.Service

/-!
# The registry of plugins

A registry has room for a fixed number of plugins, which are kept in the order
in which they were registered and never removed. A feature is looked up for a
set of silicon families: the first service that is made for all families of the
set wins, and where there is none the first that is a generic fallback.
-/

namespace BufferTelemetry

/-- The number of plugins for which a registry has room by default. -/
def defaultCapacity : Nat := 8

/-- A registry of plugins. -/
structure Registry (ω : Type) where
  capacity : Nat
  /-- The plugins in the order of their registration. -/
  plugins : List (Plugin ω)

namespace Registry

variable {ω : Type}

/-- A registry without plugins. -/
def empty (ω : Type) (capacity : Nat) : Registry ω where
  capacity := capacity
  plugins := []

/-- Fails if a feature of a plugin of the given name reports too many ASICs. -/
def checkOffer (name : String) (offer : Offer ω) : Except Error Unit :=
  match offer.service with
  | .system s =>
    if s.asics.length > maxAsics then
      .error (.invalidParameter
        s!"plugin {name} reports {s.asics.length} ASICs, at most {maxAsics} allowed")
    else .ok ()
  | .bst _ => .ok ()

/-- Fails if a plugin cannot be part of any registry. -/
def check (p : Plugin ω) : Except Error Unit := do
  if p.offers.length > maxFeaturesPerPlugin then
    throw (.invalidParameter
      s!"plugin {p.name} has {p.offers.length} features, at most {maxFeaturesPerPlugin} allowed")
  p.offers.forM (checkOffer p.name)

/-- Adds a plugin, and answers its place. -/
def register (r : Registry ω) (p : Plugin ω) : Except Error (Nat × Registry ω) := do
  check p
  if r.plugins.length < r.capacity then
    return (r.plugins.length, { r with plugins := r.plugins ++ [p] })
  else
    throw (.tableFull "plugin registry")

/-- The names of the plugins in their order. -/
def pluginNames (r : Registry ω) : List String := r.plugins.map (·.name)

/-- Every feature offered, in the order of the plugins. -/
def offers (r : Registry ω) : List (Offer ω) := r.plugins.flatMap (·.offers)

/-- The service for the given families among the offers, if the fallback is the first
generic one before them. -/
def choose (families : AsicType) (fallback : Option (Service ω)) :
    List (Offer ω) → Option (Service ω)
  | [] => fallback
  | offer :: rest =>
    if offer.families.isAll then choose families (fallback <|> some offer.service) rest
    else if offer.families.contains families then some offer.service
    else choose families fallback rest

/-- Looks a feature up for a set of families. -/
def resolve (r : Registry ω) (families : AsicType) (feature : FeatureId) :
    Except Error (Service ω) :=
  if families.isEmpty then
    .error (.invalidParameter s!"{feature.name} lookup with an empty ASIC type")
  else
    let offers := r.offers.filter fun offer => offer.service.feature = feature
    match choose families none offers with
    | some service => .ok service
    | none => .error (.notFound s!"{feature.name} feature for ASIC type {families.toString}")

/-- The text that shows a service in a message. -/
def serviceText (s : Service ω) : String := s!"FeatureTable({s.feature.name})"

/-- Looks up the service that tracks buffer statistics. -/
def bstService (r : Registry ω) (families : AsicType) : Except Error (BstService ω) := do
  match ← r.resolve families .bst with
  | .bst b => return b
  | other => throw (.failure s!"BST lookup resolved to {serviceText other}")

/-- Looks up the service that describes the platform. -/
def systemService (r : Registry ω) (families : AsicType) : Except Error SystemService := do
  match ← r.resolve families .system with
  | .system s => return s
  | other => throw (.failure s!"System lookup resolved to {serviceText other}")

/-- The capabilities of an ASIC of the given type. -/
def asicCapabilities (r : Registry ω) (asicType : AsicType) : Except Error Capabilities := do
  let s ← r.systemService asicType
  match s.asics.find? (·.asicType = asicType) with
  | some asic => return asic.capabilities
  | none => throw (.notFound s!"capabilities of ASIC type {asicType.toString}")

end Registry

end BufferTelemetry
