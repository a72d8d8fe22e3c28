import QueryGate.Registry.Builder
/-!
A builder at work. Each step exposes a property or builds a registry from what is exposed so far. A step that
is refused changes nothing, and the registries that were built are kept in the order in which they were built.
-/

namespace QueryGate

inductive BuildStep where
  | expose (exposure : Exposure)
  | build

structure Workshop where
  builder : Builder
  built : List Registry

namespace Workshop

def start (entity : String) (identityField : Value) : Workshop := ⟨Builder.start entity identityField, []⟩

def step (shop : Workshop) : BuildStep → Workshop × Except RegistryError Unit
  | .expose exposure => match shop.builder.expose exposure with
    | .ok builder => ({ shop with builder := builder }, .ok ())
    | .error problem => (shop, .error problem)
  | .build => match shop.builder.build with
    | .ok registry => ({ shop with built := shop.built ++ [registry] }, .ok ())
    | .error problem => (shop, .error problem)

def run (shop : Workshop) (steps : List BuildStep) : Workshop :=
  steps.foldl (fun shop step => (shop.step step).1) shop

end Workshop

end QueryGate
