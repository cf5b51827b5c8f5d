import CompilePolicy.Policy.Resolution

/-!
# The resolver

A resolver finds the configuration at most once and gives the same one until it
is reset. When finding it fails, the next request tries again.
-/

namespace CompilePolicy

open Conventions FileSystem Journal

/-- A configuration that a resolver has found, numbered in the order in which
it found them. -/
structure Resolved where
  number : Nat
  configuration : Configuration
deriving DecidableEq, Repr

/-- A resolver. -/
structure Resolver where
  /-- The configuration that it gives. -/
  current : Option Resolved := none
  /-- How many times it has found a configuration. -/
  found : Nat := 0
  /-- How many times it has read the properties. -/
  reads : Nat := 0
deriving DecidableEq, Repr

namespace Resolver

/-- Whether the resolver has a configuration. -/
def isResolved (resolver : Resolver) : Bool :=
  resolver.current.isSome

/-- Forgets the configuration. -/
def reset (resolver : Resolver) : Resolver :=
  { resolver with current := none }

/-- What a request gives: the configuration or the fault, the resolver after it
and the records. -/
structure Request where
  result : Except SourceFault Resolved
  resolver : Resolver
  records : List Record

/-- Asks for the configuration. -/
def get (resolver : Resolver) (files : Files) (properties : Properties) : Request :=
  match resolver.current with
  | some resolved => ⟨.ok resolved, resolver, []⟩
  | none =>
    let reading := { resolver with reads := resolver.reads + 1 }
    match resolveConfiguration files properties with
    | .error fault => ⟨.error fault, reading, []⟩
    | .ok (configuration, records) =>
      let resolved : Resolved := ⟨resolver.found, configuration⟩
      ⟨.ok resolved, { reading with current := some resolved, found := resolver.found + 1 },
        records⟩

/-- A resolver that has a configuration gives it and stays as it is. -/
theorem get_of_current {resolver : Resolver} {resolved : Resolved}
    (known : resolver.current = some resolved) (files : Files) (properties : Properties) :
    resolver.get files properties = ⟨.ok resolved, resolver, []⟩ := by
  simp [get, known]

@[simp]
theorem current_reset (resolver : Resolver) : resolver.reset.current = none :=
  rfl

end Resolver

end CompilePolicy
