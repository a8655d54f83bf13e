import BytePool.Session
import BytePool.Settings.Document

/-! Steps that make pools and registries and ask them for buffers. -/
namespace BytePool.Session

/-! ### Pools -/

inductive PoolCommand where
  | new (order : ByteOrder) (slabCapacity : Nat) (name : String)
  | standard (name : String)
  | ofOrder (order : ByteOrder) (name : String)
  | ofSettings (settings : Settings) (name : String)
  | ofToml (document name : String)
  | info (on : String)
  | stats (on : String)
  | snapshot (on : String) (order : ByteOrder)
  | text (on : String)
  | statsText (on : String)
  | same (on other : String)
  | drop (on : String)
  /-- A request that needs no region. -/
  | request (on : String) (asked : Pool.Request) (name : String)
  | adoptRegion (on region name : String)
  | copyRegion (on region name : String)

namespace PoolCommand

def step (s : Session) : PoolCommand → Turn
  | new order slabCapacity name => s.keepPool name (Pool.new order slabCapacity)
  | standard name => s.keepPool name (.ok Pool.standard)
  | ofOrder order name => s.keepPool name (.ok (Pool.ofOrder order))
  | ofSettings settings name => s.keepPool name (Pool.ofSettings settings)
  | ofToml document name =>
    s.keepPool name ((Settings.ofToml document).bind Pool.ofSettings)
  | info on => s.ask (s.pool? on) on fun pool => .pool (.of pool)
  | stats on => s.ask (s.pool? on) on fun pool => .stats pool.stats
  | snapshot on order => s.ask (s.pool? on) on fun pool => .snapshot (pool.snapshot order)
  | text on => s.ask (s.pool? on) on fun pool => .text pool.text
  | statsText on => s.ask (s.pool? on) on fun pool => .text pool.stats.text
  | same on other =>
    s.need (s.pools.find? on) on fun one =>
      s.ask (s.pools.find? other) other fun two => .truth (one = two)
  | drop on => .answer (.truth (s.pools.contains on)) { s with pools := s.pools.erase on }
  | request on asked name =>
    s.need (s.handled? on) on fun (handle, pool) =>
      .ofReply (pool.serve asked) (fun pool => { s with heap := s.heap.set handle pool })
        (keepBuffer name)
  | adoptRegion on region name =>
    s.need (s.handled? on) on fun (handle, pool) =>
      s.need (s.regions.find? region) region fun given =>
        .ofReply (pool.adoptRegion given)
          (fun pool => { s with
            heap := s.heap.set handle pool
            regions := s.regions.erase region })
          (keepBuffer name)
  | copyRegion on region name =>
    s.need (s.handled? on) on fun (handle, pool) =>
      s.need (s.regions.find? region) region fun given =>
        .ofReply (pool.copyRegion given)
          (fun (pool, given) => { s with
            heap := s.heap.set handle pool
            regions := s.regions.insert region given })
          (keepBuffer name)

end PoolCommand

/-! ### Registries -/

inductive RegistryCommand where
  | new (slabCapacity : Nat) (name : String)
  | standard (name : String)
  | ofSettings (settings : Settings) (name : String)
  | ofToml (document name : String)
  | clone (on name : String)
  | info (on : String)
  | text (on : String)
  | drop (on : String)
  | get (on : String) (order : ByteOrder) (name : String)
  | preferred (on name : String)
  | resolve (on : String) (order : Option ByteOrder) (name : String)

def RegistryInfo.of? (s : Session) (registry : Registry) : Option RegistryInfo := do
  let preferred ← s.heap.get? registry.preferred
  let pools ← PerOrder.ofFnM fun order => s.heap.get? (registry.get order)
  return ⟨registry.defaultOrder, preferred.slabCapacity, .of preferred,
    pools.map PoolInfo.of⟩

def registryInfo? (s : Session) (name : String) : Option RegistryInfo := do
  RegistryInfo.of? s (← s.registries.find? name)

namespace RegistryCommand

/-- Stores a registry and shows it. -/
def keep (s : Session) (name : String) (registry : Registry) : Turn :=
  let s := { s with registries := s.registries.insert name registry }
  s.ask (s.registryInfo? name) name .registry

def keepNew (s : Session) (name : String) : Except Error (Registry × Heap) → Turn
  | .error e => .refuse e s
  | .ok (registry, heap) => keep { s with heap } name registry

/-- Holds a pool of a registry under one more name. -/
def hold (s : Session) (name : String) (handle : Handle) : Turn :=
  let s := { s with pools := s.pools.insert name handle }
  s.ask (s.pool? name) name fun pool => .pool (.of pool)

def step (s : Session) : RegistryCommand → Turn
  | new slabCapacity name => keepNew s name (Registry.new s.heap slabCapacity)
  | standard name => keepNew s name (.ok (Registry.standard s.heap))
  | ofSettings settings name => keepNew s name (Registry.ofSettings s.heap settings)
  | ofToml document name =>
    keepNew s name ((Settings.ofToml document).bind (Registry.ofSettings s.heap))
  | clone on name => s.need (s.registries.find? on) on (keep s name)
  | info on => s.ask (s.registryInfo? on) on .registry
  | text on => s.ask (do (← s.registries.find? on).text? s.heap) on .text
  | drop on =>
    .answer (.truth (s.registries.contains on)) { s with registries := s.registries.erase on }
  | get on order name =>
    s.need (s.registries.find? on) on fun registry => hold s name (registry.get order)
  | preferred on name =>
    s.need (s.registries.find? on) on fun registry => hold s name registry.preferred
  | resolve on order name =>
    s.need (s.registries.find? on) on fun registry =>
      match registry.resolve order with
      | .error e => .refuse e s
      | .ok handle => hold s name handle

end RegistryCommand
end BytePool.Session
