import BytePool.Session

/-! Steps on arenas and slabs that belong to no pool. -/
namespace BytePool.Session

inductive ArenaCommand where
  | new (order : ByteOrder) (slabCapacity : Nat) (name : String)
  | allocate (on : String) (capacity : Nat) (name : String)
  | snapshot (on : String)
  | text (on : String)
  | drop (on : String)

namespace ArenaCommand

def step (s : Session) : ArenaCommand → Turn
  | new order slabCapacity name =>
    match Arena.new order slabCapacity with
    | .error e => .refuse e s
    | .ok arena =>
      .answer (.arena order slabCapacity) { s with arenas := s.arenas.insert name arena }
  | allocate on capacity name =>
    s.need (s.arenas.find? on) on fun arena =>
      .ofReply (arena.allocate capacity)
        (fun arena => { s with arenas := s.arenas.insert on arena }) (keepBuffer name)
  | snapshot on => s.ask (s.arenas.find? on) on fun arena => .snapshot arena.snapshot
  | text on => s.ask (s.arenas.find? on) on fun arena => .text arena.text
  | drop on => .answer (.truth (s.arenas.contains on)) { s with arenas := s.arenas.erase on }

end ArenaCommand

inductive SlabCommand where
  | allocate (id capacity : Nat) (name : String)
  | carve (on : String) (length : Nat) (name : String)
  | text (on : String)
  | drop (on : String)

namespace SlabCommand

def step (s : Session) : SlabCommand → Turn
  | allocate id capacity name =>
    match Slab.allocate id capacity with
    | .error failure => ⟨.error (.failed failure), s, []⟩
    | .ok slab => .answer (.slab slab) { s with slabs := s.slabs.insert name slab }
  | carve on length name =>
    s.need (s.slabs.find? on) on fun slab =>
      .ofReply (slab.carve? length) (fun slab => { s with slabs := s.slabs.insert on slab })
        fun s found =>
          match found with
          | none => (.nothing, s)
          | some chunk => (.chunk chunk, { s with chunks := s.chunks.insert name chunk })
  | text on => s.ask (s.slabs.find? on) on fun slab => .text slab.text
  | drop on => .answer (.truth (s.slabs.contains on)) { s with slabs := s.slabs.erase on }

end SlabCommand
end BytePool.Session
