import BytePool.Buffer.Operation
import BytePool.Session

/-! Steps that make regions and buffers and work on their bytes. -/
namespace BytePool.Session

/-- Where the bytes of a new object come from. -/
inductive Source where
  | data (bytes : List UInt8)
  /-- A chunk, which is taken. -/
  | chunk (name : String)
  /-- The bytes of a buffer that was given up, which stay where they are. -/
  | frozen (name : String)

/-- Goes on with the bytes of a source and with the session after they were taken. -/
def Source.use (source : Source) (s : Session) (next : Session → List UInt8 → Turn) : Turn :=
  match source with
  | data bytes => next s bytes
  | chunk name =>
    s.need (s.chunks.find? name) name fun chunk =>
      next { s with chunks := s.chunks.erase name } chunk.bytes
  | frozen name => s.need (s.frozen.find? name) name (next s)

/-! ### Regions -/

inductive RegionCommand where
  | new (storage : Region.Storage) (order : ByteOrder) (source : Source) (name : String)
  | info (on : String)
  | readable (on : String)
  | text (on : String)
  | setPosition (on : String) (position : Nat)
  | setMark (on : String)
  | reset (on : String)

namespace RegionCommand

def put (s : Session) (name : String) (region : Region) : Session :=
  { s with regions := s.regions.insert name region }

def step (s : Session) : RegionCommand → Turn
  | new storage order source name =>
    source.use s fun s bytes =>
      let region : Region := { storage, order, bytes }
      .answer (.region region) (put s name region)
  | info on => s.ask (s.regions.find? on) on .region
  | readable on => s.ask (s.regions.find? on) on fun region => .bytes region.readable
  | text on => s.ask (s.regions.find? on) on fun region => .text region.text
  | setPosition on position =>
    s.need (s.regions.find? on) on fun region =>
      .ofReply (region.setPosition position) (put s on) fun s _ => (.nothing, s)
  | setMark on =>
    s.need (s.regions.find? on) on fun region => .answer .nothing (put s on region.setMark)
  | reset on =>
    s.need (s.regions.find? on) on fun region =>
      .ofReply region.reset (put s on) fun s _ => (.nothing, s)

end RegionCommand

/-! ### Buffers -/

inductive BufferCommand where
  | empty (name : String)
  | wrap (order : ByteOrder) (source : Source) (name : String)
  | info (on : String)
  | perform (on : String) (operation : Buffer.Operation)
  | bytes (on : String)
  | text (on : String)
  | freeze (on name : String)
  | drop (on : String)

namespace BufferCommand

def answer : Buffer.Result → Answer
  | .nothing => .nothing
  | .number value => .number value
  | .bytes content => .bytes content

def step (s : Session) : BufferCommand → Turn
  | empty name => .answer (.buffer .empty) (s.putBuffer name .empty)
  | wrap order source name =>
    source.use s fun s bytes =>
      .answer (.buffer (.wrap order bytes)) (s.putBuffer name (.wrap order bytes))
  | info on => s.ask (s.buffers.find? on) on fun _ => .nothing
  | perform on operation =>
    s.need (s.buffers.find? on) on fun b =>
      .ofReply (b.perform operation) (s.putBuffer on) fun s result => (answer result, s)
  | bytes on => s.ask (s.buffers.find? on) on fun b => .bytes b.readable
  | text on => s.ask (s.buffers.find? on) on fun b => (b.text?.map .text).getD .nothing
  | freeze on name =>
    s.need (s.buffers.find? on) on fun b =>
      .answer (.bytes b.freeze)
        { s with
          buffers := s.buffers.erase on
          frozen := s.frozen.insert name b.freeze }
  | drop on => .answer (.truth (s.buffers.contains on)) { s with buffers := s.buffers.erase on }

end BufferCommand
end BytePool.Session
