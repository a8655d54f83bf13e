import BytePool.Pool
import BytePool.Region

/-! Requests for buffers that hold bytes from the start: copies of ranges and of regions, and
regions that become buffers as they are. -/
namespace BytePool.Pool

/-- Delivers a copy of `length` bytes of a source from an offset on. No bytes can be copied from
anywhere. -/
def copyRange (pool : Pool) (order : ByteOrder) (source : List UInt8) (offset length : Nat) :
    Reply Pool Buffer :=
  if length = 0 then pool.empty
  else if source.length < offset + length then
    .refuse (.indexOutOfRange "length" (min maxWord (offset + length)) source.length) pool
  else
    (pool.buffer order length).bind fun pool b =>
      let filled := b.putSlice ((source.drop offset).take length)
      { outcome := filled.outcome.map fun _ => filled.state
        state := pool
        events := filled.events }

/-- Delivers a copy of a whole source in the default order. -/
def copyBytes (pool : Pool) (source : List UInt8) : Reply Pool Buffer :=
  pool.copyRange pool.defaultOrder source 0 source.length

/-- Delivers a copy of the readable bytes of a region and leaves the region as it was. -/
def copyRegion (pool : Pool) (region : Region) : Reply (Pool × Region) Buffer :=
  ((pool.buffer region.order region.remaining).within (·, region)).bind fun (pool, region) b =>
    if region.remaining = 0 then .done b (pool, region)
    else
      let drained := region.drainInto b
      let restored := drained.state.2.restore region.position
      match drained.outcome with
      | .error failure => ⟨.error failure, (pool, restored), []⟩
      | .ok _ =>
        (Reply.done drained.state.1
          (pool.count fun c => { c with copiedRegions := c.copiedRegions + 1 }, restored)).emit
          (.regionCopied region.order region.remaining region.position)

/-- Makes a region a buffer, as it is if it is writable memory outside the heap and else as a
copy. -/
def adoptRegion (pool : Pool) (region : Region) : Reply Pool Buffer :=
  match region.storage with
  | .direct spare =>
    (Reply.done (Buffer.wrapFrom region.order region.bytes spare region.position)
      (pool.count fun c => { c with wrappedRegions := c.wrappedRegions + 1 })).emit
      (.regionWrapped region.order region.length region.position)
  | .readOnly | .heap => (pool.copyRegion region).within Prod.fst

end BytePool.Pool
