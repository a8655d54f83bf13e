import BytePool.Buffer.Queue

/-! Operations that change a buffer, as data, and runs of them. -/
namespace BytePool.Buffer

inductive Operation where
  | clear
  | putSlice (bytes : List UInt8)
  | putNumber (type : NumberType) (value : Int)
  | getNumber (type : NumberType)
  | readInto (length : Nat)
  | skip (length : Nat)
  deriving DecidableEq, Repr

/-- What an operation hands back. -/
inductive Result where
  | nothing
  | number (value : Int)
  | bytes (content : List UInt8)
  deriving DecidableEq, Repr

def perform (b : Buffer) : Operation → Reply Buffer Result
  | .clear => .done .nothing b.clear
  | .putSlice bytes => (b.putSlice bytes).map fun _ => .nothing
  | .putNumber type value => (b.putNumber type value).map fun _ => .nothing
  | .getNumber type => (b.getNumber type).map .number
  | .readInto length => (b.take length).map .bytes
  | .skip length => (b.skip length).map fun _ => .nothing

/-- The outcomes of operations one after the other, and the buffer they leave. -/
def performAll (b : Buffer) : List Operation → List (Except Failure Result) × Buffer
  | [] => ([], b)
  | operation :: operations =>
    let reply := b.perform operation
    let (outcomes, last) := reply.state.performAll operations
    (reply.outcome :: outcomes, last)

theorem order_perform (b : Buffer) (operation : Operation) :
    (b.perform operation).state.order = b.order := by
  cases operation with
  | clear => rfl
  | putSlice bytes => exact order_putSlice b bytes
  | putNumber type value => exact order_put b _ _
  | getNumber type => exact order_take b _
  | readInto length => exact order_take b length
  | skip length => exact order_take b length

theorem origin_perform (b : Buffer) (operation : Operation) :
    (b.perform operation).state.origin = b.origin := by
  cases operation with
  | clear => rfl
  | putSlice bytes => exact origin_putSlice b bytes
  | putNumber type value => exact origin_put b _ _
  | getNumber type => exact origin_take b _
  | readInto length => exact origin_take b length
  | skip length => exact origin_take b length

end BytePool.Buffer
