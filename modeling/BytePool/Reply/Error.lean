/-! What a request can be refused for, with the text and the stable code of each cause. -/
namespace BytePool

/-- The cause of a refused request, with what is needed to find the fault. -/
inductive Error where
  | invalidArgument (argument reason : String)
  | indexOutOfRange (argument : String) (value bound : Nat)
  | defectState (detail : String)
  | readOnly (operation : String)
  deriving DecidableEq, Repr

namespace Error

inductive Kind where
  | invalidArgument
  | indexOutOfRange
  | defectState
  | readOnly
  deriving DecidableEq, Repr

def Kind.all : List Kind := [.invalidArgument, .indexOutOfRange, .defectState, .readOnly]

/-- Codes are stable: alarms and dashboards tell causes apart by them. -/
def Kind.code : Kind → String
  | .invalidArgument => "spark.buffer.invalid_argument"
  | .indexOutOfRange => "spark.buffer.index_out_of_range"
  | .defectState => "spark.buffer.defect_state"
  | .readOnly => "spark.buffer.read_only"

def kind : Error → Kind
  | .invalidArgument .. => .invalidArgument
  | .indexOutOfRange .. => .indexOutOfRange
  | .defectState _ => .defectState
  | .readOnly _ => .readOnly

def code (e : Error) : String := e.kind.code

/-- Whether another argument would have been accepted: a defect calls for a repair and a write to
a read-only buffer for another buffer. -/
def isArgumentError : Error → Bool
  | .invalidArgument .. | .indexOutOfRange .. => true
  | .defectState _ | .readOnly _ => false

def message : Error → String
  | .invalidArgument argument reason => "invalid argument `" ++ argument ++ "`: " ++ reason
  | .indexOutOfRange argument value bound =>
    "index out of range for `" ++ argument ++ "`: " ++ toString value ++ " exceeds bound " ++
      toString bound
  | .defectState detail => "defect state: " ++ detail
  | .readOnly operation => "buffer is read-only, `" ++ operation ++ "` rejected"

/-- A pool without room in its slabs could serve nothing. -/
def zeroSlabCapacity : Error :=
  .invalidArgument "slab_capacity" "slab capacity must be greater than 0: 0"

end Error

/-- Why a request delivers nothing: it is refused, or it asks for one allocation that is larger
than any memory. -/
inductive Failure where
  | refused (error : Error)
  | capacityOverflow
  deriving DecidableEq, Repr

end BytePool
