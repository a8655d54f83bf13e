import BytePool.Decimal.Shortest
import BytePool.Settings
import BytePool.Text.Quoted
import BytePool.Toml.Document

/-!
# Settings in documents

A document is refused for the first entry that is no setting or has no value of the right kind. A
slab capacity of zero is read and then refused.
-/
namespace BytePool.Settings

inductive Field where
  | defaultOrder
  | slabCapacity
  deriving DecidableEq, Repr

namespace Field

def all : List Field := [defaultOrder, slabCapacity]

def key : Field → String
  | defaultOrder => "default_order"
  | slabCapacity => "slab_capacity"

def ofKey? (key : String) : Option Field := all.find? fun field => field.key = key

theorem ofKey?_key (field : Field) : ofKey? field.key = some field := by
  cases field <;> decide

/-- The kind of value that a setting takes. -/
def expected : Field → String
  | defaultOrder => "a string"
  | slabCapacity => "usize"

end Field

/-! ### Problems -/

/-- What is wrong with an entry of a well-formed document. -/
inductive Problem where
  | unknownField (key : String)
  | wrongType (field : Field) (found : Toml.Value)
  | negative (number : Int)
  | badOrder (error : Error)

namespace Problem

/-- A plain value is described with its text, another by its kind. -/
def describe : Toml.Value → String
  | .string text => "string " ++ Text.quoted text
  | .integer number => "integer `" ++ toString number ++ "`"
  | .float number => "floating point `" ++ number.text ++ "`"
  | .boolean truth => "boolean `" ++ (if truth then "true" else "false") ++ "`"
  | .array _ => "sequence"
  | .moment _ | .table _ => "map"

def message : Problem → String
  | .unknownField key =>
    "unknown field `" ++ key ++ "`, expected `default_order` or `slab_capacity`"
  | .wrongType field found =>
    "invalid type: " ++ describe found ++ ", expected " ++ field.expected
  | .negative number =>
    "invalid value: integer `" ++ toString number ++ "`, expected " ++
      Field.slabCapacity.expected
  | .badOrder error => error.message

end Problem

/-- A document that cannot be read is refused without detail, one with a problem by its text. -/
def malformed (problem : Option Problem) : Error :=
  .invalidArgument "config" ("malformed buffer config" ++
    match problem with
    | none => ""
    | some problem => ": " ++ problem.message)

/-! ### Reading -/

/-- Takes one entry of a document into the settings. -/
def withEntry (settings : Settings) (key : String) (value : Toml.Value) :
    Except Problem Settings :=
  match Field.ofKey? key, value with
  | none, _ => .error (.unknownField key)
  | some .defaultOrder, .string text =>
    match ByteOrder.parse text with
    | .ok order => .ok { settings with defaultOrder := order }
    | .error error => .error (.badOrder error)
  | some .slabCapacity, .integer number =>
    if number < 0 then .error (.negative number)
    else .ok { settings with slabCapacity := number.toNat }
  | some field, found => .error (.wrongType field found)

/-- Reads the entries in sequence and stops at the first problem. -/
def ofEntries (entries : List (String × Toml.Value)) : Except Problem Settings :=
  entries.foldlM (fun settings entry => settings.withEntry entry.1 entry.2) standard

/-- The settings of a document, read and then validated. -/
def ofToml (document : String) : Except Error Settings :=
  match Toml.parse document with
  | none => .error (malformed none)
  | some entries =>
    match ofEntries entries with
    | .error problem => .error (malformed (some problem))
    | .ok settings => settings.validate.map fun _ => settings

end BytePool.Settings
