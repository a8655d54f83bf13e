import BytePool.Toml.Reader

/-!
# Dates and times

Four forms: a date, a time, both together, and both together with the offset from universal time.
-/
namespace BytePool.Toml.Moment

/-- The number in the first so many characters, all of them digits. -/
def field (digits : Nat) (cs : List Char) : Option (Nat × List Char) :=
  let first := cs.take digits
  if first.length = digits ∧ first.all Char.isDigit then
    some (first.foldl (fun n c => n * 10 + (c.toNat - '0'.toNat)) 0, cs.drop digits)
  else none

def isLeap (year : Nat) : Bool := year % 4 = 0 && (year % 100 ≠ 0 || year % 400 = 0)

def daysIn (year month : Nat) : Nat :=
  if month = 2 then (if isLeap year then 29 else 28)
  else if month ∈ [4, 6, 9, 11] then 30
  else 31

/-- What follows a date of the calendar. -/
def date (cs : List Char) : Option (List Char) := do
  let (year, cs) ← field 4 cs
  let (month, cs) ← field 2 (← char '-' cs)
  let (day, cs) ← field 2 (← char '-' cs)
  if 1 ≤ month ∧ month ≤ 12 ∧ 1 ≤ day ∧ day ≤ daysIn year month then some cs else none

/-- A point starts a fraction only if a digit follows it. -/
def fraction : List Char → List Char
  | '.' :: c :: cs => if c.isDigit then cs.dropWhile Char.isDigit else '.' :: c :: cs
  | cs => cs

/-- What follows a time of day; a minute may have a leap second. -/
def time (cs : List Char) : Option (List Char) := do
  let (hour, cs) ← field 2 cs
  let (minute, cs) ← field 2 (← char ':' cs)
  let (second, cs) ← field 2 (← char ':' cs)
  if hour ≤ 23 ∧ minute ≤ 59 ∧ second ≤ 60 then some (fraction cs) else none

/-- What follows an offset from universal time. -/
def offset : List Char → Option (List Char)
  | 'Z' :: cs | 'z' :: cs => some cs
  | '+' :: cs | '-' :: cs => do
    let (hour, cs) ← field 2 cs
    let (minute, cs) ← field 2 (← char ':' cs)
    if hour ≤ 23 ∧ minute ≤ 59 then some cs else none
  | _ => none

/-- A time with or without an offset, and nothing else. -/
def isZoned (cs : List Char) : Bool :=
  match time cs with
  | none => false
  | some [] => true
  | some rest => offset rest = some []

def isDate (cs : List Char) : Bool := date cs = some []

/-- The date is parted from the time by the letter or by one space. -/
def isMoment (cs : List Char) : Bool :=
  match date cs with
  | none => time cs = some []
  | some [] => true
  | some (c :: rest) => (c = 'T' || c = 't' || c = ' ') && isZoned rest

end BytePool.Toml.Moment
