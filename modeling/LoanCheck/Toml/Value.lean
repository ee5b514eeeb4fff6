import LoanCheck.Decimal.Layout
import LoanCheck.Text.Numeral
import LoanCheck.Text.Quoted

/-!
# TOML values

The values of a configuration text. Tables keep the order of their keys. `Value.shown` is how messages
show a value.
-/

namespace LoanCheck.Toml

/-- A calendar date. -/
structure Date where
  year : Nat
  month : Nat
  day : Nat
deriving DecidableEq, Repr

/-- A time of day. -/
structure Time where
  hour : Nat
  minute : Nat
  second : Nat
  microsecond : Nat
deriving DecidableEq, Repr

/-- A value. `nothing` stands for a missing value; no text writes it. -/
inductive Value where
  | nothing
  | bool (value : Bool)
  | int (value : Int)
  | float (value : Float)
  | string (text : String)
  | date (value : Date)
  | time (value : Time)
  /-- A date with a time, and the offset from universal time in minutes if one is given. -/
  | moment (date : Date) (time : Time) (offset : Option Int)
  | array (items : List Value)
  | table (members : List (String × Value))

/-- A table: keys with their values, in order. -/
abbrev Table := List (String × Value)

/-- Numbers separated by commas. -/
def numberList (ns : List Nat) : String :=
  ", ".intercalate (ns.map toString)

/-- Second and microsecond are left out if they are zero. -/
def Time.fields (t : Time) : List Nat :=
  [t.hour, t.minute] ++
    (if t.microsecond ≠ 0 then [t.second, t.microsecond]
     else if t.second ≠ 0 then [t.second] else [])

/-- A duration of whole minutes, as days and seconds. -/
def durationText (minutes : Int) : String :=
  let days := minutes.fdiv 1440
  let seconds := (minutes.fmod 1440) * 60
  let parts := (if days = 0 then [] else [s!"days={days}"]) ++
    (if seconds = 0 then [] else [s!"seconds={seconds}"])
  "datetime.timedelta(" ++ ", ".intercalate parts ++ ")"

def offsetText : Option Int → String
  | none => ""
  | some 0 => ", tzinfo=datetime.timezone.utc"
  | some minutes => ", tzinfo=datetime.timezone(" ++ durationText minutes ++ ")"

namespace Value

/-- What messages call the kind of a value. -/
def kindWord : Value → String
  | nothing => "NoneType"
  | bool _ => "bool"
  | int _ => "int"
  | float _ => "float"
  | string _ => "str"
  | date _ => "datetime.date"
  | time _ => "datetime.time"
  | moment _ _ _ => "datetime.datetime"
  | array _ => "list"
  | table _ => "dict"

mutual

/-- The value as messages show it. -/
def shown : Value → String
  | nothing => "None"
  | bool b => if b then "True" else "False"
  | int i => toString i
  | float x => Decimal.roundTrip x
  | string s => Text.quoted s
  | date d => "datetime.date(" ++ numberList [d.year, d.month, d.day] ++ ")"
  | time t => "datetime.time(" ++ numberList t.fields ++ ")"
  | moment d t offset =>
    "datetime.datetime(" ++ numberList ([d.year, d.month, d.day] ++ t.fields) ++
      offsetText offset ++ ")"
  | array items => "[" ++ ", ".intercalate (shownItems items) ++ "]"
  | table members => "\x7b" ++ ", ".intercalate (shownMembers members) ++ "\x7d"
termination_by structural v => v

def shownItems : List Value → List String
  | [] => []
  | v :: vs => v.shown :: shownItems vs
termination_by structural l => l

def shownMembers : List (String × Value) → List String
  | [] => []
  | (key, v) :: rest => (Text.quoted key ++ ": " ++ v.shown) :: shownMembers rest
termination_by structural l => l

end

mutual

/-- No integer inside is too long to be written. -/
def isWritable : Value → Bool
  | int i => Text.isWritable i
  | array items => allWritable items
  | table members => membersWritable members
  | _ => true
termination_by structural v => v

def allWritable : List Value → Bool
  | [] => true
  | v :: vs => v.isWritable && allWritable vs
termination_by structural l => l

def membersWritable : List (String × Value) → Bool
  | [] => true
  | (_, v) :: rest => v.isWritable && membersWritable rest
termination_by structural l => l

end

end Value

end LoanCheck.Toml
