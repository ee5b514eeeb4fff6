import LoanCheck.Json.Value
import LoanCheck.Toml.Scalar

/-!
# Reading JSON

Values are only written by the checker, never read. This is the reader on the other side, by the grammar of JSON :
blanks may stand between tokens, strings have the escapes of one letter and those of a UTF-16 unit, and surrogates
must come in pairs. Numbers with a fraction or an exponent are refused, as values have integers only. Members of an
object are kept in their order.

A text is cut into tokens by one pass over its characters (`scanFrom`), and the tokens are put together over a
stack of what is open (`Reading.step`).
-/

namespace LoanCheck.Json

/-! ## Text of UTF-16 units -/

def isHighSurrogate (unit : Nat) : Bool := 0xd800 ≤ unit && unit < 0xdc00

def isLowSurrogate (unit : Nat) : Bool := 0xdc00 ≤ unit && unit < 0xe000

/-- The character of a unit that stands alone. -/
def unitChar? (unit : Nat) : Option Char :=
  if isHighSurrogate unit || isLowSurrogate unit then none else some (Char.ofNat unit)

/-- The text of some units, unless a surrogate stands alone. -/
def ofUnits? : List Nat → Option (List Char)
  | [] => some []
  | [unit] => (unitChar? unit).map fun c => [c]
  | high :: low :: units =>
    if isHighSurrogate high && isLowSurrogate low then
      (ofUnits? units).map (Char.ofNat (0x10000 + (high - 0xd800) * 0x400 + (low - 0xdc00)) :: ·)
    else (unitChar? high).bind fun c => (ofUnits? (low :: units)).map (c :: ·)

/-- The units of a character. -/
def charUnits (c : Char) : List Nat :=
  if c.toNat < 0x10000 then [c.toNat]
  else [0xd800 + (c.toNat - 0x10000) / 0x400, 0xdc00 + (c.toNat - 0x10000) % 0x400]

/-! ## Words -/

/-- The number of hexadecimal digits. -/
def hexNumber? (digits : List Char) : Option Nat :=
  digits.foldlM (fun n c => (Toml.hexValue? c).map (16 * n + ·)) 0

/-- The number of decimal digits. There is at least one, and no zero in front of others. -/
def natural? (digits : List Char) : Option Nat :=
  if digits.isEmpty || !digits.all Char.isDigit || (digits.head? = some '0' && 1 < digits.length) then none
  else some (Nat.ofDigitChars 10 digits 0)

/-- The value of a word that is no string. -/
def wordValue? : List Char → Option Value
  | ['n', 'u', 'l', 'l'] => some .null
  | ['t', 'r', 'u', 'e'] => some (.bool true)
  | ['f', 'a', 'l', 's', 'e'] => some (.bool false)
  | '-' :: digits => (natural? digits).map fun (n : Nat) => .int (-n)
  | digits => (natural? digits).map fun (n : Nat) => .int n

/-! ## Tokens -/

inductive Token where
  | openArray
  | closeArray
  | openObject
  | closeObject
  | comma
  | colon
  /-- A string, a number or a name. -/
  | value (v : Value)

/-- What the scanner is inside of. Characters and units collected so far are kept last one first. -/
inductive Mode where
  | between
  | word (collected : List Char)
  | string (units : List Nat)
  /-- Behind a backslash. -/
  | escape (units : List Nat)
  /-- Inside of the digits of a unit. -/
  | unit (units : List Nat) (digits : List Char)

def isBlank (c : Char) : Bool := c == ' ' || c == '\t' || c == '\n' || c == '\r'

/-- Ends a word. -/
def isDelimiter (c : Char) : Bool :=
  c == '[' || c == ']' || c == '{' || c == '}' || c == ',' || c == ':' || c == '"' || isBlank c

/-- The character that an escape of one letter stands for. -/
def escaped? : Char → Option Char
  | '"' => some '"'
  | '\\' => some '\\'
  | '/' => some '/'
  | 'b' => some '\x08'
  | 'f' => some '\x0c'
  | 'n' => some '\n'
  | 'r' => some '\r'
  | 't' => some '\t'
  | _ => none

/-- One character met between tokens: the token that it is, if it is one, and the mode after it. -/
def beginToken (c : Char) : List Token × Mode :=
  match c with
  | '[' => ([.openArray], .between)
  | ']' => ([.closeArray], .between)
  | '{' => ([.openObject], .between)
  | '}' => ([.closeObject], .between)
  | ',' => ([.comma], .between)
  | ':' => ([.colon], .between)
  | '"' => ([], .string [])
  | c => ([], if isBlank c then .between else .word [c])

/-- The tokens of a text inside of a mode. -/
def scanFrom : Mode → List Char → Option (List Token)
  | .between, [] => some []
  | .word collected, [] => (wordValue? collected.reverse).map fun v => [.value v]
  | .string _, [] => none
  | .escape _, [] => none
  | .unit _ _, [] => none
  | .between, c :: cs => (scanFrom (beginToken c).2 cs).map ((beginToken c).1 ++ ·)
  | .word collected, c :: cs =>
    if isDelimiter c then
      (wordValue? collected.reverse).bind fun v =>
        (scanFrom (beginToken c).2 cs).map (.value v :: (beginToken c).1 ++ ·)
    else scanFrom (.word (c :: collected)) cs
  | .string units, c :: cs =>
    if c = '"' then
      (ofUnits? units.reverse).bind fun text =>
        (scanFrom .between cs).map (.value (.string (String.ofList text)) :: ·)
    else if c = '\\' then scanFrom (.escape units) cs
    else if c.toNat < 0x20 then none
    else scanFrom (.string ((charUnits c).reverse ++ units)) cs
  | .escape units, c :: cs =>
    if c = 'u' then scanFrom (.unit units []) cs
    else (escaped? c).bind fun e => scanFrom (.string (e.toNat :: units)) cs
  | .unit units digits, c :: cs =>
    if digits.length = 3 then
      (hexNumber? (c :: digits).reverse).bind fun n => scanFrom (.string (n :: units)) cs
    else scanFrom (.unit units (c :: digits)) cs

section Equations

variable (collected : List Char) (units : List Nat) (c : Char) (cs : List Char)

theorem scanFrom_between_cons :
    scanFrom .between (c :: cs) = (scanFrom (beginToken c).2 cs).map ((beginToken c).1 ++ ·) :=
  rfl

theorem scanFrom_word_nil :
    scanFrom (.word collected) [] = (wordValue? collected.reverse).map fun v => [.value v] :=
  rfl

theorem scanFrom_word_cons : scanFrom (.word collected) (c :: cs) =
    if isDelimiter c then
      (wordValue? collected.reverse).bind fun v =>
        (scanFrom (beginToken c).2 cs).map (.value v :: (beginToken c).1 ++ ·)
    else scanFrom (.word (c :: collected)) cs :=
  rfl

theorem scanFrom_string_cons : scanFrom (.string units) (c :: cs) =
    if c = '"' then
      (ofUnits? units.reverse).bind fun text =>
        (scanFrom .between cs).map (.value (.string (String.ofList text)) :: ·)
    else if c = '\\' then scanFrom (.escape units) cs
    else if c.toNat < 0x20 then none
    else scanFrom (.string ((charUnits c).reverse ++ units)) cs :=
  rfl

end Equations

/-! ## Values -/

/-- Something open, with what was read inside of it, last one first. -/
inductive Frame where
  | array (items : List Value)
  /-- An object also has the key that waits for its value. -/
  | object (members : List (String × Value)) (key : String)

/-- A reading in progress, with what is open, innermost first. -/
inductive Reading where
  /-- A value must follow. -/
  | value (frames : List Frame)
  /-- A key must follow. -/
  | key (members : List (String × Value)) (frames : List Frame)
  /-- The colon behind a key must follow. -/
  | colon (members : List (String × Value)) (key : String) (frames : List Frame)
  /-- A value has ended. -/
  | done (v : Value) (frames : List Frame)

/-- The reading after one more token. An array or an object can only be closed where nothing has to follow. -/
def Reading.step : Reading → Token → Option Reading
  | value frames, .value v => some (done v frames)
  | value frames, .openArray => some (value (.array [] :: frames))
  | value frames, .openObject => some (key [] frames)
  | value (.array [] :: frames), .closeArray => some (done (.array []) frames)
  | key [] frames, .closeObject => some (done (.object []) frames)
  | key members frames, .value (.string k) => some (colon members k frames)
  | colon members k frames, .colon => some (value (.object members k :: frames))
  | done v (.array items :: frames), .comma => some (value (.array (v :: items) :: frames))
  | done v (.array items :: frames), .closeArray => some (done (.array (v :: items).reverse) frames)
  | done v (.object members k :: frames), .comma => some (key ((k, v) :: members) frames)
  | done v (.object members k :: frames), .closeObject => some (done (.object ((k, v) :: members).reverse) frames)
  | _, _ => none

/-- What is read of a text that stands between tokens. -/
def Reading.over (r : Reading) (cs : List Char) : Option Reading :=
  (scanFrom .between cs).bind fun tokens => tokens.foldlM Reading.step r

/-- The value of a text that holds one value and nothing else. -/
def decode (s : String) : Option Value :=
  match (Reading.value []).over s.toList with
  | some (.done v []) => some v
  | _ => none

end LoanCheck.Json
