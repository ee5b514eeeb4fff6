import LoanCheck.Text.Hex

/-!
# JSON text

JSON values and their one-line text. The text is printable ASCII: other characters are written as escapes of
their UTF-16 units, so every value is one line whatever its strings hold. Members of an object are written
in the order they are given in.
-/

namespace LoanCheck.Json

/-- A JSON value. Numbers are integers. -/
inductive Value where
  | null
  | bool (value : Bool)
  | int (value : Int)
  | string (text : String)
  | array (items : List Value)
  | object (members : List (String × Value))

/-- The escape of one UTF-16 unit. -/
def unitEscape (unit : Nat) : List Char :=
  '\\' :: 'u' :: Text.paddedHex 4 unit

/-- One character inside of a string. -/
def escapeChar (c : Char) : List Char :=
  match c with
  | '"' => ['\\', '"']
  | '\\' => ['\\', '\\']
  | '\n' => ['\\', 'n']
  | '\r' => ['\\', 'r']
  | '\t' => ['\\', 't']
  | '\x08' => ['\\', 'b']
  | '\x0c' => ['\\', 'f']
  | c =>
    if 0x20 ≤ c.toNat && c.toNat < 0x7f then [c]
    else if c.toNat < 0x10000 then unitEscape c.toNat
    else
      let offset := c.toNat - 0x10000
      unitEscape (0xd800 + offset / 0x400) ++ unitEscape (0xdc00 + offset % 0x400)

/-- A string in quotes. -/
def quote (s : String) : List Char :=
  '"' :: s.toList.flatMap escapeChar ++ ['"']

/-- Pieces with a comma and a space between them. -/
def commaSeparated : List (List Char) → List Char
  | [] => []
  | [piece] => piece
  | piece :: rest => piece ++ ',' :: ' ' :: commaSeparated rest

namespace Value

mutual

/-- The characters of the text of a value. -/
def chars : Value → List Char
  | null => ['n', 'u', 'l', 'l']
  | bool true => ['t', 'r', 'u', 'e']
  | bool false => ['f', 'a', 'l', 's', 'e']
  | int i => (toString i).toList
  | string s => quote s
  | array items => '[' :: commaSeparated (itemChars items) ++ [']']
  | object members => '{' :: commaSeparated (memberChars members) ++ ['}']
termination_by structural v => v

def itemChars : List Value → List (List Char)
  | [] => []
  | v :: vs => v.chars :: itemChars vs
termination_by structural l => l

def memberChars : List (String × Value) → List (List Char)
  | [] => []
  | (key, v) :: rest => (quote key ++ ':' :: ' ' :: v.chars) :: memberChars rest
termination_by structural l => l

end

/-- The text of a value. -/
def encode (v : Value) : String :=
  String.ofList v.chars

end Value

end LoanCheck.Json
