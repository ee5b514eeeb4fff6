import LoanCheck.Text.Digit
import LoanCheck.Text.Quoted

/-!
# Arguments

Reads a list of arguments against a table of options. Names of options start with one or two dashes. Long
names may be cut short where that leaves one option only, and take a value after `=` or as the next
argument; short names may be run together, the last of them with its value. What looks like a negative
number is no option, and after `--` nothing is. A `--` that is written as the value of an option is dropped, and
leaves the option without a value. Beside options there is one operand: a single argument, or a command that
takes all arguments after it.

`read` gives what was understood in order, as `Event`s, and how the reading ended. A fault comes after the
events before it, so that a request for help in front of a fault is still heard.
-/

namespace LoanCheck.Cli

/-- An option: what it means, its names, and whether a value comes with it. -/
structure OptionSpec (α : Type) where
  meaning : α
  names : List String
  takesValue : Bool

/-- An option or operand as messages name it. -/
def joinNames (names : List String) : String := "/".intercalate names

/-- Why arguments are refused. -/
inductive ArgumentFault where
  | ambiguous (text : String) (names : List String)
  | noValue (argument : String)
  /-- A value for an option that takes none. -/
  | surplusValue (argument text : String)
  | badChoice (argument text : String) (choices : List String)
  | badValue (argument type text : String)
  | missing (argument : String)
  | unrecognized (texts : List String)
deriving DecidableEq, Repr

def ArgumentFault.message : ArgumentFault → String
  | ambiguous text names => s!"ambiguous option: {text} could match " ++ ", ".intercalate names
  | noValue argument => s!"argument {argument}: expected one argument"
  | surplusValue argument text =>
    s!"argument {argument}: ignored explicit argument {Text.quoted text}"
  | badChoice argument text choices =>
    s!"argument {argument}: invalid choice: {Text.quoted text} (choose from " ++
      ", ".intercalate (choices.map Text.quoted) ++ ")"
  | badValue argument type text =>
    s!"argument {argument}: invalid {type} value: {Text.quoted text}"
  | missing argument => "the following arguments are required: " ++ argument
  | unrecognized texts => "unrecognized arguments: " ++ " ".intercalate texts

/-! ## Single arguments -/

/-- An option that an argument names, with the value written in the same argument. -/
structure Hit (α : Type) where
  spec : OptionSpec α
  /-- The full name. -/
  name : String
  value : Option (List Char)

/-- What an argument is. -/
inductive Role (α : Type) where
  | value
  | divider
  | option (hit : Hit α)
  | unknown

structure Token (α : Type) where
  text : String
  role : Role α

/-- Splits at the first `=`. -/
def cutEquals : List Char → List Char × Option (List Char)
  | [] => ([], none)
  | '=' :: rest => ([], some rest)
  | c :: rest =>
    let (front, value) := cutEquals rest
    (c :: front, value)

/-- All names of a table with their options, in order. -/
def namesOf {α : Type} (specs : List (OptionSpec α)) : List (String × OptionSpec α) :=
  specs.flatMap fun s => s.names.map (·, s)

/-- The option with exactly this name. -/
def named? {α : Type} (specs : List (OptionSpec α)) (name : String) : Option (OptionSpec α) :=
  (namesOf specs).lookup name

/-- The options that an argument with two dashes may mean, cut short. -/
def longHits {α : Type} (specs : List (OptionSpec α)) (arg : List Char) : List (Hit α) :=
  let (front, value) := cutEquals arg
  (namesOf specs).filterMap fun (name, spec) =>
    if front.isPrefixOf name.toList then some ⟨spec, name, value⟩ else none

/-- The options that an argument with one dash may mean: a short one with its value right behind. -/
def shortHits {α : Type} (specs : List (OptionSpec α)) (arg : List Char) : List (Hit α) :=
  (namesOf specs).filterMap fun (name, spec) =>
    if name.toList = arg.take 2 then some ⟨spec, name, some (arg.drop 2)⟩
    else if arg.isPrefixOf name.toList then some ⟨spec, name, none⟩
    else none

/-- One or more decimal digits. -/
def isNumber (cs : List Char) : Bool :=
  !cs.isEmpty && cs.all fun c => (Text.decimalValue? c).isSome

/-- A dash and a number, whole or with a point. -/
def looksNegative : List Char → Bool
  | '-' :: cs =>
    let cs := if cs.getLast? = some '\n' then cs.dropLast else cs
    let whole := cs.takeWhile fun c => (Text.decimalValue? c).isSome
    match cs.drop whole.length with
    | [] => !whole.isEmpty
    | '.' :: places => isNumber places
    | _ => false
  | _ => false

/-- What an argument in front of `--` is. -/
def roleOf {α : Type} (specs : List (OptionSpec α)) (arg : String) : Except ArgumentFault (Role α) :=
  match named? specs arg with
  | some spec => .ok (.option ⟨spec, arg, none⟩)
  | none =>
    match arg.toList with
    | '-' :: c :: rest =>
      let (front, value) := cutEquals arg.toList
      match value, named? specs (String.ofList front) with
      | some value, some spec => .ok (.option ⟨spec, String.ofList front, some value⟩)
      | _, _ =>
        let hits := if c = '-' then longHits specs arg.toList else shortHits specs ('-' :: c :: rest)
        match hits with
        | [] => .ok (if looksNegative arg.toList || rest.contains ' ' || c = ' ' then .value else .unknown)
        | [hit] => .ok (.option hit)
        | hits => .error (.ambiguous arg (hits.map (·.name)))
    | _ => .ok .value

/-- What all arguments are. -/
def tokens {α : Type} (specs : List (OptionSpec α)) : List String → Except ArgumentFault (List (Token α))
  | [] => .ok []
  | arg :: args =>
    if arg = "--" then .ok (⟨arg, .divider⟩ :: args.map (⟨·, .value⟩))
    else do
      let role ← roleOf specs arg
      let rest ← tokens specs args
      .ok (⟨arg, role⟩ :: rest)

/-! ## Sequences of arguments -/

/-- Something that was understood. -/
inductive Event (α : Type) where
  /-- An option, with its value if it takes one and has one. -/
  | option (meaning : α) (value : Option String)
  | operand (texts : List String)

/-- The events of an argument, and the option that still waits for its value. -/
structure Expanded (α : Type) where
  events : List (Event α)
  waiting : Option (OptionSpec α) := none

/-- An option with all of its value at hand, or none. -/
def expandPlain {α : Type} (spec : OptionSpec α) : Expanded α :=
  if spec.takesValue then ⟨[], some spec⟩ else ⟨[.option spec.meaning none], none⟩

/-- Puts an option without a value in front. -/
def Expanded.after {α : Type} (spec : OptionSpec α) (e : Expanded α) : Expanded α :=
  { e with events := .option spec.meaning none :: e.events }

/-- The value that is written with an option. -/
def writtenValue (text : List Char) : Option String :=
  if text = ['-', '-'] then none else some (String.ofList text)

/-- Options that are run together: an option, and the characters behind its name. -/
def expandCluster {α : Type} (specs : List (OptionSpec α)) :
    OptionSpec α → Bool → List Char → Except ArgumentFault (Expanded α)
  | spec, isShort, text =>
    if spec.takesValue then .ok ⟨[.option spec.meaning (writtenValue text)], none⟩
    else
      match isShort, text with
      | true, c :: more =>
        match named? specs (String.ofList ['-', c]) with
        | some next =>
          if more.isEmpty then .ok ((expandPlain next).after spec)
          else (expandCluster specs next true more).map (·.after spec)
        | none => .error (.surplusValue (joinNames spec.names) (String.ofList text))
      | _, _ => .error (.surplusValue (joinNames spec.names) (String.ofList text))

/-- The events of an option. -/
def Hit.expand {α : Type} (specs : List (OptionSpec α)) (hit : Hit α) :
    Except ArgumentFault (Expanded α) :=
  match hit.value with
  | none => .ok (expandPlain hit.spec)
  | some text => expandCluster specs hit.spec (!hit.name.startsWith "--") text

/-- What was understood, and how the reading ended: with a fault, or with arguments left over. -/
structure Reading (α : Type) where
  events : List (Event α)
  ending : Except ArgumentFault (List String)

namespace Reading

def ofFault {α : Type} (fault : ArgumentFault) : Reading α := ⟨[], .error fault⟩

def prepend {α : Type} (events : List (Event α)) (r : Reading α) : Reading α :=
  { r with events := events ++ r.events }

def leaveOver {α : Type} (text : String) (r : Reading α) : Reading α :=
  { r with ending := r.ending.map (text :: ·) }

end Reading

/-- What the operand takes. -/
inductive OperandKind where
  | single
  /-- A command, with everything after it. -/
  | command
deriving DecidableEq, Repr

/-- Reads tokens; `wanted` says that the operand is still to come. -/
def readTokens {α : Type} (specs : List (OptionSpec α)) (kind : OperandKind) :
    Bool → List (Token α) → Reading α
  | _, [] => ⟨[], .ok []⟩
  | wanted, t :: ts =>
    match t.role with
    | .unknown => (readTokens specs kind wanted ts).leaveOver t.text
    | .option hit =>
      match hit.expand specs with
      | .error fault => .ofFault fault
      | .ok ⟨events, none⟩ => (readTokens specs kind wanted ts).prepend events
      | .ok ⟨events, some spec⟩ =>
        match ts with
        | ⟨text, .value⟩ :: rest =>
          (readTokens specs kind wanted rest).prepend
            (events ++ [.option spec.meaning (some text)])
        | _ => .ofFault (.noValue (joinNames spec.names))
    | .value =>
      match wanted, kind with
      | true, .command => ⟨[.operand (t.text :: ts.map (·.text))], .ok []⟩
      | true, .single =>
        match ts with
        | ⟨_, .divider⟩ :: rest => (readTokens specs kind false rest).prepend [.operand [t.text]]
        | ts => (readTokens specs kind false ts).prepend [.operand [t.text]]
      | false, _ => (readTokens specs kind wanted ts).leaveOver t.text
    | .divider =>
      match wanted, kind, ts with
      | true, .command, v :: rest => ⟨[.operand (t.text :: v.text :: rest.map (·.text))], .ok []⟩
      | true, .single, v :: rest => (readTokens specs kind false rest).prepend [.operand [v.text]]
      | _, _, ts => (readTokens specs kind wanted ts).leaveOver t.text

/-- Reads arguments. An ambiguous option anywhere is a fault before everything else. -/
def read {α : Type} (specs : List (OptionSpec α)) (kind : OperandKind) (args : List String) : Reading α :=
  match tokens specs args with
  | .error fault => .ofFault fault
  | .ok ts => readTokens specs kind true ts

end LoanCheck.Cli
