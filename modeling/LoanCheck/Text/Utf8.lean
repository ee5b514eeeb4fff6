import LoanCheck.Text.Hex

/-!
# UTF-8

Bytes as text, character by character. At a position the bytes either start with a well-formed character
or with an ill-formed stretch: the longest run that could still have begun a character, or the first byte
alone. `decode` reports the first ill-formed stretch, `decodeLenient` writes one replacement character
for each.
-/

namespace LoanCheck.Text

/-- What is wrong with an ill-formed stretch. -/
inductive Utf8Defect where
  | startByte
  | continuationByte
  | endOfData
deriving DecidableEq, Repr

def Utf8Defect.message : Utf8Defect → String
  | startByte => "invalid start byte"
  | continuationByte => "invalid continuation byte"
  | endOfData => "unexpected end of data"

/-- What the bytes at a position start with; `more` counts the bytes after the first. -/
inductive Utf8Head where
  | char (c : Char) (more : Nat)
  | bad (defect : Utf8Defect) (more : Nat)
deriving DecidableEq, Repr

def isContinuation (b : UInt8) : Bool := 0x80 ≤ b && b ≤ 0xbf

/-- The low six bits of a continuation byte. -/
def payload (b : UInt8) : Nat := b.toNat % 64

/-- Whether a second byte may follow a first byte. The first and last blocks of three and four byte
characters exclude overlong forms, surrogates and numbers beyond the last character. -/
def fitsSecond (first second : UInt8) : Bool :=
  isContinuation second &&
    !(first == 0xe0 && second < 0xa0) && !(first == 0xed && 0xa0 ≤ second) &&
    !(first == 0xf0 && second < 0x90) && !(first == 0xf4 && 0x90 ≤ second)

/-- What a first byte with the bytes after it starts with. -/
def utf8Head (b : UInt8) (rest : List UInt8) : Utf8Head :=
  if b < 0x80 then .char (Char.ofNat b.toNat) 0
  else if b < 0xc2 || 0xf4 < b then .bad .startByte 0
  else if b < 0xe0 then
    match rest with
    | b₁ :: _ =>
      if isContinuation b₁ then .char (Char.ofNat (b.toNat % 32 * 64 + payload b₁)) 1
      else .bad .continuationByte 0
    | [] => .bad .endOfData 0
  else if b < 0xf0 then
    match rest with
    | b₁ :: b₂ :: _ =>
      if !fitsSecond b b₁ then .bad .continuationByte 0
      else if !isContinuation b₂ then .bad .continuationByte 1
      else .char (Char.ofNat ((b.toNat % 16 * 64 + payload b₁) * 64 + payload b₂)) 2
    | [b₁] => if fitsSecond b b₁ then .bad .endOfData 1 else .bad .continuationByte 0
    | [] => .bad .endOfData 0
  else
    match rest with
    | b₁ :: b₂ :: b₃ :: _ =>
      if !fitsSecond b b₁ then .bad .continuationByte 0
      else if !isContinuation b₂ then .bad .continuationByte 1
      else if !isContinuation b₃ then .bad .continuationByte 2
      else .char (Char.ofNat
        (((b.toNat % 8 * 64 + payload b₁) * 64 + payload b₂) * 64 + payload b₃)) 3
    | [b₁, b₂] =>
      if !fitsSecond b b₁ then .bad .continuationByte 0
      else if !isContinuation b₂ then .bad .continuationByte 1
      else .bad .endOfData 2
    | [b₁] => if fitsSecond b b₁ then .bad .endOfData 1 else .bad .continuationByte 0
    | [] => .bad .endOfData 0

/-- The first ill-formed stretch of a byte sequence. -/
structure Utf8Fault where
  defect : Utf8Defect
  /-- Position of its first byte. -/
  position : Nat
  firstByte : UInt8
  /-- Bytes after the first. -/
  more : Nat
deriving DecidableEq, Repr

def Utf8Fault.message (f : Utf8Fault) : String :=
  let place :=
    if f.more = 0 then
      "byte 0x" ++ String.ofList (paddedHex 2 f.firstByte.toNat) ++ s!" in position {f.position}"
    else s!"bytes in position {f.position}-{f.position + f.more}"
  "'utf-8' codec can't decode " ++ place ++ ": " ++ f.defect.message

/-- Decodes bytes from a position on; `acc` holds the characters so far, last one first. -/
def decodeFrom (position : Nat) (acc : List Char) (bytes : List UInt8) :
    Except Utf8Fault (List Char) :=
  match bytes with
  | [] => .ok acc.reverse
  | b :: rest =>
    match utf8Head b rest with
    | .char c more => decodeFrom (position + 1 + more) (c :: acc) (rest.drop more)
    | .bad defect more => .error ⟨defect, position, b, more⟩
termination_by bytes.length
decreasing_by simp only [List.length_drop, List.length_cons]; omega

/-- Decodes bytes, refusing ill-formed ones. -/
def decode (bytes : List UInt8) : Except Utf8Fault (List Char) :=
  decodeFrom 0 [] bytes

/-- Stands for an ill-formed stretch. -/
def replacement : Char := Char.ofNat 0xfffd

/-- Decodes bytes with replacements; `acc` holds the characters so far, last one first. -/
def decodeLenientFrom (acc : List Char) (bytes : List UInt8) : List Char :=
  match bytes with
  | [] => acc.reverse
  | b :: rest =>
    match utf8Head b rest with
    | .char c more => decodeLenientFrom (c :: acc) (rest.drop more)
    | .bad _ more => decodeLenientFrom (replacement :: acc) (rest.drop more)
termination_by bytes.length
decreasing_by all_goals simp only [List.length_drop, List.length_cons]; omega

/-- Decodes bytes, with one replacement character for each ill-formed stretch. -/
def decodeLenient (bytes : List UInt8) : List Char :=
  decodeLenientFrom [] bytes

end LoanCheck.Text
