import StreamRemote.Text.Bytes
import StreamRemote.Text.Numeral
import StreamRemote.Text.Quoted
import StreamRemote.Xml.Fault

/-!
# Entities

`&name;` stands for a character: one of five by name, and any other by its number, decimal or,
behind an `x`, hexadecimal. `resolve` puts the characters in place of their entities; a text
without `&` stands for itself (`resolve_of_plain`). The first entity that stands for nothing is
reported with its place in the text.
-/

namespace StreamRemote.Xml

/-- What is wrong with an entity. -/
inductive EntityFault where
  /-- no `;` follows; the place reaches from the `&` to the end of the text -/
  | unterminated (start stop : Nat)
  /-- no character has that name; the place is that of the name -/
  | unknown (start stop : Nat) (name : String)
  /-- the number is zero -/
  | null (start stop : Nat)
  | longHexadecimal
  | longDecimal
  | invalidHexadecimal (byte : UInt8)
  | invalidDecimal (byte : UInt8)
  /-- no character has that number -/
  | noCharacter (code : Nat)
deriving DecidableEq, Repr

/-- A place in a text, from the first byte to the one behind the last. -/
def showRange (start stop : Nat) : String :=
  toString start ++ ".." ++ toString stop

/-- The wording of an entity's fault. -/
def EntityFault.message : EntityFault → String
  | unterminated start stop =>
    "Error while escaping character at range " ++ showRange start stop ++
      ": Cannot find ';' after '&'"
  | unknown start stop name =>
    "Error while escaping character at range " ++ showRange start stop ++
      ": Unrecognized escape symbol: " ++ Text.quoted name
  | null start stop =>
    "Error while escaping character at range " ++ showRange start stop ++
      ": Null character entity not allowed"
  | longHexadecimal => "Cannot convert hexadecimal to utf8"
  | longDecimal => "Cannot convert decimal to utf8"
  | invalidHexadecimal byte => "'" ++ showByte byte ++ "' is not a valid hexadecimal character"
  | invalidDecimal byte => "'" ++ showByte byte ++ "' is not a valid decimal character"
  | noCharacter code => "'" ++ toString code ++ "' is not a valid codepoint"

namespace Entity

/-- The character with a name of its own. -/
def named? (name : List Char) : Option Char :=
  if name = "lt".toList then some '<'
  else if name = "gt".toList then some '>'
  else if name = "amp".toList then some '&'
  else if name = "apos".toList then some '\''
  else if name = "quot".toList then some '"'
  else none

/-- Reads the digits of a number in base `base` behind a number `n` already read. -/
def readCode (base : Nat) (digit? : Char → Option Nat) (invalid : UInt8 → EntityFault) :
    (n : Nat) → List Char → Except EntityFault Nat
  | n, [] => .ok n
  | n, c :: rest =>
    match digit? c with
    | some d => readCode base digit? invalid (base * n + d) rest
    | none => .error (invalid (firstByte c))

/-- The number behind the `#` of an entity. No character needs more than six hexadecimal digits,
and more than seven decimal ones are refused. -/
def code (written : List Char) : Except EntityFault Nat :=
  match written with
  | 'x' :: digits =>
    if 6 < Text.byteLength digits then .error .longHexadecimal
    else readCode 16 Text.hexDigit? .invalidHexadecimal 0 digits
  | digits =>
    if 7 < Text.byteLength digits then .error .longDecimal
    else readCode 10 Text.digit? .invalidDecimal 0 digits

/-- The character that an entity stands for; its `&` stands at `start` and its `;` at `stop`. -/
def character (start stop : Nat) (name : List Char) : Except EntityFault Char :=
  match name with
  | '#' :: written =>
    match code written with
    | .error f => .error f
    | .ok 0 => .error (.null start stop)
    | .ok n => if n.isValidChar then .ok (Char.ofNat n) else .error (.noCharacter n)
  | name =>
    match named? name with
    | some c => .ok c
    | none => .error (.unknown (start + 1) stop (String.ofList name))

/-- A character that can be part of an entity's name. -/
def isNameChar (c : Char) : Bool :=
  c != '&' && c != ';'

/-- Resolves the entities of a text whose first byte is at `position`. -/
def resolveFrom (position : Nat) : List Char → Except EntityFault (List Char)
  | [] => .ok []
  | c :: rest =>
    if c = '&' then
      let stop := position + 1 + Text.byteLength (rest.takeWhile isNameChar)
      match _behind : rest.dropWhile isNameChar with
      | ';' :: behind => do
        let d ← character position stop (rest.takeWhile isNameChar)
        let text ← resolveFrom (stop + 1) behind
        pure (d :: text)
      | _ => .error (.unterminated position (position + 1 + Text.byteLength rest))
    else do
      let text ← resolveFrom (position + c.utf8Size) rest
      pure (c :: text)
termination_by text => text.length
decreasing_by
  · have := (List.dropWhile_sublist (l := rest) isNameChar).length_le
    rw [_behind] at this
    simp only [List.length_cons] at this ⊢
    omega
  · simp

/-- The text that a text with entities stands for. -/
def resolve (s : List Char) : Except EntityFault (List Char) :=
  resolveFrom 0 s

theorem resolveFrom_of_plain {s : List Char} (position : Nat) (plain : '&' ∉ s) :
    resolveFrom position s = .ok s := by
  induction s generalizing position with
  | nil => rw [resolveFrom]
  | cons c rest ih =>
    rw [List.mem_cons, not_or] at plain
    rw [resolveFrom, if_neg (Ne.symm plain.1), ih _ plain.2]
    rfl

/-- A text without `&` stands for itself. -/
theorem resolve_of_plain {s : List Char} (plain : '&' ∉ s) : resolve s = .ok s :=
  resolveFrom_of_plain 0 plain

end Entity

end StreamRemote.Xml
