/-!
# The part of JSON that a barrier writes

Events, counters and settings are written as JSON objects: truth values,
natural numbers, text, and objects of these. Writing is compact, with nothing
between the tokens. In text only what the format demands is escaped: the
quote, the backslash and the control characters below the blank, which are
named by a letter where there is one and by number otherwise.

An object keeps its members in the order in which they are given.
`JsonValue.sortKeys` puts them in the order of their names, at every depth.
-/

namespace CardBarrier

/-- **A JSON value** of the kinds that are written. -/
inductive JsonValue where
  /-- A truth value. -/
  | bool (b : Bool)
  /-- A natural number. -/
  | nat (n : Nat)
  /-- A text. -/
  | text (s : String)
  /-- Named members, in order. -/
  | object (members : List (String × JsonValue))

namespace JsonValue

/-- A hexadecimal digit. -/
def hexDigit (n : Nat) : Char := Nat.digitChar (n % 16)

/-- A character as it stands in a JSON text. -/
def escape (c : Char) : List Char :=
  match c with
  | '"' => ['\\', '"']
  | '\\' => ['\\', '\\']
  | '\x08' => ['\\', 'b']
  | '\t' => ['\\', 't']
  | '\n' => ['\\', 'n']
  | '\x0c' => ['\\', 'f']
  | '\r' => ['\\', 'r']
  | _ =>
    if c.toNat < 0x20 then ['\\', 'u', '0', '0', hexDigit (c.toNat / 16), hexDigit c.toNat]
    else [c]

/-- A text between quotes. -/
def quote (s : String) : List Char := '"' :: s.toList.flatMap escape ++ ['"']

mutual

/-- The characters of a value. -/
def chars : JsonValue → List Char
  | bool b => (toString b).toList
  | nat n => Nat.toDigits 10 n
  | text s => quote s
  | object members => '\x7b' :: memberChars members ++ ['\x7d']

/-- The characters of an object's members. -/
def memberChars : List (String × JsonValue) → List Char
  | [] => []
  | [(name, value)] => quote name ++ ':' :: chars value
  | (name, value) :: member :: members =>
    quote name ++ ':' :: chars value ++ ',' :: memberChars (member :: members)

end

/-- **A value as it is written.** -/
def render (v : JsonValue) : String := String.ofList v.chars

/-- Puts a member among others before the first of a greater name. -/
def insertMember (name : String) (value : JsonValue) :
    List (String × JsonValue) → List (String × JsonValue)
  | [] => [(name, value)]
  | (other, v) :: members =>
    if name ≤ other then (name, value) :: (other, v) :: members
    else (other, v) :: insertMember name value members

mutual

/-- The value with the members of objects in the order of their names. -/
def sortKeys : JsonValue → JsonValue
  | bool b => bool b
  | nat n => nat n
  | text s => text s
  | object members => object (sortMembers members)

/-- The members in the order of their names. -/
def sortMembers : List (String × JsonValue) → List (String × JsonValue)
  | [] => []
  | (name, value) :: members => insertMember name (sortKeys value) (sortMembers members)

end

/-- A word as a number. -/
def word (w : UInt64) : JsonValue := nat w.toNat

end JsonValue

end CardBarrier
