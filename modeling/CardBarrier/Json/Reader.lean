import CardBarrier.Json

/-!
# Reading the part of JSON that a barrier writes

A reader takes a value from the front of a text and hands back what follows it, or finds that no
value is there. It takes any escape that the format knows, whether or not one is ever written, and
nothing between the tokens.

Values are read one inside the other, and so a reader is given how many of them it may open; a text
cannot hold more of them than it has characters (`JsonValue.read?`).
-/

namespace CardBarrier

namespace JsonValue

/-- The character that an escape by a letter stands for. -/
def unescape? : Char → Option Char
  | '"' => some '"'
  | '\\' => some '\\'
  | '/' => some '/'
  | 'b' => some '\x08'
  | 't' => some '\t'
  | 'n' => some '\n'
  | 'f' => some '\x0c'
  | 'r' => some '\r'
  | _ => none

/-- The value of a hexadecimal digit. -/
def hexValue? (c : Char) : Option Nat :=
  if '0' ≤ c ∧ c ≤ '9' then some (c.toNat - '0'.toNat)
  else if 'a' ≤ c ∧ c ≤ 'f' then some (c.toNat - 'a'.toNat + 10)
  else if 'A' ≤ c ∧ c ≤ 'F' then some (c.toNat - 'A'.toNat + 10)
  else none

/-- The character with a number in four hexadecimal digits, where there is one. -/
def codePoint? (a b c d : Char) : Option Char := do
  let n := 4096 * (← hexValue? a) + 256 * (← hexValue? b) + 16 * (← hexValue? c) + (← hexValue? d)
  if n.isValidChar then some (Char.ofNat n) else none

/-- **Reads a text** up to the quote at its end. -/
def readText? : List Char → Option (List Char × List Char)
  | [] => none
  | '"' :: rest => some ([], rest)
  | '\\' :: 'u' :: a :: b :: c :: d :: rest => do
    let x ← codePoint? a b c d
    let (cs, rest) ← readText? rest
    return (x :: cs, rest)
  | '\\' :: letter :: rest => do
    let x ← unescape? letter
    let (cs, rest) ← readText? rest
    return (x :: cs, rest)
  | c :: rest => do
    if c = '\\' ∨ c.toNat < 0x20 then none
    let (cs, rest) ← readText? rest
    return (c :: cs, rest)

/-- **Reads a natural number**: all digits that there are, and one at least. -/
def readNat? (cs : List Char) : Option (Nat × List Char) :=
  let digits := cs.takeWhile Char.isDigit
  if digits = [] then none
  else some (Nat.ofDigitChars 10 digits 0, cs.dropWhile Char.isDigit)

mutual

/-- **Reads a value** with no more than so many values and members open. -/
def readValue? : Nat → List Char → Option (JsonValue × List Char)
  | 0, _ => none
  | _ + 1, 't' :: 'r' :: 'u' :: 'e' :: rest => some (bool true, rest)
  | _ + 1, 'f' :: 'a' :: 'l' :: 's' :: 'e' :: rest => some (bool false, rest)
  | _ + 1, '"' :: rest => do
    let (cs, rest) ← readText? rest
    return (text (String.ofList cs), rest)
  | _ + 1, '\x7b' :: '\x7d' :: rest => some (object [], rest)
  | n + 1, '\x7b' :: rest => do
    let (members, rest) ← readMembers? n rest
    return (object members, rest)
  | _ + 1, cs => do
    let (number, rest) ← readNat? cs
    return (nat number, rest)

/-- Reads the members of an object up to the bracket at its end. -/
def readMembers? : Nat → List Char → Option (List (String × JsonValue) × List Char)
  | n + 1, '"' :: rest => do
    let (name, rest) ← readText? rest
    match rest with
    | ':' :: rest =>
      let (value, rest) ← readValue? n rest
      match rest with
      | '\x7d' :: rest => some ([(String.ofList name, value)], rest)
      | ',' :: rest =>
        let (members, rest) ← readMembers? n rest
        return ((String.ofList name, value) :: members, rest)
      | _ => none
    | _ => none
  | _, _ => none

end

/-- **The value that a text is**, if it is one and nothing else. -/
def read? (s : String) : Option JsonValue :=
  match readValue? (s.toList.length + 1) s.toList with
  | some (value, []) => some value
  | _ => none

/-! ## What a value holds -/

/-- The truth value that a value is. -/
def bool? : JsonValue → Option Bool
  | bool b => some b
  | _ => none

/-- The word that a value is; a number may be too great for one. -/
def word? : JsonValue → Option UInt64
  | nat n => if n < UInt64.size then some (UInt64.ofNat n) else none
  | _ => none

/-- The text that a value is. -/
def text? : JsonValue → Option String
  | text s => some s
  | _ => none

/-- **The member of an object** with that name; the first of several counts. -/
def member? (v : JsonValue) (name : String) : Option JsonValue :=
  match v with
  | object members => members.lookup name
  | _ => none

/-- The truth value with that name. -/
def boolAt? (v : JsonValue) (name : String) : Option Bool := (v.member? name).bind bool?

/-- The word with that name. -/
def wordAt? (v : JsonValue) (name : String) : Option UInt64 := (v.member? name).bind word?

/-- The text with that name. -/
def textAt? (v : JsonValue) (name : String) : Option String := (v.member? name).bind text?

end JsonValue

end CardBarrier
