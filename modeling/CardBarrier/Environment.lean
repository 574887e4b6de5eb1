import CardBarrier.Diagnostic
import CardBarrier.Settings

/-!
# Settings from the environment

Five variables of the environment change a setting each. A variable that is not
set, or whose value is not text, leaves its setting as it is and is passed over
in silence; a value that is text but cannot be read is passed over with a
remark. So reading the environment never fails, and a setting that it spoils is
found when the settings are looked at.
-/

namespace CardBarrier

/-- **The variables of an environment**: bytes by name. -/
structure Environment where
  /-- Names and values; the first of a name counts. -/
  entries : List (String × ByteArray) := []

namespace Environment

/-- The value of a variable, if it is set and text. -/
def text? (env : Environment) (name : String) : Option String :=
  (env.entries.lookup name).bind String.fromUTF8?

/-- The text with its letters of the English alphabet in lower case. -/
def lowercase (s : String) : String := String.ofList (s.toList.map Char.toLower)

/-- A switch: a digit, or a word in any mixture of cases. -/
def readSwitch? (s : String) : Option Bool :=
  if s = "1" ∨ lowercase s = "true" then some true
  else if s = "0" ∨ lowercase s = "false" then some false
  else none

/-- The number that decimal digits stand for after others with the value
`n`. -/
def readDigits? (n : Nat) : List Char → Option Nat
  | [] => some n
  | c :: cs => if c.isDigit then readDigits? (10 * n + (c.toNat - '0'.toNat)) cs else none

/-- The digits of a number: without one plus sign in front, and not
none. -/
def digits? (s : String) : Option (List Char) :=
  match s.toList with
  | '+' :: c :: cs => some (c :: cs)
  | '+' :: [] => none
  | [] => none
  | c :: cs => some (c :: cs)

/-- A word in decimal digits, with at most one plus sign in front. -/
def readWord? (s : String) : Option UInt64 := do
  let n ← readDigits? 0 (← digits? s)
  if n < UInt64.size then some (UInt64.ofNat n) else none

/-- **Changes settings as a variable asks**, and remarks on a value that
cannot be read. -/
def override {α : Type} (env : Environment) (name : String) (read? : String → Option α)
    (ignored : String → String → Diagnostic) (apply : α → Settings → Settings)
    (acc : Settings × List Diagnostic) : Settings × List Diagnostic :=
  match env.text? name with
  | none => acc
  | some value =>
    match read? value with
    | some a => (apply a acc.1, acc.2)
    | none => (acc.1, acc.2 ++ [ignored name value])

/-- A switch of the environment. -/
def overrideSwitch (env : Environment) (name : String) (apply : Bool → Settings → Settings) :
    Settings × List Diagnostic → Settings × List Diagnostic :=
  env.override name readSwitch? .ignoredSwitch apply

/-- **The settings that the environment asks for**, and the remarks on what
was passed over. -/
def settings (env : Environment) : Settings × List Diagnostic :=
  (({} : Settings), [])
    |> env.overrideSwitch "CARDMARK_COMPRESSED_REFS"
      (fun b s => { s with compressed := b })
    |> env.override "CARDMARK_CARD_SIZE" readWord? .ignoredNumber
      (fun n s => { s with cardBytes := n })
    |> env.overrideSwitch "CARDMARK_REDUCE_INITIAL_CARD_MARKS"
      (fun b s => { s with elision := { s.elision with reducesInitialMarks := b } })
    |> env.overrideSwitch "CARDMARK_DEFER_INITIAL_CARD_MARK"
      (fun b s => { s with elision := { s.elision with defersInitialMark := b } })
    |> env.overrideSwitch "CARDMARK_VERBOSE" (fun b s => { s with verbose := b })

end Environment

end CardBarrier
