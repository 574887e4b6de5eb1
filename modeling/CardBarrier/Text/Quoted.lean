import CardBarrier.Text.Graphic

/-!
# Text between quotes, for people

A value that was read from outside is reported between double quotes, with
everything escaped that would not be seen as it is: the quote itself and the
backslash, the usual control characters by a letter, and any other character
that shows nothing, or only on the character before it, by its number.
-/

namespace CardBarrier.Text

/-- A character by its number. -/
def escapeCode (c : Char) : List Char :=
  ['\\', 'u', '\x7b'] ++ Nat.toDigits 16 c.toNat ++ ['\x7d']

/-- A character as it stands between quotes. -/
def escape (c : Char) : List Char :=
  match c with
  | '\x00' => ['\\', '0']
  | '\t' => ['\\', 't']
  | '\r' => ['\\', 'r']
  | '\n' => ['\\', 'n']
  | '\\' => ['\\', '\\']
  | '"' => ['\\', '"']
  | _ => if extendsGrapheme c || !isPrintable c then escapeCode c else [c]

/-- Text between double quotes. -/
def quoted (s : String) : String :=
  String.ofList ('"' :: s.toList.flatMap escape ++ ['"'])

end CardBarrier.Text
