import CardBarrier.EventLog

/-!
# What a console shows

A console shows the printed lines one below the other, and a line that holds line
breaks takes several rows. To compare what two runs have shown, the times at the
beginning of rows are hidden: every digit of a time is shown as `D`, and the rest
of the row stays as it is.
-/

namespace CardBarrier.Console

/-- A time between brackets, with its digits hidden, and the blank after
it. -/
def hiddenTime : String := "[DDDD-DD-DD DD:DD:DD.DDD] "

/-- The rest of a text that begins as a pattern does, where `D` is any
digit. -/
def afterMatch : List Char → List Char → Option (List Char)
  | [], rest => some rest
  | _ :: _, [] => none
  | p :: pattern, c :: text =>
    if p == c || (p == 'D' && c.isDigit) then afterMatch pattern text else none

/-- A row without the time at its beginning. -/
def hideTime (row : String) : String :=
  match afterMatch hiddenTime.toList row.toList with
  | some rest => hiddenTime ++ String.ofList rest
  | none => row

/-- **The rows that lines take**, with times hidden. -/
def rows (lines : List Line) : List String :=
  lines.flatMap fun line =>
    ((line.render "DDDD-DD-DD DD:DD:DD.DDD").splitOn "\n").map hideTime

end CardBarrier.Console
