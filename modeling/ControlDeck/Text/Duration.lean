/-!
# The text of a duration

Whole milliseconds are written in the largest unit that keeps the number at least one: `0ns`,
`250ms`, `1.5s`, `60s`.
-/

namespace ControlDeck.Text

/-- Up to three decimals of a second, without trailing zeros and with the point before them. -/
def secondFraction (ms : Nat) : String :=
  if ms = 0 then ""
  else if ms % 100 = 0 then s!".{ms / 100}"
  else if ms % 10 = 0 then (if ms < 100 then s!".0{ms / 10}" else s!".{ms / 10}")
  else if ms < 10 then s!".00{ms}"
  else if ms < 100 then s!".0{ms}"
  else s!".{ms}"

/-- The text of a number of milliseconds. -/
def duration (ms : Nat) : String :=
  if ms = 0 then "0ns"
  else if ms < 1000 then s!"{ms}ms"
  else s!"{ms / 1000}{secondFraction (ms % 1000)}s"

end ControlDeck.Text
