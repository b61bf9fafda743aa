/-! Durations as text: hours, minutes and seconds from a second up (`1m30s`), otherwise the largest
smaller unit that keeps the number at least one (`200ms`, `1.5µs`). -/
namespace Acquisition.Text

/-- `whole.fraction` where `fraction` has `places` digits, trailing zeros dropped. -/
def decimalText (n : Nat) (places : Nat) : String :=
  let whole := n / Nat.pow 10 places
  let frac := n % Nat.pow 10 places
  if frac == 0 then toString whole else
  let digits := toString frac
  let padded := String.ofList (List.replicate (places - digits.length) '0') ++ digits
  toString whole ++ "." ++ String.ofList (padded.toList.reverse.dropWhile (· == '0')).reverse

/-- The text of a duration given in nanoseconds. -/
def durationText (ns : Nat) : String :=
  if ns == 0 then "0s"
  else if ns < 1000 then toString ns ++ "ns"
  else if ns < 1000000 then decimalText ns 3 ++ "µs"
  else if ns < 1000000000 then decimalText ns 6 ++ "ms"
  else
    let seconds := ns % 60000000000
    let minutes := ns / 60000000000 % 60
    let hours := ns / 3600000000000
    let secText := decimalText seconds 9 ++ "s"
    if hours > 0 then toString hours ++ "h" ++ toString minutes ++ "m" ++ secText
    else if minutes > 0 then toString minutes ++ "m" ++ secText
    else secText

end Acquisition.Text
