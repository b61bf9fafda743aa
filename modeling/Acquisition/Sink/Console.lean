import Acquisition.Sink.Basic
import Acquisition.Decimal.Fixed
/-! The console sink prints one line per burst: its length, each channel's mean with two places, and
the lost bursts when there are any. -/
namespace Acquisition

/-- The console line of a burst summary, ending in a newline. -/
def Summary.consoleLine (s : Summary) : String :=
  let channels := (List.range 4).zip s.channels.toList |>.map fun (i, c) =>
    "  ch" ++ toString (i + 1) ++ " " ++ Decimal.padLeft 9 (c.mean.fixedText 2)
  let lost := if s.dropped > 0 then "  dropped " ++ toString s.dropped else ""
  "burst " ++ Decimal.padLeft 6 (toString s.samples) ++ String.join channels ++ lost ++ "\n"

def consoleSink : Sink String where
  write b dropped := modify (· ++ (Summary.ofBatch b dropped).consoleLine)
  close := pure ()

end Acquisition
