import Acquisition.Bench.Request
import Acquisition.Workshop.Tasks
/-! Bench requests that run the developer tool on `args`, with the hardware variable set from `hw`.
-/
namespace Acquisition.Bench

def workshop (request : Json) : Run Json := do
  let args ← (← listOr request "args").mapM (asString "args")
  let hardware ← (member? request "hw").mapM (asString "hw")
  let answer := Workshop.runTool { hardware } args
  let base : List (String × Json) := [("out", .string answer.out), ("stdout", .string "")]
  pure (.object (match answer.error with
    | some message => base ++ [("error", .string "error"), ("message", .string message)]
    | none => base))

end Acquisition.Bench
