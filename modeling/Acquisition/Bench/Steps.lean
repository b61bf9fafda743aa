import Acquisition.Bench.Answer
/-! Stateful requests: a list of steps over one state, one answer per step, with the error's members
added to a step that fails. -/
namespace Acquisition.Bench

abbrev Members := List (String × Json)

def runSteps {σ : Type} (step : σ → Json → Run (Members × σ)) : σ → List Json → Run (List Json × σ)
  | s, [] => pure ([], s)
  | s, j :: rest => do
    let (members, s') ← step s j
    let (answers, s'') ← runSteps step s' rest
    pure (.object members :: answers, s'')

def stepsAnswer {σ : Type} (step : σ → Json → Run (Members × σ)) (init : σ) (request : Json) :
    Run (Json × σ) := do
  let list ← listOr request "steps"
  let (answers, final) ← runSteps step init list
  pure (.object [("steps", .array answers)], final)

end Acquisition.Bench
