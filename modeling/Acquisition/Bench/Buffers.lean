import Acquisition.Bench.Steps
import Acquisition.Queue.Ring
import Acquisition.Sample.Mode
/-!
Bench requests for the sample ring, measurement modes and batches.
-/
namespace Acquisition.Bench

def ringStep (q : Ring Int64) (step : Json) : Run (Members × Ring Int64) := do
  let action ← string step "do"
  let (members, q) ← match action with
    | "push" => do
      let v ← int step "value" >>= inRange "value" (-Nat.pow 2 63) (Nat.pow 2 63 - 1)
      let (ok, q) := q.push (Int64.ofInt v)
      pure ([("ok", .bool ok)], q)
    | "pop" =>
      match q.pop with
      | (some v, q) => pure ([("ok", .bool true), ("value", .int v.toInt)], q)
      | (none, q) => pure ([("ok", .bool false), ("value", .int 0)], q)
    | "pop_batch" => do
      let n ← int step "n" >>= inRange "n" 0 65536
      let (count, dst, q) := q.popBatch (Array.replicate n.toNat 0)
      pure ([("n", Json.nat count), ("values", .array ((dst.extract 0 count).toList.map fun v => .int v.toInt))], q)
    | "drain" =>
      let (n, q) := q.drain
      pure ([("n", .nat n)], q)
    | "cap" => pure ([("cap", .nat q.capacity)], q)
    | "empty" => pure ([("empty", .bool q.isEmpty)], q)
    | "len" => pure ([], q)
    | other => refuse ("unknown queue step " ++ Text.quote other)
  pure (members ++ [("len", .int q.length)], q)

def ring (request : Json) : Run Json := do
  let capacity ← int request "capacity"
  if capacity > Nat.pow 2 20 then fieldRefusal "capacity" "too large" else
  match (Ring.new? capacity : Except String (Ring Int64)) with
  | .error m => throw (.panic m)
  | .ok q => return (← stepsAnswer ringStep q request).1

def modeParse (label : Cause → String) (request : Json) : Run Json := do
  let name ← string request "name"
  match Mode.parse name with
  | .ok m => pure (.object [("mode", .int m.code)])
  | .error f => pure (.object (faultMembers label f))

def modeString (request : Json) : Run Json := do
  let code ← int request "mode"
  pure (.object [("name", .string (Mode.describe code)), ("valid", .bool (Mode.ofCode? code).isSome)])

def batchState (b : Batch) : List (String × Json) :=
  [("batch", batch b), ("len", .nat b.length), ("empty", .bool b.isEmpty)]

def batchConcat (request : Json) : Run Json := do
  let bs ← (← listOr request "batches").mapM (asBatch "batches")
  pure (.object (batchState (Batch.concat bs)))

def batchStep (b : Batch) (step : Json) : Run (Members × Batch) := do
  let b ← match ← string step "do" with
    | "append" => do pure (b ++ (← asBatch "batch" (← required step "batch")))
    | "reset" => pure Batch.empty
    | "state" => pure b
    | other => refuse ("unknown batch step " ++ Text.quote other)
  pure (batchState b, b)

def batchOps (request : Json) : Run Json := do
  let _ ← intOr request "capacity" 0
  return (← stepsAnswer batchStep Batch.empty request).1

end Acquisition.Bench
