import AccessControl.Error

/-! Everything that can be reached step by step from a name, the nearest first. -/

namespace AccessControl

/-- The names among these that were not seen before, each once. -/
def unseen (seen : List String) : List String → List String
  | [] => []
  | name :: rest =>
    if seen.contains name then unseen seen rest else name :: unseen (name :: seen) rest

/-- The names one step behind a level that were not seen before. -/
def nextLevel (step : String → Except Error (List String)) (seen : List String) :
    List String → Except Error (List String)
  | [] => .ok []
  | name :: rest => do
    let fresh := unseen seen (← step name)
    let more ← nextLevel step (fresh ++ seen) rest
    return fresh ++ more

/-- The names behind a level, level by level, for at most so many levels. -/
def levelsBehind (step : String → Except Error (List String)) :
    Nat → List String → List String → Except Error (List String)
  | 0, _, _ => .ok []
  | fuel + 1, seen, level => do
    let next ← nextLevel step seen level
    if next.isEmpty then return []
    else return next ++ (← levelsBehind step fuel (next ++ seen) next)

/-- What can be reached from a name by levels, if there are no more levels than `bound`. -/
def reachByLevels (step : String → Except Error (List String)) (bound : Nat) (start : String) :
    Except Error (List String) :=
  levelsBehind step (bound + 1) [start] [start]

/-- The names behind a queue, which are appended to it as they are found, for at most so many
turns. -/
def queueBehind (step : String → Except Error (List String)) :
    Nat → List String → List String → Except Error (List String)
  | 0, _, _ => .ok []
  | _ + 1, _, [] => .ok []
  | fuel + 1, seen, name :: queue => do
    let fresh := unseen seen (← step name)
    return fresh ++ (← queueBehind step fuel (fresh ++ seen) (queue ++ fresh))

/-- What can be reached from a name by a queue, if no more names than `bound` can be. -/
def reachByQueue (step : String → Except Error (List String)) (bound : Nat) (start : String) :
    Except Error (List String) :=
  queueBehind step (bound + 2) [start] [start]

end AccessControl
