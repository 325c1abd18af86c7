/-!
# Sorting by an order that can fail

Comparing two things may have no answer.  `sortBy` sorts by such an order and stops at the first
comparison that fails; which one that is depends on what is compared with what, and when.

* `initialRun` — the things in front that already rise, or that fall throughout, as a sorted list.
* `place` — where a thing belongs in a sorted list, by bisection.
* `sortBy` — the initial run, with each of the things after it put in its place.
-/

namespace BusinessCalendar

variable {α ε : Type}

/-- The things in front of which none comes before the one it follows, starting behind `last`, and
the things after them. -/
def risingRun (before : α → α → Except ε Bool) (last : α) : List α → Except ε (List α × List α)
  | [] => .ok ([], [])
  | a :: rest => do
    if ← before a last then return ([], a :: rest)
    let (run, rest) ← risingRun before a rest
    return (a :: run, rest)

/-- The things in front of which each comes before the one it follows, starting behind `last`, and
the things after them. -/
def fallingRun (before : α → α → Except ε Bool) (last : α) : List α → Except ε (List α × List α)
  | [] => .ok ([], [])
  | a :: rest => do
    if ← before a last then
      let (run, rest) ← fallingRun before a rest
      return (a :: run, rest)
    else return ([], a :: rest)

/-- The run in front of a list, in rising order, and the things after it. -/
def initialRun (before : α → α → Except ε Bool) : List α → Except ε (List α × List α)
  | [] => .ok ([], [])
  | [a] => .ok ([a], [])
  | a :: b :: rest => do
    if ← before b a then
      let (run, rest) ← fallingRun before b rest
      return ((a :: b :: run).reverse, rest)
    else
      let (run, rest) ← risingRun before b rest
      return (a :: b :: run, rest)

/-- The place of a thing between two places of a sorted list: behind everything that it does not
come before. -/
def place (before : α → α → Except ε Bool) (a : α) (sorted : List α) (low high : Nat) :
    Except ε Nat :=
  if _h : low < high then
    let middle := low + (high - low) / 2
    match sorted[middle]? with
    | none => .ok low
    | some b => do
      if ← before a b then place before a sorted low middle
      else place before a sorted (middle + 1) high
  else .ok low
termination_by high - low

/-- A thing put in its place in a sorted list. -/
def insertBy (before : α → α → Except ε Bool) (sorted : List α) (a : α) : Except ε (List α) := do
  let i ← place before a sorted 0 sorted.length
  return sorted.insertIdx i a

/-- Things in order; of two that have the same place the one given first stays first. -/
def sortBy (before : α → α → Except ε Bool) (as : List α) : Except ε (List α) := do
  let (run, rest) ← initialRun before as
  rest.foldlM (insertBy before) run

end BusinessCalendar
