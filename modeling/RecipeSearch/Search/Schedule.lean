import RecipeSearch.Recipe.Basic

/-!
# When terms are looked up

The terms of a search are looked up side by side, but only so many at once. Time counts from the start of the search.
The first terms, as many as the window allows, start at once, and each later one when the term that stands a window
before it has been taken in; a term is taken in when its own look-ups have ended and the term before it has been taken
in. A search can be cancelled on the way (`Cancel`), which is noticed only between terms.
-/

namespace RecipeSearch.Search

/-- When a term starts to be looked up, and when it is taken in. -/
structure Turn where
  start : Nat
  done : Nat
  deriving DecidableEq, Repr

/-- The turn of a term whose look-ups last `duration`, after the turns of the terms before it. -/
def nextTurn (window : Nat) (past : List Turn) (duration : Nat) : Turn :=
  let start := if past.length < window then 0 else (past[past.length - window]?.map Turn.done).getD 0
  let previous := (past.getLast?.map Turn.done).getD 0
  ⟨start, max (start + duration) previous⟩

/-- The turns of terms with the given durations, after those in `past`. -/
def scheduleFrom (window : Nat) (past : List Turn) : List Nat → List Turn
  | [] => []
  | duration :: durations =>
    let turn := nextTurn window past duration
    turn :: scheduleFrom window (past ++ [turn]) durations

/-- The turns of terms with the given durations, of which at most `window` are looked up at once. -/
def schedule (window : Nat) (durations : List Nat) : List Turn :=
  scheduleFrom window [] durations

/-! ## Cancelling -/

/-- When a search is cancelled. -/
inductive Cancel where
  | never
  /-- Before the search starts. -/
  | before
  /-- While the `n`-th look-up is made, counting from one over all terms. -/
  | atCall (n : Nat)
  /-- At a time at which no look-up ends. -/
  | atTime (t : Nat)
  deriving DecidableEq, Repr

namespace Cancel

/-- The place of the term in whose look-ups the `n`-th look-up falls. -/
def termOfCall (n : Nat) : Nat :=
  (n - 1) / Facet.all.length

/-- The number of terms that have been taken in when the cancellation is noticed, none if it never is. A term that is
looked up without delay while the search is cancelled is still taken in. -/
def cutoff (turns : List Turn) : Cancel → Option Nat
  | never => none
  | before => some 0
  | atCall n =>
    if n = 0 then none
    else turns[termOfCall n]?.map fun turn =>
      ((turns.take (termOfCall n + 1)).takeWhile (·.done ≤ turn.start)).length
  | atTime t =>
    let taken := (turns.takeWhile (·.done < t)).length
    if taken < turns.length then some taken else none

/-- The number of terms whose look-ups have been started when the cancellation is noticed. -/
def started (turns : List Turn) : Cancel → Nat
  | never => turns.length
  | before => 0
  | atCall n => min (termOfCall n + 1) turns.length
  | atTime t => (turns.takeWhile (·.start < t)).length

/-- The time at which the cancellation is noticed. -/
def time (turns : List Turn) : Cancel → Nat
  | never => 0
  | before => 0
  | atCall n => (turns[termOfCall n]?.map Turn.start).getD 0
  | atTime t => t

end Cancel

end RecipeSearch.Search
