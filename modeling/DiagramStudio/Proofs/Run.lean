/-!
# Runs and counters

A step function takes a state and an input to the next state and an answer. What is said about the
history of a run, such as the answers that it gave, is read off the list of its moments. What is
counted in a run is counted by numbers that wrap around.

Results:
* `moments_append`: the moments of a run that goes on are those of its two parts.
* `toNat_succ_of_lt`: a counter goes on by one until it wraps around.
-/

namespace DiagramStudio

variable {σ ι α : Type}

/-- The inputs of a run, each with the state in which it came. -/
def moments (step : σ → ι → σ × α) (start : σ) : List ι → List (σ × ι)
  | [] => []
  | input :: rest => (start, input) :: moments step (step start input).1 rest

theorem moments_append (step : σ → ι → σ × α) (start : σ) (earlier later : List ι) :
    moments step start (earlier ++ later) =
      moments step start earlier ++
        moments step (earlier.foldl (fun state input => (step state input).1) start) later := by
  induction earlier generalizing start with
  | nil => rfl
  | cons input earlier ih =>
    simp only [List.cons_append, moments, List.foldl_cons, ih]

/-- A counter that is not at its end goes on by one. -/
theorem toNat_succ_of_lt {n : UInt64} (h : n.toNat + 1 < UInt64.size) :
    (n + 1).toNat = n.toNat + 1 := by
  rw [UInt64.toNat_add]
  exact Nat.mod_eq_of_lt h

end DiagramStudio
