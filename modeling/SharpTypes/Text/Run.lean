/-
Sets of code points and maps between them, written down as stretches. A property of characters is a
list of runs in increasing order; a case map is a list of shifts in increasing order. Both are
searched from the front, and the search stops at the first stretch that begins after the code
point, which for plain Latin text is at once.
-/

namespace SharpTypes.Text

/-- The code points `first`, `first + step`, … up to `last`. -/
structure Run where
  first : Nat
  last : Nat
  step : Nat
  deriving DecidableEq, Repr

namespace Run

/-- Whether a code point lies on the run. -/
def contains (run : Run) (code : Nat) : Bool :=
  run.first ≤ code && code ≤ run.last && (code - run.first) % run.step == 0

/-- Whether one of the runs, which are in increasing order, contains the code point. -/
def cover : List Run → Nat → Bool
  | [], _ => false
  | run :: later, code =>
    if code < run.first then false
    else if code ≤ run.last then run.contains code
    else cover later code

/-- What is covered lies on one of the runs. -/
theorem exists_contains_of_cover {runs : List Run} {code : Nat} (covered : cover runs code = true) :
    ∃ run ∈ runs, run.contains code = true := by
  induction runs with
  | nil => simp [cover] at covered
  | cons run later inductionHypothesis =>
    unfold cover at covered
    split at covered
    · simp at covered
    · split at covered
      · exact ⟨run, List.mem_cons_self, covered⟩
      · obtain ⟨found, member, holds⟩ := inductionHypothesis covered
        exact ⟨found, List.mem_cons_of_mem _ member, holds⟩

end Run

/-- The code points of a run, each moved by the same distance. -/
structure Shift where
  first : Nat
  last : Nat
  step : Nat
  distance : Int
  deriving DecidableEq, Repr

namespace Shift

/-- The code points that a shift moves. -/
def domain (shift : Shift) : Run :=
  ⟨shift.first, shift.last, shift.step⟩

/-- Where the shifts, which are in increasing order, take the code point, if anywhere. -/
def target? : List Shift → Nat → Option Nat
  | [], _ => none
  | shift :: later, code =>
    if code < shift.first then none
    else if code ≤ shift.last then
      if shift.domain.contains code then some ((code : Int) + shift.distance).toNat else none
    else target? later code

/-- A target is the code point moved by one of the shifts. -/
theorem exists_of_target? {shifts : List Shift} {code target : Nat}
    (found : target? shifts code = some target) :
    ∃ shift ∈ shifts, shift.domain.contains code = true ∧
      target = ((code : Int) + shift.distance).toNat := by
  induction shifts with
  | nil => simp [target?] at found
  | cons shift later inductionHypothesis =>
    unfold target? at found
    split at found
    · simp at found
    · split at found
      · split at found
        · next holds =>
          exact ⟨shift, List.mem_cons_self, holds, (Option.some.inj found).symm⟩
        · simp at found
      · obtain ⟨other, member, holds⟩ := inductionHypothesis found
        exact ⟨other, List.mem_cons_of_mem _ member, holds⟩

end Shift

end SharpTypes.Text
