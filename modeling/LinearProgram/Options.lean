/-
**What a model asks of its engine besides the problem.**

* `Verbosity`: how much the engine reports, with the numbers of the host interface.
* `Options`: the settings handed to the engine at every solve.
* `version`: the version of the library.
-/

namespace LinearProgram

/-- How much the engine reports about its work. -/
inductive Verbosity where
  | neutral
  | critical
  | severe
  | important
  | normal
  | detailed
  | full
  deriving DecidableEq, Repr

namespace Verbosity

instance : Inhabited Verbosity := ⟨normal⟩

/-- Every level, from the quietest. -/
def all : List Verbosity :=
  [neutral, critical, severe, important, normal, detailed, full]

/-- The number of a level. -/
def code : Verbosity → Int
  | neutral => 0
  | critical => 1
  | severe => 2
  | important => 3
  | normal => 4
  | detailed => 5
  | full => 6

/-- The level with a given number. -/
def ofCode? (number : Int) : Option Verbosity :=
  all.find? fun verbosity => verbosity.code == number

/-- The short name of a level. -/
def label : Verbosity → String
  | neutral => "Neutral"
  | critical => "Critical"
  | severe => "Severe"
  | important => "Important"
  | normal => "Normal"
  | detailed => "Detailed"
  | full => "Full"

@[simp] theorem ofCode?_code (verbosity : Verbosity) :
    ofCode? verbosity.code = some verbosity := by
  cases verbosity <;> rfl

end Verbosity

/-- The settings a model hands to its engine at every solve. -/
structure Options where
  verbosity : Verbosity := .normal
  /-- The time limit in seconds; zero means none. -/
  timeout : Nat := 0
  /-- Whether to stop at the first feasible integer point. -/
  breakAtFirst : Bool := false
  /-- Whether appended rows may wait to be put in order. -/
  rowMode : Bool := false
  deriving DecidableEq, Repr

instance : Inhabited Options := ⟨{}⟩

/-- The version of the library: major, minor, release and build. -/
def version : Nat × Nat × Nat × Nat :=
  (0, 1, 0, 0)

end LinearProgram
