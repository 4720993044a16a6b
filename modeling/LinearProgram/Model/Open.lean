/-
**New models.**

A model starts from dimensions or from a text in the LP format. The problem comes first: an engine
is made only for a problem that can be stored or was read without fault.

* `Model.create`: a model of empty rows and continuous columns.
* `Model.read`: a model from the bytes of a text, under a name of its own.
-/

import LinearProgram.Lp.Reader
import LinearProgram.Model.Solve
import LinearProgram.Text.Utf8

namespace LinearProgram

variable {World Engine : Type}

/-- The problem that the bytes of a text describe. Bytes that are no text are a fault on the line
where they stand. -/
def Lp.parseBytes (bytes : List UInt8) : Except Lp.Failure Problem :=
  match Text.decode bytes with
  | .ok text => Lp.parse (String.ofList text)
  | .error valid => .error ⟨1 + valid.count '\n', .invalidEncoding⟩

namespace Model

/-- A model of a problem with a new engine. -/
def start (solver : Solver World Engine) (problem : Problem) (options : Options) (world : World) :
    Except Error (Model Engine) × World :=
  match solver.create world with
  | (.error message, world) => (.error (.engine message), world)
  | (.ok engine, world) => (.ok { problem, options, engine := some engine }, world)

/-- **A model of empty rows and continuous columns.** -/
def create (solver : Solver World Engine) (rows columns : Nat) (world : World) :
    Except Error (Model Engine) × World :=
  match Problem.ofSize? rows columns with
  | none => (.error (.dimensions rows columns), world)
  | some problem => start solver problem {} world

/-- **A model of the problem that a text describes.** The name replaces one that the text may have
given in a comment. -/
def read (solver : Solver World Engine) (bytes : List UInt8) (verbosity : Verbosity) (name : String)
    (world : World) : Except Error (Model Engine) × World :=
  match Lp.parseBytes bytes with
  | .error failure => (.error (.parse failure), world)
  | .ok problem => start solver { problem with name } { verbosity } world

end Model

end LinearProgram
