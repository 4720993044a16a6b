/-
**Requests to a model.**

Everything that the holder of a model can want of it is a request: an answer, a change, the text in
a file, a solve, or the end of the model.

* `Request`: the requests.
* `Sink`: where the text of a problem can go.
-/

import LinearProgram.Model.Edit

namespace LinearProgram

/-- What is called with the result of a solve. -/
structure Callback where
  label : String
  /-- How many times the solve is to be started again, one after the other. -/
  repeats : Nat := 0
  deriving DecidableEq, Repr

/-- Where the text of a problem can go. -/
inductive Sink where
  /-- To the caller. -/
  | caller
  | file (path : String)
  /-- A place that takes nothing. -/
  | broken
  deriving DecidableEq, Repr

/-- What the holder of a model can want of it. -/
inductive Request where
  | ask (query : Query)
  | isDisposed
  | edit (edit : Edit)
  | configure (setting : Setting)
  | write (sink : Sink)
  | solve
  /-- A solve in the background. -/
  | solveLater (callback : Callback)
  | dispose
  deriving Repr

end LinearProgram
