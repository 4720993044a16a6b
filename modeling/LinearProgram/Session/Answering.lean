/-
**Answering the requests to the models of a session.**

* `Session.answer`: a request to a model that is held.
* `Session.construct`, `Session.call`: calls of a host, which are decoded before anything else is
  looked at.
-/

import LinearProgram.Host.Call
import LinearProgram.Session.Background

namespace LinearProgram

namespace Session

variable {World Engine : Type}

/-- Puts a model back after a request that concerned nothing else. -/
def replaced {α : Type} (session : Session World Engine) (number : Nat)
    (outcome : Except Error α × Model Engine) : Except Error α × Session World Engine :=
  (outcome.1, session.setModel number outcome.2)

/-- Puts the text of a problem where it is wanted. -/
def put (session : Session World Engine) (text : String) (sink : Sink) :
    Except Error Answer × Session World Engine :=
  match sink with
  | .caller => (.ok (.text text), session)
  | .broken => (.error .file, session)
  | .file path =>
    match session.disk.write? path text.toUTF8.toList with
    | none => (.error .file, session)
    | some disk => (.ok (.flag true), { session with disk })

/-- Writes the problem of a model. -/
def write (session : Session World Engine) (number : Nat) (model : Model Engine) (sink : Sink) :
    Except Error Answer × Session World Engine :=
  match model.ask .text with
  | (.ok (.text text), model) => (session.setModel number model).put text sink
  | outcome => session.replaced number outcome

/-- Solves a model while its holder waits. -/
def solve (session : Session World Engine) (number : Nat) :
    Except Error Status × Session World Engine :=
  match session.begin number with
  | (.error error, session) => (.error error, session)
  | (.ok assignment, session) =>
    let (attempt, world) := session.solver.attempt assignment session.world
    { session with world }.pass attempt.duration |>.finish number attempt

/-- Starts a solve of a model in the background. The session gets a context for it, whether or not
the solve can be started. -/
def solveLater (session : Session World Engine) (number : Nat) (callback : Callback) :
    Except Error Unit × Session World Engine :=
  match session.withContext.begin number with
  | (.error error, session) => (.error error, session)
  | (.ok assignment, session) => (.ok (), session.submit number assignment callback)

/-- **Answers a request** to a model. -/
def perform (session : Session World Engine) (number : Nat) (model : Model Engine)
    (request : Request) : Except Error Answer × Session World Engine :=
  match request with
  | .ask query => session.replaced number (model.ask query)
  | .isDisposed => (.ok (.flag model.isDisposed), session)
  | .edit edit =>
    let (accepted, model) := model.edit edit
    session.replaced number (accepted.map edit.answer, model)
  | .configure setting => session.replaced number (model.configure setting)
  | .write sink => session.write number model sink
  | .solve =>
    let (result, session) := session.solve number
    (result.map .status, session)
  | .solveLater callback =>
    let (result, session) := session.solveLater number callback
    (result.map fun _ => .done, session)
  | .dispose =>
    let (result, model) := model.dispose
    session.replaced number (result.map fun _ => .done, model)

/-- **Answers a request to the model in a slot**, if there is one. The workers go on at once. -/
def answer (session : Session World Engine) (slot : Nat) (request : Request) :
    Option (Except Error Answer × Session World Engine) :=
  (session.model? slot).map fun (number, model) =>
    let (result, session) := session.perform number model request
    (result, session.pass 0)

/-- **Makes a model for a host.** -/
def construct (session : Session World Engine) (slot : Nat) (function : String)
    (arguments : Host.Arguments) : Except Error Unit × Session World Engine :=
  match Host.Construction.decode function arguments with
  | .error error => (.error error, session)
  | .ok (.make rows columns) => session.create slot rows columns
  | .ok (.read path verbosity name) => session.read slot (.file path) verbosity name

/-- **Answers a call of a host** to the model in a slot, if there is one. -/
def call (session : Session World Engine) (slot : Nat) (method : String)
    (arguments : Host.Arguments) : Option (Except Error Host.Value × Session World Engine) :=
  (session.model? slot).map fun (number, model) =>
    match Host.Call.decode method arguments with
    | .error error => (.error error, session)
    | .ok .decline => (.ok (.bool false), session)
    | .ok (.request request) =>
      let (result, session) := session.perform number model request
      (result.map (Host.Call.value request), session.pass 0)

end Session

end LinearProgram
