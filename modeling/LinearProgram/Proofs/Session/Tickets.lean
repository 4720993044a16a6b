/-
**Tickets, from a solve that is handed over to the call of its callback.**

A solve that is handed to a context gets the next ticket. Its ticket stands with its callback until
the callback is called, and it goes with the solve, and then with its result, through all that is
under way.

* `Submission`: what was handed over with a ticket.
* `Ledger`: how callbacks that wait and errands that are under way agree with what was handed over and
  with the callbacks that were called. Every ticket has a callback that was called or still waits, and
  never both; the ones that wait are under way; and what is under way belongs to the submission of its
  ticket.
* `Ledger.perm`, `Ledger.submit`, `Ledger.attempt`, `Ledger.receive`: what can happen to the errands
  preserves it.
* `Ledger.exists_callback`: every result finds its callback.
* `Ledger.pending_eq`, `Ledger.errands_eq_nil`, `Ledger.called_perm`: what the callbacks that wait tell
  about the rest.
-/

import Mathlib.Data.List.Nodup
import Mathlib.Data.List.Perm.Basic
import LinearProgram.Session.OwnedContext

namespace LinearProgram

variable {World Engine : Type}

/-- **What was handed to a context** with one ticket. -/
structure Submission (Engine : Type) where
  model : Nat
  callback : Callback
  assignment : Assignment Engine

/-- **How callbacks and errands agree with what was handed over**, by ticket, and with the tickets of
the callbacks that were called, in order. What makes a result that of a submission is left open. -/
structure Ledger (IsRunOf : Report Engine → Submission Engine → Prop)
    (submissions : List (Submission Engine)) (called : List Nat) (callbacks : List Registration)
    (errands : List (Errand Engine)) : Prop where
  /-- Every ticket's callback was called or waits, and never both. -/
  once : (called ++ callbacks.map (·.ticket)).Perm (List.range submissions.length)
  /-- What is under way are the tickets of the callbacks that wait. -/
  flying : (errands.map (·.ticket)).Perm (callbacks.map (·.ticket))
  registered : ∀ registration ∈ callbacks, ∃ submission,
    submissions[registration.ticket]? = some submission
      ∧ submission.model = registration.model ∧ submission.callback = registration.callback
  queued : ∀ job, .job job ∈ errands → ∃ submission, submissions[job.ticket]? = some submission
    ∧ submission.model = job.model ∧ submission.assignment = job.assignment
  ran : ∀ report, .report report ∈ errands → ∃ submission,
    submissions[report.ticket]? = some submission ∧ IsRunOf report submission

/-- Taking a callback out by a ticket that has one. -/
theorem takeCallback_spec {ticket : Nat} {callbacks : List Registration}
    (member : ticket ∈ callbacks.map (·.ticket)) :
    ∃ registration, registration.ticket = ticket
      ∧ (Context.takeCallback ticket callbacks).1 = some registration.callback
      ∧ callbacks.Perm (registration :: (Context.takeCallback ticket callbacks).2) := by
  induction callbacks with
  | nil => cases member
  | cons registration rest hyp =>
    rw [Context.takeCallback]
    by_cases same : registration.ticket = ticket
    · rw [if_pos same]
      exact ⟨registration, same, rfl, .refl _⟩
    · rw [if_neg same]
      rcases List.mem_cons.mp member with here | there
      · exact absurd here.symm same
      · obtain ⟨other, has, found, perm⟩ := hyp there
        exact ⟨other, has, found, (perm.cons registration).trans (.swap _ _ _)⟩

theorem getElem?_of_snoc {submissions : List (Submission Engine)} {ticket : Nat}
    {submission : Submission Engine} (found : submissions[ticket]? = some submission)
    (more : List (Submission Engine)) : (submissions ++ more)[ticket]? = some submission := by
  rw [List.getElem?_append_left (List.getElem?_eq_some_iff.mp found).1]
  exact found

namespace Ledger

variable {IsRunOf : Report Engine → Submission Engine → Prop}
  {submissions : List (Submission Engine)} {called : List Nat} {callbacks : List Registration}
  {errands others : List (Errand Engine)}

/-- Nothing was handed over. -/
theorem nil (IsRunOf : Report Engine → Submission Engine → Prop) : Ledger IsRunOf [] [] [] [] where
  once := .refl _
  flying := .refl _
  registered _ member := nomatch member
  queued _ member := nomatch member
  ran _ member := nomatch member

variable (ledger : Ledger IsRunOf submissions called callbacks errands)
include ledger

theorem mono {IsRunOf' : Report Engine → Submission Engine → Prop}
    (weaker : ∀ report submission, IsRunOf report submission → IsRunOf' report submission) :
    Ledger IsRunOf' submissions called callbacks errands := by
  refine { ledger with ran := fun report member => ?_ }
  obtain ⟨submission, found, ran⟩ := ledger.ran report member
  exact ⟨submission, found, weaker report submission ran⟩

/-! ### What can happen to errands -/

/-- Errands change their order. -/
theorem perm (perm : others.Perm errands) : Ledger IsRunOf submissions called callbacks others where
  once := ledger.once
  flying := (perm.map _).trans ledger.flying
  registered := ledger.registered
  queued job member := ledger.queued job (perm.mem_iff.mp member)
  ran report member := ledger.ran report (perm.mem_iff.mp member)

/-- **A solve is handed over.** -/
theorem submit (submission : Submission Engine) :
    Ledger IsRunOf (submissions ++ [submission]) called
      (callbacks ++ [⟨submissions.length, submission.model, submission.callback⟩])
      (errands ++ [.job ⟨submissions.length, submission.model, submission.assignment⟩]) := by
  have last : (submissions ++ [submission])[submissions.length]? = some submission :=
    List.getElem?_concat_length
  constructor
  case once =>
    rw [List.map_append, List.length_append, List.length_singleton, List.range_succ,
      ← List.append_assoc]
    exact ledger.once.append_right _
  case flying =>
    rw [List.map_append, List.map_append]
    exact ledger.flying.append_right _
  case registered =>
    intro registration member
    rcases List.mem_append.mp member with member | member
    · obtain ⟨other, found, same⟩ := ledger.registered registration member
      exact ⟨other, getElem?_of_snoc found _, same⟩
    · obtain rfl := List.mem_singleton.mp member
      exact ⟨submission, last, rfl, rfl⟩
  case queued =>
    intro job member
    rcases List.mem_append.mp member with member | member
    · obtain ⟨other, found, same⟩ := ledger.queued job member
      exact ⟨other, getElem?_of_snoc found _, same⟩
    · cases List.mem_singleton.mp member
      exact ⟨submission, last, rfl, rfl⟩
  case ran =>
    intro report member
    rcases List.mem_append.mp member with member | member
    · obtain ⟨other, found, same⟩ := ledger.ran report member
      exact ⟨other, getElem?_of_snoc found _, same⟩
    · cases List.mem_singleton.mp member

/-- **The engine of a solve runs**, and its result stands where the solve stood. -/
theorem attempt {front back : List (Errand Engine)} {job : Job Engine} (attempt : Attempt Engine)
    (place : errands = front ++ .job job :: back)
    (ours : ∀ submission : Submission Engine, submission.model = job.model →
      submission.assignment = job.assignment →
        IsRunOf ⟨job.ticket, job.model, attempt⟩ submission) :
    Ledger IsRunOf submissions called callbacks
      (front ++ .report ⟨job.ticket, job.model, attempt⟩ :: back) := by
  subst place
  constructor
  case once => exact ledger.once
  case flying =>
    have flying := ledger.flying
    rw [List.map_append, List.map_cons] at flying ⊢
    exact flying
  case registered => exact ledger.registered
  case queued =>
    intro other member
    refine ledger.queued other ?_
    rcases List.mem_append.mp member with member | member
    · exact List.mem_append_left _ member
    · rcases List.mem_cons.mp member with same | member
      · cases same
      · exact List.mem_append_right _ (List.mem_cons_of_mem _ member)
  case ran =>
    intro report member
    rcases List.mem_append.mp member with member | member
    · exact ledger.ran report (List.mem_append_left _ member)
    · rcases List.mem_cons.mp member with same | member
      · cases same
        obtain ⟨submission, found, model, assignment⟩ :=
          ledger.queued job (List.mem_append_right _ List.mem_cons_self)
        exact ⟨submission, found, ours submission model assignment⟩
      · exact ledger.ran report (List.mem_append_right _ (List.mem_cons_of_mem _ member))

/-- **Every result finds its callback**, which is that of its own submission. -/
theorem exists_callback {report : Report Engine} {rest : List (Errand Engine)}
    (next : errands = .report report :: rest) : ∃ submission registration,
      submissions[report.ticket]? = some submission ∧ IsRunOf report submission
        ∧ registration.ticket = report.ticket
        ∧ (Context.takeCallback report.ticket callbacks).1 = some submission.callback
        ∧ callbacks.Perm (registration :: (Context.takeCallback report.ticket callbacks).2) := by
  have inside : report.ticket ∈ callbacks.map (·.ticket) := by
    refine ledger.flying.mem_iff.mp ?_
    rw [next]
    exact List.mem_cons_self
  obtain ⟨registration, ticket, taken, perm⟩ := takeCallback_spec inside
  obtain ⟨submission, found, ran⟩ := ledger.ran report (next ▸ List.mem_cons_self)
  obtain ⟨other, found', -, same⟩ :=
    ledger.registered registration (perm.mem_iff.mpr List.mem_cons_self)
  rw [ticket, found] at found'
  obtain rfl := Option.some.inj found'
  rw [← same] at taken
  exact ⟨submission, registration, found, ran, ticket, taken, perm⟩

/-- **A result is taken and its callback is called.** -/
theorem receive {report : Report Engine} {rest : List (Errand Engine)}
    (next : errands = .report report :: rest) :
    Ledger IsRunOf submissions (called ++ [report.ticket])
      (Context.takeCallback report.ticket callbacks).2 rest := by
  obtain ⟨-, registration, -, -, ticket, -, perm⟩ := ledger.exists_callback next
  have waiting := perm.map (·.ticket)
  rw [List.map_cons, ticket] at waiting
  constructor
  case once =>
    refine List.Perm.trans ?_ ledger.once
    rw [List.append_assoc]
    exact waiting.symm.append_left called
  case flying =>
    have all := ledger.flying.trans waiting
    rw [next] at all
    exact all.cons_inv
  case registered =>
    intro other there
    exact ledger.registered other (perm.mem_iff.mpr (List.mem_cons_of_mem _ there))
  case queued => exact fun job there => ledger.queued job (next ▸ List.mem_cons_of_mem _ there)
  case ran => exact fun other there => ledger.ran other (next ▸ List.mem_cons_of_mem _ there)

/-! ### What the callbacks that wait tell -/

/-- The callbacks that wait are those of the tickets that were not called. -/
theorem pending_eq : callbacks.length
    = (List.range submissions.length).countP fun ticket => ticket ∉ called := by
  have once : (called ++ callbacks.map (·.ticket)).Nodup :=
    ledger.once.nodup_iff.mpr List.nodup_range
  obtain ⟨-, -, apart⟩ := List.nodup_append'.mp once
  have none : called.countP (fun ticket => ticket ∉ called) = 0 := by
    refine List.countP_eq_zero.mpr fun ticket member => ?_
    simpa using member
  have all : (callbacks.map (·.ticket)).countP (fun ticket => ticket ∉ called)
      = (callbacks.map (·.ticket)).length := by
    refine List.countP_eq_length.mpr fun ticket member => ?_
    simpa using fun there => apart there member
  rw [← ledger.once.countP_eq, List.countP_append, none, all, Nat.zero_add, List.length_map]

/-- Without a callback that waits nothing is under way. -/
theorem errands_eq_nil (none : callbacks = []) : errands = [] := by
  have flying := ledger.flying
  rw [none] at flying
  exact List.map_eq_nil_iff.mp flying.eq_nil

/-- If nothing is under way then every callback was called. -/
theorem called_perm (none : errands = []) :
    called.Perm (List.range submissions.length) ∧ callbacks = [] := by
  have flying := ledger.flying
  rw [none] at flying
  have empty := List.map_eq_nil_iff.mp flying.symm.eq_nil
  have once := ledger.once
  rw [empty, List.map_nil, List.append_nil] at once
  exact ⟨once, empty⟩

end Ledger

end LinearProgram
