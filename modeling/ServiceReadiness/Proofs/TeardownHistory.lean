/-
# The history of a teardown registry

A registry is filled by registrations and emptied in one of two ways: its actions are
handed out (`drain`), or they are run (`runAll`).  Both take out all that it holds, newest
first, and what the daemon answers has no part in what is left.

Two things are kept along a history of such operations.  What one operation adds goes
behind what was there, and what it takes out was all that was there
(`actions_append_adds`); by induction on the history, what was ever added is what was ever
taken out and what is there now, in one sequence (`actions_append_added`).  And what is
there now are the actions registered since the registry was last emptied, each of them at
the place where it came first (`actions_after`); this induction is on the last operation,
since a history is read backwards from its end to find the last emptying.
-/

import Mathlib.Data.List.DropRight
import Mathlib.Data.List.Nodup
import ServiceReadiness.Container.Teardown

namespace ServiceReadiness

namespace TeardownAction

/-- An action fails: the daemon does not stop its container, or does not remove it. -/
def fails (d : Daemon) (grace : Duration) (a : TeardownAction) : Bool :=
  match (a.execute d grace).result with
  | .ok () => false
  | .error _ => true

/-- The lines about an action among others: its own, and one more if it fails. -/
def report (d : Daemon) (grace : Duration) (a : TeardownAction) : List LogLine :=
  match (a.execute d grace).result with
  | .ok () => (a.execute d grace).logs
  | .error e => (a.execute d grace).logs ++ [a.failureLine e]

end TeardownAction

namespace TeardownRegistry

/-! ### Running several actions -/

/-- Actions that are executed one after the other, each of them as it is alone: their calls
and lines in a row, and the number of those that fail. -/
def executions (d : Daemon) (grace : Duration) (actions : List TeardownAction) : Teardown Nat where
  calls := actions.flatMap fun a => (a.execute d grace).calls
  logs := actions.flatMap (·.report d grace)
  result := actions.countP (·.fails d grace)

/-- **No action takes part in what becomes of another:** each is executed as it is alone, on the
daemon that it finds. -/
theorem runEachOn_eq (daemons : TeardownAction → Daemon) (grace : Duration)
    (actions : List TeardownAction) :
    runEachOn daemons grace actions =
      ⟨actions.flatMap fun a => (a.execute (daemons a) grace).calls,
        actions.flatMap fun a => a.report (daemons a) grace,
        actions.countP fun a => a.fails (daemons a) grace⟩ := by
  induction actions with
  | nil => rfl
  | cons a rest ih =>
    rw [runEachOn, ih]
    cases h : (a.execute (daemons a) grace).result with
    | ok _ => simp [TeardownAction.fails, TeardownAction.report, h]
    | error e => simp [TeardownAction.fails, TeardownAction.report, h]

theorem runEach_eq (d : Daemon) (grace : Duration) (actions : List TeardownAction) :
    runEach d grace actions = executions d grace actions :=
  runEachOn_eq (fun _ => d) grace actions

/-! ### Operations -/

/-- What can be done to a registry.  Each run of its actions has a daemon of its own, which
answers as it likes. -/
inductive Operation where
  | register (action : TeardownAction)
  | drain
  | runAll (daemon : Daemon) (grace : Duration)

/-- What comes back from an operation. -/
inductive Answer where
  | registered (added : Bool)
  | drained (actions : List TeardownAction)
  | ran (teardown : Teardown Nat)

namespace Operation

/-- The action that an operation registers, if it registers one. -/
def registered? : Operation → Option TeardownAction
  | .register a => some a
  | .drain | .runAll .. => none

/-- An operation registers an action; every other one empties the registry. -/
def isRegistration (op : Operation) : Bool := op.registered?.isSome

end Operation

/-- One operation on a registry. -/
def perform (r : TeardownRegistry) : Operation → Answer × TeardownRegistry
  | .register a => (.registered (r.register a).1, (r.register a).2)
  | .drain => (.drained r.drain.1, r.drain.2)
  | .runAll d grace => (.ran (r.runAll d grace).1, (r.runAll d grace).2)

/-- A registry after operations, one after the other. -/
def after : TeardownRegistry → List Operation → TeardownRegistry
  | r, [] => r
  | r, op :: rest => after (r.perform op).2 rest

/-- The action that an operation adds to a registry: a registered one that is not there. -/
def adds (r : TeardownRegistry) : Operation → List TeardownAction
  | .register a => if (r.register a).1 then [a] else []
  | .drain | .runAll .. => []

/-- The batch of actions that an operation takes out of a registry, in the order in which
they are handed out or run. -/
def takes (r : TeardownRegistry) : Operation → List (List TeardownAction)
  | .register _ => []
  | .drain | .runAll .. => [r.drain.1]

/-- The actions that are added along a history, in order: those whose registration says so. -/
def added : TeardownRegistry → List Operation → List TeardownAction
  | _, [] => []
  | r, op :: rest => r.adds op ++ added (r.perform op).2 rest

/-- The batches that are taken out along a history, in order. -/
def batches : TeardownRegistry → List Operation → List (List TeardownAction)
  | _, [] => []
  | r, op :: rest => r.takes op ++ batches (r.perform op).2 rest

variable (r : TeardownRegistry)

theorem after_append (ops more : List Operation) :
    r.after (ops ++ more) = (r.after ops).after more := by
  induction ops generalizing r with
  | nil => rfl
  | cons op rest ih => exact ih (r.perform op).2

theorem batches_append (ops more : List Operation) :
    r.batches (ops ++ more) = r.batches ops ++ (r.after ops).batches more := by
  induction ops generalizing r with
  | nil => rfl
  | cons op rest ih =>
    rw [List.cons_append, batches, ih, batches, after, List.append_assoc]

/-! ### Conservation -/

/-- **One operation loses nothing and doubles nothing:** what it adds goes behind what is
there, and what it takes out is all that is there. -/
theorem actions_append_adds (op : Operation) :
    r.actions ++ r.adds op = (r.takes op).flatMap List.reverse ++ (r.perform op).2.actions := by
  cases op with
  | register a =>
    by_cases h : a ∈ r.actions
    · simp [adds, takes, perform, register, h]
    · simp [adds, takes, perform, register, h]
  | drain => simp [adds, takes, perform, drain, empty]
  | runAll d grace => simp [adds, takes, perform, runAll, runAllOn, drain, empty]

/-- **A history loses nothing and doubles nothing.**  What was there and what was added is
what was taken out, batch by batch and each of them from its oldest action on, and then
what is there now. -/
theorem actions_append_added (ops : List Operation) :
    r.actions ++ r.added ops = (r.batches ops).flatMap List.reverse ++ (r.after ops).actions := by
  induction ops generalizing r with
  | nil => simp [added, batches, after]
  | cons op rest ih =>
    rw [added, ← List.append_assoc, actions_append_adds, List.append_assoc, ih, batches,
      List.flatMap_append, List.append_assoc, after]

/-! ### What is there now -/

/-- An operation keeps the actions apart. -/
theorem nodup_perform (op : Operation) (h : r.actions.Nodup) :
    (r.perform op).2.actions.Nodup := by
  cases op with
  | register a =>
    show (r.register a).2.actions.Nodup
    rw [actions_register]
    split
    case isTrue => exact h
    case isFalse hnew => exact List.concat_eq_append ▸ h.concat hnew
  | drain => exact List.nodup_nil
  | runAll d grace => exact List.nodup_nil

/-- **A registry never holds an action twice.** -/
theorem nodup_after (ops : List Operation) (h : r.actions.Nodup) :
    (r.after ops).actions.Nodup := by
  induction ops generalizing r with
  | nil => exact h
  | cons op rest ih => exact ih _ (nodup_perform r op h)

/-- The actions that are registered along a history after the registry was last emptied, in
order and as often as they are registered. -/
def openRegistrations (ops : List Operation) : List TeardownAction :=
  (ops.rtakeWhile Operation.isRegistration).filterMap Operation.registered?

theorem openRegistrations_concat (ops : List Operation) (op : Operation) :
    openRegistrations (ops ++ [op]) =
      match op.registered? with
      | some a => openRegistrations ops ++ [a]
      | none => [] := by
  rw [openRegistrations, List.rtakeWhile_concat, Operation.isRegistration]
  cases h : op.registered? with
  | none => rfl
  | some a => simp [openRegistrations, h]

/-- **What is there are the actions registered since the last emptying,** each of them once,
in the order in which they came first. -/
theorem actions_after (ops : List Operation) :
    (empty.after ops).actions = (openRegistrations ops).eraseDups := by
  induction ops using List.reverseRecOn with
  | nil => rfl
  | append_singleton ops op ih =>
    rw [after_append, openRegistrations_concat]
    cases op with
    | register a =>
      show ((empty.after ops).register a).2.actions = (openRegistrations ops ++ [a]).eraseDups
      rw [actions_register, ih, List.eraseDups_append]
      by_cases h : a ∈ openRegistrations ops
      · simp [h, List.removeAll]
      · simp [h, List.removeAll, List.eraseDups_cons]
    | drain => rfl
    | runAll d grace => rfl

/-- Registrations that follow a history are open after it. -/
theorem openRegistrations_append {more : List Operation}
    (h : ∀ op ∈ more, op.isRegistration = true) (ops : List Operation) :
    openRegistrations (ops ++ more) =
      openRegistrations ops ++ more.filterMap Operation.registered? := by
  induction more using List.reverseRecOn with
  | nil => simp
  | append_singleton more op ih =>
    obtain ⟨a, ha⟩ := Option.isSome_iff_exists.1 (h op (by simp))
    rw [← List.append_assoc, openRegistrations_concat, ha, List.filterMap_append]
    simp [ih fun op hop => h op (List.mem_append_left _ hop), ha]

/-- Registrations take nothing out. -/
theorem batches_of_registrations {ops : List Operation}
    (h : ∀ op ∈ ops, op.isRegistration = true) : r.batches ops = [] := by
  induction ops generalizing r with
  | nil => rfl
  | cons op rest ih =>
    have htakes : r.takes op = [] := by
      cases op with
      | register a => rfl
      | drain => exact absurd (h .drain (List.mem_cons_self ..)) Bool.false_ne_true
      | runAll d grace => exact absurd (h _ (List.mem_cons_self ..)) Bool.false_ne_true
    rw [batches, htakes, List.nil_append]
    exact ih _ fun op hop => h op (List.mem_cons_of_mem _ hop)

/-- Every other operation takes out all that is there. -/
theorem takes_of_not_registration {op : Operation} (h : op.isRegistration = false) :
    r.takes op = [r.actions.reverse] ∧ (r.perform op).2 = empty := by
  cases op with
  | register a => exact absurd h.symm Bool.false_ne_true
  | drain => exact ⟨rfl, rfl⟩
  | runAll d grace => exact ⟨rfl, rfl⟩

/-- **A registry holds each action from its registration until it is taken out.**  Let any
operations be done on an empty registry, with daemons that answer as they like.  What the
registry then holds are the actions registered since it was last emptied, each of them once,
in the order in which they came first.

Registering an action says whether it is not there yet, with its container and its wish for
removal taken together; it then goes behind the others, and else nothing changes.  Handing
out and running both take out all that is there, newest first, and leave nothing, whatever
the daemon answers; a run executes each of these actions as it is alone.

What was ever added is what was ever taken out and what is there now, in order and one for
one.  So an action that was added is taken out once at most; and an action that is registered
is taken out once by the next operation that empties the registry, whatever is registered
before that. -/
theorem after_holds_until_taken (ops : List Operation) :
    let r := empty.after ops
    let content := (openRegistrations ops).eraseDups
    (r.actions = content ∧ content.Nodup) ∧
      (∀ a, ((r.register a).1 = true ↔ a ∉ content) ∧
        (r.register a).2 = if a ∈ content then r else ⟨content ++ [a]⟩) ∧
      r.drain = (content.reverse, empty) ∧
      (∀ d grace, r.runAll d grace = (executions d grace content.reverse, empty)) ∧
      empty.added ops = (empty.batches ops).flatMap List.reverse ++ content ∧
      ∀ a between op, (∀ later ∈ between, later.isRegistration = true) →
        op.isRegistration = false →
        let history := ops ++ .register a :: between
        let held := (openRegistrations history).eraseDups
        held.count a = 1 ∧ empty.after (history ++ [op]) = empty ∧
          empty.batches (history ++ [op]) = empty.batches ops ++ [held.reverse] := by
  intro r content
  have hcontent : r.actions = content := actions_after ops
  refine ⟨⟨hcontent, hcontent ▸ nodup_after empty ops List.nodup_nil⟩, fun a => ⟨?added, ?kept⟩,
    ?drained, fun d grace => ?ran, ?conserved, fun a between op hbetween hop => ?next⟩
  case added =>
    rw [register, hcontent]
    by_cases h : a ∈ content
    · simp [h]
    · simp [h]
  case kept =>
    rw [register, hcontent]
    by_cases h : a ∈ content
    · simp [h]
    · simp [h]
  case drained => rw [drain, hcontent]
  case ran =>
    show (runEach d grace r.actions.reverse, empty) = _
    rw [hcontent, runEach_eq]
  case conserved =>
    rw [← hcontent]
    exact actions_append_added empty ops
  case next =>
    intro history held
    have hregistrations : ∀ later ∈ Operation.register a :: between, later.isRegistration = true :=
      List.forall_mem_cons.2 ⟨rfl, hbetween⟩
    have hheld : (empty.after history).actions = held := actions_after history
    have hmem : a ∈ held := by
      rw [List.mem_eraseDups, openRegistrations_append hregistrations]
      exact List.mem_append_right _ (List.mem_cons_self ..)
    obtain ⟨htakes, hempty⟩ := takes_of_not_registration (empty.after history) hop
    refine ⟨List.count_eq_one_of_mem (hheld ▸ nodup_after empty history List.nodup_nil) hmem,
      ?_, ?_⟩
    · rw [after_append]
      exact hempty
    · rw [batches_append, batches_append, batches_of_registrations _ hregistrations,
        List.append_nil, batches, htakes, hheld]
      rfl

/-- A daemon that stops no container and removes every one. -/
def unstoppable : Daemon where
  start _ := .ok ()
  stop id _ := .error (.stopFailed id "busy")
  remove _ := .ok ()
  inspect _ _ := ⟨some 0, .ok true⟩

/-- The conditions of `after_holds_until_taken` can be met.  An action is registered twice,
then one of the same container that leaves it in place; a run in which both fail empties the
registry all the same, the action can be registered again, and it is handed out after the one
that came last. -/
theorem after_holds_until_taken_of_failing_run :
    let db : TeardownAction := ⟨"db", true⟩
    let kept : TeardownAction := ⟨"db", false⟩
    let before : List Operation :=
      [.register db, .register db, .register kept, .runAll unstoppable ⟨0⟩]
    (∀ later ∈ [Operation.register kept, .register db], later.isRegistration = true) ∧
      Operation.isRegistration .drain = false ∧
      ((empty.after before).register db).1 = true ∧
      (empty.after [.register db, .register db, .register kept]).runAll unstoppable ⟨0⟩ =
        (executions unstoppable ⟨0⟩ [kept, db], empty) ∧
      (executions unstoppable ⟨0⟩ [kept, db]).result = 2 ∧
      empty.batches (before ++ .register db :: [.register kept, .register db] ++ [.drain]) =
        [[kept, db], [kept, db]] := by
  intro db kept before
  have hbetween : ∀ later ∈ [Operation.register kept, .register db],
      later.isRegistration = true := by simp [Operation.isRegistration, Operation.registered?]
  obtain ⟨-, -, -, hran, -⟩ :=
    after_holds_until_taken [.register db, .register db, .register kept]
  obtain ⟨-, hregister, -, -, -, hnext⟩ := after_holds_until_taken before
  obtain ⟨-, -, hbatches⟩ := hnext db [.register kept, .register db] .drain hbetween rfl
  exact ⟨hbetween, rfl, (hregister db).1.2 (by decide), hran unstoppable ⟨0⟩, by decide,
    hbatches.trans (by decide)⟩

end TeardownRegistry
end ServiceReadiness
