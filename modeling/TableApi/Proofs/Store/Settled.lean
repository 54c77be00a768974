/-
What a failed statement leaves behind.

A statement that fails has changed no row. It is in the log all the same, and
a failure that was asked for is spent on it. This is so as long as the lock is
whole; a statement that has stopped the program is the last one of which it can
be said. The lock that it leaves poisoned refuses the others before they are
recorded and before a failure is looked for, so the log ends with the statement
that has stopped (`log_of_poisoned`), and a failure that is asked for later
stays where it is.
-/
import TableApi.Proofs.Store.Shared

namespace TableApi.SharedStore

open Store

variable {supply : Supply} {s : SharedStore} {statement : Statement}

-- ================================================================== the log

/-- Behind a poisoned lock no call is recorded. -/
theorem received_call_of_poisoned (h : s.poisoned = true) (call : Store.Call) :
    (s.call supply call).store.received = s.store.received := by
  cases call with
  | seed t values => rfl
  | failNext message => rfl
  | query statement =>
      rw [SharedStore.call, query_of_poisoned h]

/-- Where the lock is poisoned one of the calls has stopped, and the log holds
the statements up to this one. -/
theorem log_of_poisoned {calls : List Store.Call}
    (h : (empty.run supply calls).poisoned = true) :
    ∃ earlier last later, calls = earlier ++ .query last :: later
      ∧ (empty.run supply earlier).poisoned = false
      ∧ ((empty.run supply earlier).query supply last).1 = .stopped
      ∧ (empty.run supply calls).store.received
        = (earlier ++ [Store.Call.query last]).filterMap Store.Call.kind? := by
  induction calls using List.reverseRecOn with
  | nil => cases h
  | append_singleton calls call ih =>
      cases hbefore : (empty.run supply calls).poisoned with
      | true =>
          obtain ⟨earlier, last, later, rfl, hwhole, hstopped, hlog⟩ := ih hbefore
          refine ⟨earlier, last, later ++ [call], by simp, hwhole, hstopped, ?_⟩
          rw [run_concat, received_call_of_poisoned hbefore, hlog]
      | false =>
          rw [run_concat, poisoned_call, hbefore, or_iff_right Bool.false_ne_true] at h
          obtain ⟨statement, rfl, hstops⟩ := h
          refine ⟨calls, statement, [], rfl, hbefore, ?_, ?_⟩
          · exact query_stopped_iff.2 ⟨hbefore, hstops⟩
          · rw [run_concat, store_call hbefore, (run_follows supply calls).2 hbefore,
              ← Store.run_concat, received_run]

-- ========================================================= after any calls

/-- Where no failure is pending an error is answered to an insert that comes to
a row whose key is taken, and to no other statement. -/
theorem query_answered_error_iff (h : s.poisoned = false) (hready : s.store.failure = none)
    {e : StoreError} :
    (s.query supply statement).1 = .answered (.error e)
      ↔ ∃ t inputs, statement = .insert t inputs ∧ e = .duplicateKey t.name t.primaryKey
        ∧ t.FailsWith supply s.store.inserted (s.store.rows t) inputs e := by
  rw [query_answered_iff h, Repository.execute_of_ready hready, perform_eq_error_iff]
  constructor
  · intro hfailed
    obtain ⟨⟨t, inputs, rfl, hfails⟩ | ⟨t, selection, -, hsearch⟩, hgoes⟩ := hfailed
    · obtain ⟨before, input, after, new, hinputs, hnew, hrow⟩ := hfails
      refine ⟨t, inputs, rfl, ?_, before, input, after, new, hinputs, hnew, hrow⟩
      rcases Table.error_of_newRow hrow with rfl | rfl
      · rfl
      · cases hgoes
    · obtain ⟨rfl, -⟩ := Table.search_eq_error_iff.1 hsearch
      cases hgoes
  · intro hfailed
    obtain ⟨t, inputs, rfl, rfl, hfails⟩ := hfailed
    exact ⟨.inl ⟨t, inputs, rfl, hfails⟩, rfl⟩

/-- Behind calls on a new shared store, which left it as `c`, a statement came
to `reply` and left it as `c'`: nothing is half done. -/
structure Settles (supply : Supply) (calls : List Store.Call) (statement : Statement)
    (c : SharedStore) (reply : Reply) (c' : SharedStore) : Prop where
  /-- Unless rows are answered, no row of any table has changed. -/
  unchanged : (∀ rows, reply ≠ .answered (.ok rows)) → ∀ t, c'.store.rows t = c.store.rows t
  /-- A failure hits this statement if it is pending. -/
  refused : c.poisoned = false → ∀ message,
    reply = .answered (.error (.refused message)) ↔ Store.Call.Pending message calls
  /-- It is pending no longer. -/
  spent : c.poisoned = false → c'.store.failure = none
  /-- Where none is pending, only an insert fails, at a row whose key is taken. -/
  fails : c.poisoned = false → (∀ message, ¬ Store.Call.Pending message calls) → ∀ e,
    reply = .answered (.error e)
      ↔ ∃ t inputs, statement = .insert t inputs ∧ e = .duplicateKey t.name t.primaryKey
        ∧ t.FailsWith supply c.store.inserted (c.store.rows t) inputs e
  /-- The log grows by the kind of the statement. -/
  logged : c.poisoned = false → c'.store.received = c.store.received ++ [statement.kind]
  /-- All writes sent so far are counted, failed or not. -/
  counted : c.poisoned = false →
    c'.store.writeCount = (calls ++ [Store.Call.query statement]).countP Store.Call.isWrite
  /-- All this is so until a statement stops: it needs a key above the largest
  integer, or its sort gives up. -/
  poisoned : c.poisoned = true ↔ Overran supply calls ∨ GaveUp supply calls
  /-- From then on every statement is refused, and nothing else is done: -/
  locked : c.poisoned = true → reply = .answered (.error .lockPoisoned) ∧ c' = c
  /-- the log ends with the statement that has stopped. -/
  ended : c.poisoned = true → ∃ earlier last later, calls = earlier ++ .query last :: later
    ∧ (empty.run supply earlier).poisoned = false
    ∧ ((empty.run supply earlier).query supply last).1 = .stopped
    ∧ c'.store.received = (earlier ++ [Store.Call.query last]).filterMap Store.Call.kind?
    ∧ c'.store.writeCount = (earlier ++ [Store.Call.query last]).countP Store.Call.isWrite

/-- After any seeds, requests to fail and statements: a statement that fails
has changed no row. A failure that was asked for hits the next statement and no
other, and the log holds every statement sent, until one of them stops; the log
ends with that one. -/
theorem failed_statement_changes_no_rows (supply : Supply) (calls : List Store.Call)
    (statement : Statement) :
    let c := empty.run supply calls
    Settles supply calls statement c (c.query supply statement).1
      (c.query supply statement).2 := by
  intro c
  obtain ⟨-, hfollows⟩ := run_follows supply calls
  constructor
  case unchanged =>
    intro hfailed t
    cases hpoisoned : c.poisoned with
    | true => rw [query_of_poisoned hpoisoned]
    | false =>
        rw [store_query hpoisoned]
        by_cases hstops : c.store.Stops supply statement
        · exact hstops.rows_execute t
        · rw [query_of_not_stops hpoisoned hstops] at hfailed
          cases hanswer : (c.store.execute supply statement).1 with
          | ok rows => exact absurd (congrArg Reply.answered hanswer) (hfailed rows)
          | error e => exact rows_execute_of_error hanswer t
  case refused =>
    intro hwhole message
    have hgoes : Answer.stops (.error (.refused message)) = false := rfl
    rw [query_answered_iff hwhole, and_iff_left hgoes, execute_eq_refused_iff, hfollows hwhole,
      failure_run]
  case spent =>
    intro hwhole
    rw [store_query hwhole]
    exact failure_execute
  case fails =>
    intro hwhole hnone e
    refine query_answered_error_iff hwhole ?_
    rw [hfollows hwhole, Option.eq_none_iff_forall_ne_some]
    exact fun message h => hnone message ((failure_run calls).1 h)
  case logged =>
    intro hwhole
    rw [store_query hwhole]
    exact received_execute
  case counted =>
    intro hwhole
    rw [store_query hwhole, writeCount, received_execute, hfollows hwhole, received_run,
      ← countP_isWrite_kind?, List.filterMap_append]
    rfl
  case poisoned => exact poisoned_run_iff supply calls
  case locked =>
    intro hpoisoned
    rw [query_of_poisoned hpoisoned]
    exact ⟨rfl, rfl⟩
  case ended =>
    intro hpoisoned
    obtain ⟨earlier, last, later, hcalls, hwhole, hstopped, hlog⟩ := log_of_poisoned hpoisoned
    rw [query_of_poisoned hpoisoned]
    refine ⟨earlier, last, later, hcalls, hwhole, hstopped, hlog, ?_⟩
    rw [writeCount, hlog, countP_isWrite_kind?]

/-- A member without a key stops an insert where the largest integer is the key
of another. It is the last statement in the log: behind it a count is refused
without an entry, and a deletion that is to fail is refused as well, is counted
as no write, and leaves the failure pending. -/
theorem log_ends_with_stopped_insert :
    let c := empty.run Supply.constant [.seed Store.members [.object [("id", .int int64Max)]]]
    let stopped := c.query Supply.constant (.insert Store.members [.empty])
    let counted := stopped.2.query Supply.constant (.count Store.members none)
    let deleted := (counted.2.failNext "down").query Supply.constant (.delete Store.members .always)
    stopped.1 = .stopped ∧ counted.1 = .answered (.error .lockPoisoned)
      ∧ deleted.1 = .answered (.error .lockPoisoned)
      ∧ deleted.2.store.received = [.insert] ∧ deleted.2.store.writeCount = 1
      ∧ deleted.2.store.failure = some "down"
      ∧ ¬ ∀ supply calls statement,
        ((empty.run supply calls).query supply statement).2.store.received
          = (empty.run supply calls).store.received ++ [statement.kind] := by
  intro c stopped counted deleted
  refine ⟨rfl, rfl, rfl, rfl, rfl, rfl, fun h => ?_⟩
  have hlog := h Supply.constant
    [.seed Store.members [.object [("id", .int int64Max)]], .query (.insert Store.members [.empty])]
    (.count Store.members none)
  exact absurd hlog (by decide +kernel)

end TableApi.SharedStore
