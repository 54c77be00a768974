/-
A shared store in a run, up to the statement that stops and behind it.

As long as no statement has stopped, a shared store holds what a store without
a lock holds behind the same calls (`run_follows`). So the first statement to
stop is the first that overflows there, or the first search there whose sort
gives up, and behind it the lock is poisoned: whatever is sent, to that table
or to another, is refused. Rows are as safe as behind any statement that fails,
since the rows of a batch are stored together and sorted rows are not stored.
-/
import TableApi.Proofs.Store.LastKey
import TableApi.Store.Shared

namespace TableApi

open Json

namespace Store

variable {supply : Supply} {s : Store} {statement : Statement}

/-- The program stops at the statement: no key is left for one of its rows, or
its sort gives up. -/
def Stops (supply : Supply) (s : Store) (statement : Statement) : Prop :=
  s.Overflows supply statement ∨ s.GivesUp supply statement

/-- A store without a lock has errors of their own for statements that stop. -/
theorem stops_execute_iff :
    (s.execute supply statement).1.stops = true ↔ s.Stops supply statement := by
  rw [Stops, ← execute_exhausts_iff, ← execute_unsorted_iff]
  cases (s.execute supply statement).1 with
  | ok rows => simp [Answer.stops]
  | error e => cases e <;> simp [Answer.stops, StoreError.stops]

/-- A statement that stops has changed no row. -/
theorem Stops.rows_execute (h : s.Stops supply statement) (t : Table) :
    (s.execute supply statement).2.rows t = s.rows t := by
  rcases h with hover | hsort
  · obtain ⟨name, herror⟩ := execute_exhausts_iff.2 hover
    exact rows_execute_of_error herror t
  · obtain ⟨name, herror⟩ := execute_unsorted_iff.2 hsort
    exact rows_execute_of_error herror t

end Store

namespace SharedStore

variable {supply : Supply} {s : SharedStore} {statement : Statement}

-- ========================================================== one statement

/-- Behind a poisoned lock every statement is refused. -/
theorem query_of_poisoned (h : s.poisoned = true) :
    s.query supply statement = (.answered (.error .lockPoisoned), s) := by
  rw [query, if_pos h]

/-- A statement that stops leaves the lock poisoned. -/
theorem query_of_stops (h : s.poisoned = false) (hstops : s.store.Stops supply statement) :
    s.query supply statement = (.stopped, ⟨(s.store.execute supply statement).2, true⟩) := by
  rw [query, if_neg (Bool.eq_false_iff.1 h)]
  exact if_pos (Store.stops_execute_iff.2 hstops)

/-- A statement that does not stop is answered as without a lock. -/
theorem query_of_not_stops (h : s.poisoned = false) (hgoes : ¬ s.store.Stops supply statement) :
    s.query supply statement
      = (.answered (s.store.execute supply statement).1,
        ⟨(s.store.execute supply statement).2, false⟩) := by
  rw [query, if_neg (Bool.eq_false_iff.1 h)]
  exact if_neg (mt Store.stops_execute_iff.1 hgoes)

/-- A failure that was asked for is answered before a statement can stop. -/
theorem query_of_failure (h : s.poisoned = false) {message : String}
    (hfailure : s.store.failure = some message) :
    s.query supply statement
      = (.answered (.error (.refused message)),
        ⟨{ Repository.received s.store statement with failure := none }, false⟩) := by
  have hgoes : ¬ s.store.Stops supply statement := by
    rw [← Store.stops_execute_iff, Repository.execute_of_failure hfailure]
    exact Bool.false_ne_true
  rw [query_of_not_stops h hgoes, Repository.execute_of_failure hfailure]

/-- A statement that a store without a lock answers with rows is answered so. -/
theorem query_of_ok (h : s.poisoned = false) {rows : List Row}
    (hok : (s.store.execute supply statement).1 = .ok rows) :
    s.query supply statement
      = (.answered (.ok rows), ⟨(s.store.execute supply statement).2, false⟩) := by
  have hgoes : ¬ s.store.Stops supply statement := by
    rw [← Store.stops_execute_iff, hok]
    exact Bool.false_ne_true
  rw [query_of_not_stops h hgoes, hok]

/-- Only a whole lock lets a statement come so far that it stops. -/
theorem query_stopped_iff :
    (s.query supply statement).1 = .stopped
      ↔ s.poisoned = false ∧ s.store.Stops supply statement := by
  cases hpoisoned : s.poisoned with
  | true => simp [query_of_poisoned hpoisoned]
  | false =>
      by_cases hstops : s.store.Stops supply statement
      · simp [query_of_stops hpoisoned hstops, hstops]
      · simp [query_of_not_stops hpoisoned hstops, hstops]

/-- What a statement leaves in the store, whether it stops or not. -/
theorem store_query (h : s.poisoned = false) :
    (s.query supply statement).2.store = (s.store.execute supply statement).2 := by
  by_cases hstops : s.store.Stops supply statement
  · rw [query_of_stops h hstops]
  · rw [query_of_not_stops h hstops]

/-- What is answered is the answer of the store without a lock, if this is not
one at which the program stops. -/
theorem query_answered_iff (h : s.poisoned = false) {answer : Answer} :
    (s.query supply statement).1 = .answered answer
      ↔ (s.store.execute supply statement).1 = answer ∧ answer.stops = false := by
  by_cases hstops : s.store.Stops supply statement
  · rw [query_of_stops h hstops]
    rw [← Store.stops_execute_iff] at hstops
    refine ⟨fun h => (nomatch h), fun hanswer => ?_⟩
    rw [hanswer.1, hanswer.2] at hstops
    cases hstops
  · rw [query_of_not_stops h hstops]
    rw [← Store.stops_execute_iff, Bool.not_eq_true] at hstops
    constructor
    · intro hreply
      obtain rfl := Reply.answered.inj hreply
      exact ⟨rfl, hstops⟩
    · exact fun hanswer => congrArg Reply.answered hanswer.1

-- ================================================================== a run

/-- The shared store behind a call. -/
def call (supply : Supply) (s : SharedStore) : Store.Call → SharedStore
  | .seed t values => s.seed t values
  | .failNext message => s.failNext message
  | .query statement => (s.query supply statement).2

/-- The shared store behind calls, one after another. -/
def run (supply : Supply) (s : SharedStore) (calls : List Store.Call) : SharedStore :=
  calls.foldl (SharedStore.call supply) s

/-- The last call comes behind all others. -/
theorem run_concat (calls : List Store.Call) (last : Store.Call) :
    s.run supply (calls ++ [last]) = (s.run supply calls).call supply last := by
  rw [run, List.foldl_append]
  rfl

/-- A call poisons the lock if it is a statement that stops. -/
theorem poisoned_call {call : Store.Call} :
    (s.call supply call).poisoned = true ↔ s.poisoned = true
      ∨ ∃ statement, call = .query statement ∧ s.store.Stops supply statement := by
  cases call with
  | seed t values => simp [SharedStore.call, seed, onStore]
  | failNext message => simp [SharedStore.call, failNext, onStore]
  | query statement =>
      rw [SharedStore.call]
      cases hpoisoned : s.poisoned with
      | true => simp [query_of_poisoned hpoisoned, hpoisoned]
      | false =>
          by_cases hstops : s.store.Stops supply statement
          · simp [query_of_stops hpoisoned hstops, hstops]
          · simp [query_of_not_stops hpoisoned hstops, hstops]

/-- The lock does not keep a call from the store, unless it is poisoned. -/
theorem store_call {call : Store.Call} (h : s.poisoned = false) :
    (s.call supply call).store = s.store.call supply call := by
  cases call with
  | seed t values => rfl
  | failNext message => rfl
  | query statement =>
      rw [SharedStore.call, Store.call, store_query h]

/-- The lock is poisoned behind a run exactly if one of its statements stops;
until then the run is one without a lock. -/
theorem run_follows (supply : Supply) (calls : List Store.Call) :
    ((empty.run supply calls).poisoned = true ↔ Store.Meets supply (Store.Stops supply) calls)
      ∧ ((empty.run supply calls).poisoned = false →
        (empty.run supply calls).store = Store.empty.run supply calls) := by
  induction calls using List.reverseRecOn with
  | nil =>
      have hnone : ¬ Store.Meets supply (Store.Stops supply) [] := Store.not_meets_nil
      exact ⟨by simp [run, empty, hnone], fun _ => rfl⟩
  | append_singleton calls last ih =>
      obtain ⟨hpoisoned, hstore⟩ := ih
      rw [run_concat, poisoned_call, Store.meets_concat, Store.run_concat, hpoisoned]
      cases hcase : (empty.run supply calls).poisoned with
      | true =>
          have hstopped := hpoisoned.1 hcase
          have hafter : ((empty.run supply calls).call supply last).poisoned = true :=
            poisoned_call.2 (.inl hcase)
          rw [hafter]
          exact ⟨by simp [hstopped], fun h => nomatch h⟩
      | false =>
          rw [store_call hcase, hstore hcase]
          exact ⟨Iff.rfl, fun _ => rfl⟩

/-- A statement has stopped for want of a key, or in its sort. -/
theorem poisoned_run_iff (supply : Supply) (calls : List Store.Call) :
    (empty.run supply calls).poisoned = true
      ↔ Store.Overran supply calls ∨ Store.GaveUp supply calls := by
  rw [(run_follows supply calls).1]
  exact Store.meets_or

-- ==================================================== where keys run out

/-- Behind calls on a new shared store `c`, which have led a store without a
lock to `s`, a statement came to `reply` and left the shared store as `c'`. -/
structure KeysEnd (supply : Supply) (calls : List Store.Call) (statement : Statement) (s : Store)
    (c : SharedStore) (reply : Reply) (c' : SharedStore) : Prop where
  /-- The lock is poisoned exactly if a statement has gone beyond the last key,
  or the sort of a search has given up. -/
  poisoned : c.poisoned = true ↔ Store.Overran supply calls ∨ Store.GaveUp supply calls
  /-- Then the statement is refused, whatever it is. -/
  refused : c.poisoned = true → reply = .answered (.error .lockPoisoned) ∧ c' = c
  /-- Otherwise it stops exactly if it goes beyond the last key itself, or is a
  search whose sort gives up; -/
  stopped : c.poisoned = false →
    (reply = .stopped ↔ s.Overflows supply statement ∨ s.GivesUp supply statement)
  /-- rows without keys stop it exactly if there are more of them than integers
  above the largest key. -/
  sharp : c.poisoned = false → s.failure = none → ∀ t inputs m, statement = .insert t inputs →
    t.keyColumn?.any Column.isInteger = true → (∀ input ∈ inputs, t.Keyless input) →
      t.LargestKey (s.rows t) m → (reply = .stopped ↔ int64Max < m + inputs.length)
  /-- When it stops no row has changed, and the lock is poisoned. -/
  unchanged : reply = .stopped → c'.poisoned = true ∧ ∀ t, c'.store.rows t = s.rows t
  /-- When it does not stop it is answered as without a lock. -/
  answered : c.poisoned = false → reply ≠ .stopped →
    reply = .answered (s.execute supply statement).1
      ∧ c' = ⟨(s.execute supply statement).2, false⟩
  /-- In a run that spares all tables nothing goes beyond the last key, nor does
  this: if anything stops it is a sort. -/
  spared : (∀ t, ∃ m, Store.Spared t m (calls ++ [.query statement])) →
    (c.poisoned = true → Store.GaveUp supply calls)
      ∧ (reply = .stopped → s.GivesUp supply statement)

/-- After any seeds, requests to fail and statements: a statement stops for
want of a key exactly if it inserts rows that come to one without a key while
the largest integer is a key already, and all statements behind it are
refused. None does as long as the largest key that is given to each table, or
zero, and the number of rows without a key come to an integer of 64 bits. No
other statement stops than these and the searches whose sorts give up. -/
theorem keys_end_at_largest_integer (supply : Supply) (calls : List Store.Call)
    (statement : Statement) :
    let c := empty.run supply calls
    KeysEnd supply calls statement (Store.empty.run supply calls) c (c.query supply statement).1
      (c.query supply statement).2 := by
  intro c
  have hpoisoned := poisoned_run_iff supply calls
  obtain ⟨-, hstore⟩ := run_follows supply calls
  have hstopped (hwhole : c.poisoned = false) : (c.query supply statement).1 = .stopped
      ↔ (Store.empty.run supply calls).Stops supply statement := by
    rw [query_stopped_iff, hstore hwhole]
    exact and_iff_right hwhole
  constructor
  case poisoned => exact hpoisoned
  case refused =>
    intro h
    rw [query_of_poisoned h]
    exact ⟨rfl, rfl⟩
  case stopped => exact hstopped
  case sharp =>
    intro hwhole hready t inputs m hinsert hinteger hkeyless hlargest
    subst hinsert
    rw [hstopped hwhole, Store.Stops, or_iff_left Store.not_givesUp_insert]
    exact Store.overflows_of_keyless_iff hready hinteger hkeyless hlargest
  case unchanged =>
    intro h
    obtain ⟨hwhole, hstops⟩ := query_stopped_iff.1 h
    rw [query_of_stops hwhole hstops, ← hstore hwhole]
    exact ⟨rfl, hstops.rows_execute⟩
  case answered =>
    intro hwhole h
    have hgoes : ¬ c.store.Stops supply statement :=
      fun hstops => h (query_stopped_iff.2 ⟨hwhole, hstops⟩)
    rw [query_of_not_stops hwhole hgoes, hstore hwhole]
    exact ⟨rfl, rfl⟩
  case spared =>
    intro h
    have hover : ¬ Store.Overran supply (calls ++ [.query statement]) :=
      Store.not_overran_of_spared h
    rw [Store.Overran, Store.meets_concat, not_or] at hover
    obtain ⟨hbefore, hnow⟩ := hover
    refine ⟨fun hc => (hpoisoned.1 hc).resolve_left hbefore, fun hreply => ?_⟩
    obtain ⟨hwhole, -⟩ := query_stopped_iff.1 hreply
    exact ((hstopped hwhole).1 hreply).resolve_left fun hover => hnow ⟨statement, rfl, hover⟩

/-- Two members can still be added, under the last two keys; the third stops,
and nothing can be counted any more. -/
theorem keys_end_behind_two_members :
    let supply := Supply.constant
    let seeded : List Store.Call := [.seed Store.members [.object [("id", .int (int64Max - 2))]]]
    let two : Statement := .insert Store.members [.empty, .empty]
    let third : Statement := .insert Store.members [.empty]
    let stored (k : Int) : Row := (Row.empty.set "id" (.int k)).set "name" .null
    let c := empty.run supply seeded
    let c' := empty.run supply (seeded ++ [.query two])
    let c'' := empty.run supply (seeded ++ [.query two, .query third])
    (∀ t, ∃ m, Store.Spared t m (seeded ++ [.query two])) ∧ c.poisoned = false
      ∧ (c.query supply two).1 ≠ .stopped
      ∧ (c.query supply two).1 = .answered (.ok [stored (int64Max - 1), stored int64Max])
      ∧ (Store.empty.run supply (seeded ++ [.query two])).Overflows supply third
      ∧ (c'.query supply third).1 = .stopped ∧ c''.poisoned = true
      ∧ (c''.query supply (.count Store.members none)).1 = .answered (.error .lockPoisoned) := by
  intro supply seeded two third stored c c' c''
  have hspared : ∀ t, ∃ m, Store.Spared t m (seeded ++ [.query two]) := by
    intro t
    have hrows : [Value.object [("id", .int (int64Max - 2))]].filterMap Row.ofValue?
        = [Row.empty.set "id" (.int (int64Max - 2))] := rfl
    have hbare : Store.members.keylessAmong [.empty, .empty] = [.empty, .empty] := rfl
    refine ⟨int64Max - 2, by decide, ?_, ?_⟩
    · intro row hrow k hk
      obtain ⟨hget, -⟩ := Table.integerKey?_eq_some_iff.1 hk
      simp only [seeded, two, Store.Call.given, List.mem_flatMap, List.mem_append,
        List.mem_singleton] at hrow
      obtain ⟨call, rfl | rfl, hrow⟩ := hrow
      · simp only at hrow
        split at hrow
        · rw [hrows, List.mem_singleton] at hrow
          rw [hrow, Row.get?_set] at hget
          split at hget
          · cases hget
            exact Int.le_refl _
          · cases hget
        · cases hrow
      · simp only at hrow
        split at hrow
        · simp only [List.mem_cons, List.not_mem_nil, or_false, or_self] at hrow
          rw [hrow] at hget
          cases hget
        · cases hrow
    · simp only [seeded, two, List.flatMap_append, List.flatMap_singleton, Store.Call.keyless,
        hbare]
      split <;> decide
  have hfirst := keys_end_at_largest_integer supply seeded two
  have hsecond := keys_end_at_largest_integer supply (seeded ++ [.query two]) third
  have hlast := keys_end_at_largest_integer supply (seeded ++ [.query two, .query third])
    (.count Store.members none)
  have hstopped : (c'.query supply third).1 = .stopped := by rfl
  have hwhole : c'.poisoned = false := by rfl
  have hpoisoned : c''.poisoned = true := by rfl
  have hgoes : (c.query supply two).1 ≠ .stopped :=
    fun h => Store.not_givesUp_insert ((hfirst.spared hspared).2 h)
  have hover : (Store.empty.run supply (seeded ++ [.query two])).Overflows supply third :=
    ((hsecond.stopped hwhole).1 hstopped).resolve_right Store.not_givesUp_insert
  refine ⟨hspared, by rfl, hgoes, by rfl, hover, hstopped, hpoisoned,
    (hlast.refused hpoisoned).1⟩

/-- A member without a key stops an insert where the largest integer is the key
of another. The row behind it brings a key that is taken, so no key for the
first would let the insert through; but it is not refused, and the members
cannot be counted any more. -/
theorem keyless_member_stops_insert :
    let supply := Supply.constant
    let last : Row := Row.empty.set "id" (.int int64Max)
    let c := empty.seed Store.members [.object [("id", .int int64Max)]]
    let sent := c.query supply (.insert Store.members [.empty, last])
    c.store.rows Store.members = [last] ∧ sent.1 = .stopped
      ∧ (sent.2.query supply (.count Store.members none)).1 = .answered (.error .lockPoisoned)
      ∧ (c.query supply (.count Store.members none)).1 = .answered (.ok [Store.countRow 1]) := by
  intro supply last c sent
  exact ⟨rfl, rfl, rfl, rfl⟩

end SharedStore

end TableApi
