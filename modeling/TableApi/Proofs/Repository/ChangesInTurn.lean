/-
Changes that are made one after another.

A change of many rows sends one update for each, and goes on as long as
the answers can be used: an answer without rows is skipped, and one that
is a failure, or whose first row is no record, ends it. So what was sent
is a beginning of the updates asked for, and all but the last of them were
answered well (`RunsUpToFailure`). The induction is on the updates, and
the state of whatever answers is carried along with it.

Payloads are another matter: all of them are looked at before the first
update is sent, and one that is no object keeps back them all. This is the
only thing that sets a change of many rows apart from as many changes of
one row: where the payloads are objects, both send the same, are answered
the same, and end in the same state (`run_updateEach_eq`).
-/
import Mathlib.Data.List.ReduceOption
import TableApi.Proofs.Repository.Batch
import TableApi.Proofs.Service.Discretion

namespace TableApi

open Json

namespace Repository

variable {σ α β ε : Type} {respond : σ → Statement → Answer × σ} {s : σ} {r : Resource}

-- ================================================================ answers

/-- What an update finds by its answer: the record of the first row, or
that there is no row. -/
inductive Finds (r : Resource) : Answer → Option Value → Prop where
  | nothing : Finds r (.ok []) none
  | record {row : Row} {rows : List Row} {v : Value} :
      r.record? row = some v → Finds r (.ok (row :: rows)) (some v)

/-- An answer that ends the updates: a failure, or rows the first of which
is no record. -/
inductive Breaks (r : Resource) : Answer → Prop where
  | failed {e : StoreError} : Breaks r (.error e)
  | unreadable {row : Row} {rows : List Row} : r.record? row = none → Breaks r (.ok (row :: rows))

/-- What is read from an answer to an update. -/
def found? (r : Resource) : Answer → Option (Option Value)
  | .ok rows => r.firstRecord? rows
  | .error _ => none

theorem finds_of_found? {answer : Answer} {found : Option Value}
    (h : found? r answer = some found) : Finds r answer found := by
  rcases answer with e | _ | ⟨row, rows⟩
  · cases h
  · obtain rfl := Option.some.inj h
    exact .nothing
  · obtain ⟨v, hv, rfl⟩ := Option.map_eq_some_iff.1 h
    exact .record hv

theorem breaks_of_found? {answer : Answer} (h : found? r answer = none) : Breaks r answer := by
  rcases answer with e | _ | ⟨row, rows⟩
  · exact .failed
  · cases h
  · exact .unreadable (Option.map_eq_none_iff.1 h)

-- =================================================================== runs

/-- An update goes on with what it finds, in the state that its answer
leaves, or ends there. -/
theorem run_ask_bind (operation : Operation) (statement : Statement)
    (next : Option Value → Attempt QueryError β) :
    Session.run respond s (ExceptT.run (ask operation statement r.firstRecord? >>= next)) =
      match found? r (respond s statement).1 with
      | some found =>
          let rest := Session.run respond (respond s statement).2 (ExceptT.run (next found))
          (rest.1, ⟨statement, (respond s statement).1⟩ :: rest.2.1, rest.2.2)
      | none => (.error ⟨operation⟩, [⟨statement, (respond s statement).1⟩],
          (respond s statement).2) := by
  have hsend : ExceptT.run (ask operation statement r.firstRecord? >>= next)
      = .send statement fun answer =>
          match found? r answer with
          | some found => ExceptT.run (next found)
          | none => .done (.error ⟨operation⟩) := by
    refine congrArg (Session.send statement) (funext fun answer => ?_)
    cases answer with
    | error e => rfl
    | ok rows =>
        show Session.bind (ExceptT.run (require operation (r.firstRecord? rows)))
            (ExceptT.bindCont next)
          = match r.firstRecord? rows with
            | some found => ExceptT.run (next found)
            | none => .done (.error ⟨operation⟩)
        cases r.firstRecord? rows with
        | none => rfl
        | some found => rfl
  rw [hsend]
  simp only [Session.run]
  cases found? r (respond s statement).1 with
  | none => rfl
  | some found => rfl

/-- What is made of the result in the end sends nothing. -/
theorem run_bind_pure (a : Attempt ε α) (f : α → β) :
    Session.run respond s (ExceptT.run (a >>= fun x => pure (f x)))
      = ((Session.run respond s (ExceptT.run a)).1.map f,
          (Session.run respond s (ExceptT.run a)).2) := by
  have hbind : ExceptT.run (a >>= fun x => (pure (f x) : Attempt ε β))
      = Session.bind (ExceptT.run a) fun result => .done (result.map f) := by
    refine congrArg (Session.bind (ExceptT.run a)) (funext fun result => ?_)
    cases result with
    | error e => rfl
    | ok x => rfl
  rw [hbind, Session.run_bind]
  simp

/-- Updates one after another, the first of them taken off. -/
theorem run_updateEach_cons (key : Key) (values : Row) (items : List (Key × Row)) :
    Session.run respond s (ExceptT.run (updateEach r ((key, values) :: items))) =
      let statement := updateStatement r key values
      match found? r (respond s statement).1 with
      | some found =>
          let rest := Session.run respond (respond s statement).2 (ExceptT.run (updateEach r items))
          (rest.1.map (found.toList ++ ·),
            ⟨statement, (respond s statement).1⟩ :: rest.2.1, rest.2.2)
      | none => (.error ⟨.updateMany⟩, [⟨statement, (respond s statement).1⟩],
          (respond s statement).2) := by
  rw [updateEach, run_ask_bind]
  simp only [run_bind_pure]

/-- Single updates one after another, likewise. -/
theorem run_updates_cons {key : Key} {patch : Value} {values : Row}
    (hpatch : Row.ofValue? patch = some values) (changes : List (Key × Value)) :
    Session.run respond s (ExceptT.run (((key, patch) :: changes).mapM fun c => update r c.1 c.2)) =
      let statement := updateStatement r key values
      match found? r (respond s statement).1 with
      | some found =>
          let rest := Session.run respond (respond s statement).2
            (ExceptT.run (changes.mapM fun c => update r c.1 c.2))
          (rest.1.map (found :: ·), ⟨statement, (respond s statement).1⟩ :: rest.2.1, rest.2.2)
      | none => (.error ⟨.update⟩, [⟨statement, (respond s statement).1⟩],
          (respond s statement).2) := by
  have hupdate : update r key patch
      = ask .update (updateStatement r key values) r.firstRecord? := by
    rw [update, hpatch]
    rfl
  rw [List.mapM_cons, hupdate, run_ask_bind]
  simp only [run_bind_pure]

-- ============================================================ clean prefix

/-- Statements of updates were sent one by one: all of them, each with an
answer that the update could use, and the result has the records that were
found; or as many as came to an answer that ends the updates. -/
inductive RunsUpToFailure (r : Resource) :
    List Statement → List Session.Exchange → Except QueryError (List Value) → Prop where
  | completed {used : List Session.Exchange} {founds : List (Option Value)} :
      List.Forall₂ (fun e found => Finds r e.answer found) used founds →
        RunsUpToFailure r (used.map (·.statement)) used (.ok founds.reduceOption)
  | stopped {used : List Session.Exchange} {founds : List (Option Value)}
      {last : Session.Exchange} {unsent : List Statement} :
      List.Forall₂ (fun e found => Finds r e.answer found) used founds → Breaks r last.answer →
        RunsUpToFailure r ((used ++ [last]).map (·.statement) ++ unsent) (used ++ [last])
          (.error ⟨.updateMany⟩)

/-- In front of a run there may be an update that was answered well. -/
theorem RunsUpToFailure.behind {statements : List Statement} {exchanges : List Session.Exchange}
    {result : Except QueryError (List Value)} (h : RunsUpToFailure r statements exchanges result)
    {first : Session.Exchange} {found : Option Value} (hfound : Finds r first.answer found) :
    RunsUpToFailure r (first.statement :: statements) (first :: exchanges)
      (result.map (found.toList ++ ·)) := by
  cases h with
  | completed hused =>
      next founds =>
      have hrecords : found.toList ++ founds.reduceOption = (found :: founds).reduceOption := by
        cases found with
        | none => rfl
        | some v => rfl
      show RunsUpToFailure r ((first :: exchanges).map (·.statement)) (first :: exchanges)
        (.ok (found.toList ++ founds.reduceOption))
      rw [hrecords]
      exact .completed (.cons hfound hused)
  | stopped hused hbreaks => exact .stopped (.cons hfound hused) hbreaks

theorem runsUpToFailure_updateEach (items : List (Key × Row)) :
    let run := Session.run respond s (ExceptT.run (updateEach r items))
    RunsUpToFailure r (items.map fun item => updateStatement r item.1 item.2) run.2.1 run.1 := by
  induction items generalizing s with
  | nil => exact .completed .nil
  | cons item items ih =>
      obtain ⟨key, values⟩ := item
      intro run
      have hrun : run = _ := run_updateEach_cons key values items
      let first : Session.Exchange :=
        ⟨updateStatement r key values, (respond s (updateStatement r key values)).1⟩
      rw [hrun, List.map_cons]
      cases hfound : found? r (respond s (updateStatement r key values)).1 with
      | none =>
          have hbreaks : Breaks r first.answer := breaks_of_found? hfound
          simp only [hfound]
          exact .stopped .nil hbreaks
      | some found =>
          have hfinds : Finds r first.answer found := finds_of_found? hfound
          simp only [hfound]
          exact ih.behind hfinds

/-- The result of single updates, as that of updates at once: the records
that were found, or a failure of the whole. -/
def together : Except QueryError (List (Option Value)) → Except QueryError (List Value)
  | .ok founds => .ok founds.reduceOption
  | .error _ => .error ⟨.updateMany⟩

theorem map_together (found : Option Value) (result : Except QueryError (List (Option Value))) :
    together (result.map (found :: ·)) = (together result).map (found.toList ++ ·) := by
  cases result with
  | error e => rfl
  | ok founds =>
      cases found with
      | none => rfl
      | some v => rfl

/-- Updates at once send what single updates send one after another, and
are answered as these are. -/
theorem run_updateEach_eq {changes : List (Key × Value)} {rows : List Row}
    (h : List.Forall₂ (fun c row => Row.ofValue? c.2 = some row) changes rows) :
    let each := Session.run respond s (ExceptT.run (changes.mapM fun c => update r c.1 c.2))
    Session.run respond s (ExceptT.run (updateEach r ((changes.map (·.1)).zip rows)))
      = (together each.1, each.2) := by
  induction h generalizing s with
  | nil => rfl
  | @cons c row changes rows hrow _ ih =>
      obtain ⟨key, patch⟩ := c
      intro each
      have heach : each = _ := run_updates_cons hrow changes
      show Session.run respond s
        (ExceptT.run (updateEach r ((key, row) :: (changes.map (·.1)).zip rows))) = _
      rw [heach, run_updateEach_cons]
      simp only
      cases found? r (respond s (updateStatement r key row)).1 with
      | none => rfl
      | some found =>
          simp only [ih, map_together]

-- =============================================================== payloads

theorem payloads?_of_objects {changes : List (Key × Value)}
    (h : ∀ c ∈ changes, Row.ofValue? c.2 ≠ none) :
    ∃ rows, payloads? (changes.map (·.2)) = some rows
      ∧ List.Forall₂ (fun c row => Row.ofValue? c.2 = some row) changes rows := by
  induction changes with
  | nil => exact ⟨[], rfl, .nil⟩
  | cons c changes ih =>
      obtain ⟨hfirst, hothers⟩ := List.forall_mem_cons.1 h
      obtain ⟨row, hrow⟩ := Option.ne_none_iff_exists'.1 hfirst
      obtain ⟨rows, hrows, hall⟩ := ih hothers
      exact ⟨row :: rows, mapM_cons_eq_some_iff.2 ⟨row, rows, hrow, hrows, rfl⟩, .cons hrow hall⟩

/-- Every change has the update of its own payload. -/
theorem statements_of_payloads (r : Resource) {changes : List (Key × Value)} {rows : List Row}
    (h : List.Forall₂ (fun c row => Row.ofValue? c.2 = some row) changes rows) :
    List.Forall₂ (fun c statement => ∃ values, Row.ofValue? c.2 = some values
        ∧ statement = updateStatement r c.1 values) changes
      (((changes.map (·.1)).zip rows).map fun item => updateStatement r item.1 item.2) := by
  induction h with
  | nil => exact .nil
  | cons hrow _ ih => exact .cons ⟨_, hrow, rfl⟩ ih

/-- What a change of many rows comes to, whatever answers. -/
structure ChangesInTurn (respond : σ → Statement → Answer × σ) (s : σ) (r : Resource)
    (changes : List (Key × Value)) : Prop where
  /-- A patch that is no object keeps back all the updates. -/
  unfit : (∃ c ∈ changes, Row.ofValue? c.2 = none) →
    Session.run respond s (ExceptT.run (updateMany r changes)) = (.error ⟨.updateMany⟩, [], s)
  /-- Otherwise every change has its update, and they are sent in turn. -/
  runs : (∀ c ∈ changes, Row.ofValue? c.2 ≠ none) →
    ∃ statements,
      List.Forall₂ (fun c statement => ∃ values, Row.ofValue? c.2 = some values
        ∧ statement = updateStatement r c.1 values) changes statements
      ∧ RunsUpToFailure r statements
        (Session.run respond s (ExceptT.run (updateMany r changes))).2.1
        (Session.run respond s (ExceptT.run (updateMany r changes))).1
  /-- Single updates are answered in the same way. -/
  single : (∀ c ∈ changes, Row.ofValue? c.2 ≠ none) →
    let each := Session.run respond s (ExceptT.run (changes.mapM fun c => update r c.1 c.2))
    Session.run respond s (ExceptT.run (updateMany r changes)) = (together each.1, each.2)

theorem changesInTurn (respond : σ → Statement → Answer × σ) (s : σ) (r : Resource)
    (changes : List (Key × Value)) : ChangesInTurn respond s r changes := by
  have hmany : ∀ {rows : List Row}, payloads? (changes.map (·.2)) = some rows →
      updateMany r changes = updateEach r ((changes.map (·.1)).zip rows) := by
    intro rows hrows
    rw [updateMany, hrows]
    rfl
  constructor
  case unfit =>
    intro hunfit
    obtain ⟨c, hc, hnone⟩ := hunfit
    rw [updateMany_unfit ⟨c.2, List.mem_map_of_mem hc, hnone⟩]
    rfl
  case runs =>
    intro hobjects
    obtain ⟨rows, hrows, hall⟩ := payloads?_of_objects hobjects
    rw [hmany hrows]
    exact ⟨_, statements_of_payloads r hall, runsUpToFailure_updateEach _⟩
  case single =>
    intro hobjects
    obtain ⟨rows, hrows, hall⟩ := payloads?_of_objects hobjects
    rw [hmany hrows]
    exact run_updateEach_eq hall

-- ================================================================ a store

variable {supply : Supply} {store : Store}

/-- Single updates succeed with objects only. -/
theorem objects_of_updates :
    ∀ {changes : List (Key × Value)} {store : Store} {founds : List (Option Value)},
      (runOn supply store (changes.mapM fun c => update r c.1 c.2)).1 = .ok founds →
        ∀ c ∈ changes, Row.ofValue? c.2 ≠ none
  | [], _, _, _, _, hc => by cases hc
  | first :: changes, store, founds, h, c, hc => by
      obtain ⟨found, others, hfirst, hothers, -⟩ := runOn_mapM_cons_eq_ok_iff.1 h
      rcases List.mem_cons.1 hc with rfl | hc
      · obtain ⟨values, hvalues, -⟩ := runOn_require_bind_eq_ok_iff.1 hfirst
        rw [hvalues]
        exact Option.some_ne_none values
      · exact objects_of_updates hothers c hc

/-- On a store, a change of many rows succeeds if the single updates do,
with the records that these find, and it leaves the store that these
leave. -/
structure ChangesTogether (supply : Supply) (store : Store) (r : Resource)
    (changes : List (Key × Value)) : Prop where
  answer : ∀ records, (runOn supply store (updateMany r changes)).1 = .ok records
    ↔ ∃ founds, (runOn supply store (changes.mapM fun c => update r c.1 c.2)).1 = .ok founds
      ∧ records = founds.reduceOption
  left : ∀ records, (runOn supply store (updateMany r changes)).1 = .ok records →
    (runOn supply store (updateMany r changes)).2
      = (runOn supply store (changes.mapM fun c => update r c.1 c.2)).2

theorem changesTogether (supply : Supply) (store : Store) (r : Resource)
    (changes : List (Key × Value)) : ChangesTogether supply store r changes := by
  have hturn := changesInTurn (Store.execute supply) store r changes
  by_cases hobjects : ∀ c ∈ changes, Row.ofValue? c.2 ≠ none
  · have hsame : runOn supply store (updateMany r changes)
        = (together (runOn supply store (changes.mapM fun c => update r c.1 c.2)).1,
            (runOn supply store (changes.mapM fun c => update r c.1 c.2)).2) := by
      unfold runOn
      rw [hturn.single hobjects]
    constructor
    case answer =>
      intro records
      rw [hsame]
      generalize (runOn supply store (changes.mapM fun c => update r c.1 c.2)).1 = result
      cases result with
      | error e => simp [together]
      | ok founds => simp [together, eq_comm]
    case left =>
      intro records _
      rw [hsame]
  · push Not at hobjects
    have hfailed : (runOn supply store (updateMany r changes)).1 = .error ⟨.updateMany⟩ := by
      unfold runOn
      rw [hturn.unfit hobjects]
    obtain ⟨c, hc, hnone⟩ := hobjects
    constructor
    case answer =>
      intro records
      rw [hfailed]
      refine iff_of_false (by simp) ?_
      intro hsingle
      obtain ⟨founds, hfounds, -⟩ := hsingle
      exact objects_of_updates hfounds c hc hnone
    case left =>
      intro records h
      rw [hfailed] at h
      cases h

/-- Whatever answers, a change of many rows sends its updates in turn up
to the first that fails or returns a first row that is no record, and none
if a patch is no object. On a store it comes to what the single updates
come to. -/
theorem changes_run_up_to_failure (r : Resource) (changes : List (Key × Value)) :
    (∀ (σ : Type) (respond : σ → Statement → Answer × σ) (s : σ),
        ChangesInTurn respond s r changes)
      ∧ ∀ (supply : Supply) (store : Store), ChangesTogether supply store r changes :=
  ⟨fun _ respond s => changesInTurn respond s r changes,
    fun supply store => changesTogether supply store r changes⟩

/-- The second of three updates fails, and the third is not sent. -/
example :
    let patch : Value := .object [("id", .int 1)]
    let run := Session.run Session.fromQueue [.ok [], .error (.refused "reset")]
      (ExceptT.run (updateMany counters [(.int 7, patch), (.text "7", patch), (.int 7, patch)]))
    run.1 = .error ⟨.updateMany⟩ ∧ run.2.1.length = 2 :=
  ⟨rfl, rfl⟩

end Repository

end TableApi
