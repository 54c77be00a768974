/-
What the standard handlers write.

A handler reads its input from the call before it sends anything, so input
that it cannot read costs no statement. Behind that, listing, reading and
searching send no write whatever they are answered (`ReadsOnly`), and a
creation sends one write and blames the store if it fails. A change and a
deletion send their write only behind a count above zero.

One way to a refusal behind a write is left: a change whose write meets no
row answers that there is none. On a store it cannot happen, as the count
and the write have the same condition and nothing comes in between; it is
the one place where what the store is matters (`restrained_changing`).
-/
import TableApi.Api.ResourceController
import TableApi.Proofs.Repository.Run
import TableApi.Proofs.Service.ExistenceCheck
import TableApi.Proofs.Store.Call

namespace TableApi

open Json Http

-- =============================================================== sessions

namespace Session

variable {α β ε σ : Type}

/-- The statements sent that write. -/
def writes (exchanges : List Exchange) : List Statement :=
  (exchanges.map (·.statement)).filter (·.kind.isWrite)

/-- The writes of a session are its first statement, if this writes, and
those behind it. -/
theorem writes_run_send (respond : σ → Statement → Answer × σ) (s : σ) (statement : Statement)
    (next : Answer → Session α) :
    writes (run respond s (.send statement next)).2.1
      = (if statement.kind.isWrite then [statement] else [])
        ++ writes (run respond (respond s statement).2 (next (respond s statement).1)).2.1 := by
  simp only [run, writes, List.map_cons, List.filter_cons]
  cases statement.kind.isWrite <;> rfl

/-- The session sends no write, whatever it is answered. -/
inductive ReadsOnly : Session α → Prop
  | done (a : α) : ReadsOnly (.done a)
  | send {statement : Statement} {next : Answer → Session α} :
      statement.kind.isWrite = false → (∀ answer, ReadsOnly (next answer)) →
        ReadsOnly (.send statement next)

/-- A session that reads only, going on with one that does, reads only. -/
theorem ReadsOnly.bind {a : Session α} {f : α → Session β} (ha : ReadsOnly a)
    (hf : ∀ x, ReadsOnly (f x)) : ReadsOnly (a.bind f) := by
  induction ha with
  | done x => exact hf x
  | send hread _ ih => exact .send hread ih

/-- Whatever answers, such a session sends no write. -/
theorem ReadsOnly.writes_run {a : Session α} (h : ReadsOnly a)
    (respond : σ → Statement → Answer × σ) (s : σ) : writes (run respond s a).2.1 = [] := by
  induction h generalizing s with
  | done x => rfl
  | @send statement next hread _ ih =>
      rw [writes_run_send, hread, ih]
      rfl

/-- An attempt that reads only, and then one that does for every result. -/
theorem ReadsOnly.attempt {a : Attempt ε α} {f : α → Attempt ε β}
    (ha : ReadsOnly (ExceptT.run a)) (hf : ∀ x, ReadsOnly (ExceptT.run (f x))) :
    ReadsOnly (ExceptT.run (a >>= f)) :=
  ReadsOnly.bind ha fun result => match result with
    | .ok x => hf x
    | .error _ => .done _

/-- Where no write was sent, the rows of the store are as they were. -/
theorem rows_run_of_writes_eq_nil {supply : Supply} (t : Table) :
    ∀ (a : Session α) (s : Store), writes (run (Store.execute supply) s a).2.1 = [] →
      (run (Store.execute supply) s a).2.2.rows t = s.rows t
  | .done _, _, _ => rfl
  | .send statement next, s, h => by
      rw [writes_run_send] at h
      obtain ⟨hfirst, hrest⟩ := List.append_eq_nil_iff.1 h
      have hread : statement.kind.isWrite = false := by
        by_contra hwrite
        rw [if_pos (eq_true_of_ne_false hwrite)] at hfirst
        cases hfirst
      exact (rows_run_of_writes_eq_nil t (next _) _ hrest).trans
        (Store.rows_execute_of_read hread t)

end Session

-- ============================================================== restraint

namespace Api

open Session Routing

variable {α : Type} {supply : Supply} {s : Store} {r : Resource} {key : Key}

/-- The response blames the request. -/
def BlamesRequest (response : Response) : Prop := 400 ≤ response.status ∧ response.status < 500

/-- On the store the session sends one write at most, and none if its
response blames the request. -/
structure Restrained (supply : Supply) (s : Store) (a : Session Response) : Prop where
  atMostOne : (writes (run (Store.execute supply) s a).2.1).length ≤ 1
  spared : BlamesRequest (run (Store.execute supply) s a).1 →
    writes (run (Store.execute supply) s a).2.1 = []

/-- Reading only is restraint enough. -/
theorem restrained_of_readsOnly {a : Session Response} (h : ReadsOnly a) :
    Restrained supply s a where
  atMostOne := by
    rw [h.writes_run]
    exact Nat.zero_le 1
  spared := fun _ => h.writes_run _ s

/-- A read first changes nothing of what follows on the store it leaves. -/
theorem restrained_of_read {statement : Statement} {next : Answer → Session Response}
    (hread : statement.kind.isWrite = false)
    (hnext : Restrained supply (s.execute supply statement).2
      (next (s.execute supply statement).1)) :
    Restrained supply s (.send statement next) := by
  have hwrites := writes_run_send (Store.execute supply) s statement next
  rw [hread] at hwrites
  exact ⟨hwrites ▸ hnext.atMostOne, fun hblames => hwrites ▸ hnext.spared hblames⟩

/-- A write may come last if the response to its answer does not blame the
request. -/
theorem restrained_of_write {statement : Statement} {finish : Answer → Response}
    (h : ¬ BlamesRequest (finish (s.execute supply statement).1)) :
    Restrained supply s (.send statement fun answer => .done (finish answer)) where
  atMostOne := List.length_filter_le _ [statement]
  spared := fun hblames => absurd hblames h

-- ============================================================== responses

/-- The response to the result of an attempt. -/
def answered (present : α → Response) : Except ApiError α → Response
  | .ok a => present a
  | .error e => error e

/-- The response to an attempt is made of its result when it is done. -/
theorem respond_eq (a : Attempt ApiError α) (present : α → Response) :
    respond (do return present (← a))
      = Session.bind (ExceptT.run a) fun result => .done (answered present result) := by
  refine (Session.bind_assoc _ _ (ExceptT.run a)).trans (congrArg _ (funext fun result => ?_))
  cases result <;> rfl

/-- To answer a request nothing more is sent. -/
theorem readsOnly_respond {a : Attempt ApiError Response} (h : ReadsOnly (ExceptT.run a)) :
    ReadsOnly (respond a) :=
  h.bind fun
    | .ok response => .done response
    | .error e => .done (error e)

/-- Input that cannot be read is answered before anything is sent. -/
theorem restrained_taken {input : Except BadRequest α} {next : α → Attempt ApiError Response}
    (h : ∀ a, Restrained supply s (respond (next a))) :
    Restrained supply s (respond (taken input >>= next)) := by
  cases input with
  | error cause => exact restrained_of_readsOnly (.done _)
  | ok a => exact h a

/-- A failure of the store does not blame the request. -/
theorem not_blamesRequest_query (operation : Operation) :
    ¬ BlamesRequest (error (.query ⟨operation⟩)) :=
  fun h => Nat.lt_irrefl 500 h.2

/-- A record does not blame it. -/
theorem not_blamesRequest_one (record : Value) : ¬ BlamesRequest (one record) := by
  intro h
  have hstatus : 400 ≤ 200 := h.1
  omega

theorem not_blamesRequest_noContent : ¬ BlamesRequest noContent := fun h => absurd h.1 (by decide)

-- ================================================================ reading

/-- Taking the input of a request sends nothing. -/
theorem readsOnly_taken (input : Except BadRequest α) :
    ReadsOnly (ExceptT.run (taken input)) := by
  cases input <;> exact .done _

theorem readsOnly_chosen (options : Except ApiError α) :
    ReadsOnly (ExceptT.run (chosen options)) := by
  cases options <;> exact .done _

/-- Compiling a filter sends nothing. -/
theorem readsOnly_compiled (c : Except Filter.FilterError α) :
    ReadsOnly (ExceptT.run (Service.compiled c)) := by
  cases c <;> exact .done _

theorem readsOnly_run {a : Attempt QueryError α} (h : ReadsOnly (ExceptT.run a)) :
    ReadsOnly (ExceptT.run (Service.run a)) :=
  ReadsOnly.bind h fun _ => .done _

/-- A single statement that is no write reads only. -/
theorem readsOnly_ask {operation : Operation} {statement : Statement}
    {read : List Row → Option α} (h : statement.kind.isWrite = false) :
    ReadsOnly (ExceptT.run (Repository.ask operation statement read)) := by
  refine .send h fun answer => ?_
  cases answer with
  | error e => exact .done _
  | ok rows =>
      dsimp only
      cases read rows <;> exact .done _

theorem readsOnly_found (key : Key) (record : Option Value) :
    ReadsOnly (ExceptT.run (Service.found r key record)) := by
  cases record <;> exact .done _

/-- A listing reads only. -/
theorem readsOnly_findAll (call : Call) : ReadsOnly (findAll r call) := by
  refine readsOnly_respond ((readsOnly_chosen _).attempt fun options => ?_)
  refine .attempt ?_ fun _ => .done _
  refine (readsOnly_compiled _).attempt fun selection => readsOnly_run ?_
  exact (readsOnly_ask rfl).attempt fun records => (readsOnly_ask rfl).attempt fun total => .done _

theorem readsOnly_findById (call : Call) : ReadsOnly (findById r call) := by
  refine readsOnly_respond ((readsOnly_taken _).attempt fun key => .attempt ?_ fun _ => .done _)
  exact (readsOnly_run (readsOnly_ask rfl)).attempt (readsOnly_found key)

theorem readsOnly_search (fields : List String) (call : Call) :
    ReadsOnly (search r fields call) := by
  refine readsOnly_respond ((readsOnly_chosen _).attempt fun options => ?_)
  refine .attempt ?_ fun _ => .done _
  exact (readsOnly_compiled _).attempt fun selection => readsOnly_run (readsOnly_ask rfl)

-- ================================================================ writing

/-- What a creation makes of the answer to its write. -/
def created (r : Resource) : Answer → Except ApiError Value
  | .ok rows =>
      match (r.firstRecord? rows).join with
      | some record => .ok record
      | none => .error (.query ⟨.create⟩)
  | .error _ => .error (.query ⟨.create⟩)

/-- A creation is one insert, of a payload that is an object. -/
theorem create_eq (r : Resource) (payload : Value) :
    ExceptT.run (Service.create r payload)
      = match Row.ofValue? payload with
        | some row => .send (.insert r.table [row]) fun answer => .done (created r answer)
        | none => .done (.error (.query ⟨.create⟩)) := by
  unfold Service.create Repository.create
  cases Row.ofValue? payload with
  | none => rfl
  | some row =>
      refine congrArg (Session.send _) (funext fun answer => ?_)
      cases answer with
      | error e => rfl
      | ok rows =>
          simp only [created]
          cases (r.firstRecord? rows).join <;> rfl

/-- A creation does not blame the request, whatever its write is answered. -/
theorem not_blamesRequest_created (answer : Answer) :
    ¬ BlamesRequest (answered one (created r answer)) := by
  unfold created
  split
  · split
    · exact not_blamesRequest_one _
    · exact not_blamesRequest_query _
  · exact not_blamesRequest_query _

/-- A creation is restrained. -/
theorem restrained_create (call : Call) : Restrained supply s (create r call) := by
  refine restrained_taken fun payload => ?_
  rw [respond_eq, create_eq]
  cases Row.ofValue? payload with
  | none => exact restrained_of_readsOnly (.done _)
  | some row => exact restrained_of_write (not_blamesRequest_created _)

/-- What follows a count that is no affirmation sends nothing; what follows
an affirmation has to be restrained on the store that the count leaves. -/
theorem restrained_guarded {next : Session (Except ApiError α)} {present : α → Response}
    (h : ∀ n, Repository.reported? (s.execute supply (Service.check r key)).1 = some (n + 1) →
      Restrained supply (s.execute supply (Service.check r key)).2
        (next.bind fun result => .done (answered present result))) :
    Restrained supply s
      ((Service.guarded r key next).bind fun result => .done (answered present result)) := by
  refine restrained_of_read rfl ?_
  dsimp only
  rcases hreported : Repository.reported? (s.execute supply (Service.check r key)).1 with _ | _ | n
  · exact restrained_of_readsOnly (.done _)
  · exact restrained_of_readsOnly (.done _)
  · exact h n hreported

/-- A count above zero leaves a store that has a row with the key, and no
failure. -/
theorem exists_of_reported {n : Nat}
    (h : Repository.reported? (s.execute supply (Service.check r key)).1 = some (n + 1)) :
    (s.execute supply (Service.check r key)).2.failure = none
      ∧ ∃ row ∈ (s.execute supply (Service.check r key)).2.rows r.table,
          (r.hasKey key).keeps row = true := by
  refine ⟨Store.failure_execute, ?_⟩
  rw [Store.rows_execute_of_read rfl]
  cases hfailure : s.failure with
  | some message => rw [Repository.execute_of_failure hfailure] at h; cases h
  | none =>
      rw [Repository.execute_of_ready hfailure] at h
      refine List.countP_pos_iff.1 (Nat.pos_of_ne_zero fun hzero => ?_)
      have hcount : Repository.countOf? [Store.countRow 0] = some (n + 1) := hzero ▸ h
      rw [Repository.countOf?_countRow (Nat.zero_le _)] at hcount
      cases hcount

/-- A change that meets a row answers with it, or blames the store. -/
theorem not_blamesRequest_changed (hready : s.failure = none) {row : Row}
    (hrow : row ∈ s.rows r.table) (hkeeps : (r.hasKey key).keeps row = true) (values : Row) :
    ¬ BlamesRequest (answered one
      (Service.changed r key (s.execute supply (Repository.updateStatement r key values)).1)) := by
  have hanswer : (s.execute supply (Repository.updateStatement r key values)).1
      = .ok (((s.rows r.table).filter (r.hasKey key).keeps).map (r.table.overwrite values)) := by
    rw [Repository.execute_of_ready hready]
    rfl
  obtain ⟨first, rest, hrows⟩ := List.exists_cons_of_ne_nil
    (List.ne_nil_of_mem (List.mem_filter.2 ⟨hrow, hkeeps⟩))
  rw [hanswer, hrows]
  simp only [Service.changed, List.map_cons, Resource.firstRecord?]
  cases r.record? (r.table.overwrite values first) with
  | none => exact not_blamesRequest_query _
  | some record => exact not_blamesRequest_one record

/-- Behind the check a change writes, and is answered with the record: the
row is there. -/
theorem restrained_changing (hready : s.failure = none)
    (hrow : ∃ row ∈ s.rows r.table, (r.hasKey key).keeps row = true) (patch : Value) :
    Restrained supply s
      ((Service.changing r key patch).bind fun result => .done (answered one result)) := by
  unfold Service.changing
  cases Row.ofValue? patch with
  | none => exact restrained_of_readsOnly (.done _)
  | some values =>
      obtain ⟨row, hrow, hkeeps⟩ := hrow
      exact restrained_of_write (not_blamesRequest_changed hready hrow hkeeps values)

/-- An update by key is restrained: either the row is there, or nothing is
written. -/
theorem restrained_update (call : Call) : Restrained supply s (update r call) := by
  refine restrained_taken fun key => restrained_taken fun patch => ?_
  rw [respond_eq, Service.update_eq]
  refine restrained_guarded fun n hreported => ?_
  obtain ⟨hready, hrow⟩ := exists_of_reported hreported
  exact restrained_changing hready hrow patch

/-- A deletion by key is restrained, for the same reason. -/
theorem restrained_delete (call : Call) : Restrained supply s (delete r call) := by
  refine restrained_taken fun key => ?_
  have hrespond := respond_eq (Service.delete r key) fun _ => noContent
  refine hrespond ▸ ?_
  rw [Service.delete_eq]
  refine restrained_guarded fun n _ => restrained_of_write ?_
  cases ((s.execute supply (Service.check r key)).2.execute supply
      (.delete r.table (r.hasKey key))).1 with
  | ok rows => exact not_blamesRequest_noContent
  | error e => exact not_blamesRequest_query _

end Api

end TableApi
