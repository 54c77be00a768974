/-
Changes and deletions by key that overtake one another.

Every request is two statements, a count and a write, and between them
other requests may write to the row that was counted. The store answers
one statement at a time, so whatever happens is a schedule of turns: in
each one session sends its next statement and takes the answer.

Nothing is lost by it. A write does not carry over what was counted: an
update puts the cells of its own patch into the row as it stands, and
puts in no row where there is none.

# The invariant

The row is changed by some of the requests, in the order of their
updates, or it is gone (`Phase`). The rows of the table and the log are
what the phase says (`Holds`), and a request that is done has the record
of the row as it was when its update came, its own patch on top
(`Stage`). A turn moves one request on, and the phase at most by its
update or its deletion; what was true of the others stays true, for
updates are only ever added and a row that is gone stays gone
(`Phase.Leads`).
-/
import Mathlib.Data.List.Induction
import Mathlib.Logic.Function.Basic
import TableApi.Proofs.Service.ExistenceCheck
import TableApi.Proofs.Store.Call
import TableApi.Proofs.Store.Update

namespace TableApi

open Json

-- ================================================== sessions taking turns

/-- Sessions that share a store. -/
structure Pool (ι α : Type) where
  store : Store
  sessions : ι → Session α

namespace Pool

variable {ι α : Type} [DecidableEq ι] {supply : Supply} {p : Pool ι α} {i j : ι}

/-- The turn of a session: it sends its next statement, if there is one
left. -/
def turn (supply : Supply) (p : Pool ι α) (i : ι) : Pool ι α :=
  match p.sessions i with
  | .done _ => p
  | .send statement next =>
      let (answer, store) := p.store.execute supply statement
      ⟨store, Function.update p.sessions i (next answer)⟩

/-- The turns of a schedule, one after another. -/
def run (supply : Supply) (p : Pool ι α) (schedule : List ι) : Pool ι α :=
  schedule.foldl (Pool.turn supply) p

/-- The last turn of a schedule comes behind all others. -/
theorem run_concat (schedule : List ι) (last : ι) :
    p.run supply (schedule ++ [last]) = (p.run supply schedule).turn supply last := by
  unfold run
  rw [List.foldl_append]
  rfl

/-- A session that is done has no turn left to take. -/
theorem turn_of_done {a : α} (h : p.sessions i = .done a) : p.turn supply i = p := by
  rw [turn, h]

/-- A session that sends takes the answer of the store as it stands. -/
theorem turn_of_send {statement : Statement} {next : Answer → Session α}
    (h : p.sessions i = .send statement next) :
    p.turn supply i = ⟨(p.store.execute supply statement).2,
      Function.update p.sessions i (next (p.store.execute supply statement).1)⟩ := by
  rw [turn, h]

/-- A turn leaves the other sessions where they are. -/
theorem sessions_turn_of_ne (h : j ≠ i) : (p.turn supply i).sessions j = p.sessions j := by
  cases hsession : p.sessions i with
  | done a => rw [turn_of_done hsession]
  | send statement next =>
      rw [turn_of_send hsession]
      exact Function.update_of_ne h _ _

end Pool

-- =============================================================== requests

/-- What clients ask for the row with a key. -/
inductive Race.Request where
  | update (patch : Value)
  | delete

namespace Race.Request

open Service Repository

variable {r : Resource} {key : Key}

/-- The record of the row behind a change; a deletion has none. -/
abbrev Result := Except ApiError (Option Value)

/-- What the service does for a request. -/
def session (r : Resource) (key : Key) : Request → Session Result
  | update patch => ExceptT.map some (Service.update r key patch)
  | delete => ExceptT.map (fun _ => none) (Service.delete r key)

/-- The part of it behind the count. -/
def write (r : Resource) (key : Key) : Request → Session Result
  | update patch => ExceptT.map (m := Session) some (changing r key patch)
  | delete => ExceptT.map (m := Session) (fun _ => none) (deleting r key)

/-- The cells that a request puts into the row. -/
def cells : Request → Row
  | update patch => (Row.ofValue? patch).getD .empty
  | delete => .empty

/-- Renaming a result leaves the count in front of a write as it is. -/
theorem map_guarded {α β : Type} (f : α → β) (next : Session (Except ApiError α)) :
    ExceptT.map f (guarded r key next : Attempt ApiError α)
      = guarded r key (ExceptT.map f (next : Attempt ApiError α)) := by
  refine congrArg (Session.send _) (funext fun answer => ?_)
  beta_reduce
  rcases reported? answer with _ | _ | n
  · rfl
  · rfl
  · rfl

/-- Every request is a count with a write behind it. -/
theorem session_eq (request : Request) :
    request.session r key = guarded r key (request.write r key) := by
  cases request with
  | update patch => rw [session, update_eq, map_guarded, write]
  | delete => rw [session, delete_eq, map_guarded, write]

end Race.Request

-- ================================================================== races

/-- Requests for the row of a store that has a key. -/
structure Race (ι : Type) where
  store : Store
  resource : Resource
  key : Key
  row : Row
  requests : ι → Race.Request

/-- What becomes of the row: some requests have changed it, one after
another, or it is gone. -/
inductive Phase (ι : Type) where
  | changed (made : List ι)
  | gone

namespace Phase

variable {ι : Type} {phase next : Phase ι}

/-- The phase behind another change. -/
def updated (i : ι) : Phase ι → Phase ι
  | changed made => changed (made ++ [i])
  | gone => gone

/-- One phase leads to another: changes are not undone, and a row that is
gone does not come back. -/
def Leads (phase next : Phase ι) : Prop :=
  ∀ later, next = changed later → ∃ made, phase = changed made ∧ made ⊆ later

/-- A phase leads to itself. -/
theorem Leads.refl (phase : Phase ι) : phase.Leads phase :=
  fun later h => ⟨later, h, List.Subset.refl _⟩

/-- A deletion may come in every phase. -/
theorem leads_gone (phase : Phase ι) : phase.Leads gone :=
  fun _ h => nomatch h

/-- Another change may come in every phase. -/
theorem leads_updated (i : ι) (phase : Phase ι) : phase.Leads (phase.updated i) := by
  cases phase with
  | gone => exact Leads.refl _
  | changed made =>
      intro later h
      obtain rfl := Phase.changed.inj h
      exact ⟨made, rfl, List.subset_append_left _ _⟩

/-- A row that is gone stays gone. -/
theorem Leads.gone (h : phase.Leads next) (hgone : phase = gone) : next = gone := by
  cases next with
  | gone => rfl
  | changed later =>
      obtain ⟨made, hmade, -⟩ := h later rfl
      rw [hgone] at hmade
      cases hmade

end Phase

namespace Race

open Service Repository Request

variable {ι : Type} (c : Race ι)

abbrev table : Table := c.resource.table

/-- Whether a row is the one with the key. -/
abbrev keeps : Row → Bool := (c.resource.hasKey c.key).keeps

/-- The row behind the changes of some requests. -/
def changedBy (made : List ι) : Row :=
  made.foldl (fun row i => c.table.overwrite (c.requests i).cells row) c.row

/-- A row of the table behind those changes; the others are as they
were. -/
def seen (made : List ι) (other : Row) : Row :=
  if c.keeps other then c.changedBy made else other

/-- The rows of the table in a phase. -/
def rows : Phase ι → List Row
  | .changed made => (c.store.rows c.table).map (c.seen made)
  | .gone => (c.store.rows c.table).filter fun other => !c.keeps other

/-- What a store has received since the race began. -/
def sent (store : Store) : List StatementKind :=
  store.received.drop c.store.received.length

/-- The race is for one row that can be read however it is changed. No
failure was asked for, and the patches are objects with cells in columns
of the table other than the key. -/
structure Admissible : Prop where
  ready : c.store.failure = none
  single : (c.store.rows c.table).filter c.keeps = [c.row]
  objects : ∀ i patch, c.requests i = .update patch → (Row.ofValue? patch).isSome
  columns : ∀ i column v, (c.requests i).cells.get? column = some v →
    column ∈ c.table.columns.map (·.name) ∧ column ≠ c.table.primaryKey
  decodable : ∀ made, (c.resource.record? (c.changedBy made)).isSome

/-- No two patches have a column in common. -/
def Disjoint : Prop :=
  ∀ i j, i ≠ j → ∀ column,
    (c.requests i).cells.get? column = none ∨ (c.requests j).cells.get? column = none

/-- The pool in which no request has had a turn. -/
def start : Pool ι Result :=
  ⟨c.store, fun i => (c.requests i).session c.resource c.key⟩

/-- How a request may have ended by the time that the store is as it
is. -/
inductive Ends (c : Race ι) (store : Store) (i : ι) : Result → Prop where
  /-- An update returns the record of the row behind some updates, its
  own the last of them, and that row shows its patch. -/
  | changed {patch record : Value} {made : List ι} :
      c.requests i = .update patch →
      c.resource.record? (c.changedBy (made ++ [i])) = some record →
      (∀ column v, (c.requests i).cells.get? column = some v →
        (c.changedBy (made ++ [i])).get? column = some v) →
        Ends c store i (.ok (some record))
  | deleted :
      c.requests i = .delete → .delete ∈ c.sent store → Ends c store i (.ok none)
  /-- The row is missed only behind a deletion. -/
  | absent :
      .delete ∈ c.sent store → Ends c store i (.error (.notFound c.table.name c.key))

/-- What a race comes to behind a schedule. -/
structure Settles [DecidableEq ι] (c : Race ι) (schedule : List ι) (p : Pool ι Result) : Prop where
  /-- Every request is done in two turns. -/
  finishes : ∀ i, 2 ≤ schedule.count i → ∃ result, p.sessions i = .done result
  ends : ∀ i result, p.sessions i = .done result → c.Ends p.store i result
  /-- A deletion is sent only for a request to delete. -/
  wanted : .delete ∈ c.sent p.store → ∃ i ∈ schedule, c.requests i = .delete
  /-- Before the first deletion the row is there, and the other rows
  beside it are as they were. If the patches are for different columns it
  has those of all requests that are done, and in columns that no patch
  is for it is the row it was. -/
  merged : .delete ∉ c.sent p.store → ∃ final : Row,
    p.store.rows c.table = (c.store.rows c.table).map (fun other =>
        if c.keeps other then final else other)
      ∧ (c.Disjoint →
        (∀ i, 2 ≤ schedule.count i → ∀ column v, (c.requests i).cells.get? column = some v →
            final.get? column = some v)
          ∧ ∀ column, (∀ i, (c.requests i).cells.get? column = none) →
            final.get? column = c.row.get? column)
  /-- From the first deletion on there is no row with the key, and the
  other rows are as they were. -/
  removed : .delete ∈ c.sent p.store →
    p.store.rows c.table = (c.store.rows c.table).filter fun other => !c.keeps other

variable {c} {made : List ι} {i : ι}

-- ================================================== the row and its table

/-- The last change goes on top of the others. -/
theorem changedBy_concat (made : List ι) (i : ι) :
    c.changedBy (made ++ [i]) = c.table.overwrite (c.requests i).cells (c.changedBy made) := by
  unfold changedBy
  rw [List.foldl_append]
  rfl

/-- The row that the race is for has the key. -/
theorem keeps_row (hc : c.Admissible) : c.keeps c.row = true := by
  have hmem : c.row ∈ (c.store.rows c.table).filter c.keeps := by
    rw [hc.single]
    exact List.mem_singleton.2 rfl
  exact (List.mem_filter.1 hmem).2

/-- However the row is changed, it keeps its key. -/
theorem keeps_changedBy (hc : c.Admissible) (made : List ι) :
    c.keeps (c.changedBy made) = true := by
  induction made using List.reverseRecOn with
  | nil => exact keeps_row hc
  | append_singleton made i ih =>
      rw [changedBy_concat]
      exact Resource.keeps_hasKey_overwrite.trans ih

/-- The row shows the patch that was put in last. -/
theorem get?_changedBy_concat (hc : c.Admissible) {column : String} {v : Value}
    (hv : (c.requests i).cells.get? column = some v) :
    (c.changedBy (made ++ [i])).get? column = some v := by
  rw [changedBy_concat, Table.get?_overwrite, if_pos (hc.columns i column v hv), hv,
    Option.some_or]

/-- A patch leaves the columns alone that it does not name. -/
theorem get?_changedBy_concat_of_none {column : String}
    (h : (c.requests i).cells.get? column = none) :
    (c.changedBy (made ++ [i])).get? column = (c.changedBy made).get? column := by
  rw [changedBy_concat, Table.get?_overwrite, h, Option.none_or, ite_self]

/-- A column that no patch names keeps its cell. -/
theorem get?_changedBy_of_none {column : String}
    (h : ∀ i, (c.requests i).cells.get? column = none) :
    (c.changedBy made).get? column = c.row.get? column := by
  induction made using List.reverseRecOn with
  | nil => rfl
  | append_singleton made i ih => rw [get?_changedBy_concat_of_none (h i), ih]

/-- The row shows every patch that was put in, if no two name the same
column. -/
theorem get?_changedBy_of_mem (hc : c.Admissible) (hdisjoint : c.Disjoint)
    (hmem : i ∈ made) {column : String} {v : Value}
    (hv : (c.requests i).cells.get? column = some v) :
    (c.changedBy made).get? column = some v := by
  induction made using List.reverseRecOn with
  | nil => cases hmem
  | append_singleton made last ih =>
      by_cases hlast : i = last
      · subst hlast
        exact get?_changedBy_concat hc hv
      · have hnone : (c.requests last).cells.get? column = none := by
          rcases hdisjoint i last hlast column with h | h
          · rw [h] at hv
            cases hv
          · exact h
        rw [get?_changedBy_concat_of_none hnone]
        refine ih ((List.mem_append.1 hmem).resolve_right fun h => ?_)
        exact hlast (List.mem_singleton.1 h)

/-- Changes touch no key, so they leave other rows other rows. -/
theorem keeps_seen (hc : c.Admissible) (made : List ι) (other : Row) :
    c.keeps (c.seen made other) = c.keeps other := by
  unfold seen
  split
  · next h => rw [keeps_changedBy hc, h]
  · rfl

/-- At the start the rows are those of the store. -/
theorem rows_start (hc : c.Admissible) : c.rows (.changed []) = c.store.rows c.table := by
  refine (List.map_congr_left fun other hother => ?_).trans (List.map_id _)
  unfold seen
  split
  · next h =>
    -- The only row with the key is the one of the race.
    have hmem := List.mem_filter.2 ⟨hother, h⟩
    rw [hc.single] at hmem
    exact (List.mem_singleton.1 hmem).symm
  · rfl

/-- As long as it is there, the row is the only one with the key. -/
theorem filter_rows_changed (hc : c.Admissible) (made : List ι) :
    (c.rows (.changed made)).filter c.keeps = [c.changedBy made] := by
  have hkeeps : c.keeps ∘ c.seen made = c.keeps := funext (keeps_seen hc made)
  rw [rows, List.filter_map, hkeeps, hc.single, List.map_singleton, seen, if_pos (keeps_row hc)]

/-- Where it is gone no row has the key. -/
theorem filter_rows_gone : (c.rows .gone).filter c.keeps = [] := by
  rw [rows, List.filter_filter, List.filter_eq_nil_iff]
  intro other _
  simp

/-- A deletion leaves the same rows in every phase. -/
theorem delete_rows (hc : c.Admissible) (phase : Phase ι) :
    (c.rows phase).filter (fun other => !c.keeps other) = c.rows .gone := by
  cases phase with
  | gone =>
      rw [rows, List.filter_filter]
      simp only [Bool.and_self]
  | changed made =>
      have hkeeps : (fun other => !c.keeps other) ∘ c.seen made = fun other => !c.keeps other := by
        funext other
        exact congrArg _ (keeps_seen hc made other)
      rw [rows, List.filter_map, hkeeps, rows]
      refine (List.map_congr_left fun other hother => ?_).trans (List.map_id _)
      have hother := (List.mem_filter.1 hother).2
      rw [seen, if_neg (by simpa using hother), id]

/-- An update leaves the row with one more patch on it, and no row where
there was none. -/
theorem update_rows (hc : c.Admissible) (phase : Phase ι) (i : ι) :
    (c.rows phase).map (fun other => if c.keeps other then
        c.table.overwrite (c.requests i).cells other else other)
      = c.rows (phase.updated i) := by
  cases phase with
  | gone =>
      refine (List.map_congr_left fun other hother => ?_).trans (List.map_id _)
      have hother := (List.mem_filter.1 hother).2
      rw [if_neg (by simpa using hother), id]
  | changed made =>
      rw [rows, List.map_map, Phase.updated, rows]
      refine List.map_congr_left fun other _ => ?_
      rw [Function.comp_apply, keeps_seen hc]
      unfold seen
      split
      · rw [changedBy_concat]
      · rfl

-- ======================================================== one statement

variable {supply : Supply} {store : Store} {phase next : Phase ι}

/-- The store is in a phase. -/
structure Holds (c : Race ι) (store : Store) (phase : Phase ι) : Prop where
  ready : store.failure = none
  rows : store.rows c.table = c.rows phase
  log : c.store.received.length ≤ store.received.length
  deletion : phase = .gone ↔ .delete ∈ c.sent store

/-- At the start no change has been made. -/
theorem holds_start (hc : c.Admissible) : c.Holds c.store (.changed []) := by
  refine ⟨hc.ready, (rows_start hc).symm, Nat.le_refl _, ?_⟩
  constructor
  · intro h
    cases h
  · intro h
    rw [sent, List.drop_length] at h
    cases h

/-- A statement is put on the log of the race. -/
theorem sent_execute (h : c.Holds store phase) (statement : Statement) :
    c.sent (store.execute supply statement).2 = c.sent store ++ [statement.kind] := by
  rw [sent, Store.received_execute, List.drop_append_of_le_length h.log, sent]

/-- A statement takes the store to the phase that has its rows. -/
theorem Holds.execute (h : c.Holds store phase) {statement : Statement}
    (hrows : (store.execute supply statement).2.rows c.table = c.rows next)
    (hgone : next = .gone ↔ phase = .gone ∨ statement.kind = .delete) :
    c.Holds (store.execute supply statement).2 next := by
  refine ⟨Store.failure_execute, hrows, ?_, ?_⟩
  · rw [Store.received_execute, List.length_append]
    exact Nat.le_add_right_of_le h.log
  · rw [sent_execute h, hgone, h.deletion, List.mem_append, List.mem_singleton, eq_comm]

/-- A count reports the rows with the key and changes nothing. -/
theorem holds_check (supply : Supply) (h : c.Holds store phase) :
    (store.execute supply (check c.resource c.key)).1
        = .ok [Store.countRow ((c.rows phase).countP c.keeps)]
      ∧ c.Holds (store.execute supply (check c.resource c.key)).2 phase := by
  constructor
  · rw [execute_of_ready h.ready, check, Store.perform, rows_received, h.rows,
      keepsRow_some]
  · refine h.execute ?_ (by simp [check, Statement.kind])
    rw [execute_of_ready h.ready, check, Store.perform, rows_received, h.rows]

/-- An update returns the row with its patch on top, if there is one, and
goes over to the next phase. -/
theorem holds_update (hc : c.Admissible) (supply : Supply) (h : c.Holds store phase) (i : ι) :
    (store.execute supply (updateStatement c.resource c.key (c.requests i).cells)).1
        = .ok (((c.rows phase).filter c.keeps).map (c.table.overwrite (c.requests i).cells))
      ∧ c.Holds (store.execute supply (updateStatement c.resource c.key (c.requests i).cells)).2
          (phase.updated i) := by
  constructor
  · rw [execute_of_ready h.ready, updateStatement, Store.perform, rows_received, h.rows]
  · refine h.execute ?_ ?_
    · rw [execute_of_ready h.ready, updateStatement, Store.perform, rows_received, h.rows,
        Store.rows_setRows_self, update_rows hc]
    · cases phase <;> simp [updateStatement, Statement.kind, Phase.updated]

/-- A deletion returns nothing, and leaves no row with the key. -/
theorem holds_delete (hc : c.Admissible) (supply : Supply) (h : c.Holds store phase) :
    (store.execute supply (.delete c.table (c.resource.hasKey c.key))).1 = .ok []
      ∧ c.Holds (store.execute supply (.delete c.table (c.resource.hasKey c.key))).2 .gone := by
  constructor
  · rw [execute_of_ready h.ready, Store.perform]
  · refine h.execute ?_ (by simp [Statement.kind])
    rw [execute_of_ready h.ready, Store.perform, rows_received, h.rows,
      Store.rows_setRows_self, delete_rows hc]

/-- While the row is there, its count is read as one. -/
theorem reported?_changed (hc : c.Admissible) (made : List ι) :
    reported? (.ok [Store.countRow ((c.rows (.changed made)).countP c.keeps)]) = some 1 := by
  rw [List.countP_eq_length_filter, filter_rows_changed hc]
  exact countOf?_countRow (n := 1) (by decide)

/-- Where it is gone, its count is read as zero. -/
theorem reported?_gone :
    reported? (.ok [Store.countRow ((c.rows .gone).countP c.keeps)]) = some 0 := by
  rw [List.countP_eq_length_filter, filter_rows_gone]
  exact countOf?_countRow (n := 0) (by decide)

-- ============================================================== one turn

/-- How far a request has come in some turns, and what came of it. -/
inductive Stage (c : Race ι) (phase : Phase ι) (i : ι) : Nat → Session Result → Prop where
  | waiting : Stage c phase i 0 ((c.requests i).session c.resource c.key)
  | counted {n : Nat} :
      n ≤ 1 → Stage c phase i n ((c.requests i).write c.resource c.key)
  | changed {n : Nat} {patch record : Value} {made : List ι} :
      c.requests i = .update patch →
      c.resource.record? (c.changedBy (made ++ [i])) = some record →
      (∀ later, phase = .changed later → i ∈ later) →
        Stage c phase i n (.done (.ok (some record)))
  | deleted {n : Nat} :
      c.requests i = .delete → phase = .gone → Stage c phase i n (.done (.ok none))
  | absent {n : Nat} :
      phase = .gone → Stage c phase i n (.done (.error (.notFound c.table.name c.key)))

/-- What has come of a request stands in every later phase. -/
theorem Stage.later {n : Nat} {a : Session Result} (h : c.Stage phase i n a)
    (hleads : phase.Leads next) : c.Stage next i n a := by
  cases h with
  | waiting => exact .waiting
  | counted hn => exact .counted hn
  | changed hrequest hrecord hmade =>
      refine .changed hrequest hrecord fun later hlater => ?_
      obtain ⟨made, hphase, hsubset⟩ := hleads later hlater
      exact hsubset (hmade made hphase)
  | deleted hrequest hgone => exact .deleted hrequest (hleads.gone hgone)
  | absent hgone => exact .absent (hleads.gone hgone)

/-- A request is done in two turns. -/
theorem Stage.exists_done {n : Nat} {a : Session Result} (h : c.Stage phase i n a) (hn : 2 ≤ n) :
    ∃ result, a = .done result := by
  cases h with
  | waiting => omega
  | counted hn' => omega
  | changed _ _ _ => exact ⟨_, rfl⟩
  | deleted _ _ => exact ⟨_, rfl⟩
  | absent _ => exact ⟨_, rfl⟩

/-- While the row is there, a request that is done has changed it. -/
theorem Stage.mem_made {n : Nat} {a : Session Result} (h : c.Stage (.changed made) i n a)
    (hn : 2 ≤ n) : i ∈ made := by
  cases h with
  | waiting => omega
  | counted hn' => omega
  | changed _ _ hmade => exact hmade made rfl
  | deleted _ hgone => cases hgone
  | absent hgone => cases hgone

/-- Behind the count an update sends its cells, and reads the record from
the answer. -/
theorem write_update (hc : c.Admissible) {patch : Value} (h : c.requests i = .update patch) :
    (c.requests i).write c.resource c.key
      = .send (updateStatement c.resource c.key (c.requests i).cells) fun answer =>
          .done ((Service.changed c.resource c.key answer).map some) := by
  obtain ⟨values, hvalues⟩ := Option.isSome_iff_exists.1 (hc.objects i patch h)
  simp only [h, write, changing, cells, hvalues, Option.getD_some]
  refine congrArg (Session.send _) (funext fun answer => ?_)
  beta_reduce
  cases Service.changed c.resource c.key answer with
  | error e => rfl
  | ok record => rfl

/-- Behind the count a deletion sends its statement, and reads nothing. -/
theorem write_delete (h : c.requests i = .delete) :
    (c.requests i).write c.resource c.key
      = .send (.delete c.table (c.resource.hasKey c.key)) fun answer =>
          .done ((Service.deleted answer).map fun _ => none) := by
  simp only [h, write]
  refine congrArg (Session.send _) (funext fun answer => ?_)
  cases answer with
  | error e => rfl
  | ok rows => rfl

/-- A request that has not begun is not done. -/
theorem session_ne_done (request : Request) (result : Result) :
    Session.done result ≠ request.session c.resource c.key := by
  rw [session_eq]
  exact fun h => nomatch h

/-- A request that has only counted is not done. -/
theorem write_ne_done (hc : c.Admissible) (i : ι) (result : Result) :
    Session.done result ≠ (c.requests i).write c.resource c.key := by
  cases hrequest : c.requests i with
  | update patch =>
      rw [← hrequest, write_update hc hrequest]
      exact fun h => nomatch h
  | delete =>
      rw [← hrequest, write_delete hrequest]
      exact fun h => nomatch h

/-- What has come of a request that is done. -/
theorem Stage.ends (hc : c.Admissible) (hholds : c.Holds store phase) {n : Nat} {result : Result}
    (h : c.Stage phase i n (.done result)) : c.Ends store i result := by
  -- What a request still has to do is no constructor of sessions, so the
  -- session is kept apart from the stage it is at.
  generalize hsession : Session.done result = session at h
  cases h with
  | waiting => exact absurd hsession (session_ne_done _ _)
  | counted _ => exact absurd hsession (write_ne_done hc i _)
  | changed hrequest hrecord _ =>
      obtain rfl := Session.done.inj hsession
      exact .changed hrequest hrecord fun column v hv => get?_changedBy_concat hc hv
  | deleted hrequest hgone =>
      obtain rfl := Session.done.inj hsession
      exact .deleted hrequest (hholds.deletion.1 hgone)
  | absent hgone =>
      obtain rfl := Session.done.inj hsession
      exact .absent (hholds.deletion.1 hgone)

variable [DecidableEq ι] {p : Pool ι Result}

/-- What the turn of a request comes to: it moves on, and the phase with
it if it has written. -/
structure Advances (c : Race ι) (supply : Supply) (p : Pool ι Result) (phase : Phase ι) (i : ι)
    (n : Nat) (next : Phase ι) : Prop where
  leads : phase.Leads next
  cause : next = .gone → phase = .gone ∨ c.requests i = .delete
  holds : c.Holds (p.turn supply i).store next
  stage : c.Stage next i (n + 1) ((p.turn supply i).sessions i)

/-- A request that sends moves on by its statement and the answer. -/
theorem advances_of_send {statement : Statement} {k : Answer → Session Result} {n : Nat}
    (hsession : p.sessions i = .send statement k) (hleads : phase.Leads next)
    (hcause : next = .gone → phase = .gone ∨ c.requests i = .delete)
    (hholds : c.Holds (p.store.execute supply statement).2 next)
    (hstage : c.Stage next i (n + 1) (k (p.store.execute supply statement).1)) :
    c.Advances supply p phase i n next := by
  refine ⟨hleads, hcause, ?_, ?_⟩
  · rw [Pool.turn_of_send hsession]
    exact hholds
  · rw [Pool.turn_of_send hsession]
    show c.Stage next i (n + 1) (Function.update p.sessions i _ i)
    rw [Function.update_self]
    exact hstage

/-- A request that is done stays as it is. -/
theorem advances_of_done {result : Result} {n : Nat} (hsession : p.sessions i = .done result)
    (h : c.Holds p.store phase) (hstage : c.Stage phase i (n + 1) (.done result)) :
    c.Advances supply p phase i n phase := by
  have hturn : p.turn supply i = p := Pool.turn_of_done hsession
  refine ⟨.refl _, .inl, ?_, ?_⟩
  · rw [hturn]
    exact h
  · rw [hturn, hsession]
    exact hstage

/-- The count goes by the phase. -/
theorem advances_check (hc : c.Admissible) (h : c.Holds p.store phase)
    (hsession : p.sessions i = (c.requests i).session c.resource c.key) :
    c.Advances supply p phase i 0 phase := by
  obtain ⟨hanswer, hholds⟩ := holds_check supply h
  rw [session_eq] at hsession
  refine advances_of_send hsession (.refl _) .inl hholds ?_
  rw [hanswer]
  cases phase with
  | changed made =>
      simp only [reported?_changed hc]
      exact .counted (Nat.le_refl 1)
  | gone =>
      simp only [reported?_gone]
      exact .absent rfl

/-- An update moves on with its write, and the phase by one change. -/
theorem advances_update (hc : c.Admissible) (h : c.Holds p.store phase) {n : Nat} {patch : Value}
    (hrequest : c.requests i = .update patch)
    (hsession : p.sessions i = (c.requests i).write c.resource c.key) :
    c.Advances supply p phase i n (phase.updated i) := by
  obtain ⟨hanswer, hholds⟩ := holds_update hc supply h i
  rw [write_update hc hrequest] at hsession
  refine advances_of_send hsession (Phase.leads_updated i phase) ?_ hholds ?_
  · cases phase with
    | changed made => exact fun h => nomatch h
    | gone => exact .inl
  rw [hanswer]
  -- The row that the store answers with has the patch on it already.
  cases phase with
  | changed made =>
      obtain ⟨record, hrecord⟩ := Option.isSome_iff_exists.1 (hc.decodable (made ++ [i]))
      have hresult : Service.changed c.resource c.key (.ok [c.changedBy (made ++ [i])])
          = .ok record := by
        simp only [Service.changed, Resource.firstRecord?, hrecord, Option.map_some]
      rw [filter_rows_changed hc, List.map_singleton, ← changedBy_concat, hresult]
      refine .changed hrequest hrecord fun later hlater => ?_
      obtain rfl := Phase.changed.inj hlater
      exact List.mem_append_right _ (List.mem_singleton.2 rfl)
  | gone =>
      rw [filter_rows_gone]
      exact .absent rfl

/-- A deletion moves on with its write, and the row is gone. -/
theorem advances_delete (hc : c.Admissible) (h : c.Holds p.store phase) {n : Nat}
    (hrequest : c.requests i = .delete)
    (hsession : p.sessions i = (c.requests i).write c.resource c.key) :
    c.Advances supply p phase i n .gone := by
  obtain ⟨hanswer, hholds⟩ := holds_delete hc supply h
  rw [write_delete hrequest] at hsession
  refine advances_of_send hsession (Phase.leads_gone phase) (fun _ => .inr hrequest) hholds ?_
  rw [hanswer]
  exact .deleted hrequest rfl

/-- A turn moves a request on from wherever it stands. -/
theorem advances (hc : c.Admissible) (supply : Supply) (h : c.Holds p.store phase) {n : Nat}
    (hstage : c.Stage phase i n (p.sessions i)) : ∃ next, c.Advances supply p phase i n next := by
  generalize hsession : p.sessions i = session at hstage
  cases hstage with
  | waiting => exact ⟨phase, advances_check hc h hsession⟩
  | counted _ =>
      cases hrequest : c.requests i with
      | update patch => exact ⟨_, advances_update hc h hrequest hsession⟩
      | delete => exact ⟨_, advances_delete hc h hrequest hsession⟩
  | changed hrequest hrecord hmade =>
      exact ⟨phase, advances_of_done hsession h (.changed hrequest hrecord hmade)⟩
  | deleted hrequest hgone =>
      exact ⟨phase, advances_of_done hsession h (.deleted hrequest hgone)⟩
  | absent hgone => exact ⟨phase, advances_of_done hsession h (.absent hgone)⟩

-- ============================================================== whole runs

/-- Where a race stands behind a schedule. -/
structure Stands (c : Race ι) (schedule : List ι) (p : Pool ι Result) (phase : Phase ι) : Prop where
  holds : c.Holds p.store phase
  cause : phase = .gone → ∃ j ∈ schedule, c.requests j = .delete
  stages : ∀ i, c.Stage phase i (schedule.count i) (p.sessions i)

/-- Before the first turn everything is as at the start. -/
theorem stands_start (hc : c.Admissible) : c.Stands [] c.start (.changed []) :=
  ⟨holds_start hc, (fun h => nomatch h), fun _ => .waiting⟩

/-- A turn takes a standing to one behind a longer schedule. -/
theorem stands_turn (hc : c.Admissible) {schedule : List ι} (h : c.Stands schedule p phase)
    (i : ι) : ∃ next, c.Stands (schedule ++ [i]) (p.turn supply i) next := by
  obtain ⟨next, hnext⟩ := advances hc supply h.holds (h.stages i)
  refine ⟨next, hnext.holds, fun hgone => ?_, fun j => ?_⟩
  · rcases hnext.cause hgone with hgone | hrequest
    · obtain ⟨j, hj, hrequest⟩ := h.cause hgone
      exact ⟨j, List.mem_append_left _ hj, hrequest⟩
    · exact ⟨i, List.mem_append_right _ (List.mem_singleton.2 rfl), hrequest⟩
  · by_cases hj : j = i
    · subst hj
      rw [List.count_append, List.count_singleton_self]
      exact hnext.stage
    · -- The others have not moved, but perhaps the phase has.
      rw [List.count_append, List.count_singleton, if_neg (by simpa using Ne.symm hj),
        Nat.add_zero, Pool.sessions_turn_of_ne hj]
      exact (h.stages j).later hnext.leads

/-- By induction on the schedule, a race stands somewhere behind each. -/
theorem stands_run (hc : c.Admissible) (supply : Supply) (schedule : List ι) :
    ∃ phase, c.Stands schedule (c.start.run supply schedule) phase := by
  induction schedule using List.reverseRecOn with
  | nil => exact ⟨_, stands_start hc⟩
  | append_singleton schedule i ih =>
      obtain ⟨phase, h⟩ := ih
      rw [Pool.run_concat]
      exact stands_turn hc h i

/-- In whatever order requests by key take their turns, no update is
lost: each returns a row that shows its patch, and patches of different
columns are all in the row in the end. If there are deletions among them,
the first that comes to its turn deletes the row for good, and an update
that comes too late does not find it. -/
theorem no_update_lost (supply : Supply) (c : Race ι) (hc : c.Admissible) (schedule : List ι) :
    c.Settles schedule (c.start.run supply schedule) := by
  obtain ⟨phase, h⟩ := stands_run hc supply schedule
  constructor
  · exact fun i hi => (h.stages i).exists_done hi
  · intro i result hresult
    have hstage := h.stages i
    rw [hresult] at hstage
    exact hstage.ends hc h.holds
  · exact fun hsent => h.cause (h.holds.deletion.2 hsent)
  · intro hunsent
    cases phase with
    | gone => exact absurd (h.holds.deletion.1 rfl) hunsent
    | changed made =>
        refine ⟨c.changedBy made, h.holds.rows, fun hdisjoint => ⟨fun i hi column v hv => ?_, ?_⟩⟩
        · exact get?_changedBy_of_mem hc hdisjoint ((h.stages i).mem_made hi) hv
        · exact fun column hcolumn => get?_changedBy_of_none hcolumn
  · intro hsent
    obtain rfl := h.holds.deletion.2 hsent
    exact h.holds.rows

/-- Contacts with a name and a city. -/
def contacts : Resource :=
  ⟨⟨none, "contacts", "id",
      [⟨"id", "int8", true⟩, ⟨"name", "text", false⟩, ⟨"city", "text", false⟩]⟩,
    .record [⟨"id", .int64, .required⟩, ⟨"name", .text, .nullable⟩, ⟨"city", .text, .nullable⟩],
    .any, .any⟩

/-- A contact, renamed or not and moved or not. -/
def contact (renamed moved : Bool) : Row :=
  ((Row.empty.set "id" (.int 7)).set "name" (.string (if renamed then "new" else "old"))).set
    "city" (.string (if moved then "north" else "south"))

/-- One request renames a contact, one moves it and one deletes it. -/
def contactRace : Race (Fin 3) where
  store := Store.empty.seed contacts.table
    [.object [("id", .int 3)], (contact false false).toValue]
  resource := contacts
  key := .int 7
  row := contact false false
  requests
    | 0 => .update (.object [("name", .string "new")])
    | 1 => .update (.object [("city", .string "north")])
    | 2 => .delete

/-- Behind any of the changes the contact has the old name or the new one,
and the old city or the new one. -/
theorem changedBy_contactRace (made : List (Fin 3)) :
    ∃ renamed moved, contactRace.changedBy made = contact renamed moved := by
  induction made using List.reverseRecOn with
  | nil => exact ⟨false, false, rfl⟩
  | append_singleton made i ih =>
      obtain ⟨renamed, moved, h⟩ := ih
      rw [changedBy_concat, h]
      match i with
      | 0 => exact ⟨true, moved, by cases renamed <;> cases moved <;> rfl⟩
      | 1 => exact ⟨renamed, true, by cases renamed <;> cases moved <;> rfl⟩
      | 2 => exact ⟨renamed, moved, by cases renamed <;> cases moved <;> rfl⟩

/-- Only the first two requests have a patch, and each has one column. -/
theorem column_contactRace {i : Fin 3} {column : String} {v : Value}
    (h : (contactRace.requests i).cells.get? column = some v) :
    i = 0 ∧ column = "name" ∨ i = 1 ∧ column = "city" := by
  have hcell : ∀ {name : String} {w : Value},
      (Row.empty.set name w).get? column = some v → column = name := by
    intro name w h
    rw [Row.get?_set] at h
    by_contra hne
    rw [if_neg hne] at h
    cases h
  match i with
  | 0 => exact .inl ⟨rfl, hcell h⟩
  | 1 => exact .inr ⟨rfl, hcell h⟩
  | 2 => cases h

/-- The race for the contact is admissible. -/
theorem admissible_contactRace : contactRace.Admissible where
  ready := rfl
  single := by
    have hrows : contactRace.store.rows contacts.table
        = [Row.empty.set "id" (.int 3), contact false false] := rfl
    have hother : (contacts.hasKey (.int 7)).keeps (Row.empty.set "id" (.int 3)) = false := by
      decide +kernel
    have hcontact : (contacts.hasKey (.int 7)).keeps (contact false false) = true := by
      decide +kernel
    show (contactRace.store.rows contacts.table).filter (contacts.hasKey (.int 7)).keeps
      = [contact false false]
    rw [hrows, List.filter_cons_of_neg (by rw [hother]; decide), List.filter_cons_of_pos hcontact,
      List.filter_nil]
  objects := by
    intro i patch h
    match i with
    | 0 => cases h; rfl
    | 1 => cases h; rfl
    | 2 => cases h
  columns := by
    intro i column v h
    rcases column_contactRace h with ⟨-, rfl⟩ | ⟨-, rfl⟩
    · decide
    · decide
  decodable := by
    intro made
    obtain ⟨renamed, moved, h⟩ := changedBy_contactRace made
    rw [h]
    cases renamed <;> cases moved <;> rfl

/-- Its patches have no column in common. -/
theorem disjoint_contactRace : contactRace.Disjoint := by
  intro i j hne column
  cases hi : (contactRace.requests i).cells.get? column with
  | none => exact .inl rfl
  | some v =>
      cases hj : (contactRace.requests j).cells.get? column with
      | none => exact .inr rfl
      | some w =>
          rcases column_contactRace hi with ⟨rfl, rfl⟩ | ⟨rfl, rfl⟩
          · rcases column_contactRace hj with ⟨rfl, -⟩ | ⟨-, h⟩
            · exact absurd rfl hne
            · exact absurd h (by decide)
          · rcases column_contactRace hj with ⟨-, h⟩ | ⟨rfl, -⟩
            · exact absurd h (by decide)
            · exact absurd rfl hne

/-- The changes overtake each other behind their counts; and the deletion
comes between the count of the renaming and its update, which then finds
no row. -/
theorem no_update_lost_of_overtaken :
    let after := contactRace.start.run Supply.constant
    contactRace.Admissible ∧ contactRace.Disjoint
      ∧ contactRace.Settles [0, 1, 1, 0] (after [0, 1, 1, 0])
      ∧ contactRace.Settles [0, 1, 2, 1, 2, 0] (after [0, 1, 2, 1, 2, 0])
      ∧ (after [0, 1, 2, 1, 2, 0]).store.received
        = [.count, .count, .count, .update, .delete, .update]
      ∧ ((after [0, 1, 2, 1, 2, 0]).store.rows contacts.table).filterMap contacts.table.integerKey?
        = [3] := by
  intro after
  have hsettles : ∀ schedule, contactRace.Settles schedule (after schedule) :=
    fun schedule => no_update_lost _ contactRace admissible_contactRace schedule
  exact ⟨admissible_contactRace, disjoint_contactRace, hsettles _, hsettles _,
    by decide +kernel, by decide +kernel⟩

end Race

end TableApi
