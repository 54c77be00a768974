/-
What an update by key leaves behind when it fails.

An update may fail at four points: its count, its payload, its statement,
and the record that it reads from the row it was answered with. At the
first three nothing has been written, since a statement that fails changes
no rows. The last one comes behind the write. There is nothing to take a
write back with, so the rows keep what was written into them, and the
failure says only that the record could not be read (`Spoils`).

No other failure leaves a trace. An update ends in one of four ways
(`UpdateEnds`), and the count in front of it adds none that writes.
-/
import TableApi.Proofs.Service.ExistenceCheck
import TableApi.Proofs.Service.Paging

namespace TableApi

open Json

variable {supply : Supply} {s : Store} {r : Resource} {key : Key} {patch : Value}
variable {values : Row}

-- ================================================================= updates

/-- The rows with the values in those that have the key. -/
def Resource.updated (r : Resource) (key : Key) (values : Row) (rows : List Row) : List Row :=
  rows.map fun row => if (r.hasKey key).keeps row then r.table.overwrite values row else row

/-- Only rows with the key are written to. -/
theorem Resource.updated_of_find?_eq_none {rows : List Row}
    (h : rows.find? (r.hasKey key).keeps = none) : r.updated key values rows = rows := by
  have hsame : ∀ row ∈ rows,
      (if (r.hasKey key).keeps row then r.table.overwrite values row else row) = id row := by
    intro row hrow
    exact if_neg (List.find?_eq_none.1 h row hrow)
  exact (List.map_congr_left hsame).trans (List.map_id rows)

/-- What an update returns is the record of the first row with the key. -/
theorem Resource.firstRecord?_updated (rows : List Row) :
    r.firstRecord? ((rows.filter (r.hasKey key).keeps).map (r.table.overwrite values))
      = (rows.find? (r.hasKey key).keeps).elim (some none) fun row =>
          (r.record? (r.table.overwrite values row)).map some := by
  rw [← List.head?_filter]
  cases rows.filter (r.hasKey key).keeps <;> rfl

/-- The patch can be written, as `values`, and no failure is pending; but
the first row with the key is no record once they are in it. -/
structure Spoils (r : Resource) (s : Store) (key : Key) (patch : Value) (values : Row) : Prop where
  ready : s.failure = none
  payload : Row.ofValue? patch = some values
  unreadable : ∃ row, (s.rows r.table).find? (r.hasKey key).keeps = some row
    ∧ r.record? (r.table.overwrite values row) = none

/-- The rows of a table behind an update that has written `values` into
the rows with the key, or has written nothing. -/
def rowsBehind (r : Resource) (s : Store) (key : Key) (written : Option Row) (t : Table) :
    List Row :=
  match written with
  | some values =>
      if t.fullName = r.table.fullName then r.updated key values (s.rows r.table) else s.rows t
  | none => s.rows t

/-- How an update ends, and what it has written. -/
inductive UpdateEnds (r : Resource) (s : Store) (key : Key) (patch : Value) :
    Except QueryError (Option Value) → Option Row → Prop where
  /-- It has no payload, or a failure is answered in place of it. -/
  | stopped : Row.ofValue? patch = none ∨ s.failure ≠ none →
      UpdateEnds r s key patch (.error ⟨.update⟩) none
  | absent : (s.rows r.table).find? (r.hasKey key).keeps = none →
      UpdateEnds r s key patch (.ok none) none
  | changed {values row : Row} {record : Value} : Row.ofValue? patch = some values →
      (s.rows r.table).find? (r.hasKey key).keeps = some row →
        r.record? (r.table.overwrite values row) = some record →
          UpdateEnds r s key patch (.ok (some record)) (some values)
  | spoilt {values : Row} : Spoils r s key patch values →
      UpdateEnds r s key patch (.error ⟨.update⟩) (some values)

/-- What spoils an update is spoilt by it, and ends in no other way. -/
theorem UpdateEnds.of_spoils {result : Except QueryError (Option Value)} {written : Option Row}
    (h : UpdateEnds r s key patch result written) (hspoils : Spoils r s key patch values) :
    result = .error ⟨.update⟩ ∧ written = some values := by
  obtain ⟨hready, hpayload, row, hfind, hnone⟩ := hspoils
  cases h with
  | stopped hstopped =>
      rcases hstopped with hstopped | hfailure
      · rw [hpayload] at hstopped
        cases hstopped
      · exact absurd hready hfailure
  | absent habsent =>
      rw [hfind] at habsent
      cases habsent
  | changed hvalues hrow hrecord =>
      obtain rfl := Option.some.inj (hpayload.symm.trans hvalues)
      obtain rfl := Option.some.inj (hfind.symm.trans hrow)
      rw [hnone] at hrecord
      cases hrecord
  | spoilt hspoils =>
      obtain rfl := Option.some.inj (hpayload.symm.trans hspoils.payload)
      exact ⟨rfl, rfl⟩

namespace Repository

/-- An update that nothing stops is carried out. -/
theorem runOn_update_of_ready (hready : s.failure = none)
    (hpayload : Row.ofValue? patch = some values) :
    (runOn supply s (update r key patch)).1
        = outcome .update (((s.rows r.table).find? (r.hasKey key).keeps).elim (some none) fun row =>
            (r.record? (r.table.overwrite values row)).map some)
      ∧ ∀ t, (runOn supply s (update r key patch)).2.rows t
        = rowsBehind r s key (some values) t := by
  rw [← Resource.firstRecord?_updated, update, runOn_bind, runOn_require, hpayload]
  simp only [outcome]
  rw [runOn_ask hready]
  simp only [Store.perform, updateStatement, rows_received, Store.rows_setRows]
  exact ⟨rfl, fun t => rfl⟩

/-- An update without a payload, or in place of which a failure is
answered, changes no rows. -/
theorem runOn_update_of_stopped (h : Row.ofValue? patch = none ∨ s.failure ≠ none) :
    (runOn supply s (update r key patch)).1 = .error ⟨.update⟩
      ∧ ∀ t, (runOn supply s (update r key patch)).2.rows t = s.rows t := by
  rw [update, runOn_bind, runOn_require]
  cases hpayload : Row.ofValue? patch with
  | none => exact ⟨rfl, fun t => rfl⟩
  | some values =>
      have hpresent : Row.ofValue? patch ≠ none := by
        rw [hpayload]
        exact Option.some_ne_none values
      have hfailure := h.resolve_left hpresent
      obtain ⟨message, hmessage⟩ := Option.ne_none_iff_exists'.1 hfailure
      simp only [outcome]
      unfold runOn ask
      simp only [ExceptT.run, Session.run, execute_of_failure hmessage]
      exact ⟨rfl, fun t => rfl⟩

theorem update_ends (supply : Supply) (s : Store) (r : Resource) (key : Key) (patch : Value) :
    ∃ written, UpdateEnds r s key patch (runOn supply s (update r key patch)).1 written
      ∧ ∀ t, (runOn supply s (update r key patch)).2.rows t = rowsBehind r s key written t := by
  by_cases hstopped : Row.ofValue? patch = none ∨ s.failure ≠ none
  · obtain ⟨hresult, hrows⟩ := runOn_update_of_stopped hstopped
    rw [hresult]
    exact ⟨none, .stopped hstopped, hrows⟩
  · obtain ⟨hpayload, hready⟩ := not_or.1 hstopped
    obtain ⟨values, hvalues⟩ := Option.ne_none_iff_exists'.1 hpayload
    obtain ⟨hresult, hrows⟩ := runOn_update_of_ready (not_not.1 hready) hvalues
    rw [hresult]
    cases hfind : (s.rows r.table).find? (r.hasKey key).keeps with
    | none =>
        refine ⟨none, .absent hfind, fun t => (hrows t).trans ?_⟩
        unfold rowsBehind
        simp only
        split
        · next hname =>
          rw [Resource.updated_of_find?_eq_none hfind, Store.rows, Store.rows, hname]
        · rfl
    | some row =>
        simp only [Option.elim_some]
        cases hrecord : r.record? (r.table.overwrite values row) with
        | none =>
            exact ⟨some values, .spoilt ⟨not_not.1 hready, hvalues, row, hfind, hrecord⟩, hrows⟩
        | some record => exact ⟨some values, .changed hvalues hfind hrecord, hrows⟩

end Repository

-- ========================================================= behind the count

namespace Service

open Repository

/-- What a service makes of the end of an update. -/
def settled (r : Resource) (key : Key) :
    Except QueryError (Option Value) → Except ApiError Value
  | .ok (some record) => .ok record
  | .ok none => .error (.notFound r.table.name key)
  | .error e => .error (.query e)

theorem runOn_found (update : Attempt QueryError (Option Value)) :
    runOn supply s (run update >>= found r key)
      = (settled r key (runOn supply s update).1, (runOn supply s update).2) := by
  rw [runOn_bind, run, runOn_adapt]
  rcases (runOn supply s update).1 with e | _ | record
  · rfl
  · rfl
  · rfl

/-- What the count in front of an update comes to. -/
def checked (r : Resource) (key : Key) (answer : Answer) : Except ApiError Unit :=
  match reported? answer with
  | none => .error (.query ⟨.count⟩)
  | some 0 => .error (.notFound r.table.name key)
  | some (_ + 1) => .ok ()

theorem runOn_ensureExists :
    runOn supply s (ensureExists r key)
      = (checked r key (s.execute supply (check r key)).1,
          (s.execute supply (check r key)).2) := by
  have hsend : ExceptT.run (ensureExists r key)
      = Session.send (check r key) fun answer => .done (checked r key answer) := by
    refine congrArg (Session.send _) (funext fun answer => ?_)
    cases answer with
    | error e => rfl
    | ok rows =>
        simp only [checked, reported?]
        cases countOf? rows with
        | none => rfl
        | some n => cases n <;> rfl
  rw [runOn, hsend]
  rfl

/-- The update follows if rows with the key are counted, and otherwise
nothing does. -/
theorem runOn_update (supply : Supply) (s : Store) (r : Resource) (key : Key) (patch : Value) :
    let counted := s.execute supply (check r key)
    let updated := runOn supply counted.2 (Repository.update r key patch)
    runOn supply s (update r key patch) = match checked r key counted.1 with
      | .error e => (.error e, counted.2)
      | .ok () => (settled r key updated.1, updated.2) := by
  intro counted updated
  rw [update, runOn_bind, runOn_ensureExists]
  cases checked r key counted.1 with
  | error e => rfl
  | ok _ => exact runOn_found _

/-- Only a store without a pending failure counts, and it is then left with
the rows that it had. -/
theorem ready_of_checked (h : checked r key (s.execute supply (check r key)).1 = .ok ()) :
    s.failure = none ∧ (s.execute supply (check r key)).2 = received s (check r key) := by
  cases hfailure : s.failure with
  | none =>
      rw [execute_of_ready hfailure]
      exact ⟨rfl, rfl⟩
  | some message =>
      rw [execute_of_failure hfailure] at h
      cases h

/-- A row with the key is counted. -/
theorem checked_of_find? (hready : s.failure = none) {row : Row}
    (hfind : (s.rows r.table).find? (r.hasKey key).keeps = some row)
    (hfits : (s.rows r.table).length ≤ nat64Max) :
    checked r key (s.execute supply (check r key)).1 = .ok () := by
  have hpositive : 0 < (s.rows r.table).countP (r.hasKey key).keeps :=
    List.countP_pos_iff.2 ⟨row, List.mem_of_find?_eq_some hfind, List.find?_some hfind⟩
  have hcount := countOf?_countRow (Nat.le_trans List.countP_le_length hfits)
    (n := (s.rows r.table).countP (r.hasKey key).keeps)
  obtain ⟨n, hn⟩ := Nat.exists_eq_add_of_lt hpositive
  rw [Nat.zero_add] at hn
  rw [execute_of_ready hready]
  show checked r key (.ok [Store.countRow ((s.rows r.table).countP (r.hasKey key).keeps)]) = _
  rw [checked, reported?, hcount, hn]

end Service

-- ============================================================ what is left

open Repository

/-- An attempt to update, run on the store: if it fails, the rows of every
table are as they were, unless it is spoilt. Then it fails on behalf of
the update, and the rows with the key are written. -/
structure LeavesRows {ε α : Type} (supply : Supply) (s : Store) (r : Resource) (key : Key)
    (patch : Value) (attempt : Attempt ε α) (blamed : ε) : Prop where
  unchanged : ∀ e, (runOn supply s attempt).1 = .error e →
    (∀ values, ¬ Spoils r s key patch values) →
      ∀ t, (runOn supply s attempt).2.rows t = s.rows t
  /-- The rows have to be so few that they can be counted. -/
  spoilt : ∀ values, Spoils r s key patch values → (s.rows r.table).length ≤ nat64Max →
    (runOn supply s attempt).1 = .error blamed
      ∧ ∀ t, (runOn supply s attempt).2.rows t = rowsBehind r s key (some values) t

theorem Repository.leavesRows_update (supply : Supply) (s : Store) (r : Resource) (key : Key)
    (patch : Value) : LeavesRows supply s r key patch (update r key patch) ⟨.update⟩ := by
  obtain ⟨written, hends, hrows⟩ := update_ends supply s r key patch
  refine ⟨fun e herror hkept t => ?_, fun values hspoils _ => ?_⟩
  · rw [herror] at hends
    rw [hrows t]
    cases hends with
    | stopped _ => rfl
    | spoilt hspoils => exact absurd hspoils (hkept _)
  · obtain ⟨hresult, rfl⟩ := hends.of_spoils hspoils
    exact ⟨hresult, hrows⟩

theorem Service.leavesRows_update (supply : Supply) (s : Store) (r : Resource) (key : Key)
    (patch : Value) :
    LeavesRows supply s r key patch (Service.update r key patch) (.query ⟨.update⟩) := by
  have hrun := Service.runOn_update supply s r key patch
  simp only at hrun
  refine ⟨fun e herror hkept t => ?_, fun values hspoils hfits => ?_⟩
  · rw [hrun] at herror ⊢
    cases hchecked : checked r key (s.execute supply (check r key)).1 with
    | error e => exact Store.rows_execute_of_read rfl t
    | ok _ =>
        obtain ⟨-, hcounted⟩ := ready_of_checked hchecked
        simp only [hchecked, hcounted] at herror ⊢
        obtain ⟨written, hends, hrows⟩ :=
          update_ends supply (received s (check r key)) r key patch
        rw [hrows t]
        generalize (runOn supply _ (Repository.update r key patch)).1 = result at herror hends
        cases hends with
        | stopped _ => rfl
        | absent _ => rfl
        | changed _ _ _ => cases herror
        | spoilt hspoils =>
            exact absurd ⟨hspoils.ready, hspoils.payload, hspoils.unreadable⟩ (hkept _)
  · obtain ⟨row, hfind, -⟩ := hspoils.unreadable
    have hchecked : checked r key (s.execute supply (check r key)).1 = .ok () :=
      checked_of_find? hspoils.ready hfind hfits
    obtain ⟨-, hcounted⟩ := ready_of_checked hchecked
    obtain ⟨written, hends, hrows⟩ := update_ends supply (received s (check r key)) r key patch
    obtain ⟨hresult, rfl⟩ := hends.of_spoils
      ⟨hspoils.ready, hspoils.payload, hspoils.unreadable⟩
    rw [hrun, hchecked]
    simp only [hcounted, hresult]
    exact ⟨rfl, hrows⟩

/-- An update by key that fails, through the repository or through the
service, leaves all rows as they were, unless the first row with the key
cannot be read once the patch is in it. Then the failure comes behind the
write, and the rows with the key keep the patch. -/
theorem failed_update_changes_nothing_unless_spoilt (supply : Supply) (s : Store) (r : Resource)
    (key : Key) (patch : Value) :
    LeavesRows supply s r key patch (Repository.update r key patch) ⟨.update⟩
      ∧ LeavesRows supply s r key patch (Service.update r key patch) (.query ⟨.update⟩) :=
  ⟨Repository.leavesRows_update supply s r key patch,
    Service.leavesRows_update supply s r key patch⟩

/-- A table of subscribers, who have a name. -/
def subscribers : Resource :=
  { table := ⟨none, "users", "id",
      [⟨"id", "int8", true⟩, ⟨"name", "text", false⟩, ⟨"email", "text", false⟩]⟩
    row := .record [⟨"id", .int64, .required⟩, ⟨"name", .text, .required⟩,
      ⟨"email", .text, .nullable⟩]
    insert := .record [⟨"name", .text, .required⟩, ⟨"email", .text, .omittable⟩]
    patch := .record [⟨"name", .text, .omittable⟩, ⟨"email", .text, .omittable⟩] }

/-- A subscriber whose name is a number. -/
def misnamed : Row := ((Row.empty.set "id" (.int 1)).set "name" (.int 7)).set "email" .null

/-- The row cannot be read, whatever address it has. Both updates fail,
and it has the new address. -/
theorem failed_update_changes_address :
    let supply := Supply.constant
    let s := Store.empty.setRows subscribers.table [misnamed]
    let patch : Value := .object [("email", .string "ada@x.org")]
    let inRepository := runOn supply s (Repository.update subscribers (.int 1) patch)
    let inService := runOn supply s (Service.update subscribers (.int 1) patch)
    let changed := misnamed.set "email" (.string "ada@x.org")
    s.rows subscribers.table = [misnamed] ∧ changed ≠ misnamed
      ∧ (inRepository.1 = .error ⟨.update⟩ ∧ inRepository.2.rows subscribers.table = [changed])
      ∧ inService.1 = .error (.query ⟨.update⟩)
      ∧ inService.2.rows subscribers.table = [changed] := by
  intro supply s patch inRepository inService changed
  have hrows : s.rows subscribers.table = [misnamed] := rfl
  have hkeeps : (subscribers.hasKey (.int 1)).keeps misnamed = true := by decide +kernel
  have hspoils : Spoils subscribers s (.int 1) patch
      (Row.empty.set "email" (.string "ada@x.org")) := by
    refine ⟨rfl, rfl, misnamed, ?_, rfl⟩
    rw [hrows, List.find?_cons_of_pos hkeeps]
  have hfits : (s.rows subscribers.table).length ≤ nat64Max := by decide
  have hbehind : rowsBehind subscribers s (.int 1)
      (some (Row.empty.set "email" (.string "ada@x.org"))) subscribers.table = [changed] := by
    rw [rowsBehind, if_pos rfl, hrows, Resource.updated, List.map_singleton, if_pos hkeeps]
    rfl
  obtain ⟨hrepository, hservice⟩ : _ ∧ _ :=
    ⟨(Repository.leavesRows_update supply s subscribers (.int 1) patch).spoilt _ hspoils hfits,
      (Service.leavesRows_update supply s subscribers (.int 1) patch).spoilt _ hspoils hfits⟩
  refine ⟨hrows, fun h => ?_, ⟨hrepository.1, ?_⟩, hservice.1, ?_⟩
  · have hcell := congrArg (·.cell "email") h
    cases hcell
  · rw [hrepository.2, hbehind]
  · rw [hservice.2, hbehind]

end TableApi
