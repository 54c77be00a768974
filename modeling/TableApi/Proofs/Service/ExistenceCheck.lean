/-
Changes and deletions by key, statement by statement.

Both count the rows with the key before they write. Spelled out, each is
a session of at most two statements (`update_eq`, `delete_eq`): the
count, and behind it the write. Only a count above zero leads to the
second statement (`guarded`); whatever else the answer is, the session
ends there. Nothing is assumed of what answers: it may be the rows of a
store, a script, or a failure at every turn, and it may lose the row
between the two statements.

# What an answer reports

The repository reads a count with the readers of numbers and of decimal
text. `Reports` says the same without them: the first row has the number
in its column `count`, as a natural number or as digits behind a plus
sign or none. An answer that reports no number is as good as a failure.
-/
import TableApi.Proofs.Numeric.Decimal
import TableApi.Service

namespace TableApi

open Json

-- ================================================= what a count reports

/-- An answer to a count reports a number of at most 64 bits: its first
row has it in the column `count`, as a number or in decimal text. -/
inductive Reports : Answer → Nat → Prop where
  | number {row : Row} {rows : List Row} {n : Nat} :
      row.get? "count" = some (.nat n) → n ≤ nat64Max → Reports (.ok (row :: rows)) n
  | text {row : Row} {rows : List Row} {s : String} {n : Nat} :
      row.get? "count" = some (.string s) → Decimal.Spells s.toList n → n ≤ nat64Max →
        Reports (.ok (row :: rows)) n

/-- The answer reports that there are rows. -/
def Affirms (answer : Answer) : Prop := ∃ n, 0 < n ∧ Reports answer n

namespace Repository

/-- The number that an answer to a count reports. -/
def reported? : Answer → Option Nat
  | .ok rows => countOf? rows
  | .error _ => none

/-- The repository reads what the answer reports, and nothing else. -/
theorem reported?_eq_some_iff {answer : Answer} {n : Nat} :
    reported? answer = some n ↔ Reports answer n := by
  constructor
  · intro h
    rcases answer with e | _ | ⟨row, rows⟩
    · cases h
    · cases h
    · simp only [reported?, countOf?, List.head?_cons, Option.bind_some] at h
      split at h
      · next x hcell =>
        obtain ⟨rfl, hbound⟩ := Number.toNat64?_eq_some_iff.1 h
        exact .number hcell hbound
      · next s hcell =>
        obtain ⟨hspells, hbound⟩ := Decimal.boundedNat?_eq_some_iff.1 h
        exact .text hcell hspells hbound
      · cases h
  · intro h
    cases h with
    | number hcell hbound =>
        simp only [reported?, countOf?, List.head?_cons, Option.bind_some, hcell, Value.nat]
        exact Number.toNat64?_eq_some_iff.2 ⟨rfl, hbound⟩
    | text hcell hspells hbound =>
        simp only [reported?, countOf?, List.head?_cons, Option.bind_some, hcell]
        exact Decimal.boundedNat?_eq_some_iff.2 ⟨hspells, hbound⟩

theorem affirms_iff {answer : Answer} : Affirms answer ↔ ∃ n, reported? answer = some (n + 1) := by
  constructor
  · rintro ⟨n, hn, hreports⟩
    obtain ⟨m, rfl⟩ : ∃ m, n = m + 1 := ⟨n - 1, by omega⟩
    exact ⟨m, reported?_eq_some_iff.2 hreports⟩
  · rintro ⟨n, hn⟩
    exact ⟨n + 1, by omega, reported?_eq_some_iff.1 hn⟩

end Repository

-- ======================================================= behind the count

namespace Service

open Repository

variable {σ α : Type} {respond : σ → Statement → Answer × σ} {s : σ}
variable {r : Resource} {key : Key}

/-- The statement that counts the rows with a key. -/
def check (r : Resource) (key : Key) : Statement := .count r.table (some (r.hasKey key))

/-- Counts the rows with a key, and goes on if there is one. -/
def guarded (r : Resource) (key : Key) (next : Session (Except ApiError α)) :
    Session (Except ApiError α) :=
  .send (check r key) fun answer =>
    match reported? answer with
    | none => .done (.error (.query ⟨.count⟩))
    | some 0 => .done (.error (.notFound r.table.name key))
    | some (_ + 1) => next

theorem ensureExists_bind (next : Attempt ApiError α) :
    (ensureExists r key >>= fun _ => next) = guarded r key next := by
  refine congrArg (Session.send _) (funext fun answer => ?_)
  cases answer with
  | error e => rfl
  | ok rows =>
      simp only [reported?]
      cases countOf? rows with
      | none => rfl
      | some n => cases n <;> rfl

/-- What a change makes of the answer to its write. -/
def changed (r : Resource) (key : Key) : Answer → Except ApiError Value
  | .ok rows =>
      match r.firstRecord? rows with
      | some (some record) => .ok record
      | some none => .error (.notFound r.table.name key)
      | none => .error (.query ⟨.update⟩)
  | .error _ => .error (.query ⟨.update⟩)

/-- A change, behind its count. -/
def changing (r : Resource) (key : Key) (patch : Value) : Session (Except ApiError Value) :=
  match Row.ofValue? patch with
  | some values => .send (updateStatement r key values) fun answer => .done (changed r key answer)
  | none => .done (.error (.query ⟨.update⟩))

/-- What a deletion makes of the answer to its write. -/
def deleted : Answer → Except ApiError Unit
  | .ok _ => .ok ()
  | .error _ => .error (.query ⟨.delete⟩)

/-- A deletion, behind its count. -/
def deleting (r : Resource) (key : Key) : Session (Except ApiError Unit) :=
  .send (.delete r.table (r.hasKey key)) fun answer => .done (deleted answer)

theorem update_eq (r : Resource) (key : Key) (patch : Value) :
    Service.update r key patch = guarded r key (changing r key patch) := by
  refine (ensureExists_bind _).trans (congrArg (guarded r key) ?_)
  unfold changing Repository.update
  cases Row.ofValue? patch with
  | none => rfl
  | some values =>
      refine congrArg (Session.send _) (funext fun answer => ?_)
      cases answer with
      | error e => rfl
      | ok rows =>
          simp only [changed]
          rcases r.firstRecord? rows with _ | _ | record
          · rfl
          · rfl
          · rfl

theorem delete_eq (r : Resource) (key : Key) :
    Service.delete r key = guarded r key (deleting r key) := by
  refine (ensureExists_bind _).trans (congrArg (guarded r key) ?_)
  refine congrArg (Session.send _) (funext fun answer => ?_)
  cases answer <;> rfl

-- ============================================== whatever answers

/-- The statements that a session sends, in order. -/
def sent (respond : σ → Statement → Answer × σ) (s : σ) (a : Session α) : List Statement :=
  (Session.run respond s a).2.1.map (·.statement)

/-- A request by key that checks first, run against anything that
answers. Its write is `write?`, if it has one to send, and `Ends` relates
the answer to the write with the result of the request. -/
structure ChecksFirst (respond : σ → Statement → Answer × σ) (s : σ) (r : Resource)
    (key : Key) (request : Attempt ApiError α) (operation : Operation)
    (write? : Option Statement) (Ends : Answer → Except ApiError α → Prop) : Prop where
  /-- The count comes first. If it reports more than zero the write
  follows, and nothing else. -/
  sends : Affirms (respond s (check r key)).1 →
    sent respond s request = check r key :: write?.toList
  /-- Otherwise nothing follows. -/
  keepsBack : ¬ Affirms (respond s (check r key)).1 →
    sent respond s request = [check r key]
  /-- A count that failed or cannot be read. -/
  unread : (¬ ∃ n, Reports (respond s (check r key)).1 n) →
    (Session.run respond s request).1 = .error (.query ⟨.count⟩)
  absent : Reports (respond s (check r key)).1 0 →
    (Session.run respond s request).1 = .error (.notFound r.table.name key)
  /-- There is nothing to write. -/
  unwritable : Affirms (respond s (check r key)).1 → write? = none →
    (Session.run respond s request).1 = .error (.query ⟨operation⟩)
  written : ∀ statement, Affirms (respond s (check r key)).1 → write? = some statement →
    Ends (respond (respond s (check r key)).2 statement).1 (Session.run respond s request).1

/-- How a change ends by the answer to its write. -/
inductive ChangeEnds (r : Resource) (key : Key) : Answer → Except ApiError Value → Prop where
  | record {row : Row} {rows : List Row} {v : Value} :
      r.record? row = some v → ChangeEnds r key (.ok (row :: rows)) (.ok v)
  | unreadable {row : Row} {rows : List Row} :
      r.record? row = none → ChangeEnds r key (.ok (row :: rows)) (.error (.query ⟨.update⟩))
  /-- The row was gone when the write came. -/
  | vanished : ChangeEnds r key (.ok []) (.error (.notFound r.table.name key))
  | failed {e : StoreError} : ChangeEnds r key (.error e) (.error (.query ⟨.update⟩))

/-- How a deletion ends by the answer to its write. -/
inductive DeletionEnds : Answer → Except ApiError Unit → Prop where
  | deleted {rows : List Row} : DeletionEnds (.ok rows) (.ok ())
  | failed {e : StoreError} : DeletionEnds (.error e) (.error (.query ⟨.delete⟩))

theorem changeEnds_changed (answer : Answer) : ChangeEnds r key answer (changed r key answer) := by
  rcases answer with e | _ | ⟨row, rows⟩
  · exact .failed
  · exact .vanished
  · simp only [changed, Resource.firstRecord?]
    cases hrecord : r.record? row with
    | none => exact .unreadable hrecord
    | some v => exact .record hrecord

theorem deletionEnds_deleted (answer : Answer) : DeletionEnds answer (deleted answer) := by
  cases answer with
  | error e => exact .failed
  | ok rows => exact .deleted

/-- Behind its count a request sends its write and finishes with the
answer, or fails if it has none. -/
inductive Writes (operation : Operation) (Ends : Answer → Except ApiError α → Prop) :
    Option Statement → Session (Except ApiError α) → Prop where
  | one {statement : Statement} {finish : Answer → Except ApiError α} :
      (∀ answer, Ends answer (finish answer)) →
        Writes operation Ends (some statement)
          (.send statement fun answer => .done (finish answer))
  | nothing : Writes operation Ends none (.done (.error (.query ⟨operation⟩)))

/-- What follows the count depends on what it reports, and on nothing
else. -/
theorem run_guarded (next : Session (Except ApiError α)) :
    Session.run respond s (guarded r key next) =
      let (answer, s') := respond s (check r key)
      let rest : Except ApiError α × List Session.Exchange × σ := match reported? answer with
        | none => (.error (.query ⟨.count⟩), [], s')
        | some 0 => (.error (.notFound r.table.name key), [], s')
        | some (_ + 1) => Session.run respond s' next
      (rest.1, ⟨check r key, answer⟩ :: rest.2.1, rest.2.2) := by
  unfold guarded
  simp only [Session.run]
  rcases reported? (respond s (check r key)).1 with _ | _ | n
  · rfl
  · rfl
  · rfl

theorem checksFirst_guarded {operation : Operation} {write? : Option Statement}
    {Ends : Answer → Except ApiError α → Prop} {next : Session (Except ApiError α)}
    (hnext : Writes operation Ends write? next) :
    ChecksFirst respond s r key (guarded r key next) operation write? Ends := by
  have hrun : Session.run respond s (guarded r key next) = _ := run_guarded next
  constructor
  · intro h
    obtain ⟨n, hn⟩ := affirms_iff.1 h
    simp only [sent, hrun, hn]
    cases hnext with
    | one _ => rfl
    | nothing => rfl
  · intro h
    rcases hreported : reported? (respond s (check r key)).1 with _ | _ | n
    · simp only [sent, hrun, hreported]
      rfl
    · simp only [sent, hrun, hreported]
      rfl
    · exact absurd (affirms_iff.2 ⟨n, hreported⟩) h
  · intro h
    rcases hreported : reported? (respond s (check r key)).1 with _ | n
    · simp only [hrun, hreported]
    · exact absurd ⟨n, reported?_eq_some_iff.1 hreported⟩ h
  · intro h
    simp only [hrun, reported?_eq_some_iff.2 h]
  · intro h hnone
    obtain ⟨n, hn⟩ := affirms_iff.1 h
    simp only [hrun, hn]
    cases hnext with
    | one _ => cases hnone
    | nothing => rfl
  · intro statement h hsome
    obtain ⟨n, hn⟩ := affirms_iff.1 h
    simp only [hrun, hn]
    cases hnext with
    | one hends =>
        obtain rfl := Option.some.inj hsome
        exact hends _
    | nothing => cases hsome

/-- Whatever answers: a change by key and a deletion by key count the
rows with the key before anything else, and write exactly if the count
reports more than zero, a change only with a patch that is an object. -/
theorem writes_only_behind_positive_count (respond : σ → Statement → Answer × σ) (s : σ)
    (r : Resource) (key : Key) (patch : Value) :
    ChecksFirst respond s r key (Service.update r key patch) .update
        ((Row.ofValue? patch).map (updateStatement r key)) (ChangeEnds r key)
      ∧ ChecksFirst respond s r key (Service.delete r key) .delete
        (some (.delete r.table (r.hasKey key))) DeletionEnds := by
  rw [update_eq, delete_eq]
  refine ⟨checksFirst_guarded ?_, checksFirst_guarded (.one deletionEnds_deleted)⟩
  unfold changing
  cases Row.ofValue? patch with
  | none => exact .nothing
  | some values => exact .one changeEnds_changed

end Service

end TableApi
