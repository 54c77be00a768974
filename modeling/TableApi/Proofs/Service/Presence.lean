/-
Which keys there are, asked in four ways.

A search by key selects the first row that it finds; a change and a
deletion count the rows and then send a statement of their own; a check of
existence only counts. All four put the key into the same condition, so
they find the same rows, whatever kind of key it is and whatever stands in
the key column (`Absent`). The search finds a row just if the count is
above zero, and what a change or a deletion sends behind a positive count
meets the rows that were counted.

A count that needs more than 64 bits cannot be read. It is no report of
absence either, so it bears on what is returned for a key that is there,
and not on where the four agree that it is not.
-/
import TableApi.Proofs.Repository.Deletion
import TableApi.Proofs.Service.FailedUpdate

namespace TableApi

open Json Repository

variable {supply : Supply} {s : Store} {r : Resource} {key : Key}

-- ================================================================ absence

/-- No row of the table has a key that compares as equal. -/
def Absent (r : Resource) (s : Store) (key : Key) : Prop :=
  ∀ row ∈ s.rows r.table, (row.cell r.table.primaryKey).compare? key.toValue ≠ some .eq

/-- A key is absent if no row is found by it. -/
theorem absent_iff_find? :
    Absent r s key ↔ (s.rows r.table).find? (r.hasKey key).keeps = none := by
  rw [List.find?_eq_none]
  exact forall₂_congr fun row _ => not_congr Resource.keeps_hasKey.symm

/-- A key is absent if no row with it is counted. -/
theorem absent_iff_countP :
    Absent r s key ↔ (s.rows r.table).countP (r.hasKey key).keeps = 0 := by
  rw [List.countP_eq_zero]
  exact forall₂_congr fun row _ => not_congr Resource.keeps_hasKey.symm

namespace Repository

/-- A count is read unless it has more than 64 bits. -/
theorem countOf?_countRow_eq (n : Nat) :
    countOf? [Store.countRow n] = if n ≤ nat64Max then some n else none := by
  by_cases hfits : n ≤ nat64Max
  · rw [if_pos hfits, countOf?_countRow hfits]
  · have hread : countOf? [Store.countRow n] = (Number.int n).toNat64? := by
      simp [countOf?, Store.countRow, Value.nat]
    rw [if_neg hfits, hread, Number.toNat64?, if_neg]
    omega

/-- The rows with a key are checked for by their count, if it can be
read. -/
theorem checkExistsById_eq_false_iff (hready : s.failure = none) :
    (runOn supply s (checkExistsById r key)).1 = .ok false ↔ Absent r s key := by
  rw [absent_iff_countP, checkExistsById, checkExists, runOn_bind, count, runOn_ask hready]
  simp only [Store.perform, rows_received, keepsRow_some, countOf?_countRow_eq]
  generalize (s.rows r.table).countP (r.hasKey key).keeps = n
  by_cases hfits : n ≤ nat64Max
  · simp [hfits, outcome]
  · have hn : n ≠ 0 := by omega
    simp [hfits, hn, outcome]

end Repository

namespace Service

/-- What is counted in front of a write. -/
theorem checked_check (hready : s.failure = none) :
    checked r key (s.execute supply (check r key)).1
      = if (s.rows r.table).countP (r.hasKey key).keeps ≤ nat64Max then
          if (s.rows r.table).countP (r.hasKey key).keeps = 0
            then .error (.notFound r.table.name key) else .ok ()
        else .error (.query ⟨.count⟩) := by
  rw [execute_of_ready hready]
  show checked r key (.ok [Store.countRow ((s.rows r.table).countP (r.hasKey key).keeps)]) = _
  rw [checked, reported?, countOf?_countRow_eq]
  generalize (s.rows r.table).countP (r.hasKey key).keeps = n
  by_cases hfits : n ≤ nat64Max
  · rw [if_pos hfits, if_pos hfits]
    cases n with
    | zero => rfl
    | succ n => rfl
  · rw [if_neg hfits, if_neg hfits]

/-- Where the key is absent the check says that it was not found. -/
theorem checked_of_absent (hready : s.failure = none) (habsent : Absent r s key) :
    checked r key (s.execute supply (check r key)).1 = .error (.notFound r.table.name key) := by
  rw [checked_check hready, absent_iff_countP.1 habsent, if_pos (Nat.zero_le _), if_pos rfl]

/-- Where it is present the check passes, or cannot be read. -/
theorem checked_of_present (supply : Supply) (hready : s.failure = none)
    (hpresent : ¬ Absent r s key) :
    checked r key (s.execute supply (check r key)).1 = .ok ()
      ∨ checked r key (s.execute supply (check r key)).1 = .error (.query ⟨.count⟩) := by
  rw [absent_iff_countP] at hpresent
  rw [checked_check hready, if_neg hpresent]
  by_cases hfits : (s.rows r.table).countP (r.hasKey key).keeps ≤ nat64Max
  · exact .inl (if_pos hfits)
  · exact .inr (if_neg hfits)

/-- A search by key settles what was found by it. -/
theorem runOn_findById (hready : s.failure = none) :
    (runOn supply s (findById r key)).1
      = settled r key (Repository.found r ((s.rows r.table).find? (r.hasKey key).keeps)) := by
  have hrun : runOn supply s (findById r key) = _ := runOn_found (Repository.findById r key)
  rw [hrun, Repository.runOn_findById hready]

/-- The deletion follows if rows with the key are counted, and otherwise
nothing does. -/
theorem runOn_delete (hready : s.failure = none) :
    runOn supply s (delete r key) = match checked r key (s.execute supply (check r key)).1 with
      | .error e => (.error e, received s (check r key))
      | .ok () =>
          (.ok (), (runOn supply (received s (check r key)) (Repository.delete r key)).2) := by
  have hcounted : (s.execute supply (check r key)).2 = received s (check r key) := by
    rw [execute_of_ready hready]
    rfl
  have hstill : (received s (check r key)).failure = none := hready
  have hdeleted : (runOn supply (received s (check r key)) (Repository.delete r key)).1 = .ok () :=
    (deletes_delete hstill key).succeeds
  rw [delete, runOn_bind, runOn_ensureExists, hcounted]
  cases checked r key (s.execute supply (check r key)).1 with
  | error e => rfl
  | ok _ =>
      show runOn supply _ (run (Repository.delete r key)) = _
      rw [run, runOn_adapt, hdeleted]
      rfl

end Service

-- ============================================================== agreement

/-- A result says that the key was not found in the table if it is absent,
and otherwise that nothing was not found. -/
structure TellsAbsence {α : Type} (s : Store) (r : Resource) (key : Key)
    (result : Except ApiError α) : Prop where
  absent : Absent r s key → result = .error (.notFound r.table.name key)
  present : ¬ Absent r s key → ∀ name k, result ≠ .error (.notFound name k)

/-- A search by key fails as not found exactly if the key is absent. -/
theorem Service.findById_tellsAbsence (hready : s.failure = none) :
    TellsAbsence s r key (runOn supply s (Service.findById r key)).1 := by
  rw [Service.runOn_findById hready]
  constructor
  case absent =>
    intro habsent
    rw [absent_iff_find?.1 habsent]
    rfl
  case present =>
    intro hpresent name k
    rw [absent_iff_find?] at hpresent
    obtain ⟨row, hfind⟩ := Option.ne_none_iff_exists'.1 hpresent
    rw [hfind, Repository.found]
    cases r.record? (r.table.project row) with
    | none => simp [settled, outcome, Except.map]
    | some record => simp [settled, outcome, Except.map]

/-- Behind a positive count the row is still there, so a change does not
miss it. -/
theorem Service.update_tellsAbsence (hready : s.failure = none) (patch : Value) :
    TellsAbsence s r key (runOn supply s (Service.update r key patch)).1 := by
  have hrun := Service.runOn_update supply s r key patch
  simp only at hrun
  rw [hrun]
  constructor
  case absent =>
    intro habsent
    rw [checked_of_absent hready habsent]
  case present =>
    intro hpresent name k
    rcases checked_of_present supply hready hpresent with hcounted | hcounted
    · obtain ⟨-, hstore⟩ := ready_of_checked hcounted
      obtain ⟨written, hends, -⟩ := update_ends supply (received s (check r key)) r key patch
      rw [hcounted, hstore]
      generalize (runOn supply _ (Repository.update r key patch)).1 = result at hends
      cases hends with
      | stopped _ => simp [settled]
      | absent hnone => exact absurd (absent_iff_find?.2 hnone) hpresent
      | changed _ _ _ => simp [settled]
      | spoilt _ => simp [settled]
    · rw [hcounted]
      simp

/-- A deletion by key fails as not found exactly if the key is absent. -/
theorem Service.delete_tellsAbsence (hready : s.failure = none) :
    TellsAbsence s r key (runOn supply s (Service.delete r key)).1 := by
  rw [Service.runOn_delete hready]
  constructor
  case absent =>
    intro habsent
    rw [checked_of_absent hready habsent]
  case present =>
    intro hpresent name k
    rcases checked_of_present supply hready hpresent with hcounted | hcounted
    · simp [hcounted]
    · simp [hcounted]

/-- A search by key, a change, a deletion and a check of existence say
that there is no row with the key, each just if there is none. -/
structure AgreeOnAbsence (supply : Supply) (s : Store) (r : Resource) (key : Key) : Prop where
  find : TellsAbsence s r key (runOn supply s (Service.findById r key)).1
  update : ∀ patch, TellsAbsence s r key (runOn supply s (Service.update r key patch)).1
  delete : TellsAbsence s r key (runOn supply s (Service.delete r key)).1
  check : (runOn supply s (checkExistsById r key)).1 = .ok false ↔ Absent r s key

/-- All four ways to ask for a key agree on its absence. -/
theorem agreeOnAbsence (supply : Supply) (hready : s.failure = none) (r : Resource) (key : Key) :
    AgreeOnAbsence supply s r key where
  find := Service.findById_tellsAbsence hready
  update := Service.update_tellsAbsence hready
  delete := Service.delete_tellsAbsence hready
  check := checkExistsById_eq_false_iff hready

/-- What the four return for a key that is there. -/
structure AgreeOnPresence (supply : Supply) (s : Store) (r : Resource) (key : Key) : Prop where
  find : ∃ record, (runOn supply s (Service.findById r key)).1 = .ok record
  /-- The row may be no record any more once the patch is in it. -/
  update : ∀ fields, (∃ record, (runOn supply s (Service.update r key (.object fields))).1
      = .ok record)
    ∨ (runOn supply s (Service.update r key (.object fields))).1 = .error (.query ⟨.update⟩)
  delete : (runOn supply s (Service.delete r key)).1 = .ok ()
  check : (runOn supply s (checkExistsById r key)).1 = .ok true

/-- The ways to ask for a key agree on its presence where rows can be read
and counted. -/
theorem agreeOnPresence (supply : Supply) (hready : s.failure = none)
    (hreadable : Readable r s none) (hfits : (s.rows r.table).length ≤ nat64Max)
    (hpresent : ¬ Absent r s key) : AgreeOnPresence supply s r key := by
  rw [absent_iff_find?] at hpresent
  obtain ⟨row, hfind⟩ := Option.ne_none_iff_exists'.1 hpresent
  have hrow : row ∈ s.rows r.table := List.mem_of_find?_eq_some hfind
  have hcounted : Service.checked r key (s.execute supply (Service.check r key)).1 = .ok () :=
    Service.checked_of_find? hready hfind hfits
  constructor
  case find =>
    obtain ⟨record, hrecord⟩ := Option.isSome_iff_exists.1 (hreadable row hrow rfl)
    refine ⟨record, ?_⟩
    rw [Service.runOn_findById hready, hfind, found, hrecord]
    rfl
  case update =>
    intro fields
    have hrun := Service.runOn_update supply s r key (.object fields)
    simp only [hcounted] at hrun
    obtain ⟨-, hstore⟩ := Service.ready_of_checked hcounted
    obtain ⟨written, hends, -⟩ :=
      update_ends supply (received s (Service.check r key)) r key (.object fields)
    rw [hrun, hstore]
    generalize (runOn supply _ (Repository.update r key (.object fields))).1 = result at hends
    cases hends with
    | stopped hstopped =>
        rcases hstopped with hpayload | hfailure
        · cases hpayload
        · exact absurd hready hfailure
    | absent hnone => exact absurd hnone hpresent
    | changed _ _ _ => exact .inl ⟨_, rfl⟩
    | spoilt _ => exact .inr rfl
  case delete => rw [Service.runOn_delete hready, hcounted]
  case check =>
    have hcount := Nat.le_trans (List.countP_le_length (p := (r.hasKey key).keeps)) hfits
    rw [runOn_checkExistsById hready key hcount, List.any_eq_true.2]
    exact ⟨row, hrow, List.find?_some hfind⟩

/-- What a deletion that succeeds leaves: the four agree that the key is
absent, and all other rows are as and where they were. -/
structure Removes (supply : Supply) (s : Store) (r : Resource) (key : Key) (left : Store) :
    Prop where
  absent : Absent r left key
  agree : AgreeOnAbsence supply left r key
  rows : left.rows r.table = (s.rows r.table).filter fun row =>
    (row.cell r.table.primaryKey).compare? key.toValue != some .eq
  others : ∀ t : Table, t.fullName ≠ r.table.fullName → left.rows t = s.rows t

/-- A deletion that succeeds leaves no row with the key. -/
theorem removes_of_deleted (hready : s.failure = none)
    (hdeleted : (runOn supply s (Service.delete r key)).1 = .ok ()) :
    Removes supply s r key (runOn supply s (Service.delete r key)).2 := by
  have hstill : (received s (Service.check r key)).failure = none := hready
  have hdeletes : Deletes (received s (Service.check r key)) r.table (r.hasKey key).keeps
      (runOn supply (received s (Service.check r key)) (Repository.delete r key)) :=
    deletes_delete hstill key
  rw [Service.runOn_delete hready] at hdeleted ⊢
  cases hcounted : Service.checked r key (s.execute supply (Service.check r key)).1 with
  | error e => rw [hcounted] at hdeleted; cases hdeleted
  | ok _ =>
      have hrows := hdeletes.rows r.table
      rw [if_pos rfl, rows_received] at hrows
      have hleft : ∀ row : Row, (!(r.hasKey key).keeps row)
          = ((row.cell r.table.primaryKey).compare? key.toValue != some .eq) := by
        intro row
        rw [Bool.eq_iff_iff, Bool.not_eq_true', ← Bool.not_eq_true, Resource.keeps_hasKey,
          bne_iff_ne]
      simp only [hleft] at hrows
      constructor
      case absent =>
        intro row hrow
        rw [hrows] at hrow
        exact bne_iff_ne.1 (List.mem_filter.1 hrow).2
      case agree => exact agreeOnAbsence supply hdeletes.ready r key
      case rows => exact hrows
      case others =>
        intro t hname
        rw [hdeletes.rows, if_neg hname, rows_received]

/-- In a store that no failure is asked of, a search by key, a change, a
deletion and a check of existence agree on whether there is a row with the
key. Where rows can be read and counted, all four succeed for a key that is
there, but for a change that spoils its row; and once a deletion has
succeeded they agree that the key is absent, with every other row left. -/
theorem presence_agreed_on (supply : Supply) (r : Resource) {s : Store}
    (hready : s.failure = none) (key : Key) :
    AgreeOnAbsence supply s r key
      ∧ (Readable r s none → (s.rows r.table).length ≤ nat64Max → ¬ Absent r s key →
        AgreeOnPresence supply s r key)
      ∧ ((runOn supply s (Service.delete r key)).1 = .ok () →
        Removes supply s r key (runOn supply s (Service.delete r key)).2) :=
  ⟨agreeOnAbsence supply hready r key, agreeOnPresence supply hready,
    removes_of_deleted hready⟩

/-- A number is stored under one key and its text under another; the text
of the number finds the first of them, and both go together. -/
theorem presence_agreed_on_numeric_text :
    let s := Store.empty.seed counters.table
      [.object [("id", .int 7)], .object [("id", .string "b")], .object [("id", .string "7")],
        .object [("id", .null)]]
    s.failure = none ∧ Readable counters s none ∧ (s.rows counters.table).length ≤ nat64Max
      ∧ ¬ Absent counters s (.text "7")
      ∧ (runOn Supply.constant s (Service.delete counters (.text "7"))).1 = .ok ()
      ∧ AgreeOnAbsence Supply.constant s counters (.text "7")
      ∧ AgreeOnPresence Supply.constant s counters (.text "7")
      ∧ Removes Supply.constant s counters (.text "7")
        (runOn Supply.constant s (Service.delete counters (.text "7"))).2
      ∧ ((runOn Supply.constant s (Service.delete counters (.text "7"))).2.rows
        counters.table).length = 2 := by
  intro s
  have hready : s.failure = none := rfl
  have hreadable : Readable counters s none := by
    unfold Readable
    decide +kernel
  have hfits : (s.rows counters.table).length ≤ nat64Max := by decide +kernel
  have hpresent : ¬ Absent counters s (.text "7") := by
    unfold Absent
    decide +kernel
  obtain ⟨habsence, hpresence, hremoves⟩ :=
    presence_agreed_on Supply.constant counters hready (.text "7")
  have hfound := hpresence hreadable hfits hpresent
  have hremoved := hremoves hfound.delete
  refine ⟨hready, hreadable, hfits, hpresent, hfound.delete, habsence, hfound, hremoved, ?_⟩
  rw [hremoved.rows]
  decide +kernel

end TableApi
