/-
Tables beside one another in one store.

A statement reads and writes the rows of the table that it is sent to, and
what it generates comes from outside. So its answer and the rows that it
leaves depend on the rows that it finds there, and on nothing else in the
store (`perform_agree`). Two stores that hold the same rows for a table and
are used alike go on to hold the same rows for it (`Alike.after?`), and a use
of another table leaves them alone (`rows_use?_of_ne`). That is isolation for
every two tables whose rows are kept in different places.

What is generated is drawn by each use for itself (`Use`), as from a clock:
a store numbers it by the rows inserted so far into any table, and a use that
is left out of a run must not change what later ones draw. Where a use finds
no integer key left, or its sort gives up, the program stops, and no run is
followed any further (`after?`).

# Names

Rows are kept by the full name of a table, which has a dot between the schema
and the name. Which of its dots this is cannot be seen from the full name, so
there are different names with the same one: those where the dot of the one
is inside the name of the other (`Blurs`).
-/
import TableApi.Proofs.Store.Keys

namespace TableApi

open Json

-- ================================================================== names

/-- A list that is cut twice in front of an element is cut at one place, or the
one part goes over into the other. -/
theorem append_cons_eq_append_cons_iff {α : Type} {c : α} {a b x y : List α} :
    a ++ c :: x = b ++ c :: y ↔ (a = b ∧ x = y)
      ∨ (∃ part, b = a ++ c :: part ∧ x = part ++ c :: y)
      ∨ ∃ part, a = b ++ c :: part ∧ y = part ++ c :: x := by
  constructor
  · intro h
    rcases List.append_eq_append_iff.1 h with ⟨between, rfl, hx⟩ | ⟨between, rfl, hy⟩
    · cases between with
      | nil => exact .inl ⟨(List.append_nil a).symm, (List.cons.inj hx).2⟩
      | cons d part =>
          obtain ⟨rfl, rfl⟩ := List.cons.inj hx
          exact .inr (.inl ⟨part, rfl, rfl⟩)
    · cases between with
      | nil => exact .inl ⟨List.append_nil b, (List.cons.inj hy).2.symm⟩
      | cons d part =>
          obtain ⟨rfl, rfl⟩ := List.cons.inj hy
          exact .inr (.inr ⟨part, rfl, rfl⟩)
  · rintro (⟨rfl, rfl⟩ | ⟨part, rfl, rfl⟩ | ⟨part, rfl, rfl⟩)
    · rfl
    · simp
    · simp

/-- Two texts with a dot in each are the same if their parts are, or the dot
of the one falls into a part of the other. -/
theorem dotted_eq_dotted_iff {a b x y : String} :
    a ++ "." ++ x = b ++ "." ++ y ↔ (a = b ∧ x = y)
      ∨ (∃ part, b = a ++ "." ++ part ∧ x = part ++ "." ++ y)
      ∨ ∃ part, a = b ++ "." ++ part ∧ y = part ++ "." ++ x := by
  have hdotted : ∀ x y : String, (x ++ "." ++ y).toList = x.toList ++ '.' :: y.toList := by
    intro x y
    simp
  have hpart : ∀ p : List Char → Prop, (∃ part, p part) ↔ ∃ part : String, p part.toList :=
    fun p => ⟨fun ⟨part, h⟩ => ⟨String.ofList part, by rwa [String.toList_ofList]⟩,
      fun ⟨part, h⟩ => ⟨part.toList, h⟩⟩
  simp only [String.ext_iff, hdotted, append_cons_eq_append_cons_iff, hpart]

namespace Table

variable {t u : Table}

/-- The schema and the name. -/
def nameParts (t : Table) : Option String × String := (t.schema, t.name)

/-- The name of `t` begins with the schema of `u`, or with what that has beyond
the schema of `t`, and a dot; the name of `u` is the rest. -/
inductive Blurs (t u : Table) : Prop where
  | bare {schema : String} : t.schema = none → u.schema = some schema →
      t.name = schema ++ "." ++ u.name → Blurs t u
  | moved {schema part : String} : t.schema = some schema →
      u.schema = some (schema ++ "." ++ part) → t.name = part ++ "." ++ u.name → Blurs t u

theorem fullName_of_none (h : t.schema = none) : t.fullName = t.name := by
  rw [fullName, h]

theorem fullName_of_some {schema : String} (h : t.schema = some schema) :
    t.fullName = schema ++ "." ++ t.name := by
  rw [fullName, h]

theorem fullName_of_nameParts (h : t.nameParts = u.nameParts) : t.fullName = u.fullName := by
  obtain ⟨hschema, hname⟩ := Prod.ext_iff.1 h
  simp only [nameParts] at hschema hname
  rw [fullName, fullName, hschema, hname]

/-- Tables that are blurred have one full name. -/
theorem Blurs.fullName_eq (h : t.Blurs u) : t.fullName = u.fullName := by
  cases h with
  | bare ht hu hname => rw [fullName_of_none ht, fullName_of_some hu, hname]
  | moved ht hu hname =>
      rw [fullName_of_some ht, fullName_of_some hu, hname]
      simp only [String.append_assoc]

/-- Two tables have one full name exactly if their names are the same or
blurred. -/
theorem fullName_eq_iff :
    t.fullName = u.fullName ↔ t.nameParts = u.nameParts ∨ t.Blurs u ∨ u.Blurs t := by
  constructor
  · intro h
    cases ht : t.schema with
    | none =>
        rw [fullName_of_none ht] at h
        cases hu : u.schema with
        | none =>
            rw [fullName_of_none hu] at h
            exact .inl (Prod.ext (ht.trans hu.symm) h)
        | some b =>
            rw [fullName_of_some hu] at h
            exact .inr (.inl (.bare ht hu h))
    | some a =>
        rw [fullName_of_some ht] at h
        cases hu : u.schema with
        | none =>
            rw [fullName_of_none hu] at h
            exact .inr (.inr (.bare hu ht h.symm))
        | some b =>
            rw [fullName_of_some hu] at h
            rcases dotted_eq_dotted_iff.1 h with
              ⟨rfl, hname⟩ | ⟨part, rfl, hname⟩ | ⟨part, rfl, hname⟩
            · exact .inl (Prod.ext (ht.trans hu.symm) hname)
            · exact .inr (.inl (.moved ht hu hname))
            · exact .inr (.inr (.moved hu ht hname))
  · rintro (h | h | h)
    · exact fullName_of_nameParts h
    · exact h.fullName_eq
    · exact h.fullName_eq.symm

/-- A blurred name has a dot. -/
theorem Blurs.dot_mem (h : t.Blurs u) : '.' ∈ t.name.toList := by
  cases h with
  | bare _ _ hname => simp [hname]
  | moved _ _ hname => simp [hname]

end Table

-- =================================================================== uses

/-- The supply that hands out these values from the n-th row on. -/
def Supply.handedOutFrom (draws : Supply) (n : Nat) : Supply :=
  { draws with key := fun k => draws.key (k - n), time := fun k => draws.time (k - n) }

/-- A use of a store; a statement comes with the values for the rows that it
builds. -/
inductive Use where
  | seed (table : Table) (values : List Value)
  | query (draws : Supply) (statement : Statement)

def Use.table : Use → Table
  | seed t _ => t
  | query _ statement => statement.table

namespace Store

variable {s s' w w' : Store} {t u : Table} {draws : Supply} {statement : Statement}

/-- Sends a statement that draws these values. -/
def query (s : Store) (draws : Supply) (statement : Statement) : Answer × Store :=
  s.execute (draws.handedOutFrom s.inserted) statement

/-- The store behind a use, unless the program stops there. -/
def use? (s : Store) : Use → Option Store
  | .seed t values => some (s.seed t values)
  | .query draws statement =>
      if (s.query draws statement).1.stops then none else some (s.query draws statement).2

/-- The store behind uses, one after another. -/
def after? (s : Store) (uses : List Use) : Option Store := uses.foldlM use? s

-- ====================================================== on the same rows

/-- The rows that an insert builds do not depend on where the values that they
take are numbered from. -/
theorem newRows_congr {supply supply' : Supply} {n m : Nat}
    (hkey : ∀ k, supply.key (n + k) = supply'.key (m + k))
    (htime : ∀ k, supply.time (n + k) = supply'.time (m + k)) (known inputs : List Row) :
    t.newRows supply n known inputs = t.newRows supply' m known inputs := by
  induction inputs generalizing n m known with
  | nil => rfl
  | cons input inputs ih =>
      have hfirst : t.newRow supply n known input = t.newRow supply' m known input := by
        have hkey : supply.key n = supply'.key m := hkey 0
        have htime : supply.time n = supply'.time m := htime 0
        rw [Table.newRow, Table.newRow, hkey, htime]
      have hrest : ∀ known, t.newRows supply (n + 1) known inputs
          = t.newRows supply' (m + 1) known inputs := fun known => by
        refine ih (fun k => ?_) (fun k => ?_) known
        · rw [Nat.add_assoc, Nat.add_assoc]
          exact hkey (1 + k)
        · rw [Nat.add_assoc, Nat.add_assoc]
          exact htime (1 + k)
      rw [Table.newRows, Table.newRows, hfirst]
      simp only [hrest]

/-- What a search finds depends only on how rows out of line are sorted. -/
theorem search_congr {supply supply' : Supply} (h : supply.scramble = supply'.scramble)
    (selection : Selection) (stored : List Row) :
    t.search supply selection stored = t.search supply' selection stored := by
  rw [Table.search, Table.search, Selection.select?, Selection.select?, sort?, sort?, h]

/-- A statement is answered alike on the same rows of its table, and leaves
the same there. -/
theorem perform_agree (hrows : w.rows statement.table = s.rows statement.table) :
    (w.perform (draws.handedOutFrom w.inserted) statement).1
        = (s.perform (draws.handedOutFrom s.inserted) statement).1
      ∧ (w.perform (draws.handedOutFrom w.inserted) statement).2.rows statement.table
        = (s.perform (draws.handedOutFrom s.inserted) statement).2.rows statement.table := by
  cases statement with
  | select t selection =>
      rw [Statement.table] at hrows ⊢
      simp only [perform, hrows, and_true]
      exact search_congr rfl selection (s.rows t)
  | count t condition =>
      rw [Statement.table] at hrows ⊢
      simp only [perform, hrows, and_self]
  | insert t inputs =>
      rw [Statement.table] at hrows ⊢
      have hnew : t.newRows (draws.handedOutFrom w.inserted) w.inserted (s.rows t) inputs
          = t.newRows (draws.handedOutFrom s.inserted) s.inserted (s.rows t) inputs := by
        refine newRows_congr (fun k => ?_) (fun k => ?_) _ _
        · simp [Supply.handedOutFrom]
        · simp [Supply.handedOutFrom]
      simp only [perform, hrows, hnew]
      cases t.newRows (draws.handedOutFrom s.inserted) s.inserted (s.rows t) inputs with
      | error e => exact ⟨rfl, hrows⟩
      | ok new =>
          refine ⟨rfl, ?_⟩
          show (w.setRows t (s.rows t ++ new)).rows t = (s.setRows t (s.rows t ++ new)).rows t
          rw [rows_setRows_self, rows_setRows_self]
  | update t condition values =>
      rw [Statement.table] at hrows ⊢
      simp only [perform, hrows, rows_setRows_self, and_self]
  | delete t condition =>
      rw [Statement.table] at hrows ⊢
      simp only [perform, hrows, rows_setRows_self, and_self]

-- ================================================================= a run

/-- Two stores that hold the same rows for a table, and have no failure to
answer with. -/
structure Alike (u : Table) (s w : Store) : Prop where
  rows : w.rows u = s.rows u
  ready : s.failure = none
  ready' : w.failure = none

/-- A statement on the table is answered alike. -/
theorem Alike.query (h : Alike u s w) (htable : statement.table.fullName = u.fullName) :
    (w.query draws statement).1 = (s.query draws statement).1
      ∧ (w.query draws statement).2.rows u = (s.query draws statement).2.rows u := by
  have hrows : (Repository.received w statement).rows statement.table
      = (Repository.received s statement).rows statement.table := by
    rw [Repository.rows_received, Repository.rows_received, rows_congr htable, rows_congr htable]
    exact h.rows
  rw [Store.query, Store.query, Repository.execute_of_ready h.ready,
    Repository.execute_of_ready h.ready', ← rows_congr htable, ← rows_congr htable]
  exact perform_agree hrows

/-- A statement changes the rows of its table and of no other. -/
theorem rows_query_of_ne (hready : s.failure = none)
    (htable : statement.table.fullName ≠ u.fullName) :
    (s.query draws statement).2.rows u = s.rows u := by
  rw [Store.query, Repository.execute_of_ready hready, rows_perform_of_ne htable]
  rfl

/-- The store behind a statement is the one that it leaves. -/
theorem use?_query (h : s.use? (.query draws statement) = some s') :
    s' = (s.query draws statement).2 := by
  unfold use? at h
  simp only at h
  split at h
  · cases h
  · exact (Option.some.inj h).symm

/-- A use on another table leaves the rows. -/
theorem rows_use?_of_ne (hready : s.failure = none) {x : Use}
    (htable : x.table.fullName ≠ u.fullName) (h : s.use? x = some s') : s'.rows u = s.rows u := by
  cases x with
  | seed t values =>
      obtain rfl := Option.some.inj h
      rw [rows_seed]
      exact if_neg (Ne.symm htable)
  | query draws statement =>
      rw [use?_query h]
      exact rows_query_of_ne hready htable

/-- A use asks for no failure. -/
theorem failure_use? (hready : s.failure = none) {x : Use} (h : s.use? x = some s') :
    s'.failure = none := by
  cases x with
  | seed t values =>
      obtain rfl := Option.some.inj h
      exact hready
  | query draws statement =>
      rw [use?_query h]
      exact failure_execute

/-- One use of both stores: they stay alike. -/
theorem Alike.use? (h : Alike u s w) {x : Use} (hx : s.use? x = some s')
    (hw : w.use? x = some w') : Alike u s' w' where
  rows := by
    by_cases htable : x.table.fullName = u.fullName
    · cases x with
      | seed t values =>
          obtain rfl := Option.some.inj hx
          obtain rfl := Option.some.inj hw
          have hname : t.fullName = u.fullName := htable
          rw [rows_seed, rows_seed, if_pos hname.symm, if_pos hname.symm, rows_congr hname,
            rows_congr hname, h.rows]
      | query draws statement =>
          rw [use?_query hx, use?_query hw]
          exact (h.query htable).2
    · rw [rows_use?_of_ne h.ready htable hx, rows_use?_of_ne h.ready' htable hw]
      exact h.rows
  ready := failure_use? h.ready hx
  ready' := failure_use? h.ready' hw

/-- Uses go through if the first does and the others do behind it. -/
theorem after?_cons_eq_some {x : Use} {later : List Use} :
    s.after? (x :: later) = some s'
      ↔ ∃ next, s.use? x = some next ∧ next.after? later = some s' := by
  rw [after?, List.foldlM_cons]
  exact Option.bind_eq_some_iff

/-- Stores that are alike to a table stay so behind the same uses. -/
theorem Alike.after? {later : List Use} (h : Alike u s w) (hs : s.after? later = some s')
    (hw : w.after? later = some w') : Alike u s' w' := by
  induction later generalizing s w with
  | nil =>
      obtain rfl := Option.some.inj hs
      obtain rfl := Option.some.inj hw
      exact h
  | cons x later ih =>
      obtain ⟨next, hnext, hs⟩ := after?_cons_eq_some.1 hs
      obtain ⟨next', hnext', hw⟩ := after?_cons_eq_some.1 hw
      exact ih (h.use? hnext hnext') hs hw

theorem failure_after? {uses : List Use} (hready : s.failure = none)
    (h : s.after? uses = some s') : s'.failure = none := by
  induction uses generalizing s with
  | nil =>
      obtain rfl := Option.some.inj h
      exact hready
  | cons x uses ih =>
      obtain ⟨next, hnext, h⟩ := after?_cons_eq_some.1 h
      exact ih (failure_use? hready hnext) h

-- =============================================================== isolation

/-- A use of `t` is not seen through `u`, at any point of a run behind it:
the rows are those that the same run shows without this use, and so are the
answers to statements, to those that change the table too. -/
def Isolated (t u : Table) : Prop :=
  ∀ (earlier : List Use) (x : Use) (later : List Use) (s w s' w' : Store),
    x.table.nameParts = t.nameParts → Store.empty.after? earlier = some s → s.use? x = some w →
      s.after? later = some s' → w.after? later = some w' →
        w'.rows u = s'.rows u ∧ ∀ draws statement, statement.table.nameParts = u.nameParts →
          (w'.query draws statement).1 = (s'.query draws statement).1

/-- Tables are isolated exactly if their full names differ. -/
theorem isolated_iff_fullName_ne : Isolated t u ↔ t.fullName ≠ u.fullName := by
  constructor
  · intro h hname
    -- An empty row in one table is one in the other.
    have hrows := (h [] (.seed t [.object []]) [] .empty (Store.empty.seed t [.object []]) .empty
      (Store.empty.seed t [.object []]) rfl rfl rfl rfl rfl).1
    rw [rows_seed, if_pos hname.symm] at hrows
    cases hrows
  · intro hname earlier x later s w s' w' hx hs hw hs' hw'
    have hready := failure_after? rfl hs
    have hother : x.table.fullName ≠ u.fullName := by
      rw [Table.fullName_of_nameParts hx]
      exact hname
    have halike : Alike u s w :=
      ⟨rows_use?_of_ne hready hother hw, hready, failure_use? hready hw⟩
    have halike' := halike.after? hs' hw'
    refine ⟨halike'.rows, fun draws statement htable => ?_⟩
    exact (halike'.query (Table.fullName_of_nameParts htable)).1

/-- Two tables with different names are isolated, in every run of seeds and
statements on them and on others, exactly if their names are not blurred. -/
theorem isolated_iff_not_blurred {t u : Table} (h : t.nameParts ≠ u.nameParts) :
    Isolated t u ↔ ¬ (t.Blurs u ∨ u.Blurs t) := by
  rw [isolated_iff_fullName_ne, Ne, Table.fullName_eq_iff, or_iff_right h]

/-- Members, in a schema of their own. -/
def archivedMembers : Table := { members with schema := some "archive" }

/-- Members that are archived under the keys of others: the next member has
the key that it has without them. -/
theorem members_isolated_from_archive :
    let draws := Supply.constant
    let earlier : List Use := [.seed members [.object [("id", .int 7)]]]
    let x : Use := .query draws (.insert archivedMembers [Row.empty.set "id" (.int 9), .empty])
    let later : List Use := [.query draws (.insert members [.empty])]
    archivedMembers.nameParts ≠ members.nameParts ∧ Isolated archivedMembers members
      ∧ ∃ s w s' w', Store.empty.after? earlier = some s ∧ s.use? x = some w
        ∧ s.after? later = some s' ∧ w.after? later = some w'
        ∧ (w.rows archivedMembers).map archivedMembers.integerKey? = [some 9, some 10]
        ∧ w'.rows members = s'.rows members
        ∧ (s'.rows members).map members.integerKey? = [some 7, some 8] := by
  intro draws earlier x later
  have hnames : archivedMembers.nameParts ≠ members.nameParts := by decide
  have hisolated : Isolated archivedMembers members := by
    refine (isolated_iff_not_blurred hnames).2 ?_
    rintro (h | h)
    · exact absurd h.dot_mem (by decide)
    · exact absurd h.dot_mem (by decide)
  refine ⟨hnames, hisolated, _, _, _, _, rfl, rfl, rfl, rfl, by decide +kernel, ?_,
    by decide +kernel⟩
  exact (hisolated earlier x later _ _ _ _ rfl rfl rfl rfl rfl).1

/-- Rows seeded into one table are rows of another, whose schema and name
have their dot at another place, and are counted there. -/
theorem seeded_beside_are_counted :
    let t : Table := ⟨some "a", "b.c", "id", [⟨"id", "int8", true⟩]⟩
    let u : Table := { t with schema := some "a.b", name := "c" }
    let s := Store.empty.seed t [.object [("id", .int 1)]]
    let draws := Supply.constant
    t.nameParts ≠ u.nameParts ∧ Store.empty.rows u = [] ∧ s.rows u = [Row.empty.set "id" (.int 1)]
      ∧ (Store.empty.query draws (.count u none)).1 = .ok [countRow 0]
      ∧ (s.query draws (.count u none)).1 = .ok [countRow 1] := by
  intro t u s draws
  exact ⟨by decide, rfl, rfl, rfl, rfl⟩

end Store

end TableApi
