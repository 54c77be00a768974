/-
Keys deleted at once, and one after another.

Deleting many keys is one statement whose condition asks for membership in
a list; deleting a key is a statement that asks for an equality. A row is
kept by the first if and only if it is kept by one of the others
(`Resource.keeps_inList_iff`): a null, missing or incomparable cell equals
no key and is no member either, and a text that reads as a number is
compared in the same way on both paths. So both leave the rows that have none of the
keys. Of the keys it matters only which they are, not in what order or how
often they come.
-/
import TableApi.Proofs.Repository.ByKey

namespace TableApi

open Json

/-- The row has one of the keys. -/
def Resource.hasAnyOf (r : Resource) (keys : List Key) (row : Row) : Bool :=
  keys.any fun key => (r.hasKey key).keeps row

theorem Resource.keeps_inList (r : Resource) (keys : List Key) (row : Row) :
    (Condition.inList r.table.primaryKey (keys.map Key.toValue) false).keeps row
      = r.hasAnyOf keys row := by
  rw [Bool.eq_iff_iff, keeps_inList_iff, hasAnyOf, List.any_eq_true]

/-- In what order the keys come does not matter, nor how often. -/
theorem Resource.hasAnyOf_congr {r : Resource} {keys others : List Key}
    (h : ∀ key, key ∈ others ↔ key ∈ keys) : r.hasAnyOf others = r.hasAnyOf keys := by
  funext row
  rw [Bool.eq_iff_iff, hasAnyOf, hasAnyOf, List.any_eq_true, List.any_eq_true]
  exact exists_congr fun key => and_congr_left fun _ => h key

namespace Repository

variable {ε : Type} {supply : Supply} {r : Resource} {s : Store} {t : Table} {p q : Row → Bool}

/-- A run of an attempt succeeds and deletes the rows of a table that `p`
marks, and nothing else. -/
structure Deletes (s : Store) (t : Table) (p : Row → Bool) (run : Except ε Unit × Store) :
    Prop where
  succeeds : run.1 = .ok ()
  ready : run.2.failure = none
  rows : ∀ u : Table, run.2.rows u
    = if u.fullName = t.fullName then (s.rows t).filter fun row => !p row else s.rows u

theorem deletes_nothing (hready : s.failure = none) (t : Table) :
    Deletes s t (fun _ => false) ((.ok (), s) : Except ε Unit × Store) := by
  refine ⟨rfl, hready, fun u => ?_⟩
  split
  · next hname =>
    rw [Store.rows, Store.rows, hname]
    exact (List.filter_eq_self.2 fun _ _ => rfl).symm
  · rfl

theorem deletes_ask (hready : s.failure = none) (operation : Operation) (t : Table)
    (condition : Condition) :
    Deletes s t condition.keeps
      (runOn supply s (ask operation (.delete t condition) fun _ => some ())) := by
  rw [runOn_ask hready]
  exact ⟨rfl, hready, Store.rows_setRows _ _ _⟩

/-- Two deletions one after another delete what one of them marks. -/
theorem Deletes.bind {a b : Attempt ε Unit} (ha : Deletes s t p (runOn supply s a))
    (hb : ∀ s', s'.failure = none → Deletes s' t q (runOn supply s' b)) :
    Deletes s t (fun row => p row || q row) (runOn supply s (a >>= fun _ => b)) := by
  rw [runOn_bind_of_ok ha.succeeds]
  have hsecond := hb (runOn supply s a).2 ha.ready
  refine ⟨hsecond.succeeds, hsecond.ready, fun u => ?_⟩
  rw [hsecond.rows, ha.rows, ha.rows]
  split
  · rw [if_pos rfl, List.filter_filter]
    refine List.filter_congr fun row _ => ?_
    rw [Bool.not_or, Bool.and_comm]
  · rfl

theorem deletes_delete (hready : s.failure = none) (key : Key) :
    Deletes s r.table (r.hasKey key).keeps (runOn supply s (delete r key)) :=
  deletes_ask hready _ _ _

theorem deletes_each (hready : s.failure = none) (keys : List Key) :
    Deletes s r.table (r.hasAnyOf keys) (runOn supply s (keys.forM (delete r))) := by
  induction keys generalizing s with
  | nil => exact deletes_nothing hready r.table
  | cons key keys ih => exact (deletes_delete hready key).bind fun s' hready' => ih hready'

theorem deletes_deleteMany (hready : s.failure = none) (keys : List Key) :
    Deletes s r.table (r.hasAnyOf keys) (runOn supply s (deleteMany r keys)) := by
  cases keys with
  | nil => exact deletes_nothing hready r.table
  | cons key keys =>
      have hkeeps :
          (Condition.inList r.table.primaryKey ((key :: keys).map Key.toValue) false).keeps
            = r.hasAnyOf (key :: keys) := funext (r.keeps_inList _)
      rw [← hkeeps]
      exact deletes_ask hready _ _ _

/-- Keys are deleted at once as they are one after another, and a second
time nothing is left to delete. -/
structure DeletedTogether (supply : Supply) (s : Store) (r : Resource) (keys : List Key) :
    Prop where
  many : Deletes s r.table (r.hasAnyOf keys) (runOn supply s (deleteMany r keys))
  each : ∀ order : List Key, (∀ key, key ∈ order ↔ key ∈ keys) →
    (runOn supply s (order.forM (delete r))).1 = .ok ()
      ∧ ∀ u, (runOn supply s (order.forM (delete r))).2.rows u
        = (runOn supply s (deleteMany r keys)).2.rows u
  again : (runOn supply (runOn supply s (deleteMany r keys)).2 (deleteMany r keys)).1 = .ok ()
    ∧ ∀ u, (runOn supply (runOn supply s (deleteMany r keys)).2 (deleteMany r keys)).2.rows u
      = (runOn supply s (deleteMany r keys)).2.rows u

theorem deletedTogether (supply : Supply) (r : Resource) (hready : s.failure = none)
    (keys : List Key) : DeletedTogether supply s r keys := by
  have hmany : Deletes s r.table (r.hasAnyOf keys) (runOn supply s (deleteMany r keys)) :=
    deletes_deleteMany hready keys
  have hagain : Deletes (runOn supply s (deleteMany r keys)).2 r.table (r.hasAnyOf keys)
      (runOn supply (runOn supply s (deleteMany r keys)).2 (deleteMany r keys)) :=
    deletes_deleteMany hmany.ready keys
  refine ⟨hmany, fun order horder => ?_, hagain.succeeds, fun u => ?_⟩
  · have heach : Deletes s r.table (r.hasAnyOf order) (runOn supply s (order.forM (delete r))) :=
      deletes_each hready order
    refine ⟨heach.succeeds, fun u => ?_⟩
    rw [heach.rows, hmany.rows, Resource.hasAnyOf_congr horder]
  · rw [hagain.rows]
    split
    · next hname =>
      rw [hmany.rows, hmany.rows, if_pos rfl, if_pos hname, List.filter_filter]
      exact List.filter_congr fun row _ => Bool.and_self _
    · rfl

/-- In a store that no failure is asked of, deleting many keys leaves the
rows that deleting each of them leaves, in whatever order, and deleting
them again leaves these too. For no keys nothing is sent, whatever would
have answered. -/
theorem delete_many_equals_single_deletes (supply : Supply) (r : Resource) {s : Store}
    (hready : s.failure = none) (keys : List Key) :
    DeletedTogether supply s r keys
      ∧ ∀ (σ : Type) (respond : σ → Statement → Answer × σ) (state : σ),
        Session.run respond state (ExceptT.run (deleteMany r [])) = (.ok (), [], state) :=
  ⟨deletedTogether supply r hready keys, fun _ _ _ => rfl⟩

/-- Integers and texts are deleted, one of them twice and one that no row
has; rows without a key are left. -/
theorem delete_many_equals_single_deletes_of_mixed_keys :
    let s := Store.empty.seed counters.table
      [.object [("id", .int 1)], .object [("id", .null)], .object [("id", .string "b")],
        .object [], .object [("id", .int 4)]]
    let keys : List Key := [.text "1", .int 4, .text "b", .int 4, .int 9]
    let order : List Key := [.int 9, .text "b", .int 4, .text "1"]
    s.failure = none ∧ DeletedTogether Supply.constant s counters keys
      ∧ ((runOn Supply.constant s (deleteMany counters keys)).2.rows counters.table).length = 2
      ∧ ∀ u, (runOn Supply.constant s (order.forM (delete counters))).2.rows u
        = (runOn Supply.constant s (deleteMany counters keys)).2.rows u := by
  intro s keys order
  have hready : s.failure = none := rfl
  have htogether := (delete_many_equals_single_deletes Supply.constant counters hready keys).1
  have horder : ∀ key, key ∈ order ↔ key ∈ keys := by
    intro key
    simp only [order, keys, List.mem_cons, List.not_mem_nil, or_false]
    tauto
  exact ⟨hready, htogether, by decide +kernel, (htogether.each order horder).2⟩

end Repository

end TableApi
