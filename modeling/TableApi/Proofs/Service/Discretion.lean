/-
What is told of a failure.

An operation that fails says which one it is. What the store said, and
what was wrong with its answer, is not told: two runs that are answered
alike but for what stands in errors come to the same result
(`Discreet.alike`), and an answer that its operation cannot use
(`Unusable`) comes out as the failure of that operation
(`Discreet.unusable`). So does a payload that is no object
(`Discreet.unfit`).

# One walk

All three are read off the shape of a session. In each session of a
repository, and so in each that is made of these, an unusable answer
leads to the end at once, whatever it is (`Surfaces`): the two runs part
in what they are answered only where both end in the same way. That is
kept by going on after a success and by renaming failures, and of all
single statements it needs to be seen for one (`surfaces_ask`).
-/
import TableApi.Proofs.Service.ExistenceCheck

namespace TableApi

open Json

-- ================================================================ failures

/-- Who is to blame for what goes wrong: the operation that sends the
statements of a kind, and the payloads with the operations that have to
make rows of them. -/
structure Blame where
  statements : StatementKind → Operation
  payloads : List (Operation × Value)

namespace Blame

/-- One operation, with its payloads. -/
def only (operation : Operation) (payloads : List Value) : Blame :=
  ⟨fun _ => operation, payloads.map (operation, ·)⟩

/-- An operation with its payloads, and a count beside it. -/
def counting (operation : Operation) (payloads : List Value) : Blame where
  statements
    | .count => .count
    | _ => operation
  payloads := payloads.map (operation, ·)

end Blame

/-- An answer that an operation cannot use. The store failed; or a row
that is to be read is no record, or there is no row where one has to be,
or no number where a count has to be. -/
def Unusable (r : Resource) : Operation → Answer → Prop
  | _, .error _ => True
  | .findAll, .ok rows | .createMany, .ok rows => ∃ row ∈ rows, r.record? row = none
  | .findById, .ok rows | .findOne, .ok rows | .update, .ok rows | .updateMany, .ok rows =>
      ∃ row, rows.head? = some row ∧ r.record? row = none
  | .create, .ok rows => ∀ row, rows.head? = some row → r.record? row = none
  | .count, .ok rows => ¬ ∃ n, Reports (.ok rows) n
  | .delete, .ok _ | .deleteMany, .ok _ => False

/-- Two answers that are the same, but for what errors say. -/
inductive Alike : Answer → Answer → Prop
  | rows (rows : List Row) : Alike (.ok rows) (.ok rows)
  | errors (e e' : StoreError) : Alike (.error e) (.error e')

/-- Two ways to answer statements that differ in nothing but what errors
say, from states that are related. -/
def AnswersAlike {σ σ' : Type} (respond : σ → Statement → Answer × σ)
    (respond' : σ' → Statement → Answer × σ') (R : σ → σ' → Prop) : Prop :=
  ∀ s s' statement, R s s' → Alike (respond s statement).1 (respond' s' statement).1
    ∧ R (respond s statement).2 (respond' s' statement).2

/-- A session that tells of a failure only whose it is. -/
structure Discreet {ρ : Type} (r : Resource) (b : Blame) (failed : Operation → ρ)
    (a : Session ρ) : Prop where
  /-- What errors say changes neither the result nor the statements. -/
  alike : ∀ {σ σ' : Type} {respond : σ → Statement → Answer × σ}
    {respond' : σ' → Statement → Answer × σ'} {R : σ → σ' → Prop},
      AnswersAlike respond respond' R → ∀ {s : σ} {s' : σ'}, R s s' →
        (a.run respond s).1 = (a.run respond' s').1
          ∧ Service.sent respond s a = Service.sent respond' s' a
  /-- An unusable answer fails the operation that sent the statement. -/
  unusable : ∀ {σ : Type} (respond : σ → Statement → Answer × σ) (s : σ),
    ∀ x ∈ (a.run respond s).2.1, Unusable r (b.statements x.statement.kind) x.answer →
      (a.run respond s).1 = failed (b.statements x.statement.kind)
  /-- A payload that is no object fails its operation, unless a count
  before it has not affirmed that there is something to write to. -/
  unfit : ∀ {σ : Type} (respond : σ → Statement → Answer × σ) (s : σ),
    ∀ p ∈ b.payloads, Row.ofValue? p.2 = none →
      (a.run respond s).1 = failed p.1
        ∨ ∃ x ∈ (a.run respond s).2.1,
            b.statements x.statement.kind = .count ∧ ¬ Affirms x.answer

-- ================================================================ sessions

section Sessions

variable {ρ τ : Type} {r : Resource} {b : StatementKind → Operation} {failed : Operation → ρ}

/-- The session ends at every answer that its operation cannot use. -/
inductive Surfaces (r : Resource) (b : StatementKind → Operation) (failed : Operation → ρ) :
    Session ρ → Prop
  | done (result : ρ) : Surfaces r b failed (.done result)
  | send {statement : Statement} {next : Answer → Session ρ} :
      (∀ answer, Unusable r (b statement.kind) answer →
        next answer = .done (failed (b statement.kind))) →
      (∀ answer, Surfaces r b failed (next answer)) →
        Surfaces r b failed (.send statement next)

/-- The session ends with a result, or at a count that does not affirm. -/
inductive EndsWith (b : StatementKind → Operation) (result : ρ) : Session ρ → Prop
  | done : EndsWith b result (.done result)
  | counted {statement : Statement} {next : Answer → Session ρ} :
      b statement.kind = .count →
      (∀ answer, Affirms answer → EndsWith b result (next answer)) →
        EndsWith b result (.send statement next)

/-- No operation can use an error. -/
theorem unusable_error (operation : Operation) (e : StoreError) :
    Unusable r operation (.error e) := by
  cases operation <;> exact trivial

/-- Runs that are answered alike go the same way. -/
theorem Surfaces.alike {a : Session ρ} (h : Surfaces r b failed a) {σ σ' : Type}
    {respond : σ → Statement → Answer × σ} {respond' : σ' → Statement → Answer × σ'}
    {R : σ → σ' → Prop} (hrespond : AnswersAlike respond respond' R) {s : σ} {s' : σ'}
    (hR : R s s') :
    (a.run respond s).1 = (a.run respond' s').1
      ∧ Service.sent respond s a = Service.sent respond' s' a := by
  induction h generalizing s s' with
  | done result => exact ⟨rfl, rfl⟩
  | @send statement next hunusable _ ih =>
      obtain ⟨halike, hnext⟩ := hrespond s s' statement hR
      -- Two errors may say different things, but both lead to the same end.
      have hsame : next (respond s statement).1 = next (respond' s' statement).1 := by
        generalize (respond s statement).1 = answer, (respond' s' statement).1 = answer' at halike
        cases halike with
        | rows rows => rfl
        | errors e e' =>
            rw [hunusable _ (unusable_error _ e), hunusable _ (unusable_error _ e')]
      obtain ⟨hresult, hsent⟩ := ih _ hnext
      rw [hsame] at hresult hsent
      simp only [Service.sent, Session.run, List.map_cons] at hsent ⊢
      rw [hsame]
      exact ⟨hresult, congrArg _ hsent⟩

/-- A run that meets an unusable answer ends there. -/
theorem Surfaces.unusable {a : Session ρ} (h : Surfaces r b failed a) {σ : Type}
    (respond : σ → Statement → Answer × σ) (s : σ) :
    ∀ x ∈ (a.run respond s).2.1, Unusable r (b x.statement.kind) x.answer →
      (a.run respond s).1 = failed (b x.statement.kind) := by
  induction h generalizing s with
  | done result => exact fun x hx => by cases hx
  | @send statement next hunusable _ ih =>
      refine List.forall_mem_cons.2 ⟨fun hfirst => ?_, ih _ _⟩
      simp only [Session.run]
      rw [hunusable _ hfirst]
      rfl

/-- Whatever it is answered, such a session ends with its result, or at a
count that did not affirm. -/
theorem EndsWith.run {result : ρ} {a : Session ρ} (h : EndsWith b result a) {σ : Type}
    (respond : σ → Statement → Answer × σ) (s : σ) :
    (a.run respond s).1 = result
      ∨ ∃ x ∈ (a.run respond s).2.1, b x.statement.kind = .count ∧ ¬ Affirms x.answer := by
  induction h generalizing s with
  | done => exact .inl rfl
  | @counted statement next hcount _ ih =>
      by_cases haffirms : Affirms (respond s statement).1
      · refine (ih _ haffirms (respond s statement).2).imp_right ?_
        exact fun ⟨x, hx, hkept⟩ => ⟨x, List.mem_cons_of_mem _ hx, hkept⟩
      · exact .inr ⟨_, List.mem_cons_self, hcount, haffirms⟩

/-- What is made of the result is made of the failures. -/
theorem Surfaces.finish {a : Session ρ} (h : Surfaces r b failed a) (f : ρ → τ) :
    Surfaces r b (fun operation => f (failed operation)) (a.bind fun x => .done (f x)) := by
  induction h with
  | done result => exact .done _
  | send hunusable _ ih =>
      refine .send (fun answer hanswer => ?_) ih
      rw [hunusable answer hanswer]
      rfl

/-- Renaming the result leaves the ways to end as they are. -/
theorem EndsWith.finish {result : ρ} {a : Session ρ} (h : EndsWith b result a) (f : ρ → τ) :
    EndsWith b (f result) (a.bind fun x => .done (f x)) := by
  induction h with
  | done => exact .done
  | counted hcount _ ih => exact .counted hcount ih

/-- The two together, for all payloads. -/
structure Careful (r : Resource) (b : Blame) (failed : Operation → ρ) (a : Session ρ) :
    Prop where
  surfaces : Surfaces r b.statements failed a
  refuses : ∀ p ∈ b.payloads, Row.ofValue? p.2 = none → EndsWith b.statements (failed p.1) a

/-- A session that ends at every unusable answer, and refuses every unfit
payload, tells of a failure only whose it is. -/
theorem Careful.discreet {b : Blame} {a : Session ρ} (h : Careful r b failed a) :
    Discreet r b failed a where
  alike := fun hrespond _ _ hR => h.surfaces.alike hrespond hR
  unusable := h.surfaces.unusable
  unfit := fun respond s p hp hvalue => (h.refuses p hp hvalue).run respond s

/-- A session stays careful when its result is renamed. -/
theorem Careful.finish {b : Blame} {a : Session ρ} (h : Careful r b failed a) (f : ρ → τ) :
    Careful r b (fun operation => f (failed operation)) (a.bind fun x => .done (f x)) where
  surfaces := h.surfaces.finish f
  refuses := fun p hp hvalue => (h.refuses p hp hvalue).finish f

end Sessions

-- ================================================================ attempts

section Attempts

variable {ε α β : Type} {r : Resource} {b : StatementKind → Operation} {failed : Operation → ε}

/-- An attempt behind another that ends where its operation cannot use an
answer does so too, if it lets errors through. -/
theorem Surfaces.bind {a : Session (Except ε α)} {f : Except ε α → Session (Except ε β)}
    (ha : Surfaces r b (fun operation => .error (failed operation)) a)
    (hok : ∀ x, Surfaces r b (fun operation => .error (failed operation)) (f (.ok x)))
    (herror : ∀ e, f (.error e) = .done (.error e)) :
    Surfaces r b (fun operation => .error (failed operation)) (a.bind f) := by
  induction ha with
  | done result =>
      cases result with
      | ok x => exact hok x
      | error e =>
          rw [Session.bind_done, herror e]
          exact .done _
  | send hunusable _ ih =>
      refine .send (fun answer hanswer => ?_) ih
      rw [hunusable answer hanswer]
      exact herror _

/-- An attempt that surfaces, and then one that does for every result. -/
theorem Surfaces.attempt {a : Attempt ε α} {f : α → Attempt ε β}
    (ha : Surfaces r b (fun operation => .error (failed operation)) (ExceptT.run a))
    (hf : ∀ x, Surfaces r b (fun operation => .error (failed operation)) (ExceptT.run (f x))) :
    Surfaces r b (fun operation => .error (failed operation)) (ExceptT.run (a >>= f)) :=
  ha.bind hf fun _ => rfl

end Attempts

-- ============================================================= repositories

namespace Repository

variable {α : Type} {r : Resource} {b : StatementKind → Operation}

/-- The attempt fails as the operation whose answer it cannot use. -/
abbrev Tells (r : Resource) (b : StatementKind → Operation) (a : Attempt QueryError α) : Prop :=
  Surfaces r b (fun operation => .error ⟨operation⟩) (ExceptT.run a)

/-- One failure fails all. -/
theorem mapM_eq_none {β : Type} {f : α → Option β} {xs : List α} (h : ∃ x ∈ xs, f x = none) :
    xs.mapM f = none := by
  obtain ⟨x, hx, hnone⟩ := h
  obtain ⟨before, after, rfl⟩ := List.append_of_mem hx
  rw [List.mapM_append, List.mapM_cons, hnone]
  cases before.mapM f <;> rfl

/-- A first row that is no record cannot be read. -/
theorem firstRecord?_eq_none {rows : List Row}
    (h : ∃ row, rows.head? = some row ∧ r.record? row = none) : r.firstRecord? rows = none := by
  obtain ⟨row, hrow, hnone⟩ := h
  obtain ⟨rest, rfl⟩ := List.head?_eq_some_iff.1 hrow
  rw [Resource.firstRecord?, hnone]
  rfl

/-- Where a record has to be, neither can the lack of a row. -/
theorem join_firstRecord?_eq_none {rows : List Row}
    (h : ∀ row, rows.head? = some row → r.record? row = none) :
    (r.firstRecord? rows).join = none := by
  cases rows with
  | nil => rfl
  | cons row rest =>
      rw [Resource.firstRecord?, h row rfl]
      rfl

/-- An answer that reports no number has no count. -/
theorem countOf?_eq_none {rows : List Row} (h : ¬ ∃ n, Reports (.ok rows) n) :
    countOf? rows = none :=
  Option.eq_none_iff_forall_ne_some.2 fun n hn => h ⟨n, reported?_eq_some_iff.1 hn⟩

/-- A single statement surfaces if its reader takes no answer that its
operation cannot use. -/
theorem tells_ask {operation : Operation} {statement : Statement} {read : List Row → Option α}
    (hoperation : b statement.kind = operation)
    (hread : ∀ rows, Unusable r operation (.ok rows) → read rows = none) :
    Tells r b (ask operation statement read) := by
  subst hoperation
  refine .send (fun answer hunusable => ?_) fun answer => ?_
  · cases answer with
    | error e => rfl
    | ok rows => exact (congrArg (require _) (hread rows hunusable)).trans rfl
  · cases answer with
    | error e => exact .done _
    | ok rows =>
        dsimp only
        cases read rows <;> exact .done _

/-- A check of a payload sends nothing that could fail. -/
theorem tells_require (operation : Operation) (a : Option α) : Tells r b (require operation a) := by
  cases a <;> exact .done _

/-- A search tells of a failure as itself. -/
theorem tells_findAll (h : b .select = .findAll) (s : Selection) : Tells r b (findAll r s) :=
  tells_ask h fun _ => mapM_eq_none

theorem tells_count (h : b .count = .count) (condition : Option Condition) :
    Tells r b (count r condition) :=
  tells_ask h fun _ => countOf?_eq_none

/-- A search with a total tells of its count apart. -/
theorem tells_findAndCount (hselect : b .select = .findAll) (hcount : b .count = .count)
    (s : Selection) : Tells r b (findAndCount r s) :=
  (tells_findAll hselect s).attempt fun _ =>
    (tells_count hcount s.condition).attempt fun _ => .done _

theorem tells_findById (h : b .select = .findById) (key : Key) : Tells r b (findById r key) :=
  tells_ask h fun _ => firstRecord?_eq_none

theorem tells_findOne (h : b .select = .findOne) (condition : Condition) :
    Tells r b (findOne r condition) :=
  tells_ask h fun _ => firstRecord?_eq_none

theorem tells_checkExists (h : b .count = .count) (condition : Condition) :
    Tells r b (checkExists r condition) :=
  (tells_count h (some condition)).attempt fun _ => .done _

theorem tells_create (h : b .insert = .create) (payload : Value) : Tells r b (create r payload) :=
  (tells_require .create _).attempt fun _ => tells_ask h fun _ => join_firstRecord?_eq_none

theorem tells_createMany (h : b .insert = .createMany) (payloads : List Value) :
    Tells r b (createMany r payloads) := by
  unfold createMany
  split
  · exact .done _
  · exact (tells_require .createMany _).attempt fun _ => tells_ask h fun _ => mapM_eq_none

theorem tells_update (h : b .update = .update) (key : Key) (patch : Value) :
    Tells r b (update r key patch) :=
  (tells_require .update _).attempt fun _ => tells_ask h fun _ => firstRecord?_eq_none

/-- Updates one after another tell of a failure as the one operation that
they are. -/
theorem tells_updateEach (h : b .update = .updateMany) :
    ∀ changes : List (Key × Row), Tells r b (updateEach r changes)
  | [] => .done _
  | (key, values) :: rest => by
      have hfirst : Tells r b (ask .updateMany (updateStatement r key values) r.firstRecord?) :=
        tells_ask h fun _ => firstRecord?_eq_none
      exact hfirst.attempt fun _ => (tells_updateEach h rest).attempt fun _ => .done _

theorem tells_updateMany (h : b .update = .updateMany) (changes : List (Key × Value)) :
    Tells r b (updateMany r changes) :=
  (tells_require .updateMany _).attempt fun _ => tells_updateEach h _

theorem tells_delete (h : b .delete = .delete) (key : Key) : Tells r b (delete r key) :=
  tells_ask h fun _ hnever => hnever.elim

theorem tells_deleteMany (h : b .delete = .deleteMany) (keys : List Key) :
    Tells r b (deleteMany r keys) := by
  unfold deleteMany
  split
  · exact .done _
  · exact tells_ask h fun _ hnever => hnever.elim

-- The operations that have to make rows of payloads.

/-- What is no object is refused before anything is sent. -/
theorem create_unfit {payload : Value} (h : Row.ofValue? payload = none) :
    create r payload = fail .create := by
  rw [create, h]
  rfl

theorem update_unfit {key : Key} {patch : Value} (h : Row.ofValue? patch = none) :
    update r key patch = fail .update := by
  rw [update, h]
  rfl

/-- One payload of many that is no object is refused before anything is
sent. -/
theorem createMany_unfit {payloads : List Value} (h : ∃ p ∈ payloads, Row.ofValue? p = none) :
    createMany r payloads = fail .createMany := by
  have hsome : payloads.isEmpty = false := by
    obtain ⟨p, hp, -⟩ := h
    exact List.isEmpty_eq_false_iff.2 (List.ne_nil_of_mem hp)
  rw [createMany, hsome, payloads?, mapM_eq_none h]
  rfl

/-- One patch of many that is no object is refused before anything is sent.
-/
theorem updateMany_unfit {changes : List (Key × Value)}
    (h : ∃ p ∈ changes.map (·.2), Row.ofValue? p = none) :
    updateMany r changes = fail .updateMany := by
  rw [updateMany, payloads?, mapM_eq_none h]
  rfl

end Repository

/-- The operations of a repository, each with who is to blame for what. -/
inductive RepositoryOperation (r : Resource) :
    {α : Type} → Attempt QueryError α → Blame → Prop
  | findAll (s : Selection) : RepositoryOperation r (Repository.findAll r s) (.only .findAll [])
  | findAndCount (s : Selection) :
      RepositoryOperation r (Repository.findAndCount r s) (.counting .findAll [])
  | findById (key : Key) :
      RepositoryOperation r (Repository.findById r key) (.only .findById [])
  | findOne (condition : Condition) :
      RepositoryOperation r (Repository.findOne r condition) (.only .findOne [])
  | count (condition : Option Condition) :
      RepositoryOperation r (Repository.count r condition) (.only .count [])
  | checkExists (condition : Condition) :
      RepositoryOperation r (Repository.checkExists r condition) (.only .count [])
  | checkExistsById (key : Key) :
      RepositoryOperation r (Repository.checkExistsById r key) (.only .count [])
  | create (payload : Value) :
      RepositoryOperation r (Repository.create r payload) (.only .create [payload])
  | createMany (payloads : List Value) :
      RepositoryOperation r (Repository.createMany r payloads) (.only .createMany payloads)
  | update (key : Key) (patch : Value) :
      RepositoryOperation r (Repository.update r key patch) (.only .update [patch])
  | updateMany (changes : List (Key × Value)) :
      RepositoryOperation r (Repository.updateMany r changes)
        (.only .updateMany (changes.map (·.2)))
  | delete (key : Key) : RepositoryOperation r (Repository.delete r key) (.only .delete [])
  | deleteMany (keys : List Key) :
      RepositoryOperation r (Repository.deleteMany r keys) (.only .deleteMany [])

variable {α : Type} {r : Resource}

/-- An attempt that has no payloads. -/
theorem Surfaces.careful {ρ : Type} {b : Blame} {failed : Operation → ρ} {a : Session ρ}
    (h : Surfaces r b.statements failed a) (hnone : b.payloads = []) : Careful r b failed a :=
  ⟨h, hnone ▸ List.forall_mem_nil _⟩

/-- An attempt that fails at once where one of its payloads is no
object. -/
theorem Surfaces.careful_of_unfit {operation : Operation} {payloads : List Value}
    {a : Attempt QueryError α} (h : Repository.Tells r (fun _ => operation) a)
    (hunfit : (∃ p ∈ payloads, Row.ofValue? p = none) → a = Repository.fail operation) :
    Careful r (.only operation payloads) (fun operation => .error ⟨operation⟩) (ExceptT.run a) where
  surfaces := h
  refuses := List.forall_mem_map.2 fun p hp hvalue => by
    rw [hunfit ⟨p, hp, hvalue⟩]
    exact .done

/-- Every operation of a repository ends where it cannot use an answer, and
refuses payloads that are no objects. -/
theorem RepositoryOperation.careful {a : Attempt QueryError α} {b : Blame}
    (h : RepositoryOperation r a b) :
    Careful r b (fun operation => .error ⟨operation⟩) (ExceptT.run a) := by
  have hsingle : ∀ {payload : Value}, (∃ p ∈ [payload], Row.ofValue? p = none) →
      Row.ofValue? payload = none := fun ⟨p, hp, hvalue⟩ => List.mem_singleton.1 hp ▸ hvalue
  cases h with
  | findAll s => exact (Repository.tells_findAll rfl s).careful rfl
  | findAndCount s => exact (Repository.tells_findAndCount rfl rfl s).careful rfl
  | findById key => exact (Repository.tells_findById rfl key).careful rfl
  | findOne condition => exact (Repository.tells_findOne rfl condition).careful rfl
  | count condition => exact (Repository.tells_count rfl condition).careful rfl
  | checkExists condition => exact (Repository.tells_checkExists rfl condition).careful rfl
  | checkExistsById key => exact (Repository.tells_checkExists rfl (r.hasKey key)).careful rfl
  | create payload =>
      exact (Repository.tells_create rfl payload).careful_of_unfit fun h =>
        Repository.create_unfit (hsingle h)
  | createMany payloads =>
      exact (Repository.tells_createMany rfl payloads).careful_of_unfit Repository.createMany_unfit
  | update key patch =>
      exact (Repository.tells_update rfl key patch).careful_of_unfit fun h =>
        Repository.update_unfit (hsingle h)
  | updateMany changes =>
      exact (Repository.tells_updateMany rfl changes).careful_of_unfit Repository.updateMany_unfit
  | delete key => exact (Repository.tells_delete rfl key).careful rfl
  | deleteMany keys => exact (Repository.tells_deleteMany rfl keys).careful rfl

-- ================================================================ services

namespace Service

variable {b : StatementKind → Operation}

/-- The attempt fails as the operation whose answer it cannot use. -/
abbrev Tells (r : Resource) (b : StatementKind → Operation) (a : Attempt ApiError α) : Prop :=
  Surfaces r b (fun operation => .error (.query ⟨operation⟩)) (ExceptT.run a)

/-- A service passes on what its repository tells. -/
theorem tells_run {a : Attempt QueryError α} (h : Repository.Tells r b a) :
    Tells r b (Service.run a) :=
  h.finish (Except.mapError ApiError.query)

/-- A filter that does not compile has nothing to tell of the store. -/
theorem tells_compiled (c : Except Filter.FilterError α) : Tells r b (compiled c) := by
  cases c <;> exact .done _

theorem tells_found (key : Key) (record : Option Value) : Tells r b (found r key record) := by
  cases record <;> exact .done _

/-- The check in front of a write tells of a failure as the count that it
is. -/
theorem tells_ensureExists (h : b .count = .count) (key : Key) :
    Tells r b (ensureExists r key) := by
  refine (tells_run (Repository.tells_checkExists h (r.hasKey key))).attempt fun found => ?_
  cases found <;> exact .done _

end Service

/-- The operations of a service, each with who is to blame for what. -/
inductive ServiceOperation (r : Resource) : {α : Type} → Attempt ApiError α → Blame → Prop
  | findAll (o : FindOptions) : ServiceOperation r (Service.findAll r o) (.only .findAll [])
  | findAndCount (o : FindOptions) :
      ServiceOperation r (Service.findAndCount r o) (.counting .findAll [])
  | findById (key : Key) : ServiceOperation r (Service.findById r key) (.only .findById [])
  | findOne (g : Filter.Group) : ServiceOperation r (Service.findOne r g) (.only .findOne [])
  | count (g : Option Filter.Group) : ServiceOperation r (Service.count r g) (.only .count [])
  | checkExists (g : Filter.Group) :
      ServiceOperation r (Service.checkExists r g) (.only .count [])
  | create (payload : Value) :
      ServiceOperation r (Service.create r payload) (.only .create [payload])
  | createMany (payloads : List Value) :
      ServiceOperation r (Service.createMany r payloads) (.only .createMany payloads)
  | update (key : Key) (patch : Value) :
      ServiceOperation r (Service.update r key patch) (.counting .update [patch])
  | delete (key : Key) : ServiceOperation r (Service.delete r key) (.counting .delete [])

/-- Every operation of a service ends where it cannot use an answer, and
refuses payloads that are no objects, in its own errors. -/
theorem ServiceOperation.careful {a : Attempt ApiError α} {b : Blame}
    (h : ServiceOperation r a b) :
    Careful r b (fun operation => .error (.query ⟨operation⟩)) (ExceptT.run a) := by
  open Service in
  cases h with
  | findAll o =>
      exact Surfaces.careful ((tells_compiled _).attempt fun s =>
        tells_run (Repository.tells_findAll rfl s)) rfl
  | findAndCount o =>
      exact Surfaces.careful ((tells_compiled _).attempt fun s =>
        tells_run (Repository.tells_findAndCount rfl rfl s)) rfl
  | findById key =>
      exact Surfaces.careful ((tells_run (Repository.tells_findById rfl key)).attempt
        (tells_found key)) rfl
  | findOne g =>
      exact Surfaces.careful ((tells_compiled _).attempt fun condition =>
        tells_run (Repository.tells_findOne rfl condition)) rfl
  | count g =>
      exact Surfaces.careful ((tells_compiled _).attempt fun condition =>
        tells_run (Repository.tells_count rfl condition)) rfl
  | checkExists g =>
      exact Surfaces.careful ((tells_compiled _).attempt fun condition =>
        tells_run (Repository.tells_checkExists rfl condition)) rfl
  | create payload =>
      exact (RepositoryOperation.create payload).careful.finish (Except.mapError ApiError.query)
  | createMany payloads =>
      exact (RepositoryOperation.createMany payloads).careful.finish
        (Except.mapError ApiError.query)
  | update key patch =>
      refine ⟨(tells_ensureExists rfl key).attempt fun _ =>
        (tells_run (Repository.tells_update rfl key patch)).attempt (tells_found key),
        List.forall_mem_map.2 fun p hp hvalue => ?_⟩
      obtain rfl := List.mem_singleton.1 hp
      rw [update_eq, changing, hvalue]
      refine .counted rfl fun answer haffirms => ?_
      obtain ⟨n, hn⟩ := Repository.affirms_iff.1 haffirms
      rw [hn]
      exact .done
  | delete key =>
      exact Surfaces.careful ((tells_ensureExists rfl key).attempt fun _ =>
        tells_run (Repository.tells_delete rfl key)) rfl

end TableApi
