/-
Registering in any order and in any number of calls.

Whether a list of controllers can be registered on a table comes down to
conditions on single controllers and on pairs (`Registrable`): each can
be planned by itself, each stands beside the mounts there are, any two
stand beside each other, and the router takes the routes of all. None of
these depends on which controller comes first: to stand beside another
is mutual, and what a router takes is decided by pairs of routes
(`Insertion`).

A call that succeeds leaves the mounts and the routes that the next call
starts from (`table_of_register`). So two calls that succeed do what one
call with both lists does (`registrable_append`), and by induction so
does any number of calls.
-/
import TableApi.Proofs.Routing.Insertion

namespace TableApi.Routing

open Registering

-- ======================================================= routes of plans

/-- What each step keeps, a run of steps keeps. -/
theorem foldlM_keeps {σ α : Type} {step : σ → α → Option σ} {P : σ → Prop}
    (hstep : ∀ s s' a, step s a = some s' → P s → P s') :
    ∀ {as : List α} {s s' : σ}, as.foldlM step s = some s' → P s → P s'
  | [], s, s', h, hs => by
      obtain rfl := Option.some.inj h
      exact hs
  | a :: as, s, s', h, hs => by
      obtain ⟨next, hnext, h⟩ := Option.bind_eq_some_iff.1 h
      exact foldlM_keeps hstep h (hstep s next a hnext hs)

/-- A route whose pattern is as its path is read leaves all of them so. -/
theorem Route.read_insert? {new : Route} (hnew : Pattern.ofPath? new.path = some new.pattern) :
    ∀ {old next : List Route}, new.insert? old = some next → Read old → Read next
  | [], next, h, _ => by
      obtain rfl := Option.some.inj h
      exact List.forall_mem_singleton.2 hnew
  | r :: old, next, h, hread => by
      obtain ⟨hr, hold⟩ := List.forall_mem_cons.1 hread
      rcases insert?_cons h with ⟨-, both, -, rfl⟩ | ⟨-, -, more, hmore, rfl⟩
      · exact List.forall_mem_cons.2 ⟨hr, hold⟩
      · exact List.forall_mem_cons.2 ⟨hr, read_insert? hnew hmore hold⟩

namespace Router

/-- Adding to a router is inserting among its routes. -/
theorem routes_add? (router : Router) (new : Route) :
    (router.add? new).map routes = new.insert? router.routes := by
  unfold add?
  split
  case h_1 routes hroutes => exact hroutes.symm
  case h_2 hroutes => exact hroutes.symm

/-- Routing methods leaves all patterns as their paths are read. -/
theorem read_route? {router next : Router} {path : String} {methods : MethodRouter}
    (h : router.route? path methods = some next) (hread : Route.Read router.routes) :
    Route.Read next.routes := by
  obtain ⟨pattern, hpattern, h⟩ := Option.bind_eq_some_iff.1 h
  have hinsert := router.routes_add? ⟨path, pattern, methods⟩
  rw [h] at hinsert
  exact Route.read_insert? hpattern hinsert.symm hread

/-- Middleware changes no pattern. -/
theorem read_layers {router : Router} (hread : Route.Read router.routes) :
    ∀ ms : List Middleware, Route.Read (ms.foldl layer router).routes
  | [] => hread
  | m :: ms => by
      have hlayer : Route.Read (router.layer m).routes := List.forall_mem_map.2 hread
      exact read_layers hlayer ms

end Router

/-- The routes of a plan were read from their paths. -/
theorem read_of_plan {m : Metadata} {container : Container} {name : String} {p : Plan}
    (h : plan m container name = .ok p) : Route.Read p.router.routes := by
  obtain ⟨controller, base, checked, -, -, -, -, hrouter, -⟩ := plan_eq_ok h
  obtain ⟨paths, -, hrouter⟩ := Option.bind_eq_some_iff.1 hrouter
  obtain ⟨bare, hbare, hrouter⟩ := Option.bind_eq_some_iff.1 hrouter
  have hread : Route.Read bare.routes :=
    foldlM_keeps (P := fun router => Route.Read router.routes)
      (fun _ _ _ => Router.read_route?) hbare fun _ hr => by cases hr
  exact Option.some.inj hrouter ▸ Router.read_layers hread _

-- ============================================================== mounting

/-- The router with the routes of all plans. -/
def mergeAll? (router : Router) (plans : List Plan) : Option Router :=
  plans.foldlM (fun router (p : Plan) => router.merge? p.router) router

/-- Merging puts in the routes of the other router one by one. -/
theorem Router.routes_merge? (router other : Router) :
    (router.merge? other).map routes = Route.insertAll? other.routes router.routes := by
  unfold merge? Route.insertAll?
  induction other.routes generalizing router with
  | nil => rfl
  | cons new news ih =>
      rw [List.foldlM_cons, List.foldlM_cons, ← router.routes_add? new]
      cases router.add? new with
      | none => rfl
      | some next => exact ih next

/-- The first plan is merged first. -/
theorem mergeAll?_cons (router : Router) (p : Plan) (plans : List Plan) :
    mergeAll? router (p :: plans)
      = (router.merge? p.router).bind fun next => mergeAll? next plans :=
  List.foldlM_cons

/-- Plans behind plans are merged into what the first have come to. -/
theorem mergeAll?_append (router : Router) (plans more : List Plan) :
    mergeAll? router (plans ++ more)
      = (mergeAll? router plans).bind fun next => mergeAll? next more :=
  List.foldlM_append

/-- To merge all plans is to insert all their routes. -/
theorem routes_mergeAll? :
    ∀ (plans : List Plan) (router : Router),
      (mergeAll? router plans).map Router.routes
        = Route.insertAll? (plans.flatMap fun p => p.router.routes) router.routes
  | [], router => rfl
  | p :: plans, router => by
      rw [mergeAll?_cons, List.flatMap_cons, Route.insertAll?_append, ← router.routes_merge?]
      cases router.merge? p.router with
      | none => rfl
      | some next => exact routes_mergeAll? plans next

/-- Plans are mounted if the router takes the routes of all. -/
theorem mountAll_eq_ok :
    ∀ {plans : List Plan} {t t' : RouteTable}, on (plans.forM mount) t = (.ok (), t')
      ↔ ∃ router, mergeAll? t.router plans = some router
        ∧ t' = { t with router, mounts := t.mounts ++ plans.map Plan.mount }
  | [], t, t' => by
      have hnil : on (([] : List Plan).forM mount) t = (.ok (), t) := rfl
      rw [hnil]
      simpa [mergeAll?] using eq_comm
  | p :: plans, t, t' => by
      rw [mountAll_on, mergeAll?_cons]
      cases t.router.merge? p.router with
      | none => simp
      | some router =>
          refine mountAll_eq_ok.trans ?_
          simp only [List.append_assoc, List.map_cons, List.singleton_append]
          rfl

-- ============================================================== planning

section Planning

variable {m : Metadata} {container : Container} {mounts : List Mount}

/-- The plans of the controllers that have one. -/
def plansOf (m : Metadata) (container : Container) (names : List String) : List Plan :=
  names.filterMap fun name => (plan m container name).toOption

/-- The plans are those of the names that have one. -/
theorem mem_plansOf {names : List String} {p : Plan} :
    p ∈ plansOf m container names ↔ ∃ name ∈ names, plan m container name = .ok p := by
  have hsome : ∀ name, (plan m container name).toOption = some p
      ↔ plan m container name = .ok p := fun name => by
    cases plan m container name <;> simp [Except.toOption]
  simp only [plansOf, List.mem_filterMap, hsome]

/-- Names behind names have their plans in that order. -/
theorem plansOf_append (names more : List String) :
    plansOf m container (names ++ more) = plansOf m container names ++ plansOf m container more :=
  List.filterMap_append

/-- A name that has a plan has it in front. -/
theorem plansOf_cons {name : String} {p : Plan} (h : plan m container name = .ok p)
    (rest : List String) :
    plansOf m container (name :: rest) = p :: plansOf m container rest :=
  List.filterMap_cons_some (by rw [h]; rfl)

/-- If one mount may stand beside another then it may the other way round.
-/
theorem Mount.Beside.symm {a b : Mount} (h : a.Beside b) : b.Beside a where
  basePaths := fun hroot heq => h.basePaths (heq ▸ hroot) heq.symm
  served := fun p hp q hq =>
    ⟨(h.served q hq p hp).1.symm, (Path.conflict_comm _ _).trans (h.served q hq p hp).2⟩

/-- Mounts can be planned beside those there are, and beside each
other. -/
structure Plannable (m : Metadata) (container : Container) (mounts : List Mount)
    (names : List String) : Prop where
  planned : ∀ name ∈ names, ∃ p, plan m container name = .ok p
  beside : ∀ a ∈ mounts, ∀ p ∈ plansOf m container names, a.Beside p.mount
  among : (plansOf m container names).Pairwise fun p q => p.mount.Beside q.mount

/-- Names behind names can be planned beside the mounts of the first. -/
theorem plannable_append {names more : List String} :
    Plannable m container mounts (names ++ more)
      ↔ Plannable m container mounts names
        ∧ Plannable m container (mounts ++ (plansOf m container names).map Plan.mount) more := by
  constructor
  · rintro ⟨hplanned, hbeside, hamong⟩
    rw [plansOf_append] at hbeside hamong
    obtain ⟨hnames, hmore⟩ := List.forall_mem_append.1 hplanned
    obtain ⟨hfirst, hsecond, hacross⟩ := List.pairwise_append.1 hamong
    exact ⟨⟨hnames, fun a ha p hp => hbeside a ha p (List.mem_append_left _ hp), hfirst⟩,
      hmore, List.forall_mem_append.2
        ⟨fun a ha p hp => hbeside a ha p (List.mem_append_right _ hp),
          List.forall_mem_map.2 hacross⟩, hsecond⟩
  · rintro ⟨⟨hnames, hbeside, hfirst⟩, hmore, hlater, hsecond⟩
    obtain ⟨hbeside', hacross⟩ := List.forall_mem_append.1 hlater
    refine ⟨List.forall_mem_append.2 ⟨hnames, hmore⟩, ?_, ?_⟩
    · rw [plansOf_append]
      exact fun a ha => List.forall_mem_append.2 ⟨hbeside a ha, hbeside' a ha⟩
    · rw [plansOf_append]
      exact List.pairwise_append.2 ⟨hfirst, hsecond, List.forall_mem_map.1 hacross⟩

/-- A name can be planned in front of others that can be planned beside its
mount. -/
theorem plannable_cons {name : String} {p : Plan} (h : plan m container name = .ok p)
    {rest : List String} :
    Plannable m container mounts (name :: rest)
      ↔ (∀ a ∈ mounts, a.Beside p.mount)
        ∧ Plannable m container (mounts ++ [p.mount]) rest := by
  have hname : plansOf m container [name] = [p] := plansOf_cons h []
  have hfirst : Plannable m container mounts [name] ↔ ∀ a ∈ mounts, a.Beside p.mount := by
    refine ⟨fun hname' a ha => hname'.beside a ha p (hname ▸ List.mem_singleton_self p),
      fun hp => ⟨List.forall_mem_singleton.2 ⟨p, h⟩, ?_, ?_⟩⟩
    · exact hname ▸ fun a ha => List.forall_mem_singleton.2 (hp a ha)
    · exact hname ▸ List.pairwise_singleton _ _
  rw [← List.singleton_append, plannable_append, hfirst, hname]
  rfl

/-- Planning comes to the plans exactly if all can be planned beside what is
mounted and beside each other. -/
theorem planAll_eq_ok :
    ∀ {names : List String} {mounts : List Mount} {plans : List Plan},
      planAll m container mounts names = .ok plans
        ↔ Plannable m container mounts names ∧ plans = plansOf m container names
  | [], mounts, plans => by
      have hnil : Plannable m container mounts [] := ⟨by simp, by simp [plansOf], .nil⟩
      rw [and_iff_right hnil]
      exact ⟨fun h => (Except.ok.inj h).symm, fun h => h ▸ rfl⟩
  | name :: rest, mounts, plans => by
      constructor
      · intro h
        obtain ⟨p, more, hp, hcheck, hmore, rfl⟩ := planAll_cons_eq_ok h
        obtain ⟨hrest, rfl⟩ := planAll_eq_ok.1 hmore
        exact ⟨(plannable_cons hp).2 ⟨checkMount_eq_ok.1 hcheck, hrest⟩,
          (plansOf_cons hp rest).symm⟩
      · rintro ⟨hplannable, rfl⟩
        obtain ⟨p, hp⟩ := hplannable.planned name List.mem_cons_self
        obtain ⟨hcheck, hrest⟩ := (plannable_cons hp).1 hplannable
        have hmore := planAll_eq_ok.2 ⟨hrest, rfl⟩
        rw [planAll, hp, plansOf_cons hp]
        simp only [checkMount_eq_ok.2 hcheck, hmore, Except.mapError, bind, Except.bind, pure,
          Except.pure]

end Planning

-- =========================================================== registering

/-- Controllers that can be registered on a table. -/
structure Registrable (m : Metadata) (container : Container) (t : RouteTable)
    (names : List String) : Prop where
  plannable : Plannable m container t.mounts names
  routable : (mergeAll? t.router (plansOf m container names)).isSome = true

variable {m : Metadata} {container : Container} {t t' : RouteTable} {names : List String}

/-- Registering succeeds exactly if all can be planned and their routes can
be merged. -/
theorem register_eq_ok :
    on (register m container names) t = (.ok (), t')
      ↔ Plannable m container t.mounts names
        ∧ ∃ router, mergeAll? t.router (plansOf m container names) = some router
          ∧ t' = { t with router
                          mounts := t.mounts ++ (plansOf m container names).map Plan.mount } := by
  rw [register_on, ← mountAll_eq_ok]
  cases hplans : planAll m container t.mounts names with
  | error e =>
      refine ⟨nofun, fun ⟨hplannable, _⟩ => ?_⟩
      rw [planAll_eq_ok.2 ⟨hplannable, rfl⟩] at hplans
      cases hplans
  | ok plans =>
      obtain ⟨hplannable, rfl⟩ := planAll_eq_ok.1 hplans
      exact (and_iff_right hplannable).symm

/-- A call succeeds just if its controllers can be registered. -/
theorem register_isOk :
    (on (register m container names) t).1 = .ok () ↔ Registrable m container t names := by
  constructor
  · intro h
    have hrun : on (register m container names) t
        = (.ok (), (on (register m container names) t).2) := Prod.ext h rfl
    obtain ⟨hplannable, router, hrouter, -⟩ := register_eq_ok.1 hrun
    exact ⟨hplannable, by rw [hrouter]; rfl⟩
  · rintro ⟨hplannable, hroutable⟩
    obtain ⟨router, hrouter⟩ := Option.isSome_iff_exists.1 hroutable
    exact congrArg Prod.fst (register_eq_ok.2 ⟨hplannable, router, hrouter, rfl⟩)

/-- What a call that succeeds leaves. -/
theorem table_of_register (h : (on (register m container names) t).1 = .ok ()) :
    mergeAll? t.router (plansOf m container names)
        = some (on (register m container names) t).2.router
      ∧ (on (register m container names) t).2.mounts
        = t.mounts ++ (plansOf m container names).map Plan.mount := by
  have hrun : on (register m container names) t
      = (.ok (), (on (register m container names) t).2) := Prod.ext h rfl
  obtain ⟨-, router, hrouter, htable⟩ := register_eq_ok.1 hrun
  rw [htable]
  exact ⟨hrouter, rfl⟩

/-- The order of the controllers does not matter. -/
theorem Registrable.perm {names' : List String} (h : Registrable m container t names)
    (hperm : names.Perm names') : Registrable m container t names' := by
  obtain ⟨⟨hplanned, hbeside, hmutual⟩, hroutable⟩ := h
  have hplans : (plansOf m container names).Perm (plansOf m container names') :=
    hperm.filterMap _
  have hread : Route.Read ((plansOf m container names).flatMap fun p => p.router.routes) :=
    fun r hr => by
      obtain ⟨p, hp, hr⟩ := List.mem_flatMap.1 hr
      obtain ⟨name, -, hp⟩ := mem_plansOf.1 hp
      exact read_of_plan hp r hr
  refine ⟨⟨fun name hname => hplanned name (hperm.mem_iff.2 hname),
    fun a ha p hp => hbeside a ha p (hplans.mem_iff.2 hp),
    (hplans.pairwise_iff Mount.Beside.symm).1 hmutual⟩, ?_⟩
  rw [← Option.isSome_map (f := Router.routes), routes_mergeAll?] at hroutable ⊢
  rwa [← Route.insertAll?_isSome_of_perm hread (hplans.flatMap_right _)]

/-- Two lists can be registered together just if the first can be, and
the second one after it. -/
theorem registrable_append {more : List String} :
    Registrable m container t (names ++ more)
      ↔ Registrable m container t names
        ∧ Registrable m container (on (register m container names) t).2 more := by
  constructor
  · rintro ⟨hplannable, hroutable⟩
    obtain ⟨hfirst, hsecond⟩ := plannable_append.1 hplannable
    rw [plansOf_append, mergeAll?_append] at hroutable
    have hnames : Registrable m container t names :=
      ⟨hfirst, Option.isSome_of_isSome_bind hroutable⟩
    obtain ⟨hrouter, hmounts⟩ := table_of_register (register_isOk.2 hnames)
    rw [hrouter] at hroutable
    exact ⟨hnames, hmounts ▸ hsecond, hroutable⟩
  · rintro ⟨hnames, hsecond, hroutable⟩
    obtain ⟨hrouter, hmounts⟩ := table_of_register (register_isOk.2 hnames)
    refine ⟨plannable_append.2 ⟨hnames.plannable, hmounts ▸ hsecond⟩, ?_⟩
    rw [plansOf_append, mergeAll?_append, hrouter]
    exact hroutable

/-- No controllers can always be registered. -/
theorem registrable_nil : Registrable m container t [] :=
  register_isOk.1 rfl

-- =============================================================== batches

/-- All calls succeed, one after the other. -/
def RouteTable.AllSucceed (t : RouteTable) : List RegisterCall → Prop
  | [] => True
  | call :: calls => (call.on t).1 = .ok () ∧ (call.on t).2.AllSucceed calls

/-- Calls that register lists of controllers in turn all succeed just if
one call with all of them would. -/
theorem allSucceed_iff :
    ∀ {batches : List (List String)} {t : RouteTable},
      t.AllSucceed (batches.map fun names => ⟨m, container, names⟩)
        ↔ Registrable m container t batches.flatten
  | [], t => iff_of_true trivial registrable_nil
  | names :: batches, t => by
      rw [List.flatten_cons, registrable_append, ← register_isOk, ← allSucceed_iff]
      rfl

/-- What calls leave that all succeed. -/
theorem mounts_of_allSucceed :
    ∀ {batches : List (List String)} {t : RouteTable},
      t.AllSucceed (batches.map fun names => ⟨m, container, names⟩) →
        (t.afterCalls (batches.map fun names => ⟨m, container, names⟩)).mounts
          = t.mounts ++ (plansOf m container batches.flatten).map Plan.mount
  | [], t, _ => (List.append_nil _).symm
  | names :: batches, t, h => by
      have hrest := mounts_of_allSucceed h.2
      rw [List.flatten_cons, plansOf_append, List.map_append, ← List.append_assoc,
        ← (table_of_register h.1).2]
      exact hrest

/-- Neither the order of the controllers nor the number of calls matters:
calls with a list of controllers, cut into pieces and in any order, all
succeed just if one call with the whole list does, and the same mounts
are there then. -/
theorem registered_in_any_order (t : RouteTable) (m : Metadata) (container : Container)
    (names : List String) (batches : List (List String)) (h : batches.flatten.Perm names) :
    let call (controllers : List String) : RegisterCall := ⟨m, container, controllers⟩
    (t.AllSucceed (batches.map call) ↔ ((call names).on t).1 = .ok ())
      ∧ (((call names).on t).1 = .ok () →
        (t.afterCalls (batches.map call)).mounts.Perm ((call names).on t).2.mounts) := by
  intro call
  have hsame : t.AllSucceed (batches.map call) ↔ ((call names).on t).1 = .ok () :=
    allSucceed_iff.trans ((Iff.intro (·.perm h) (·.perm h.symm)).trans register_isOk.symm)
  refine ⟨hsame, fun hnames => ?_⟩
  have hmounts : ((call names).on t).2.mounts
      = t.mounts ++ (plansOf m container names).map Plan.mount := (table_of_register hnames).2
  rw [mounts_of_allSucceed (hsame.2 hnames), hmounts]
  exact ((h.filterMap _).map _).append_left _

/-- Two controllers at `/` and one below a parameter, in three calls. -/
theorem registered_pages_first :
    let metadata := (((((Metadata.empty.declareBasePath "users" "/api/:tenant/").declareRoute
        "users" .get "/" "list" []).declareBasePath "audit" "/").declareRoute
        "audit" .get "/api/:tenant/log" "list" []).declareBasePath "pages" "/").declareRoute
        "pages" .get "/" "show" []
    let controller (store : Nat) : Controller := ⟨store, fun _ => some fun _ => .done (.bare 204)⟩
    let call (names : List String) : RegisterCall :=
      ⟨metadata, [("users", controller 0), ("audit", controller 1), ("pages", controller 2)], names⟩
    let batches := [["pages"], [], ["audit", "users"]]
    let names := ["users", "audit", "pages"]
    batches.flatten.Perm names
      ∧ ((call names).on .empty).2.mounts.map Mount.servedPaths
        = [["/api/:tenant", "/api/:tenant/"], ["/api/:tenant/log"], ["/"]]
      ∧ RouteTable.empty.AllSucceed (batches.map call)
      ∧ (RouteTable.empty.afterCalls (batches.map call)).mounts.Perm
        ((call names).on .empty).2.mounts := by
  intro metadata controller call batches names
  have hperm : batches.flatten.Perm names := by decide
  have hnames : ((call names).on .empty).1 = .ok () := by decide +kernel
  obtain ⟨hsame, hmounts⟩ :=
    registered_in_any_order .empty metadata (call names).container names batches hperm
  exact ⟨hperm, by decide +kernel, hsame.2 hnames, hmounts hnames⟩

end TableApi.Routing
