/-
A controller that comes to a verb and path that the router serves already.

What is planned is checked against the mounts on record, and merged with
the router. No router takes a second target for a verb and path
(`disjoint_of_admits`), so a call never succeeds with one. But whether it
is refused by an error depends on the record only: with every controller
in order by itself, an error is reported just if two mounts, of the table
or of the call, do not stand beside each other (`reported_iff_collides`).
If they do, the mounting comes to the clash and ends there, and the
router is lost.

For a table that started without a router of its own the record is
complete: every path of the router is one of a mount (`Grown.paths`), so
a mount that comes to it does not stand beside that one. What a router
brought along that the table was started from is on no record.
-/
import TableApi.Proofs.Routing.Growth

namespace TableApi.Routing

open Registering

-- ================================================================= clashes

/-- A route that can come to others serves none of the verbs that are
served on its path. -/
theorem Route.disjoint_of_admits {a r : Route} :
    ∀ {old : List Route}, (old.map Route.path).Nodup → Admits old a → r ∈ old →
      r.path = a.path → r.methods.Disjoint a.methods
  | s :: old, hnodup, h, hr, hpath => by
      obtain ⟨hfirst, hrest⟩ := List.nodup_cons.1 hnodup
      rw [admits_cons] at h
      by_cases hs : s.path = a.path
      · rw [if_pos hs] at h
        rcases List.mem_cons.1 hr with rfl | hmem
        · exact h
        · exact absurd (List.mem_map.2 ⟨r, hmem, hpath.trans hs.symm⟩) hfirst
      · rw [if_neg hs] at h
        rcases List.mem_cons.1 hr with rfl | hmem
        · exact absurd hpath hs
        · exact disjoint_of_admits hrest h.2 hmem hpath

/-- Both serve one verb on one path. -/
def Router.Clashes (router other : Router) : Prop :=
  ∃ path verb, (∃ u, router.Serves path verb u) ∧ ∃ v, other.Serves path verb v

/-- A router takes no plans of which one clashes with it. -/
theorem mergeAll?_of_clashes {router : Router} {plans : List Plan}
    (hread : ∀ p ∈ plans, Route.Read p.router.routes) {p : Plan} (hp : p ∈ plans)
    (h : router.Clashes p.router) : mergeAll? router plans = none := by
  obtain ⟨path, verb, ⟨u, hu⟩, ⟨v, hv⟩⟩ := h
  obtain ⟨r, hr, rfl, hru⟩ := Router.serves_iff.1 hu
  obtain ⟨a, ha, hpath, hav⟩ := Router.serves_iff.1 hv
  have hreadAll : Route.Read (plans.flatMap fun p => p.router.routes) := by
    intro s hs
    obtain ⟨q, hq, hs⟩ := List.mem_flatMap.1 hs
    exact hread q hq s hs
  by_contra hsome
  rw [← ne_eq, ← Option.isSome_iff_ne_none, ← Option.isSome_map (f := Router.routes),
    routes_mergeAll?, Route.insertAll?_isSome_iff hreadAll] at hsome
  have hadmits := hsome.1 a (List.mem_flatMap.2 ⟨p, hp, ha⟩)
  have hdisjoint := Route.disjoint_of_admits router.paths_nodup hadmits hr hpath.symm
  exact MethodRouter.disjoint_iff.1 hdisjoint _ hru _ hav rfl

-- ================================================================ stopping

/-- Where the mounting ends before its time, the router is lost. -/
theorem router_of_mountAll {e : RegistrationError} :
    ∀ {plans : List Plan} {t : RouteTable}, (on (plans.forM mount) t).1 = .error e →
      (on (plans.forM mount) t).2.router = .empty
  | [], t, h => by cases h
  | p :: plans, t, h => by
      rw [mountAll_on] at h ⊢
      cases hmerge : t.router.merge? p.router with
      | none => rfl
      | some router =>
          rw [hmerge] at h
          exact router_of_mountAll h

-- =============================================================== reporting

namespace RegisterCall

/-- Every controller of the call is in order by itself. -/
def Planned (call : RegisterCall) : Prop :=
  ∀ name ∈ call.controllers, ∃ p, plan call.metadata call.container name = .ok p

/-- What the call plans. -/
def plans (call : RegisterCall) : List Plan :=
  plansOf call.metadata call.container call.controllers

/-- A mount of the call does not stand beside one of the table, or beside
another one of the call. -/
def Collides (call : RegisterCall) (t : RouteTable) : Prop :=
  (∃ a ∈ t.mounts, ∃ p ∈ call.plans, ¬ a.Beside p.mount)
    ∨ ¬ call.plans.Pairwise fun p q => p.mount.Beside q.mount

/-- The call returns an error that names a controller and says what is
wrong with it, and leaves the table as it was. -/
def Reported (call : RegisterCall) (t : RouteTable) : Prop :=
  ∃ controller cause, call.on t = (.error (.misconfigured controller cause), t)

variable {call : RegisterCall} {t : RouteTable}

theorem plannable_iff_not_collides (h : call.Planned) :
    Plannable call.metadata call.container t.mounts call.controllers ↔ ¬ call.Collides t := by
  unfold Collides
  constructor
  · intro hplannable hcollides
    rcases hcollides with ⟨a, ha, p, hp, hnot⟩ | hnot
    · exact hnot (hplannable.beside a ha p hp)
    · exact hnot hplannable.among
  · intro hnot
    rw [not_or, not_not] at hnot
    refine ⟨h, fun a ha p hp => ?_, hnot.2⟩
    by_contra hbeside
    exact hnot.1 ⟨a, ha, p, hp, hbeside⟩

/-- Where every controller has a plan, what planning fails by is an error
of the one that it comes to. -/
theorem misconfigured_of_planAll {m : Metadata} {container : Container} {e : RegistrationError} :
    ∀ {names : List String} {mounts : List Mount},
      (∀ name ∈ names, ∃ p, plan m container name = .ok p) →
      planAll m container mounts names = .error e →
      ∃ controller cause, e = .misconfigured controller cause
  | [], mounts, _, h => by cases h
  | name :: rest, mounts, hplanned, h => by
      obtain ⟨⟨p, hp⟩, hrest⟩ := List.forall_mem_cons.1 hplanned
      rw [planAll, hp] at h
      cases hcheck : checkMount mounts p.mount with
      | error cause =>
          simp only [hcheck, Except.mapError, bind, Except.bind] at h
          exact ⟨name, cause, (Except.error.inj h).symm⟩
      | ok =>
          cases hmore : planAll m container (mounts ++ [p.mount]) rest with
          | error e' =>
              simp only [hcheck, hmore, Except.mapError, bind, Except.bind] at h
              obtain rfl := Except.error.inj h
              exact misconfigured_of_planAll hrest hmore
          | ok more =>
              simp only [hcheck, hmore, Except.mapError, bind, Except.bind] at h
              cases h

/-- Planning fails, and the table is left, or every plan is mounted in
turn. -/
theorem on_cases (h : call.Planned) (t : RouteTable) :
    (call.Collides t ∧ call.Reported t)
      ∨ (¬ call.Collides t ∧ call.on t = Registering.on (call.plans.forM mount) t) := by
  unfold Reported on
  rw [register_on]
  cases hplans : planAll call.metadata call.container t.mounts call.controllers with
  | error e =>
      obtain ⟨controller, cause, rfl⟩ := misconfigured_of_planAll h hplans
      refine .inl ⟨?_, controller, cause, rfl⟩
      by_contra hnot
      have hok := planAll_eq_ok.2 ⟨(plannable_iff_not_collides h).2 hnot, rfl⟩
      rw [hplans] at hok
      cases hok
  | ok plans =>
      obtain ⟨hplannable, rfl⟩ := planAll_eq_ok.1 hplans
      exact .inr ⟨(plannable_iff_not_collides h).1 hplannable, rfl⟩

/-- Mounting returns no error; so what is reported are collisions. -/
theorem reported_iff_collides (h : call.Planned) : call.Reported t ↔ call.Collides t := by
  rcases call.on_cases h t with ⟨hcollides, hreported⟩ | ⟨hnot, hon⟩
  · exact iff_of_true hreported hcollides
  · apply iff_of_false _ hnot
    intro hreported
    obtain ⟨controller, cause, heq⟩ := hreported
    rw [hon] at heq
    obtain ⟨other, hother⟩ := unroutable_of_mountAll (congrArg Prod.fst heq)
    cases hother

end RegisterCall

/-- On a table that started without a router of its own, what is served is
on record. -/
theorem collides_of_clashes {call : RegisterCall} {t : RouteTable} {bodyLimit : Option Nat}
    (hlater : (RouteTable.mk .empty [] bodyLimit).Later t) {p : Plan} (hp : p ∈ call.plans)
    (hclash : t.router.Clashes p.router) : call.Collides t := by
  obtain ⟨path, verb, ⟨u, hu⟩, ⟨v, hv⟩⟩ := hclash
  obtain ⟨r, hr, rfl, -⟩ := Router.serves_iff.1 hu
  obtain ⟨s, hs, hpath, -⟩ := Router.serves_iff.1 hv
  obtain ⟨name, -, hplan⟩ := mem_plansOf.1 hp
  have hserved : r.path ∈ p.mount.servedPaths :=
    (routesAsRecorded_of_plan hplan).paths.mem_iff.1 (hpath ▸ List.mem_map_of_mem hs)
  obtain ⟨calls, hreturn, rfl⟩ := hlater.exists_calls
  rcases ((grown_start .empty bodyLimit).afterCalls hreturn).paths r.path
    (List.mem_map_of_mem hr) with hnone | ⟨a, ha, hthere⟩
  · cases hnone
  · refine .inl ⟨a, ha, p, hp, fun hbeside => ?_⟩
    exact (hbeside.served r.path hthere r.path hserved).1 rfl

/-- When a controller would serve a verb and path that the router serves
already, the call does not succeed: no verb and path has two targets. But
an error is reported, and the table left as it was, only for what is on
record: if and only if two mounts do not stand beside each other. If all
do, the program stops, and the router that served the path is gone. A
table that started without a router of its own has all on record, and the
clash is reported. -/
theorem existing_route_reported_iff {call : RegisterCall} {t : RouteTable} (h : call.Planned)
    (hclash : ∃ p ∈ call.plans, t.router.Clashes p.router) :
    (call.on t).1 ≠ .ok ()
      ∧ (call.Reported t ↔ call.Collides t)
      ∧ (¬ call.Collides t → (∃ controller, (call.on t).1 = .error (.unroutable controller))
        ∧ (call.on t).2.router = .empty)
      ∧ (∀ bodyLimit, (RouteTable.mk .empty [] bodyLimit).Later t → call.Reported t) := by
  obtain ⟨p, hp, hclash⟩ := hclash
  have hread : ∀ q ∈ call.plans, Route.Read q.router.routes := by
    intro q hq
    obtain ⟨name, -, hplan⟩ := mem_plansOf.1 hq
    exact read_of_plan hplan
  have hfull : mergeAll? t.router call.plans = none := mergeAll?_of_clashes hread hp hclash
  refine ⟨fun hok => ?_, call.reported_iff_collides h, fun hnot => ?_, fun bodyLimit hlater => ?_⟩
  · have hroutable := (register_isOk.1 hok).routable
    rw [← RegisterCall.plans, hfull] at hroutable
    cases hroutable
  · rcases call.on_cases h t with ⟨hcollides, -⟩ | ⟨-, hon⟩
    · exact absurd hcollides hnot
    · rw [hon]
      cases hresult : (on (call.plans.forM mount) t).1 with
      | ok =>
          obtain ⟨router, hrouter, -⟩ := mountAll_eq_ok.1 (Prod.ext hresult rfl)
          rw [hfull] at hrouter
          cases hrouter
      | error e =>
          obtain ⟨controller, rfl⟩ := unroutable_of_mountAll hresult
          exact ⟨⟨controller, rfl⟩, router_of_mountAll hresult⟩
  · exact (call.reported_iff_collides h).2 (collides_of_clashes hlater hp hclash)

/-- A router with a health route, a controller beside it, and one that has
the route too. -/
theorem existing_health_route_stops_registering :
    let health : Target := ⟨"health", "report", 0, fun _ => .done (.bare 200), []⟩
    let router : Router :=
      ⟨[⟨"/health", "/health".toList.map .char, .on .get health⟩], List.nodup_singleton _⟩
    let metadata := (((Metadata.empty.declareBasePath "users" "/users").declareRoute
        "users" .get "/" "list" []).declareBasePath "pages" "/").declareRoute
        "pages" .get "/health" "check" []
    let controller (store : Nat) : Controller := ⟨store, fun _ => some fun _ => .done (.bare 204)⟩
    let call : RegisterCall :=
      ⟨metadata, [("users", controller 0), ("pages", controller 1)], ["users", "pages"]⟩
    let t := RouteTable.withRouter router
    call.Planned ∧ (∃ p ∈ call.plans, router.Clashes p.router) ∧ ¬ call.Collides t
      ∧ ((call.on t).1 ≠ .ok ()
        ∧ (call.Reported t ↔ call.Collides t)
        ∧ (¬ call.Collides t → (∃ controller, (call.on t).1 = .error (.unroutable controller))
          ∧ (call.on t).2.router = .empty)
        ∧ (∀ bodyLimit, (RouteTable.mk .empty [] bodyLimit).Later t → call.Reported t)) := by
  intro health router metadata controller call t
  have hmounts : (planAll metadata call.container [] call.controllers).toOption.map
      (fun plans => plans.map fun p => p.mount.controller) = some ["users", "pages"] := by
    decide +kernel
  obtain ⟨plans, hplans, -⟩ := Option.map_eq_some_iff.1 hmounts
  have hplannable : Plannable metadata call.container t.mounts call.controllers := by
    cases hall : planAll metadata call.container [] call.controllers with
    | error e => rw [hall] at hplans; cases hplans
    | ok plans => exact (planAll_eq_ok.1 hall).1
  have hplanned : call.Planned := hplannable.planned
  have hclash : ∃ p ∈ call.plans, router.Clashes p.router := by
    obtain ⟨p, hp⟩ := hplanned "pages" (by decide)
    have hmount : (plan metadata call.container "pages").toOption.map Plan.mount
        = some ⟨"pages", "/", [(.get, "/health")]⟩ := by decide +kernel
    rw [hp] at hmount
    have hfull : (Verb.get, "/health") ∈ p.mount.fullPaths := by
      rw [Option.some.inj hmount]
      decide
    have hserves := ((routesAsRecorded_of_plan hp).handled .get "/health").2 (.inl hfull)
    exact ⟨p, mem_plansOf.2 ⟨"pages", by decide, hp⟩, "/health", .get,
      ⟨health, Router.serves_iff.2 ⟨_, List.mem_singleton_self _, rfl, List.mem_singleton_self _⟩⟩,
      hserves⟩
  have hnot : ¬ call.Collides t := (RegisterCall.plannable_iff_not_collides hplanned).1 hplannable
  exact ⟨hplanned, hclash, hnot, existing_route_reported_iff hplanned hclash⟩

/-- The health route is served, a controller in order asks for it, and no
error is reported. The table does not stay as it was either: it serves
nothing, and says that the other controller is mounted. -/
theorem existing_health_route_is_not_reported :
    let health : Target := ⟨"health", "report", 0, fun _ => .done (.bare 200), []⟩
    let router : Router :=
      ⟨[⟨"/health", "/health".toList.map .char, .on .get health⟩], List.nodup_singleton _⟩
    let metadata := (((Metadata.empty.declareBasePath "users" "/users").declareRoute
        "users" .get "/" "list" []).declareBasePath "pages" "/").declareRoute
        "pages" .get "/health" "check" []
    let controller (store : Nat) : Controller := ⟨store, fun _ => some fun _ => .done (.bare 204)⟩
    let call : RegisterCall :=
      ⟨metadata, [("users", controller 0), ("pages", controller 1)], ["users", "pages"]⟩
    let t := RouteTable.withRouter router
    router.Serves "/health" .get health
      ∧ (plan metadata call.container "pages").toOption.map (fun p => p.mount.fullPaths)
        = some [(.get, "/health")]
      ∧ (call.on t).1 = .error (.unroutable "pages")
      ∧ (call.on t).2.router.routes.map Route.path = []
      ∧ (call.on t).2.mounts.map Mount.controller = ["users"]
      ∧ ¬ ∃ controller cause, (call.on t).1 = .error (.misconfigured controller cause) := by
  intro health router metadata controller call t
  have hstops : (call.on t).1 = .error (.unroutable "pages") := by decide +kernel
  have hserves : router.Serves "/health" .get health :=
    Router.serves_iff.2 ⟨_, List.mem_singleton_self _, rfl, List.mem_singleton_self _⟩
  refine ⟨hserves, by decide +kernel, hstops, by decide +kernel, by decide +kernel, ?_⟩
  intro hreported
  obtain ⟨name, cause, heq⟩ := hreported
  rw [hstops] at heq
  cases heq

end TableApi.Routing
