/-
How a table grows.

A table starts from a router, the ground, with nothing mounted, and calls
mount controllers on it. What there is on a path never changes as long as
nothing comes to that path (`mem_entries_of_not_mem`), and what comes to a
path where nothing is stands there as it came (`mem_entries_of_new`).
Controllers do not come to the paths of one another, for each mount is
checked against those before it. So a table that has grown by calls that
returned (`Grown`) has on each path of a mount what was planned for it,
unless the ground had something there; and it has no paths but those of
the ground and those of its mounts.
-/
import TableApi.Proofs.Routing.MountRecord

namespace TableApi.Routing

open Registering

-- ================================================================ entries

namespace Route

variable {new : Route} {old next : List Route} {path : String} {methods : MethodRouter}

/-- A route that comes to a path where there is none stands behind the
others. -/
theorem map_entry_insert? :
    ∀ {old next : List Route}, new.insert? old = some next → new.path ∉ old.map Route.path →
      next.map entry = old.map entry ++ [new.entry]
  | [], next, h, _ => by
      obtain rfl := Option.some.inj h
      rfl
  | r :: old, next, h, hnew => by
      rw [List.map_cons, List.mem_cons, not_or] at hnew
      rcases insert?_cons h with ⟨hpath, -⟩ | ⟨-, -, more, hmore, rfl⟩
      · exact absurd hpath.symm hnew.1
      · rw [List.map_cons, List.map_cons, map_entry_insert? hmore hnew.2, List.cons_append]

/-- A route that comes to another path changes nothing here. -/
theorem mem_entries_insert? :
    ∀ {old next : List Route}, new.insert? old = some next → new.path ≠ path →
      ((path, methods) ∈ next.map entry ↔ (path, methods) ∈ old.map entry)
  | [], next, h, hne => by
      obtain rfl := Option.some.inj h
      simp [entry, hne.symm]
  | r :: old, next, h, hne => by
      rcases insert?_cons h with ⟨hpath, both, -, rfl⟩ | ⟨-, -, more, hmore, rfl⟩
      · have hother : path ≠ r.path := fun heq => hne (heq.trans hpath).symm
        simp [entry, hother]
      · rw [List.map_cons, List.map_cons, List.mem_cons, List.mem_cons,
          mem_entries_insert? hmore hne]

/-- Routes that come to other paths change nothing here. -/
theorem mem_entries_of_not_mem :
    ∀ {news old next : List Route}, insertAll? news old = some next →
      path ∉ news.map Route.path →
      ((path, methods) ∈ next.map entry ↔ (path, methods) ∈ old.map entry)
  | [], old, next, h, _ => by
      obtain rfl := Option.some.inj h
      exact Iff.rfl
  | new :: news, old, next, h, hpath => by
      obtain ⟨mid, hmid, h⟩ := Option.bind_eq_some_iff.1 h
      rw [List.map_cons, List.mem_cons, not_or] at hpath
      rw [mem_entries_of_not_mem h hpath.2, mem_entries_insert? hmid (Ne.symm hpath.1)]

/-- Where there is nothing, a route of those that come stands as it
came. -/
theorem mem_entries_of_new :
    ∀ {news old next : List Route}, insertAll? news old = some next →
      (news.map Route.path).Nodup → path ∉ old.map Route.path →
      ((path, methods) ∈ next.map entry ↔ (path, methods) ∈ news.map entry)
  | [], old, next, h, _, hold => by
      obtain rfl := Option.some.inj h
      apply iff_of_false _ List.not_mem_nil
      intro hmem
      obtain ⟨r, hr, heq⟩ := List.mem_map.1 hmem
      exact hold (List.mem_map.2 ⟨r, hr, congrArg Prod.fst heq⟩)
  | new :: news, old, next, h, hnodup, hold => by
      obtain ⟨mid, hmid, h⟩ := Option.bind_eq_some_iff.1 h
      obtain ⟨hfirst, hrest⟩ := List.nodup_cons.1 hnodup
      by_cases hpath : new.path = path
      · -- no other route comes to the path, and what was there before is nothing
        subst hpath
        have hnone : ∀ {routes : List Route}, new.path ∉ routes.map Route.path →
            (new.path, methods) ∉ routes.map entry := by
          intro routes hnot hentry
          obtain ⟨r, hr, heq⟩ := List.mem_map.1 hentry
          exact hnot (List.mem_map.2 ⟨r, hr, congrArg Prod.fst heq⟩)
        rw [mem_entries_of_not_mem h hfirst, map_entry_insert? hmid hold, List.map_cons]
        simp [hnone hold, hnone hfirst]
      · have hmid' : path ∉ mid.map Route.path := by
          rw [map_path_insert? hmid, mem_ite_append]
          exact fun hmem => hmem.elim hold hpath
        have hne : (path, methods) ≠ new.entry := fun heq => hpath (congrArg Prod.fst heq).symm
        rw [mem_entries_of_new h hrest hmid', List.map_cons, List.mem_cons]
        exact (or_iff_right hne).symm

/-- Routes that can be read are put in among those that can. -/
theorem read_insertAll? :
    ∀ {news old next : List Route}, Read news → insertAll? news old = some next → Read old →
      Read next
  | [], old, next, _, h, hold => by
      obtain rfl := Option.some.inj h
      exact hold
  | new :: news, old, next, hnews, h, hold => by
      obtain ⟨mid, hmid, h⟩ := Option.bind_eq_some_iff.1 h
      obtain ⟨hfirst, hrest⟩ := List.forall_mem_cons.1 hnews
      exact read_insertAll? hrest h (read_insert? hfirst hmid hold)

end Route

-- ================================================================ routers

namespace Router

variable {router other merged : Router} {path : String} {a b methods : MethodRouter}

/-- The router has the methods on the path. -/
def At (router : Router) (path : String) (methods : MethodRouter) : Prop :=
  (path, methods) ∈ router.routes.map Route.entry

/-- A path has one method router. -/
theorem At.unique (ha : router.At path a) (hb : router.At path b) : a = b := by
  obtain ⟨r, hr, hra⟩ := List.mem_map.1 ha
  obtain ⟨s, hs, hsb⟩ := List.mem_map.1 hb
  obtain ⟨rfl, rfl⟩ := Prod.mk.inj hra
  obtain ⟨hpath, rfl⟩ := Prod.mk.inj hsb
  rw [route_unique hr hs hpath.symm]

/-- Merging puts in all routes of the other router. -/
theorem insertAll?_of_merge? (h : router.merge? other = some merged) :
    Route.insertAll? other.routes router.routes = some merged.routes := by
  rw [← router.routes_merge? other, h]
  rfl

/-- Under a path that the other router does not have nothing changes. -/
theorem at_merge?_of_not_mem (h : router.merge? other = some merged)
    (hpath : path ∉ other.routes.map Route.path) :
    merged.At path methods ↔ router.At path methods :=
  Route.mem_entries_of_not_mem (insertAll?_of_merge? h) hpath

/-- A path that is new comes with what it has there. -/
theorem at_merge?_of_new (h : router.merge? other = some merged)
    (hpath : path ∉ router.routes.map Route.path) :
    merged.At path methods ↔ other.At path methods :=
  Route.mem_entries_of_new (insertAll?_of_merge? h) other.paths_nodup hpath

/-- Merged routers have the paths of both. -/
theorem mem_paths_merge? (h : router.merge? other = some merged) :
    path ∈ merged.routes.map Route.path
      ↔ path ∈ router.routes.map Route.path ∨ path ∈ other.routes.map Route.path := by
  have hstep : ∀ (s s' : Router) (new : Route), s.add? new = some s' →
      (path ∈ s'.routes.map Route.path ↔ path ∈ s.routes.map Route.path ∨ new.path = path) := by
    intro s s' new hadd
    have hinsert := s.routes_add? new
    rw [hadd] at hinsert
    rw [Route.map_path_insert? hinsert.symm]
    exact mem_ite_append
  exact (foldlM_or h hstep).trans (or_congr_right List.mem_map.symm)

/-- Patterns that are as they are read stay so. -/
theorem read_merge? (h : router.merge? other = some merged) (hrouter : Route.Read router.routes)
    (hother : Route.Read other.routes) : Route.Read merged.routes :=
  Route.read_insertAll? hother (insertAll?_of_merge? h) hrouter

end Router

-- ================================================================ tables

/-- All calls return, one after the other, with an error or without. -/
def RouteTable.AllReturn (t : RouteTable) : List RegisterCall → Prop
  | [] => True
  | call :: calls =>
      (∀ controller, (call.on t).1 ≠ .error (.unroutable controller))
        ∧ (call.on t).2.AllReturn calls

/-- Later is after some calls that have returned. -/
theorem RouteTable.Later.exists_calls {t t' : RouteTable} (h : t.Later t') :
    ∃ calls, t.AllReturn calls ∧ t.afterCalls calls = t' := by
  induction h using Relation.ReflTransGen.head_induction_on with
  | refl => exact ⟨[], trivial, rfl⟩
  | head hnext _ ih =>
      obtain ⟨call, hreturns, rfl⟩ := hnext
      obtain ⟨calls, hcalls, hafter⟩ := ih
      exact ⟨call :: calls, ⟨hreturns, hcalls⟩, hafter⟩

/-- A table that has grown on the ground by calls. -/
structure Grown (ground : Router) (calls : List RegisterCall) (t : RouteTable) : Prop where
  /-- A path of the router is one of the ground or of a mount. -/
  paths : ∀ path ∈ t.router.routes.map Route.path,
    path ∈ ground.routes.map Route.path ∨ ∃ a ∈ t.mounts, path ∈ a.servedPaths
  /-- A mount was planned by a call, and what was planned for its paths is
  there, where the ground has nothing. -/
  planned : ∀ a ∈ t.mounts, ∃ call ∈ calls, ∃ p,
    plan call.metadata call.container a.controller = .ok p ∧ p.mount = a
      ∧ ∀ path ∈ a.servedPaths, path ∉ ground.routes.map Route.path →
        ∀ methods, t.router.At path methods ↔ p.router.At path methods
  read : Route.Read ground.routes → Route.Read t.router.routes

section Grown

variable {ground : Router} {calls : List RegisterCall} {call : RegisterCall} {t : RouteTable}

/-- With nothing mounted there is the ground. -/
theorem grown_start (ground : Router) (bodyLimit : Option Nat) :
    Grown ground [] ⟨ground, [], bodyLimit⟩ where
  paths := fun _ hpath => .inl hpath
  planned := List.forall_mem_nil _
  read := id

/-- What a table has grown by stays when more calls are made. -/
theorem Grown.append (h : Grown ground calls t) (more : List RegisterCall) :
    Grown ground (calls ++ more) t where
  paths := h.paths
  planned := by
    intro a ha
    obtain ⟨call, hcall, hplanned⟩ := h.planned a ha
    exact ⟨call, List.mem_append_left _ hcall, hplanned⟩
  read := h.read

/-- A mount beside those there are has come to paths of its own. -/
theorem Grown.mount (h : Grown ground calls t) (hcall : call ∈ calls) {p : Plan} {merged : Router}
    (hp : plan call.metadata call.container p.mount.controller = .ok p)
    (hbeside : ∀ a ∈ t.mounts, a.Beside p.mount) (hmerge : t.router.merge? p.router = some merged) :
    Grown ground calls { t with router := merged, mounts := t.mounts ++ [p.mount] } := by
  have hrecorded : ∀ path, path ∈ p.router.routes.map Route.path ↔ path ∈ p.mount.servedPaths :=
    fun path => (routesAsRecorded_of_plan hp).paths.mem_iff
  constructor
  case paths =>
    intro path hpath
    rcases (Router.mem_paths_merge? hmerge).1 hpath with hold | hnew
    · rcases h.paths path hold with hground | ⟨a, ha, hserved⟩
      · exact .inl hground
      · exact .inr ⟨a, List.mem_append_left _ ha, hserved⟩
    · exact .inr ⟨p.mount, List.mem_append_right _ (List.mem_singleton_self _),
        (hrecorded path).1 hnew⟩
  case planned =>
    intro a ha
    rcases List.mem_append.1 ha with hold | hnew
    · obtain ⟨other, hother, q, hq, hmount, hthere⟩ := h.planned a hold
      refine ⟨other, hother, q, hq, hmount, fun path hserved hground methods => ?_⟩
      have hapart : path ∉ p.router.routes.map Route.path := by
        intro hpath
        exact ((hbeside a hold).served path hserved path ((hrecorded path).1 hpath)).1 rfl
      rw [← hthere path hserved hground methods]
      exact Router.at_merge?_of_not_mem hmerge hapart
    · obtain rfl := List.mem_singleton.1 hnew
      refine ⟨call, hcall, p, hp, rfl, fun path hserved hground methods => ?_⟩
      apply Router.at_merge?_of_new hmerge
      intro hpath
      rcases h.paths path hpath with hthere | ⟨a, hold, hthere⟩
      · exact hground hthere
      · exact ((hbeside a hold).served path hthere path hserved).1 rfl
  case read =>
    intro hground
    exact Router.read_merge? hmerge (h.read hground) (read_of_plan hp)

/-- Mounting the plans of a call grows the table by that call. -/
theorem Grown.mountAll (hcall : call ∈ calls) :
    ∀ {names : List String} {plans : List Plan} {t : RouteTable}, Grown ground calls t →
      planAll call.metadata call.container t.mounts names = .ok plans →
      (on (plans.forM Routing.mount) t).1 = .ok () →
      Grown ground calls (on (plans.forM Routing.mount) t).2
  | [], plans, t, h, hplans, _ => by
      obtain rfl := Except.ok.inj hplans
      exact h
  | name :: names, plans, t, h, hplans, hok => by
      obtain ⟨-, hplanned⟩ := plans_of_planAll hplans
      obtain ⟨p, more, -, hcheck, hmore, rfl⟩ := planAll_cons_eq_ok hplans
      rw [mountAll_on] at hok ⊢
      cases hmerge : t.router.merge? p.router with
      | none =>
          rw [hmerge] at hok
          cases hok
      | some merged =>
          rw [hmerge] at hok
          have hp := hplanned p List.mem_cons_self
          exact (h.mount hcall hp (checkMount_eq_ok.1 hcheck) hmerge).mountAll hcall hmore hok

/-- A call that returns has mounted all that it planned, or nothing. -/
theorem Grown.afterCall (h : Grown ground calls t)
    (hreturns : ∀ controller, (call.on t).1 ≠ .error (.unroutable controller)) :
    Grown ground (calls ++ [call]) (call.on t).2 := by
  have hcall : call ∈ calls ++ [call] := List.mem_append_right _ (List.mem_singleton_self _)
  unfold RegisterCall.on at hreturns ⊢
  rw [register_on] at hreturns ⊢
  cases hplans : planAll call.metadata call.container t.mounts call.controllers with
  | error cause => exact h.append [call]
  | ok plans =>
      rw [hplans] at hreturns
      dsimp only at hreturns ⊢
      cases hresult : (on (plans.forM Routing.mount) t).1 with
      | ok => exact (h.append [call]).mountAll hcall hplans hresult
      | error cause =>
          obtain ⟨controller, rfl⟩ := unroutable_of_mountAll hresult
          exact absurd hresult (hreturns controller)

/-- By induction on the calls, a table grows by calls that return. -/
theorem Grown.afterCalls :
    ∀ {more calls : List RegisterCall} {t : RouteTable}, Grown ground calls t → t.AllReturn more →
      Grown ground (calls ++ more) (t.afterCalls more)
  | [], calls, t, h, _ => h.append []
  | call :: more, calls, t, h, hreturn => by
      have hafter := (h.afterCall hreturn.1).afterCalls hreturn.2
      rwa [List.append_assoc] at hafter

end Grown

end TableApi.Routing
