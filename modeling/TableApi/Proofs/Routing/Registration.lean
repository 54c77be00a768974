/-
What registering keeps.

A controller is checked against itself by its paths below the base path,
and against the other controllers by the paths it is served on. That the
served paths of one controller do not conflict either is not checked:
it follows from the paths below the base path (`conflict_servedForms`).

# Runs

A run is any list of calls, whatever they return. What a call adds to
the mounts is a beginning of what it has planned: all of it, unless no
router holds it. `Separate` holds of the mounts there are with all that
is planned, so it holds where the mounting ends (`separate_call`), and
by induction on the calls after every run (`separate_calls`). A call
that returns an error has not come to mounting.
-/
import Mathlib.Data.List.Pairwise
import TableApi.Proofs.Result
import TableApi.Proofs.Routing.Path

namespace TableApi.Routing

-- ================================================================ routes

/-- Routes that differ in verb or path, and whose paths one router can
hold. -/
structure Apart (a b : RouteEntry) : Prop where
  distinct : ¬ (a.verb = b.verb ∧ a.path = b.path)
  together : Path.conflict a.path b.path = false

/-- What has been checked of routes that are declared behind others. -/
structure Checked (controller : Controller) (earlier entries : List RouteEntry)
    (checked : List (RouteEntry × Handler)) : Prop where
  entries_eq : checked.map Prod.fst = entries
  handlers : ∀ x ∈ checked, controller.handler? x.1.handler = some x.2
  paths : ∀ e ∈ entries, Path.isRoutePath e.path = true
  apart : entries.Pairwise Apart
  apart_earlier : ∀ o ∈ earlier, ∀ e ∈ entries, Apart o e

/-- A route that passes has a handler and a path of its own, apart from
those before it. -/
theorem checkRoute_eq_ok {controller : Controller} {earlier : List RouteEntry} {e : RouteEntry}
    {x : RouteEntry × Handler} (h : checkRoute controller earlier e = .ok x) :
    x.1 = e ∧ controller.handler? e.handler = some x.2
      ∧ Path.isRoutePath e.path = true ∧ ∀ o ∈ earlier, Apart o e := by
  unfold checkRoute at h
  split at h
  · cases h
  rename_i handler hhandler
  split at h
  · cases h
  rename_i hpath
  split at h
  · cases h
  rename_i hdistinct
  split at h
  · cases h
  rename_i hconflict
  obtain rfl := Except.ok.inj h
  refine ⟨rfl, hhandler, by simpa using hpath, fun o ho => ⟨fun heq => hdistinct ?_, ?_⟩⟩
  · exact List.any_eq_true.2 ⟨o, ho, by simp [heq.1, heq.2]⟩
  · simpa using List.find?_eq_none.1 hconflict o ho

/-- By induction on the routes, all that pass are checked. -/
theorem checkRoutes_eq_ok {controller : Controller} :
    ∀ {entries earlier : List RouteEntry} {checked : List (RouteEntry × Handler)},
      checkRoutes controller earlier entries = .ok checked →
      Checked controller earlier entries checked
  | [], earlier, checked, h => by
      obtain rfl := Except.ok.inj h
      exact ⟨rfl, by simp, by simp, .nil, by simp⟩
  | e :: rest, earlier, checked, h => by
      obtain ⟨x, hx, h⟩ := bind_eq_ok h
      obtain ⟨more, hmore, h⟩ := bind_eq_ok h
      obtain rfl := Except.ok.inj h
      obtain ⟨rfl, hhandler, hpath, hearlier⟩ := checkRoute_eq_ok hx
      have ih := checkRoutes_eq_ok hmore
      refine ⟨by rw [List.map_cons, ih.entries_eq], ?_, ?_, ?_, ?_⟩
      · exact List.forall_mem_cons.2 ⟨hhandler, ih.handlers⟩
      · exact List.forall_mem_cons.2 ⟨hpath, ih.paths⟩
      · exact List.pairwise_cons.2
          ⟨fun o ho => ih.apart_earlier _ (by simp) o ho, ih.apart⟩
      · exact fun o ho => List.forall_mem_cons.2
          ⟨hearlier o ho, ih.apart_earlier o (List.mem_append_left _ ho)⟩

-- ================================================================ mounts

/-- Routes below a base path that can all be mounted. -/
structure Mount.Sound (m : Mount) : Prop where
  nonempty : m.routes ≠ []
  nodup : m.routes.Nodup
  rooted : ∀ r ∈ m.routes, Path.IsRooted r.2
  together : ∀ r ∈ m.routes, ∀ s ∈ m.routes, Path.conflict r.2 s.2 = false

/-- What a plan was made of. -/
theorem plan_eq_ok {m : Metadata} {container : Container} {name : String} {p : Plan}
    (h : plan m container name = .ok p) :
    ∃ controller base checked,
      Keyed.get? name container = some controller
        ∧ checkBasePath (m.basePath? name) = .ok base
        ∧ m.routes name ≠ []
        ∧ Checked controller [] (m.routes name) checked
        ∧ subRouter? m name controller base checked = some p.router
        ∧ p.mount = ⟨name, base, (m.routes name).map fun e => (e.verb, e.path)⟩ := by
  unfold plan at h
  split at h
  case h_2 => cases h
  rename_i controller hcontroller
  obtain ⟨base, hbase, h⟩ := bind_eq_ok h
  dsimp only at h
  split at h
  · cases h
  rename_i hempty
  obtain ⟨checked, hchecked, h⟩ := bind_eq_ok h
  split at h
  case h_2 => cases h
  rename_i router hrouter
  obtain rfl := Except.ok.inj h
  exact ⟨controller, base, checked, hcontroller, eq_ok_of_mapError hbase,
    fun h => hempty (List.isEmpty_iff.2 h), checkRoutes_eq_ok (eq_ok_of_mapError hchecked),
    hrouter, rfl⟩

/-- What a plan mounts can be mounted. -/
theorem sound_of_plan {m : Metadata} {container : Container} {name : String} {p : Plan}
    (h : plan m container name = .ok p) : p.mount.Sound := by
  obtain ⟨controller, base, checked, -, -, hne, hchecked, -, hmount⟩ := plan_eq_ok h
  -- A route is checked against those before it only, but a conflict is mutual.
  have hsymm : Std.Symm fun a b : RouteEntry => Path.conflict a.path b.path = false :=
    ⟨fun a b hab => (Path.conflict_comm _ _).trans hab⟩
  have htogether : ∀ a ∈ m.routes name, ∀ b ∈ m.routes name,
      Path.conflict a.path b.path = false := fun a ha b hb =>
    (hchecked.apart.imp Apart.together).forall_of_forall (fun a _ => Path.conflict_self _) ha hb
  rw [hmount]
  refine ⟨by simpa using hne, ?_, ?_, ?_⟩
  · exact hchecked.apart.map _ fun a b hab heq =>
      hab.distinct ⟨(Prod.ext_iff.1 heq).1, (Prod.ext_iff.1 heq).2⟩
  · exact List.forall_mem_map.2 fun e he => Path.isRooted_of_isRoutePath (hchecked.paths e he)
  · exact List.forall_mem_map.2 fun a ha => List.forall_mem_map.2 fun b hb => htogether a ha b hb

namespace Mount

/-- Paths that are listed once are the same paths. -/
theorem mem_dedup {p : String} :
    ∀ {paths acc : List String},
      p ∈ paths.foldl (fun acc p => if acc.contains p then acc else acc ++ [p]) acc
        ↔ p ∈ acc ∨ p ∈ paths
  | [], acc => by simp
  | q :: paths, acc => by
      rw [List.foldl_cons, mem_dedup]
      split
      case isTrue hq =>
        have hq : q ∈ acc := List.contains_iff_mem.1 hq
        refine ⟨Or.imp_right (List.mem_cons_of_mem q), ?_⟩
        rintro (h | h)
        · exact .inl h
        · rcases List.mem_cons.1 h with rfl | h
          · exact .inl hq
          · exact .inr h
      case isFalse => simp [or_assoc]

variable {m : Mount}

/-- The forms of a full path are those of the path below the base path. -/
theorem forms_join {path : String} (hpath : Path.IsRooted path) :
    ∀ p, p ∈ m.forms (Path.join m.basePath path) ↔ p ∈ servedForms m.basePath path := by
  intro p
  have hne : m.basePath ++ path ≠ m.basePath := fun h =>
    Path.ne_empty_of_isRooted hpath (by simpa using congrArg String.toList h)
  rw [Path.mem_servedForms]
  unfold forms Path.join
  by_cases hbase : m.basePath = "/" <;> by_cases hslash : path = "/" <;>
    simp [hbase, hslash, hne, or_comm]

/-- The paths that a mount serves are the forms of its routes. -/
theorem mem_servedPaths (hm : m.Sound) {p : String} :
    p ∈ m.servedPaths ↔ ∃ r ∈ m.routes, p ∈ servedForms m.basePath r.2 := by
  have hforms : ∀ r ∈ m.routes, p ∈ m.forms (Path.join m.basePath r.2)
      ↔ p ∈ servedForms m.basePath r.2 := fun r hr => forms_join (hm.rooted r hr) p
  unfold servedPaths fullPaths
  rw [mem_dedup]
  simp only [List.not_mem_nil, false_or, List.mem_flatMap, List.mem_map]
  constructor
  · rintro ⟨full, ⟨r, hr, rfl⟩, hp⟩
    exact ⟨r, hr, (hforms r hr).1 hp⟩
  · rintro ⟨r, hr, hp⟩
    exact ⟨_, ⟨r, hr, rfl⟩, (hforms r hr).2 hp⟩

/-- No two of its paths conflict. -/
theorem conflict_servedPaths (hm : m.Sound) {p q : String} (hp : p ∈ m.servedPaths)
    (hq : q ∈ m.servedPaths) : Path.conflict p q = false := by
  obtain ⟨r, hr, hp⟩ := (mem_servedPaths hm).1 hp
  obtain ⟨s, hs, hq⟩ := (mem_servedPaths hm).1 hq
  exact Path.conflict_servedForms (hm.rooted r hr) (hm.rooted s hs) (hm.together r hr s hs) hp hq

end Mount

-- ============================================================= separation

/-- Mounts that can be told apart by a path, each with routes of its
own. -/
structure Separate (mounts : List Mount) : Prop where
  /-- No two have one base path, unless it is `/`. -/
  basePaths : mounts.Pairwise fun a b => a.basePath ≠ "/" → a.basePath ≠ b.basePath
  /-- No path is served by two. -/
  served : mounts.Pairwise fun a b => ∀ p ∈ a.servedPaths, p ∉ b.servedPaths
  /-- One router can hold all paths. -/
  together : ∀ a ∈ mounts, ∀ b ∈ mounts, ∀ p ∈ a.servedPaths, ∀ q ∈ b.servedPaths,
    Path.conflict p q = false
  /-- No pair of verb and path occurs twice in one, and some pair does. -/
  routes : ∀ a ∈ mounts, a.routes.Nodup ∧ a.routes ≠ []

/-- Where nothing is mounted there is nothing to tell apart. -/
theorem separate_nil : Separate [] := ⟨.nil, .nil, by simp, by simp⟩

/-- Of separate mounts the first ones are separate. -/
theorem Separate.of_append {mounts more : List Mount} (h : Separate (mounts ++ more)) :
    Separate mounts where
  basePaths := (List.pairwise_append.1 h.basePaths).1
  served := (List.pairwise_append.1 h.served).1
  together := fun a ha b hb =>
    h.together a (List.mem_append_left _ ha) b (List.mem_append_left _ hb)
  routes := fun a ha => h.routes a (List.mem_append_left _ ha)

/-- Paths pass if none of them is served or in conflict with one that is. -/
theorem checkPaths_eq_ok {served : List String} :
    ∀ {paths : List String}, checkPaths served paths = .ok ()
      ↔ ∀ p ∈ paths, ∀ s ∈ served, s ≠ p ∧ Path.conflict s p = false
  | [] => by simp [checkPaths]
  | path :: rest => by
      rw [checkPaths, List.forall_mem_cons, ← checkPaths_eq_ok]
      cases hclash : clash? served path with
      | some existing =>
          refine ⟨nofun, fun h => ?_⟩
          obtain ⟨hne, hconflict⟩ := h.1 existing (List.mem_of_find?_eq_some hclash)
          simpa [hne, hconflict] using List.find?_some hclash
      | none =>
          refine (and_iff_right fun s hs => ?_).symm
          simpa using List.find?_eq_none.1 hclash s hs

/-- Two mounts that can be had side by side. -/
structure Mount.Beside (a b : Mount) : Prop where
  basePaths : a.basePath ≠ "/" → a.basePath ≠ b.basePath
  served : ∀ p ∈ a.servedPaths, ∀ q ∈ b.servedPaths, p ≠ q ∧ Path.conflict p q = false

/-- A mount is checked for standing beside each of those there are. -/
theorem checkMount_eq_ok {mounts : List Mount} {new : Mount} :
    checkMount mounts new = .ok () ↔ ∀ a ∈ mounts, a.Beside new := by
  have hserved : (∀ p ∈ new.servedPaths, ∀ s ∈ mounts.flatMap Mount.servedPaths,
        s ≠ p ∧ Path.conflict s p = false)
      ↔ ∀ a ∈ mounts, ∀ p ∈ a.servedPaths, ∀ q ∈ new.servedPaths,
        p ≠ q ∧ Path.conflict p q = false := by
    simp only [List.mem_flatMap]
    exact ⟨fun h a ha p hp q hq => h q hq p ⟨a, ha, hp⟩,
      fun h q hq p ⟨a, ha, hp⟩ => h a ha p hp q hq⟩
  unfold checkMount
  split
  case isTrue hbase =>
    obtain ⟨a, ha, heq⟩ := List.any_eq_true.1 hbase.2
    have heq : a.basePath = new.basePath := beq_iff_eq.1 heq
    refine ⟨nofun, fun h => ?_⟩
    exact absurd heq ((h a ha).basePaths (heq ▸ hbase.1))
  case isFalse hbase =>
    rw [checkPaths_eq_ok, hserved]
    refine ⟨fun h a ha => ⟨fun hroot heq => hbase ⟨heq ▸ hroot, ?_⟩, h a ha⟩,
      fun h a ha => (h a ha).served⟩
    exact List.any_eq_true.2 ⟨a, ha, beq_iff_eq.2 heq⟩

variable {mounts : List Mount}

/-- A mount that is sound, and has passed the check against others, is
separate from them. -/
theorem Separate.concat {new : Mount} (h : Separate mounts) (hnew : new.Sound)
    (hcheck : checkMount mounts new = .ok ()) : Separate (mounts ++ [new]) := by
  have hbeside := checkMount_eq_ok.1 hcheck
  -- What is left to show is about the new mount beside an old one, or by itself.
  refine ⟨?_, ?_, ?_, ?_⟩
  · refine List.pairwise_append.2 ⟨h.basePaths, List.pairwise_singleton _ _, ?_⟩
    exact fun a ha => List.forall_mem_singleton.2 (hbeside a ha).basePaths
  · refine List.pairwise_append.2 ⟨h.served, List.pairwise_singleton _ _, ?_⟩
    exact fun a ha => List.forall_mem_singleton.2 fun p hp hq =>
      ((hbeside a ha).served p hp p hq).1 rfl
  · intro a ha b hb p hp q hq
    rcases List.mem_append.1 ha with ha' | ha' <;> rcases List.mem_append.1 hb with hb' | hb'
    · exact h.together a ha' b hb' p hp q hq
    · obtain rfl := List.mem_singleton.1 hb'
      exact ((hbeside a ha').served p hp q hq).2
    · obtain rfl := List.mem_singleton.1 ha'
      exact (Path.conflict_comm p q).trans ((hbeside b hb').served q hq p hp).2
    · obtain rfl := List.mem_singleton.1 ha'
      obtain rfl := List.mem_singleton.1 hb'
      exact Mount.conflict_servedPaths hnew hp hq
  · intro a ha
    rcases List.mem_append.1 ha with ha | ha
    · exact h.routes a ha
    · obtain rfl := List.mem_singleton.1 ha
      exact ⟨hnew.nodup, hnew.nonempty⟩

/-- A controller is planned and checked, and then the rest beside it. -/
theorem planAll_cons_eq_ok {m : Metadata} {container : Container} {name : String}
    {rest : List String} {plans : List Plan}
    (h : planAll m container mounts (name :: rest) = .ok plans) :
    ∃ p more, plan m container name = .ok p ∧ checkMount mounts p.mount = .ok ()
      ∧ planAll m container (mounts ++ [p.mount]) rest = .ok more ∧ plans = p :: more := by
  obtain ⟨p, hp, h⟩ := bind_eq_ok h
  obtain ⟨⟨⟩, hcheck, h⟩ := bind_eq_ok h
  obtain ⟨more, hmore, h⟩ := bind_eq_ok h
  exact ⟨p, more, hp, eq_ok_of_mapError hcheck, hmore, (Except.ok.inj h).symm⟩

/-- Mounts that are planned can be told apart from those there were and from
each other. -/
theorem separate_planAll {m : Metadata} {container : Container} :
    ∀ {names : List String} {mounts : List Mount} {plans : List Plan},
      Separate mounts → planAll m container mounts names = .ok plans →
      Separate (mounts ++ plans.map Plan.mount)
  | [], mounts, plans, hmounts, h => by
      obtain rfl := Except.ok.inj h
      simpa using hmounts
  | name :: rest, mounts, plans, hmounts, h => by
      obtain ⟨p, more, hp, hcheck, hmore, rfl⟩ := planAll_cons_eq_ok h
      have hp := hmounts.concat (sound_of_plan hp) hcheck
      simpa using separate_planAll hp hmore

-- ============================================================ computations

namespace Registering

variable {α β : Type}

/-- What a computation returns, and the table that it leaves. -/
def on (x : Registering α) (t : RouteTable) : Except RegistrationError α × RouteTable :=
  (ExceptT.run x).run t

/-- A computation goes on with the table that the first part leaves, unless
this fails. -/
theorem on_bind (x : Registering α) (f : α → Registering β) (t : RouteTable) :
    on (x >>= f) t
      = match on x t with
        | (.ok a, t') => on (f a) t'
        | (.error e, t') => (.error e, t') := by
  unfold on
  rw [ExceptT.run_bind, StateT.run_bind]
  generalize (ExceptT.run x).run t = result
  obtain ⟨a | e, t'⟩ := result <;> rfl

end Registering

open Registering

/-- Mounting merges the routers, or fails. -/
theorem mount_on (p : Plan) (t : RouteTable) :
    on (mount p) t
      = match t.router.merge? p.router with
        | some router => (.ok (), { t with router, mounts := t.mounts ++ [p.mount] })
        | none => (.error (.unroutable p.mount.controller), { t with router := .empty }) := by
  have hrun : on (mount p) t = on (do
      match t.router.merge? p.router with
      | some router => set { t with router, mounts := t.mounts ++ [p.mount] }
      | none =>
          set { t with router := Router.empty }
          throw (.unroutable p.mount.controller)) t := rfl
  rw [hrun]
  cases t.router.merge? p.router <;> rfl

/-- Of several plans the first is mounted first. -/
theorem mountAll_on (p : Plan) (plans : List Plan) (t : RouteTable) :
    on ((p :: plans).forM mount) t
      = match t.router.merge? p.router with
        | some router => on (plans.forM mount) { t with router, mounts := t.mounts ++ [p.mount] }
        | none => (.error (.unroutable p.mount.controller), { t with router := .empty }) := by
  have hcons : (p :: plans).forM mount = mount p >>= fun _ => plans.forM mount := rfl
  rw [hcons, on_bind, mount_on]
  cases t.router.merge? p.router <;> rfl

/-- Registering plans all controllers before it mounts one. -/
theorem register_on (m : Metadata) (container : Container) (names : List String)
    (t : RouteTable) :
    on (register m container names) t
      = match planAll m container t.mounts names with
        | .ok plans => on (plans.forM mount) t
        | .error e => (.error e, t) := by
  have hrun : on (register m container names) t = on (do
      match planAll m container t.mounts names with
      | .ok plans => plans.forM mount
      | .error e => throw e) t := rfl
  rw [hrun]
  cases planAll m container t.mounts names <;> rfl

/-- What is mounted are the first ones of what is planned. -/
theorem mounts_of_mountAll :
    ∀ (plans : List Plan) (t : RouteTable), ∃ mounted rest, mounted ++ rest = plans
      ∧ (on (plans.forM mount) t).2.mounts = t.mounts ++ mounted.map Plan.mount
  | [], t => ⟨[], [], rfl, (List.append_nil _).symm⟩
  | p :: plans, t => by
      rw [mountAll_on]
      cases t.router.merge? p.router with
      | none => exact ⟨[], p :: plans, rfl, (List.append_nil _).symm⟩
      | some router =>
          obtain ⟨mounted, rest, hplans, hmounts⟩ :=
            mounts_of_mountAll plans { t with router, mounts := t.mounts ++ [p.mount] }
          exact ⟨p :: mounted, rest, congrArg _ hplans, hmounts.trans (by simp)⟩

/-- No error is returned where mounting ends. -/
theorem unroutable_of_mountAll {e : RegistrationError} :
    ∀ {plans : List Plan} {t : RouteTable}, (on (plans.forM mount) t).1 = .error e →
      ∃ controller, e = .unroutable controller
  | [], t, h => by cases h
  | p :: plans, t, h => by
      rw [mountAll_on] at h
      cases hmerge : t.router.merge? p.router with
      | none =>
          rw [hmerge] at h
          exact ⟨_, (Except.error.inj h).symm⟩
      | some router =>
          rw [hmerge] at h
          exact unroutable_of_mountAll h

-- ================================================================== runs

/-- One call to register controllers. -/
structure RegisterCall where
  metadata : Metadata
  container : Container
  controllers : List String

namespace RegisterCall

/-- What a call returns, and the table that it leaves. -/
def on (call : RegisterCall) (t : RouteTable) : Except RegistrationError Unit × RouteTable :=
  Registering.on (register call.metadata call.container call.controllers) t

end RegisterCall

/-- The table after calls, whatever they return. -/
def RouteTable.afterCalls (t : RouteTable) (calls : List RegisterCall) : RouteTable :=
  calls.foldl (fun t call => (call.on t).2) t

/-- A call to register leaves mounts that can be told apart, whatever it
returns. -/
theorem separate_call {t : RouteTable} (h : Separate t.mounts) (call : RegisterCall) :
    Separate (call.on t).2.mounts := by
  unfold RegisterCall.on
  rw [register_on]
  cases hplans : planAll call.metadata call.container t.mounts call.controllers with
  | error e => exact h
  | ok plans =>
      obtain ⟨mounted, rest, rfl, hmounts⟩ := mounts_of_mountAll plans t
      have hall := separate_planAll h hplans
      rw [List.map_append, ← List.append_assoc] at hall
      exact hmounts ▸ hall.of_append

/-- By induction any calls do. -/
theorem separate_calls :
    ∀ (calls : List RegisterCall) {t : RouteTable}, Separate t.mounts →
      Separate (t.afterCalls calls).mounts
  | [], _, h => h
  | call :: calls, _, h => separate_calls calls (separate_call h call)

/-- A call that returns an error leaves the table as it was. -/
theorem table_of_misconfigured {t : RouteTable} {call : RegisterCall} {controller : String}
    {cause : Misconfiguration} (h : (call.on t).1 = .error (.misconfigured controller cause)) :
    (call.on t).2 = t := by
  unfold RegisterCall.on at h ⊢
  rw [register_on] at h ⊢
  cases hplans : planAll call.metadata call.container t.mounts call.controllers with
  | error e => rfl
  | ok plans =>
      rw [hplans] at h
      obtain ⟨other, hother⟩ := unroutable_of_mountAll h
      cases hother

/-- After every run of calls on a table without mounts, the mounts are
separate; and a call that returns an error changes neither them nor the
router. -/
theorem mounts_separate_after_calls (router : Router) (bodyLimit : Option Nat)
    (calls : List RegisterCall) :
    let t := (RouteTable.mk router [] bodyLimit).afterCalls calls
    Separate t.mounts
      ∧ ∀ (call : RegisterCall) (controller : String) (cause : Misconfiguration),
          (call.on t).1 = .error (.misconfigured controller cause) → (call.on t).2 = t :=
  ⟨separate_calls calls separate_nil, fun _ _ _ => table_of_misconfigured⟩

/-- A second controller asks for a path whose parameter has another name
than that in the base path of the first. -/
theorem mounts_separate_after_conflict :
    let metadata := ((((Metadata.empty.declareBasePath "users" "/api/:tenant/").declareRoute
        "users" .get "/" "list" []).declareRoute "users" .get "/:id" "find" []).declareBasePath
        "audit" "/").declareRoute "audit" .get "/api/:owner/log" "list" []
    let controller (store : Nat) : Controller := ⟨store, fun _ => some fun _ => .done (.bare 204)⟩
    let call (name : String) : RegisterCall :=
      ⟨metadata, [("users", controller 0), ("audit", controller 1)], [name]⟩
    let t := (RouteTable.mk .empty [] none).afterCalls [call "users"]
    t.mounts.map Mount.servedPaths = [["/api/:tenant", "/api/:tenant/", "/api/:tenant/:id"]]
      ∧ Separate t.mounts
      ∧ ((call "audit").on t).1 = .error
          (.misconfigured "audit" (.conflictingRoute "/api/:owner/log" "/api/:tenant"))
      ∧ ((call "audit").on t).2 = t := by
  intro metadata controller call t
  have hfailed : ((call "audit").on t).1 = .error
      (.misconfigured "audit" (.conflictingRoute "/api/:owner/log" "/api/:tenant")) := by
    decide +kernel
  obtain ⟨hseparate, hunchanged⟩ := mounts_separate_after_calls .empty none [call "users"]
  exact ⟨by decide +kernel, hseparate, hfailed, hunchanged _ _ _ hfailed⟩

end TableApi.Routing
