/-
Routes that come to a router in any order.

A route that comes to others takes the first of them that it meets, by
its path or by the shape of its pattern: if that one has its path the
verbs of both come together, else no router can hold both. So what
another route finds depends on those that came before it. But what
decides whether all of a list can come does not: each can come to the
routes that were there at first (`Admits`), and any two of the list go
together beside these (`Together`), which is the same whichever of the
two comes first.

# The step

When a route has come, another one can come just if it could before and
goes together with the first (`admits_insert?`). That two others go
together is the same before and after, if both go together with the
first (`together_insert?`). The last needs what is true of paths that
were read: equal paths have equal patterns.
-/
import Mathlib.Data.List.Pairwise
import TableApi.Proofs.Routing.Router

namespace TableApi.Routing

namespace Pattern

theorem sameShape_comm : ∀ ps qs : Pattern, sameShape ps qs = sameShape qs ps
  | [], [] => rfl
  | [], q :: qs => by cases q <;> rfl
  | p :: ps, [] => by cases p <;> rfl
  | .char c :: ps, .char d :: qs => by
      rw [sameShape, sameShape, sameShape_comm ps qs, decide_eq_decide.2 eq_comm]
  | .parameter _ :: ps, .parameter _ :: qs => sameShape_comm ps qs
  | .char _ :: _, .parameter _ :: _ | .parameter _ :: _, .char _ :: _ => rfl

end Pattern

-- ================================================================= verbs

namespace MethodRouter

/-- No verb is served by both. -/
def Disjoint (a b : MethodRouter) : Prop := overlap a.targets b.targets = false

/-- Method routers are disjoint if no verb is in both. -/
theorem disjoint_iff {a b : MethodRouter} :
    Disjoint a b ↔ ∀ x ∈ a.targets, ∀ y ∈ b.targets, x.1 ≠ y.1 := by
  simp only [Disjoint, overlap, List.any_eq_false, decide_eq_true_eq, Bool.not_eq_true]

theorem disjoint_comm {a b : MethodRouter} : Disjoint a b ↔ Disjoint b a := by
  rw [disjoint_iff, disjoint_iff]
  exact ⟨fun h x hx y hy heq => h y hy x hx heq.symm, fun h x hx y hy heq => h y hy x hx heq.symm⟩

/-- Method routers can be merged if they are disjoint. -/
theorem merge?_isSome {a b : MethodRouter} : (a.merge? b).isSome = true ↔ Disjoint a b := by
  unfold merge? Disjoint
  split <;> simp_all

/-- A verb is served by none of two that have come together, if by neither
of them. -/
theorem disjoint_merge? {a b both c : MethodRouter} (h : a.merge? b = some both) :
    Disjoint both c ↔ Disjoint a c ∧ Disjoint b c := by
  simp only [disjoint_iff, targets_merge? h, List.forall_mem_append]

end MethodRouter

-- ============================================================== one route

namespace Route

/-- The routes let one more come to them. -/
def Admits (old : List Route) (new : Route) : Prop := (new.insert? old).isSome = true

/-- The new route would stand behind the routes: it meets none of them, by
its path or by its shape. -/
def Free (old : List Route) (new : Route) : Prop :=
  ∀ r ∈ old, r.path ≠ new.path ∧ r.pattern.sameShape new.pattern = false

/-- Beside the routes there are, two new ones can both be had: on one path
they serve different verbs, and no two paths of one shape come new. -/
structure Together (old : List Route) (a b : Route) : Prop where
  verbs : a.path = b.path → a.methods.Disjoint b.methods
  shapes : Free old a → Free old b → a.pattern.sameShape b.pattern = true → a.path = b.path

variable {old next : List Route} {r a b : Route}

/-- A place is free if the first route leaves it so and the others do. -/
theorem free_cons :
    Free (r :: old) a
      ↔ (r.path ≠ a.path ∧ r.pattern.sameShape a.pattern = false) ∧ Free old a :=
  List.forall_mem_cons

/-- A route elsewhere takes no place. -/
theorem free_cons_of_apart (hpath : r.path ≠ a.path)
    (hshape : r.pattern.sameShape a.pattern = false) : Free (r :: old) a ↔ Free old a :=
  free_cons.trans (and_iff_right ⟨hpath, hshape⟩)

/-- What is free depends on the path and the pattern only. -/
theorem free_congr (hpath : a.path = b.path) (hpattern : a.pattern = b.pattern) :
    Free old a ↔ Free old b := by
  rw [Free, Free, hpath, hpattern]

/-- Two routes go together if their verbs differ on one path, and their
paths do not on one place. -/
theorem together_iff :
    Together old a b ↔ (a.path = b.path → a.methods.Disjoint b.methods)
      ∧ (Free old a → Free old b → a.pattern.sameShape b.pattern = true → a.path = b.path) :=
  ⟨fun h => ⟨h.verbs, h.shapes⟩, fun h => ⟨h.1, h.2⟩⟩

theorem Together.symm (h : Together old a b) : Together old b a where
  verbs := fun hpath => MethodRouter.disjoint_comm.1 (h.verbs hpath.symm)
  shapes := fun hb ha hshape =>
    (h.shapes ha hb ((Pattern.sameShape_comm _ _).trans hshape)).symm

/-- A route is admitted if the first has its path and other verbs, or has
another shape and the others admit it. -/
theorem admits_cons :
    Admits (r :: old) a
      ↔ if r.path = a.path then r.methods.Disjoint a.methods
        else r.pattern.sameShape a.pattern = false ∧ Admits old a := by
  unfold Admits
  rw [insert?]
  by_cases hpath : r.path = a.path
  · rw [if_pos hpath, if_pos hpath, Option.isSome_map, MethodRouter.merge?_isSome]
  · rw [if_neg hpath, if_neg hpath]
    cases r.pattern.sameShape a.pattern <;> simp

/-- A route comes to the first one that has its path, or goes on behind
one that it does not meet. -/
theorem insert?_cons (h : a.insert? (r :: old) = some next) :
    (r.path = a.path ∧ ∃ both, r.methods.merge? a.methods = some both
        ∧ next = { r with methods := both } :: old)
      ∨ (r.path ≠ a.path ∧ r.pattern.sameShape a.pattern = false
        ∧ ∃ more, a.insert? old = some more ∧ next = r :: more) := by
  rw [insert?] at h
  split at h
  case isTrue hpath =>
    obtain ⟨both, hboth, rfl⟩ := Option.map_eq_some_iff.1 h
    exact .inl ⟨hpath, both, hboth, rfl⟩
  case isFalse hpath =>
    split at h
    case isTrue => cases h
    case isFalse hshape =>
      obtain ⟨more, hmore, rfl⟩ := Option.map_eq_some_iff.1 h
      exact .inr ⟨hpath, by simpa using hshape, more, hmore, rfl⟩

/-- When a route has come, those are free that were so before and do not
meet it, where it stands behind the others. -/
theorem free_insert? :
    ∀ {old next : List Route}, a.insert? old = some next →
      (Free next b ↔ Free old b ∧ (Free old a →
        a.path ≠ b.path ∧ a.pattern.sameShape b.pattern = false))
  | [], next, h => by
      obtain rfl := Option.some.inj h
      simp [Free]
  | r :: old, next, h => by
      rcases insert?_cons h with ⟨hpath, both, -, rfl⟩ | ⟨hpath, hshape, more, hmore, rfl⟩
      · have hmeets : ¬ Free (r :: old) a := fun hfree => (free_cons.1 hfree).1.1 hpath
        simp only [hmeets, false_implies, and_true]
        rw [free_cons, free_cons]
      · rw [free_cons, free_cons, free_insert? hmore, free_cons_of_apart hpath hshape]
        exact and_assoc.symm

/-- When a route has come, another one can come if it could before and
goes together with the first. -/
theorem admits_insert? :
    ∀ {old next : List Route}, a.insert? old = some next →
      (Admits next b ↔ Admits old b ∧ Together old a b)
  | [], next, h => by
      obtain rfl := Option.some.inj h
      have hnil : Admits [] b := rfl
      have hfree : ∀ c, Free [] c := fun _ _ hr => by cases hr
      rw [admits_cons, together_iff, and_iff_right hnil]
      by_cases hpath : a.path = b.path <;> simp [hpath, hnil, hfree]
  | r :: old, next, h => by
      rcases insert?_cons h with ⟨hpath, both, hboth, rfl⟩ | ⟨hpath, hshape, more, hmore, rfl⟩
      · -- The route has come to the first one, which others may come to too.
        have hmeets : ¬ Free (r :: old) a := fun hfree => (free_cons.1 hfree).1.1 hpath
        rw [admits_cons, admits_cons, together_iff, ← hpath]
        by_cases hb : r.path = b.path
        · simp [hb, MethodRouter.disjoint_merge? hboth]
        · simp [hb, hmeets]
      · rw [admits_cons, admits_cons, admits_insert? hmore]
        by_cases hb : r.path = b.path
        · -- Another route comes to the first one, past which this one went.
          have hmeets : ¬ Free (r :: old) b := fun hfree => (free_cons.1 hfree).1.1 hb
          have hother : a.path ≠ b.path := fun heq => hpath (hb.trans heq.symm)
          simp [hb, together_iff, hmeets, hother]
        · rw [if_neg hb, if_neg hb, and_assoc]
          refine and_congr_right fun hapart => and_congr_right fun _ => ?_
          rw [together_iff, together_iff, free_cons_of_apart hpath hshape,
            free_cons_of_apart hb hapart]

/-- Of two free routes that go together, with different paths, no router
would take one for the other. -/
theorem Together.apart (h : Together old a b) (ha : Free old a) (hb : Free old b)
    (hpath : a.path ≠ b.path) : a.pattern.sameShape b.pattern = false :=
  Bool.eq_false_iff.2 fun hshape => hpath (h.shapes ha hb hshape)

/-- Two routes go together when a third has come just if they did before,
provided that both go together with the third. -/
theorem together_insert? {c : Route} (h : c.insert? old = some next)
    (ha : c.path = a.path → c.pattern = a.pattern) (hb : c.path = b.path → c.pattern = b.pattern)
    (hca : Together old c a) (hcb : Together old c b) :
    Together next a b ↔ Together old a b := by
  constructor
  · refine fun hab => ⟨hab.verbs, fun hfa hfb hshape => ?_⟩
    by_cases hpa : c.path = a.path
    · -- The third has the shape of `a`, and so that of `b`.
      have hfc := (free_congr hpa (ha hpa)).2 hfa
      exact hpa.symm.trans (hcb.shapes hfc hfb (ha hpa ▸ hshape))
    by_cases hpb : c.path = b.path
    · have hfc := (free_congr hpb (hb hpb)).2 hfb
      have hshape' : c.pattern.sameShape a.pattern = true := by
        rw [hb hpb, Pattern.sameShape_comm]
        exact hshape
      exact absurd (hca.shapes hfc hfa hshape') hpa
    · -- The third meets neither of them.
      exact hab.shapes ((free_insert? h).2 ⟨hfa, fun hfc => ⟨hpa, hca.apart hfc hfa hpa⟩⟩)
        ((free_insert? h).2 ⟨hfb, fun hfc => ⟨hpb, hcb.apart hfc hfb hpb⟩⟩) hshape
  · exact fun hab => ⟨hab.verbs, fun hfa hfb =>
      hab.shapes ((free_insert? h).1 hfa).1 ((free_insert? h).1 hfb).1⟩

-- ============================================================= all routes

/-- Routes that were read: equal paths have equal patterns. -/
def Read (routes : List Route) : Prop :=
  ∀ r ∈ routes, Pattern.ofPath? r.path = some r.pattern

/-- The routes after all of a list have come, one after the other. -/
def insertAll? (news old : List Route) : Option (List Route) :=
  news.foldlM (fun old (new : Route) => new.insert? old) old

/-- Routes behind routes are put in among the first. -/
theorem insertAll?_append (news more old : List Route) :
    insertAll? (news ++ more) old
      = (insertAll? news old).bind fun next => insertAll? more next :=
  List.foldlM_append

/-- All routes of a list can come just if each can come to those that are
there at first and any two go together. -/
theorem insertAll?_isSome_iff :
    ∀ {news old : List Route}, Read news →
      ((insertAll? news old).isSome = true
        ↔ (∀ a ∈ news, Admits old a) ∧ news.Pairwise (Together old))
  | [], old, _ => by simp [insertAll?]
  | a :: news, old, hread => by
      obtain ⟨ha, hnews⟩ := List.forall_mem_cons.1 hread
      have hpattern : ∀ b ∈ news, a.path = b.path → a.pattern = b.pattern := fun b hb hpath =>
        Option.some.inj (ha.symm.trans (hpath ▸ hnews b hb))
      rw [List.forall_mem_cons, List.pairwise_cons]
      cases hnext : a.insert? old with
      | none =>
          have hnot : ¬ Admits old a := by simp [Admits, hnext]
          simp [insertAll?, hnext, hnot]
      | some next =>
          have hadmits : Admits old a := by simp [Admits, hnext]
          have hrest : insertAll? (a :: news) old = insertAll? news next := by
            simp [insertAll?, hnext]
          -- What is said of the rest before and after the first has come differs in nothing.
          have hpairs : (∀ b ∈ news, Together old a b) →
              (news.Pairwise (Together next) ↔ news.Pairwise (Together old)) := fun hall =>
            List.Pairwise.iff_of_mem fun hb hc =>
              together_insert? hnext (hpattern _ hb) (hpattern _ hc) (hall _ hb) (hall _ hc)
          rw [hrest, insertAll?_isSome_iff hnews, and_iff_right hadmits]
          simp only [admits_insert? hnext]
          constructor
          · rintro ⟨heach, htogether⟩
            have hall := fun b hb => (heach b hb).2
            exact ⟨fun b hb => (heach b hb).1, hall, (hpairs hall).1 htogether⟩
          · rintro ⟨hold, hall, htogether⟩
            exact ⟨fun b hb => ⟨hold b hb, hall b hb⟩, (hpairs hall).2 htogether⟩

/-- The order in which routes come does not matter. -/
theorem insertAll?_isSome_of_perm {news news' : List Route} (hread : Read news)
    (h : news.Perm news') (old : List Route) :
    (insertAll? news old).isSome = (insertAll? news' old).isSome := by
  have hread' : Read news' := fun r hr => hread r (h.mem_iff.2 hr)
  rw [Bool.eq_iff_iff, insertAll?_isSome_iff hread, insertAll?_isSome_iff hread',
    h.pairwise_iff Together.symm]
  simp only [h.mem_iff]

end Route

end TableApi.Routing
