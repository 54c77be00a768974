/-
What a history of attachments leaves.

Everything that is attached is kept, in the place that it was attached
to, and shows there only. A history is read off place by place: of base
paths the last one counts, routes stand in the order in which they were
attached, and lists of middlewares one behind the other.

An entry takes up routes and middlewares only if it is of their kind.
That it is, is what the induction carries: what stands in a place was
made of values of the kind of the place (`Entry.ofValues?`), so none of
those that come later is ignored (`ofValues?_concat`).
-/
import Mathlib.Data.List.Induction
import TableApi.Routing.Metadata

namespace TableApi.Routing.Metadata

-- ============================================================= histories

/-- A value, attached to a controller or to one of its members. -/
structure Attached where
  controller : String
  member : Option String
  value : Attachment

namespace Attached

/-- The place that the value is attached to. -/
def place (a : Attached) : Place := ⟨a.controller, a.member, a.value.kind⟩

end Attached

/-- The metadata with a history of attachments behind what they have. -/
def attachAll (m : Metadata) (history : List Attached) : Metadata :=
  history.foldl (fun m a => m.attach a.controller a.member a.value) m

/-- The values that a history attaches to a place, in order. -/
def valuesAt (place : Place) (history : List Attached) : List Attachment :=
  history.filterMap fun a => if a.place = place then some a.value else none

namespace Attachment

def paths : Attachment → List String
  | basePath path => [path]
  | _ => []

def entries : Attachment → List RouteEntry
  | route entry => [entry]
  | _ => []

def list : Attachment → List Middleware
  | middlewares list => list
  | _ => []

end Attachment

/-- What stands in a place of a kind when values have been attached to
it: nothing if there were none, else the last base path, all routes, or
the middlewares of all lists. -/
def Entry.ofValues? (kind : Kind) (values : List Attachment) : Option Entry :=
  if values = [] then none
  else match kind with
    | .basePath => (values.flatMap Attachment.paths).getLast?.map .basePath
    | .routes => some (.routes (values.flatMap Attachment.entries))
    | .middlewares => some (.middlewares (values.flatMap Attachment.list))

-- =============================================================== one step

/-- An attachment shows in its place, and nowhere else. -/
theorem read_attach (m : Metadata) (controller : String) (member : Option String)
    (value : Attachment) (kind : Kind) (other : String) (member' : Option String) :
    (m.attach controller member value).read kind other member'
      = if (⟨other, member', kind⟩ : Place) = ⟨controller, member, value.kind⟩ then
          some (match m.read value.kind controller member with
            | some entry => entry.extend value
            | none => .ofAttachment value)
        else m.read kind other member' :=
  Keyed.get?_put _ _ _ _

theorem valuesAt_concat (place : Place) (history : List Attached) (a : Attached) :
    valuesAt place (history ++ [a])
      = valuesAt place history ++ if a.place = place then [a.value] else [] := by
  unfold valuesAt
  rw [List.filterMap_append]
  by_cases h : a.place = place <;> simp [h]

theorem flatMap_valuesAt {α : Type} (pick : Attachment → List α) (place : Place)
    (history : List Attached) :
    (valuesAt place history).flatMap pick
      = history.flatMap fun a => if a.place = place then pick a.value else [] := by
  induction history with
  | nil => rfl
  | cons a history ih =>
      unfold valuesAt at ih ⊢
      rw [List.filterMap_cons, List.flatMap_cons, ← ih]
      by_cases h : a.place = place <;> simp [h]

/-- What is attached to a place has the kind of the place. -/
theorem kind_of_mem_valuesAt {place : Place} {history : List Attached} {value : Attachment}
    (h : value ∈ valuesAt place history) : value.kind = place.kind := by
  obtain ⟨a, -, heq⟩ := List.mem_filterMap.1 h
  split at heq
  case isTrue hplace =>
    obtain rfl := Option.some.inj heq
    exact congrArg Place.kind hplace
  case isFalse => cases heq

theorem ofValues?_of_ne_nil {values : List Attachment} (h : values ≠ []) (kind : Kind) :
    Entry.ofValues? kind values
      = match kind with
        | .basePath => (values.flatMap Attachment.paths).getLast?.map .basePath
        | .routes => some (.routes (values.flatMap Attachment.entries))
        | .middlewares => some (.middlewares (values.flatMap Attachment.list)) :=
  if_neg h

/-- Values of the kind of a place are taken up by what stands there. -/
theorem ofValues?_concat (values : List Attachment) (value : Attachment) :
    Entry.ofValues? value.kind (values ++ [value])
      = some (match Entry.ofValues? value.kind values with
        | some entry => entry.extend value
        | none => .ofAttachment value) := by
  have hne : values ++ [value] ≠ [] :=
    List.append_ne_nil_of_right_ne_nil _ (List.cons_ne_nil _ _)
  rw [ofValues?_of_ne_nil hne]
  cases value with
  | basePath path =>
      have hlast : ((values ++ [Attachment.basePath path]).flatMap
          Attachment.paths).getLast? = some path := by
        rw [List.flatMap_append]
        exact List.getLast?_concat
      simp only [Attachment.kind, hlast]
      -- What stands there is replaced, whatever it is.
      cases Entry.ofValues? .basePath values with
      | none => rfl
      | some entry => cases entry <;> rfl
  | route entry =>
      by_cases h : values = [] <;>
        simp [h, Entry.ofValues?, Attachment.kind, Attachment.entries, Entry.extend,
          Entry.ofAttachment]
  | middlewares list =>
      by_cases h : values = [] <;>
        simp [h, Entry.ofValues?, Attachment.kind, Attachment.list, Entry.extend,
          Entry.ofAttachment]

-- ================================================================== runs

/-- What stands in a place is what the history has attached to it. -/
theorem read_attachAll (history : List Attached) (kind : Kind) (controller : String)
    (member : Option String) :
    (empty.attachAll history).read kind controller member
      = Entry.ofValues? kind (valuesAt ⟨controller, member, kind⟩ history) := by
  induction history using List.reverseRecOn with
  | nil => rfl
  | append_singleton history a ih =>
      have hstep : empty.attachAll (history ++ [a])
          = (empty.attachAll history).attach a.controller a.member a.value := by
        simp [attachAll]
      rw [hstep, read_attach, valuesAt_concat]
      by_cases h : a.place = ⟨controller, member, kind⟩
      · obtain ⟨rfl, rfl, rfl⟩ := Place.mk.inj h
        rw [if_pos rfl, if_pos h, ofValues?_concat, ih]
      · have hother : ¬ (⟨controller, member, kind⟩ : Place)
            = ⟨a.controller, a.member, a.value.kind⟩ := fun heq => h heq.symm
        rw [if_neg hother, if_neg h, List.append_nil, ih]

-- The readers of one kind, each on what it reads.

theorem basePath?_attachAll (history : List Attached) (name : String) :
    (empty.attachAll history).basePath? name
      = ((valuesAt ⟨name, none, .basePath⟩ history).flatMap Attachment.paths).getLast? := by
  unfold basePath?
  rw [read_attachAll]
  by_cases h : valuesAt ⟨name, none, .basePath⟩ history = []
  · rw [h]
    rfl
  · rw [ofValues?_of_ne_nil h]
    dsimp only
    cases ((valuesAt ⟨name, none, .basePath⟩ history).flatMap
      Attachment.paths).getLast? <;> rfl

theorem routes_attachAll (history : List Attached) (name : String) :
    (empty.attachAll history).routes name
      = (valuesAt ⟨name, none, .routes⟩ history).flatMap Attachment.entries := by
  unfold routes
  rw [read_attachAll]
  by_cases h : valuesAt ⟨name, none, .routes⟩ history = []
  · rw [h]
    rfl
  · rw [ofValues?_of_ne_nil h]

theorem middlewares_attachAll (history : List Attached) (name : String)
    (member : Option String) :
    (empty.attachAll history).middlewares name member
      = (valuesAt ⟨name, member, .middlewares⟩ history).flatMap Attachment.list := by
  unfold middlewares
  rw [read_attachAll]
  by_cases h : valuesAt ⟨name, member, .middlewares⟩ history = []
  · rw [h]
    rfl
  · rw [ofValues?_of_ne_nil h]

-- ======================================================= what is kept

/-- What stands in a place of a kind to which these values have been
attached, in this order. -/
inductive Stands : Kind → List Attachment → Option Entry → Prop
  | nothing (kind : Kind) : Stands kind [] none
  /-- The last base path. -/
  | basePath (before : List Attachment) (path : String) :
      Stands .basePath (before ++ [.basePath path]) (some (.basePath path))
  /-- All routes. -/
  | routes {entries : List RouteEntry} (hne : entries ≠ []) :
      Stands .routes (entries.map .route) (some (.routes entries))
  /-- The middlewares of all lists; there may be none in any of them. -/
  | middlewares {lists : List (List Middleware)} (hne : lists ≠ []) :
      Stands .middlewares (lists.map .middlewares) (some (.middlewares lists.flatten))

/-- Values that are each made of something by `make` are all made so. -/
theorem exists_made {α : Type} {kind : Kind} {make : α → Attachment}
    (hmake : ∀ v : Attachment, v.kind = kind → ∃ a, v = make a) :
    ∀ {values : List Attachment}, (∀ v ∈ values, v.kind = kind) →
      ∃ as : List α, values = as.map make
  | [], _ => ⟨[], rfl⟩
  | v :: values, h => by
      obtain ⟨hv, hrest⟩ := List.forall_mem_cons.1 h
      obtain ⟨a, rfl⟩ := hmake v hv
      obtain ⟨as, rfl⟩ := exists_made hmake hrest
      exact ⟨a :: as, rfl⟩

theorem exists_path : ∀ v : Attachment, v.kind = .basePath → ∃ path, v = .basePath path
  | .basePath path, _ => ⟨path, rfl⟩

theorem exists_route : ∀ v : Attachment, v.kind = .routes → ∃ entry, v = .route entry
  | .route entry, _ => ⟨entry, rfl⟩

theorem exists_list : ∀ v : Attachment, v.kind = .middlewares → ∃ list, v = .middlewares list
  | .middlewares list, _ => ⟨list, rfl⟩

/-- Of values that have the kind of their place, none is dropped. -/
theorem stands_ofValues? {kind : Kind} {values : List Attachment}
    (h : ∀ v ∈ values, v.kind = kind) : Stands kind values (Entry.ofValues? kind values) := by
  by_cases hne : values = []
  · subst hne
    exact .nothing kind
  rw [ofValues?_of_ne_nil hne]
  cases kind with
  | basePath =>
      obtain ⟨before, last, rfl⟩ : ∃ before last, values = before ++ [last] :=
        ⟨_, _, (List.dropLast_concat_getLast hne).symm⟩
      obtain ⟨path, rfl⟩ := exists_path last (h last (by simp))
      have hlast : ((before ++ [Attachment.basePath path]).flatMap
          Attachment.paths).getLast? = some path := by
        rw [List.flatMap_append]
        exact List.getLast?_concat
      simp only [hlast]
      exact .basePath before path
  | routes =>
      obtain ⟨entries, rfl⟩ := exists_made exists_route h
      have hentries : (entries.map Attachment.route).flatMap Attachment.entries = entries := by
        simp [List.flatMap_map, Attachment.entries]
      simp only [hentries]
      exact .routes (by simpa using hne)
  | middlewares =>
      obtain ⟨lists, rfl⟩ := exists_made exists_list h
      have hlists : (lists.map Attachment.middlewares).flatMap Attachment.list
          = lists.flatten := by
        simp [List.flatMap_map, Attachment.list]
      simp only [hlists]
      exact .middlewares (by simpa using hne)

/-- Whatever is attached in whatever order: in every place stands what has
been attached to that place, all of it, and nothing else. -/
theorem attachments_kept_by_place (history : List Attached) (kind : Kind) (controller : String)
    (member : Option String) :
    Stands kind (valuesAt ⟨controller, member, kind⟩ history)
      ((empty.attachAll history).read kind controller member) := by
  rw [read_attachAll]
  exact stands_ofValues? fun _ => kind_of_mem_valuesAt

example (a b c : Middleware) :
    (empty.attachAll [⟨"users", some "list", .middlewares [a]⟩, ⟨"users", none, .basePath "/a"⟩,
        ⟨"users", none, .middlewares [b]⟩, ⟨"users", some "list", .middlewares []⟩,
        ⟨"audit", some "list", .middlewares [b]⟩, ⟨"users", some "list", .middlewares [c]⟩]).read
      .middlewares "users" (some "list") = some (.middlewares [a, c]) := rfl

end TableApi.Routing.Metadata
