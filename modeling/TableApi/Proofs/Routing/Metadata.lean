/-
What declarations leave in the metadata.

A declaration attaches a value in one place, so declarations are a
history of attachments. What the metadata hold of a controller is what
was declared of it, in the order in which it was declared, however the
declarations of its base path, routes and middlewares, and those of
other controllers, stand between one another. Only of base paths the
last one counts.
-/
import Mathlib.Data.List.Basic
import TableApi.Proofs.Routing.Attachment

namespace TableApi.Routing

-- ========================================================== declarations

/-- What can be declared of a controller. -/
inductive Declaration where
  | basePath (path : String)
  | route (entry : RouteEntry)
  | guard (middleware : Middleware)
  | guardMethod (handler : String) (middleware : Middleware)

namespace Declaration

def basePath? : Declaration → Option String
  | basePath path => some path
  | _ => none

def route? : Declaration → Option RouteEntry
  | route entry => some entry
  | _ => none

/-- The middleware that is put before a handler, or before all of
them. -/
def guard? (handler : Option String) : Declaration → Option Middleware
  | guard middleware => if handler = none then some middleware else none
  | guardMethod name middleware => if handler = some name then some middleware else none
  | _ => none

end Declaration

/-- A declaration and the controller that it is about. -/
abbrev Declared := String × Declaration

/-- What is declared of a controller, in order. -/
def declaredOf {α : Type} (pick : Declaration → Option α) (controller : String)
    (ds : List Declared) : List α :=
  ds.filterMap fun d => if d.1 = controller then pick d.2 else none

/-- The base path of a controller, the last one that is declared. -/
def basePathOf? (controller : String) (ds : List Declared) : Option String :=
  (declaredOf Declaration.basePath? controller ds).getLast?

/-- The routes of a controller. -/
def routesOf : String → List Declared → List RouteEntry := declaredOf Declaration.route?

/-- The middlewares of a controller, or of one of its handlers. -/
def guardsOf (handler : Option String) : String → List Declared → List Middleware :=
  declaredOf (Declaration.guard? handler)

namespace Metadata

/-- The metadata with one more declaration. -/
def declare (m : Metadata) : Declared → Metadata
  | (controller, .basePath path) => m.declareBasePath controller path
  | (controller, .route e) => m.declareRoute controller e.verb e.path e.handler e.middlewares
  | (controller, .guard middleware) => m.guard controller middleware
  | (controller, .guardMethod handler middleware) => m.guardMethod controller handler middleware

def ofDeclarations (ds : List Declared) : Metadata := ds.foldl declare .empty

-- =========================================================== attachments

/-- What a declaration attaches. -/
def attachedBy : Declared → Attached
  | (controller, .basePath path) => ⟨controller, none, .basePath path⟩
  | (controller, .route e) => ⟨controller, none, .route e⟩
  | (controller, .guard middleware) => ⟨controller, none, .middlewares [middleware]⟩
  | (controller, .guardMethod handler middleware) =>
      ⟨controller, some handler, .middlewares [middleware]⟩

theorem ofDeclarations_eq (ds : List Declared) :
    ofDeclarations ds = empty.attachAll (ds.map attachedBy) := by
  unfold ofDeclarations attachAll
  rw [List.foldl_map]
  congr 1
  funext m d
  obtain ⟨controller, d⟩ := d
  cases d <;> rfl

-- ========================================================= what is read

/-- What the values in a place hold is what is declared, if each
declaration holds there what its value does. -/
theorem flatMap_valuesAt_declared {α : Type} {pick : Attachment → List α}
    {declared : Declaration → Option α} {place : Place} {name : String}
    (h : ∀ d : Declared, (if (attachedBy d).place = place then pick (attachedBy d).value else [])
      = (if d.1 = name then declared d.2 else none).toList) (ds : List Declared) :
    (valuesAt place (ds.map attachedBy)).flatMap pick = declaredOf declared name ds := by
  rw [flatMap_valuesAt, List.flatMap_map, funext h, declaredOf, List.filterMap_eq_flatMap_toList]

variable (name : String)

theorem basePath?_ofDeclarations (ds : List Declared) :
    (ofDeclarations ds).basePath? name = basePathOf? name ds := by
  rw [ofDeclarations_eq, basePath?_attachAll]
  refine congrArg List.getLast? (flatMap_valuesAt_declared (fun d => ?_) ds)
  obtain ⟨controller, d⟩ := d
  by_cases hname : controller = name <;> cases d <;>
    simp [hname, attachedBy, Attached.place, Attachment.kind, Attachment.paths,
      Declaration.basePath?]

theorem routes_ofDeclarations (ds : List Declared) :
    (ofDeclarations ds).routes name = routesOf name ds := by
  rw [ofDeclarations_eq, routes_attachAll]
  refine flatMap_valuesAt_declared (fun d => ?_) ds
  obtain ⟨controller, d⟩ := d
  by_cases hname : controller = name <;> cases d <;>
    simp [hname, attachedBy, Attached.place, Attachment.kind, Attachment.entries,
      Declaration.route?]

theorem middlewares_ofDeclarations (handler : Option String) (ds : List Declared) :
    (ofDeclarations ds).middlewares name handler = guardsOf handler name ds := by
  rw [ofDeclarations_eq, middlewares_attachAll]
  refine flatMap_valuesAt_declared (fun d => ?_) ds
  obtain ⟨controller, d⟩ := d
  cases d with
  | basePath | route =>
      simp [attachedBy, Attached.place, Attachment.kind, Declaration.guard?]
  | guard middleware =>
      have hsides : none = handler ↔ handler = none := eq_comm
      by_cases hname : controller = name <;> by_cases hhandler : handler = none <;>
        simp [hname, hsides, hhandler, attachedBy, Attached.place, Attachment.kind,
          Attachment.list, Declaration.guard?]
  | guardMethod member middleware =>
      have hsides : some member = handler ↔ handler = some member := eq_comm
      by_cases hname : controller = name <;> by_cases hhandler : handler = some member <;>
        simp [hname, hsides, hhandler, attachedBy, Attached.place, Attachment.kind,
          Attachment.list, Declaration.guard?]

end Metadata

end TableApi.Routing
