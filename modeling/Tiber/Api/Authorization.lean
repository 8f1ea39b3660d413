import Tiber.Api.NotificationRouter

/-! Who may enter a project: the key of the project, and the account that owns it.

The credential has been verified before. A caller without access is answered by the framework, and
nothing of the project is looked at.
-/

set_option autoImplicit false

namespace Tiber

open Library

inductive AuthMethod where
  | apiKey
  | jwt
  deriving DecidableEq

structure AuthContext where
  projectId : Option Uuid
  method : AuthMethod
  apiKeyId : Option Uuid := none
  accountId : Option Uuid := none

structure Project where
  id : Uuid
  accountId : Uuid
  deriving DecidableEq

namespace AuthContext

variable (context : AuthContext) (projects : List Project) (projectId : Uuid)

/-- The row that is selected: by its id, for an account with the owner in the condition. -/
def projectRow : Option Project :=
  match context.method with
  | .apiKey => projects.find? fun project => project.id = projectId
  | .jwt => projects.find? fun project => project.id = projectId ∧ some project.accountId = context.accountId

def getAuthenticatedProject : Except HttpException Project :=
  if context.method = .apiKey ∧ context.projectId ≠ some projectId then
    .error ⟨403, "API key is not authorized for this project."⟩
  else
    match context.projectRow projects projectId with
    | none => .error ⟨404, "Project not found."⟩
    | some project => .ok project

def enters : Bool := (context.getAuthenticatedProject projects projectId).toOption.isSome

def Owns (project : Project) : Prop :=
  match context.method with
  | .apiKey => context.projectId = some project.id
  | .jwt => context.accountId = some project.accountId

instance : DecidablePred context.Owns := fun project => by
  unfold Owns
  cases context.method <;> infer_instance

variable {context projects projectId}

theorem getAuthenticatedProject_eq_ok {project : Project}
    (entered : context.getAuthenticatedProject projects projectId = .ok project) :
    project ∈ projects ∧ project.id = projectId ∧ context.Owns project := by
  unfold getAuthenticatedProject projectRow at entered
  unfold Owns
  cases method : context.method with
  | apiKey =>
      rw [method] at entered
      dsimp only at entered
      split at entered
      · cases entered
      · rename_i own
        split at entered
        · cases entered
        · rename_i found
          cases entered
          have named := List.find?_some found
          rw [decide_eq_true_eq] at named
          subst named
          exact ⟨List.mem_of_find?_eq_some found, rfl, not_not.mp fun foreign => own ⟨rfl, foreign⟩⟩
  | jwt =>
      rw [method] at entered
      dsimp only at entered
      split at entered
      · cases entered
      · split at entered
        · cases entered
        · rename_i found
          cases entered
          have named := List.find?_some found
          rw [decide_eq_true_eq] at named
          exact ⟨List.mem_of_find?_eq_some found, named.1, named.2.symm⟩

theorem getAuthenticatedProject_eq {others : List Project} (unique : (others.map (·.id)).Nodup)
    (owned : ∀ project, context.Owns project → (project ∈ projects ↔ project ∈ others)) :
    context.getAuthenticatedProject projects projectId = context.getAuthenticatedProject others projectId := by
  have same : SameFor (fun project => decide (context.Owns project)) true projects others :=
    fun project own => owned project (of_decide_eq_true own)
  have one : AtMostOne others fun project => project.id = projectId := .of_nodup unique projectId
  unfold getAuthenticatedProject
  split
  · rfl
  · rename_i open_
    have selected : context.projectRow projects projectId = context.projectRow others projectId := by
      unfold projectRow
      cases method : context.method with
      | apiKey =>
          have own : context.projectId = some projectId := not_not.mp fun foreign => open_ ⟨method, foreign⟩
          refine same.find?_eq ?_ one
          rintro project rfl
          refine decide_eq_true ?_
          unfold Owns
          rw [method]
          exact own
      | jwt =>
          refine same.find?_eq ?_ fun first there second also met alike => one first there second also met.1 alike.1
          rintro project ⟨rfl, own⟩
          refine decide_eq_true ?_
          unfold Owns
          rw [method]
          exact own.symm
    rw [selected]

end AuthContext

/-! ## Requests with credentials -/

inductive Served where
  | refused (exception : HttpException)
  | answered (response : ApiResponse)

/-- A request about a project, behind the project's dependency and then the limiter's. -/
def Api.serve (api : Api) (projects : List Project) (context : AuthContext) (projectId : Uuid) (limit : RateLimit)
    (request : ApiRequest) (world : World) : Served × World :=
  match context.getAuthenticatedProject projects projectId with
  | .error exception => (.refused exception, world)
  | .ok project =>
      let (response, next) := api.route project.id limit request world
      (.answered response, next)

end Tiber
