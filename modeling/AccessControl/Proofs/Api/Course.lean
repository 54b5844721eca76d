/-
What becomes of a request: every request takes one of five courses. Main statement: `course`.
-/
import AccessControl.Api
import AccessControl.Proofs.Realm.Run

namespace AccessControl.Api

open Realm

/-- The response to the end of an operation. -/
def Response.ofAnswer : Answer Response → Response
  | .ok response => response
  | .error failure => .ofFailure failure

/-- What becomes of a request, with the response, but for its body, and the realm at the end. -/
inductive Course (api : Api) (s : Realm) (request : Request) : Response → Realm → Prop
  | health (h : request.path = ["health"]) : Course api s request (health request.method) s
  /-- Nobody is known to ask. -/
  | unknown {failure : Failure} {t : Realm} (hpath : request.path ≠ ["health"])
      (h : s.run false (api.authenticate request.authorization) = (.error failure, t)) :
      Course api s request (.ofFailure failure) t
  /-- Nothing can be made of what is asked for. -/
  | faulty {subject : Urn .user} {t : Realm} {fault : Operation.Fault}
      (hsubject : s.run false (api.authenticate request.authorization) = (.ok subject, t))
      (h : Operation.ofRequest request = .error fault) :
      Course api s request (.bare fault.status) t
  | refused {subject : Urn .user} {t u : Realm} {operation : Operation} {failure : Failure}
      (hsubject : s.run false (api.authenticate request.authorization) = (.ok subject, t))
      (hoperation : Operation.ofRequest request = .ok operation)
      (h : t.run false (api.authorize subject operation) = (.error failure, u)) :
      Course api s request (.ofFailure failure) u
  | performed {subject : Urn .user} {t u : Realm} {operation : Operation}
      (hsubject : s.run false (api.authenticate request.authorization) = (.ok subject, t))
      (hoperation : Operation.ofRequest request = .ok operation)
      (h : t.run false (api.authorize subject operation) = (.ok (), u)) :
      Course api s request (.ofAnswer (u.serve (operation.perform subject)).1)
        (u.serve (operation.perform subject)).2

variable {api : Api} {s : Realm} {request : Request}

/-- Serving an operation: what is granted is performed. -/
theorem run_serve (api : Api) (subject : Urn .user) (operation : Operation) (t : Realm) :
    t.run false (api.serve subject operation) =
      match t.run false (api.authorize subject operation) with
      | (.error failure, u) => (.ofFailure failure, u)
      | (.ok (), u) =>
        (.ofAnswer (u.serve (operation.perform subject)).1,
          (u.serve (operation.perform subject)).2) := by
  unfold Api.serve
  rw [run_bind]
  rcases t.run false (api.authorize subject operation) with ⟨answer, u⟩
  cases answer with
  | error failure => rfl
  | ok _ =>
    have hperform : u.run false (operation.perform subject).run =
        u.serve (operation.perform subject) := rfl
    dsimp only
    rw [run_bind, hperform]
    rcases u.serve (operation.perform subject) with ⟨answer, v⟩
    cases answer <;> rfl

/-- A request takes one of the courses. -/
theorem course (api : Api) (s : Realm) (request : Request) :
    ∃ response, (s.run false (api.answer request)).1.status = response.status ∧
      Course api s request response (s.run false (api.answer request)).2 := by
  have hstatus (response : Response) :
      (if isHead request then { response with body := none } else response).status =
        response.status := by split <;> rfl
  unfold answer
  by_cases hpath : request.path = ["health"]
  · rw [if_pos hpath]
    exact ⟨_, rfl, .health hpath⟩
  · rw [if_neg hpath]
    rw [run_bind]
    rcases hsubject : s.run false (api.authenticate request.authorization) with ⟨answer, t⟩
    cases answer with
    | error failure => exact ⟨_, hstatus _, .unknown hpath hsubject⟩
    | ok subject =>
      unfold answerTo
      cases hoperation : Operation.ofRequest request with
      | error fault => exact ⟨_, hstatus _, .faulty hsubject hoperation⟩
      | ok operation =>
        dsimp only
        rw [run_bind, run_serve]
        rcases hgrant : t.run false (api.authorize subject operation) with ⟨answer, u⟩
        cases answer with
        | error failure => exact ⟨_, hstatus _, .refused hsubject hoperation hgrant⟩
        | ok _ => exact ⟨_, hstatus _, .performed hsubject hoperation hgrant⟩

end AccessControl.Api
