/-
What the enforcer on another server grants. The server is asked about every complete request, and
the reply that counts is the one to which redirections lead (`enforcer_ok_iff`), which need not be
the reply of that server (`granted_elsewhere`). Main statement: a request is granted exactly when it
is complete and led to a reply of success, and where the server's own reply does not redirect, that
reply decides (`grants_where_led`).
-/
import AccessControl.Proofs.Enforcement
import AccessControl.Proofs.Http
import AccessControl.Remote

namespace AccessControl.Remote

open Enforcement (Missing present required point)
open Http (Leads Reply Servers Url redirected?)

/-! ## What is asked -/

/-- How the server at an address is asked about a request. -/
def posted (url : Url) (subject action resource : String) (context : Attributes) : Http.Request :=
  { Http.Request.bare .post url with
    contentType := some "application/json"
    body := (question subject action resource context).render }

/-- The scope is complete, the address can be used, and this is how the server there is asked. -/
def Asked (address : String) (scope : Scope) (request : Http.Request) : Prop :=
  ∃ subject action resource url,
    (scope.subject = some subject ∧ subject ≠ "") ∧ (scope.action = some action ∧ action ≠ "") ∧
    (scope.resource = some resource ∧ resource ≠ "") ∧ Url.ofText? address = some url ∧
    request = posted url subject action resource scope.context

/-- A reply of success. -/
def Succeeds (reply : Reply) : Prop := 200 ≤ reply.status ∧ reply.status < 300

/-- The server is asked, and the question is led to a reply of success. -/
def Approved (address : String) (scope : Scope) (servers : Servers) (sent : List Http.Request) :
    Prop :=
  ∃ request reply, Asked address scope request ∧ Leads servers 10 sent request reply ∧
    Succeeds reply

variable {address : String} {scope : Scope} {servers : Servers} {sent : List Http.Request}
  {request : Http.Request}

theorem asked_iff : Asked address scope request ↔ ∃ subject action resource url,
    required scope = .ok (subject, action, resource) ∧ Url.ofText? address = some url ∧
      request = posted url subject action resource scope.context := by
  simp only [Asked, Enforcement.required_ok_iff, Enforcement.present_eq_some]
  constructor
  · rintro ⟨subject, action, resource, url, hs, ha, hr, hurl, hrequest⟩
    exact ⟨subject, action, resource, url, ⟨ha, hs, hr⟩, hurl, hrequest⟩
  · rintro ⟨subject, action, resource, url, ⟨ha, hs, hr⟩, hurl, hrequest⟩
    exact ⟨subject, action, resource, url, hs, ha, hr, hurl, hrequest⟩

/-- There is one question about a scope. -/
theorem Asked.unique {other : Http.Request} (h : Asked address scope request)
    (h' : Asked address scope other) : other = request := by
  obtain ⟨subject, action, resource, url, hrequired, hurl, rfl⟩ := asked_iff.1 h
  obtain ⟨subject', action', resource', url', hrequired', hurl', rfl⟩ := asked_iff.1 h'
  cases hrequired.symm.trans hrequired'
  cases hurl.symm.trans hurl'
  rfl

/-! ## What is granted -/

theorem isSuccess_iff {reply : Reply} :
    Http.Status.isSuccess reply.status = true ↔ Succeeds reply := by
  simp [Http.Status.isSuccess, Succeeds]

/-- What the reply to a question, if there is one, says. -/
def verdict (address : String) (reply : Option Reply) : Answer Unit :=
  match reply with
  | none => .error (.internal s!"remote enforcer {address}: {Failure.details}")
  | some reply =>
    if Http.Status.isSuccess reply.status then .ok ()
    else .error (.permissionDenied
      s!"Remote enforcer responded {Http.Status.render reply.status}")

theorem verdict_ok_iff {reply : Option Reply} :
    verdict address reply = .ok () ↔ ∃ r, reply = some r ∧ Succeeds r := by
  cases reply with
  | none => simp [verdict]
  | some r => simp [verdict, ← isSuccess_iff]

theorem run_send (place : String) (request : Http.Request) (servers : Servers)
    (sent : List Http.Request) :
    (send place (some request)).run servers sent =
      let asked := (Http.exchange request).run servers sent
      (match asked.1 with
        | none => .error (.internal s!"{place}: {Failure.details}")
        | some reply => .ok reply, asked.2) := by
  simp only [send, Http.Dialogue.run_bind]
  rcases (Http.exchange request).run servers sent with ⟨_ | reply, sent'⟩ <;> rfl

theorem run_enforcer (h : Asked address scope request) :
    (enforcer address scope).run servers sent =
      let asked := (Http.exchange request).run servers sent
      (verdict address asked.1, asked.2) := by
  obtain ⟨subject, action, resource, url, hrequired, hurl, rfl⟩ := asked_iff.1 h
  have hsend := run_send s!"remote enforcer {address}"
    (posted url subject action resource scope.context) servers sent
  simp only [posted] at hsend ⊢
  simp only [enforcer, hrequired, hurl, Option.map_some, Http.Dialogue.run_bind, hsend]
  rcases Http.Dialogue.run servers (Http.exchange _) sent with ⟨_ | reply, sent'⟩
  · rfl
  · cases hsuccess : Http.Status.isSuccess reply.status <;> simp [verdict, hsuccess]

/-- Nothing is sent where there is no question. -/
theorem run_unasked (h : ∀ request, ¬ Asked address scope request) (servers : Servers)
    (sent : List Http.Request) :
    ∃ failure, (enforcer address scope).run servers sent = (.error failure, sent) := by
  cases hrequired : required scope with
  | error failure => exact ⟨failure, by simp [enforcer, hrequired]⟩
  | ok fields =>
    obtain ⟨subject, action, resource⟩ := fields
    cases hurl : Url.ofText? address with
    | some url =>
      exact absurd (asked_iff.2 ⟨subject, action, resource, url, hrequired, hurl, rfl⟩) (h _)
    | none =>
      refine ⟨.internal s!"remote enforcer {address}: {Failure.details}", ?_⟩
      simp only [enforcer, hrequired, hurl, Option.map_none, send, Http.Dialogue.run_bind]
      rfl

/-- A request is granted when its question is led to a reply of success. -/
theorem enforcer_ok_iff :
    ((enforcer address scope).run servers sent).1 = .ok () ↔
      Approved address scope servers sent := by
  by_cases hasked : ∃ request, Asked address scope request
  · obtain ⟨request, hasked⟩ := hasked
    rw [run_enforcer hasked]
    refine verdict_ok_iff.trans ?_
    simp only [Http.exchange_eq_some_iff]
    constructor
    · rintro ⟨reply, hleads, hsuccess⟩
      exact ⟨request, reply, hasked, hleads, hsuccess⟩
    · rintro ⟨other, reply, hother, hleads, hsuccess⟩
      obtain rfl := hasked.unique hother
      exact ⟨reply, hleads, hsuccess⟩
  · rw [not_exists] at hasked
    obtain ⟨failure, hrun⟩ := run_unasked hasked servers sent
    rw [hrun]
    refine iff_of_false (by simp) ?_
    rintro ⟨request, reply, hrequest, -⟩
    exact hasked request hrequest

/-! ## Contexts and enforcement -/

variable {signals : Signals} {context : Context}

theorem enforcerUnder_live (h : signals.isCancelled context = false) :
    enforcerUnder signals context address scope = enforcer address scope := by
  simp [enforcerUnder, Signals.under, h]

theorem enforcerUnder_ok_iff :
    ((enforcerUnder signals context address scope).run servers sent).1 = .ok () ↔
      signals.isCancelled context = false ∧ Approved address scope servers sent := by
  cases hcancelled : signals.isCancelled context with
  | false => rw [enforcerUnder_live hcancelled, enforcer_ok_iff, and_iff_right rfl]
  | true => simp [enforcerUnder, Signals.under, hcancelled]

theorem run_point (inner : Enforcer Http.Dialogue) (scope : Scope) :
    (point inner scope).run servers sent =
      match required scope with
      | .error failure => (.error failure, sent)
      | .ok _ =>
        (((inner scope).run servers sent).1.mapError Enforcement.closed,
          ((inner scope).run servers sent).2) := by
  unfold point
  cases required scope with
  | error failure => rfl
  | ok fields => simp only [Http.Dialogue.run_bind, Http.Dialogue.run_pure]

/-- Enforcement that leaves the decision to a server grants what the enforcer there grants. -/
theorem point_ok_iff :
    ((point (enforcerUnder signals context address) scope).run servers sent).1 = .ok () ↔
      signals.isCancelled context = false ∧ Approved address scope servers sent := by
  rw [← enforcerUnder_ok_iff, run_point]
  cases hrequired : required scope with
  | ok fields => exact mapError_ok_iff
  | error failure =>
    refine iff_of_false (by simp) fun hgranted => ?_
    obtain ⟨-, request, reply, hasked, -⟩ := enforcerUnder_ok_iff.1 hgranted
    obtain ⟨subject, action, resource, url, hcomplete, -⟩ := asked_iff.1 hasked
    cases hrequired.symm.trans hcomplete

theorem point_closes (inner : Enforcer Http.Dialogue) :
    ((point inner scope).run servers sent).1 = .ok () ∨
      ∃ reason, ((point inner scope).run servers sent).1 = .error (.permissionDenied reason) := by
  rw [run_point]
  cases hrequired : required scope with
  | error failure =>
    obtain ⟨reason, rfl⟩ := Enforcement.required_refuses hrequired
    exact .inr ⟨reason, rfl⟩
  | ok fields =>
    show ((inner scope).run servers sent).1.mapError Enforcement.closed = _ ∨ _
    cases ((inner scope).run servers sent).1 with
    | ok _ => exact .inl rfl
    | error failure =>
      obtain ⟨reason, hreason⟩ := Enforcement.closed_refuses failure
      exact .inr ⟨reason, congrArg _ hreason⟩

/-- Under a context a server at an address decides, by the reply to which it leads the question. -/
structure GrantsWhereLed (signals : Signals) (context : Context) (address : String) (scope : Scope)
    (servers : Servers) (sent : List Http.Request) : Prop where
  /-- A request is granted if the context has not been given up and the server approves of it. -/
  granted : ((enforcerUnder signals context address scope).run servers sent).1 = .ok () ↔
    signals.isCancelled context = false ∧ Approved address scope servers sent
  /-- The same is granted by enforcement over this enforcer. -/
  enforced : ((point (enforcerUnder signals context address) scope).run servers sent).1 = .ok () ↔
    signals.isCancelled context = false ∧ Approved address scope servers sent
  /-- What enforcement does not grant it refuses. -/
  refused : ¬ (signals.isCancelled context = false ∧ Approved address scope servers sent) →
    ∃ reason, ((point (enforcerUnder signals context address) scope).run servers sent).1 =
      .error (.permissionDenied reason)
  /-- Where the server's own reply does not redirect, that reply decides. -/
  own : ∀ request reply, Asked address scope request → servers (sent ++ [request]) = some reply →
    redirected? request reply = none → (Approved address scope servers sent ↔ Succeeds reply)
  /-- A reply redirects only by one of five statuses. -/
  redirecting : ∀ request reply, redirected? request reply ≠ none →
    reply.status ∈ [301, 302, 303, 307, 308] ∧ reply.location ≠ none
  /-- A server that does not reply does not approve. -/
  unreached : ∀ request, Asked address scope request → servers (sent ++ [request]) = none →
    ¬ Approved address scope servers sent
  /-- Where something is missing nothing is asked. -/
  missing : Missing scope.action ∨ Missing scope.subject ∨ Missing scope.resource →
    ∃ failure, (enforcerUnder signals context address scope).run servers sent =
      (.error failure, sent)
  /-- What is asked is the question about the request. -/
  asks : ∀ request, Asked address scope request → signals.isCancelled context = false →
    ∃ more, ((enforcerUnder signals context address scope).run servers sent).2 =
      sent ++ request :: more

theorem approved_iff_of_final {reply : Reply} (hasked : Asked address scope request)
    (hreplied : servers (sent ++ [request]) = some reply)
    (hfinal : redirected? request reply = none) :
    Approved address scope servers sent ↔ Succeeds reply := by
  constructor
  · rintro ⟨other, led, hother, hleads, hsuccess⟩
    obtain rfl := hasked.unique hother
    rwa [(Http.leads_iff_of_final hreplied hfinal).1 hleads] at hsuccess
  · intro hsuccess
    exact ⟨request, reply, hasked, .stays hreplied hfinal, hsuccess⟩

theorem not_approved_of_unreached (hasked : Asked address scope request)
    (hnone : servers (sent ++ [request]) = none) : ¬ Approved address scope servers sent := by
  rintro ⟨other, led, hother, hleads, -⟩
  obtain rfl := hasked.unique hother
  cases hleads with
  | stays replied _ => cases hnone.symm.trans replied
  | goesOn replied _ _ => cases hnone.symm.trans replied

theorem not_asked_of_missing
    (h : Missing scope.action ∨ Missing scope.subject ∨ Missing scope.resource)
    (request : Http.Request) : ¬ Asked address scope request := by
  have hthere : ∀ {field : Option String} {text : String}, field = some text ∧ text ≠ "" →
      ¬ Missing field := by
    rintro field text ⟨rfl, htext⟩ (h | h)
    · cases h
    · exact htext (Option.some.inj h)
  rintro ⟨subject, action, resource, url, hs, ha, hr, -⟩
  rcases h with h | h | h
  · exact hthere ha h
  · exact hthere hs h
  · exact hthere hr h

/-- Whatever servers do, the enforcer at an address grants what is led to a reply of success. -/
theorem grants_where_led (signals : Signals) (context : Context) (address : String) (scope : Scope)
    (servers : Servers) (sent : List Http.Request) :
    GrantsWhereLed signals context address scope servers sent where
  granted := enforcerUnder_ok_iff
  enforced := point_ok_iff
  refused h := (point_closes _).resolve_left fun hok => h (point_ok_iff.1 hok)
  own _ _ := approved_iff_of_final
  redirecting request reply h := by
    by_contra hnot
    rw [not_and_or, not_not] at hnot
    exact h (Http.redirected?_eq_none hnot)
  unreached _ := not_approved_of_unreached
  missing h := by
    cases hcancelled : signals.isCancelled context with
    | true => exact ⟨.cancelled, by simp [enforcerUnder, Signals.under, hcancelled]⟩
    | false =>
      rw [enforcerUnder_live hcancelled]
      exact run_unasked (not_asked_of_missing h) servers sent
  asks request hasked hlive := by
    rw [enforcerUnder_live hlive, run_enforcer hasked]
    exact Http.exchange_sent request servers sent

/-! ## A server that sends its clients elsewhere -/

/-- A proxy before the server sends the client to a page for signing in, which is there. -/
def signIn : Servers := fun sent =>
  if sent.length = 1 then some ⟨302, some "/login", ""⟩ else some ⟨200, none, "Please sign in"⟩

def sampleScope : Scope := ⟨some "urn:iam::user/1", some "read", some "urn:iam::doc/1", []⟩

theorem redirected?_signIn (request : Http.Request) :
    (redirected? request ⟨302, some "/login", ""⟩).isSome = true := by
  have hscheme : Url.scheme? (Url.clean "/login") = none := by decide +kernel
  have hpath : Url.splitQuery (Url.clean "/login") = ("/login", none) := by decide +kernel
  have hjoin : ∃ url, request.url.join? "/login" = some url := by
    simp [Url.join?, hscheme, hpath, Url.isSlash]
  obtain ⟨url, hjoin⟩ := hjoin
  simp [redirected?, hjoin]

/-- A request is granted although the server has answered the question about it with a redirection,
which is no success. -/
theorem granted_elsewhere :
    ((enforcerUnder .none ⟨0, []⟩ "http://pep.test/enforce" sampleScope).run signIn []).1 = .ok () ∧
    ((point (enforcerUnder .none ⟨0, []⟩ "http://pep.test/enforce") sampleScope).run signIn []).1 =
      .ok () ∧
    ∃ request reply, Asked "http://pep.test/enforce" sampleScope request ∧
      signIn [request] = some reply ∧ reply.status = 302 ∧ ¬ Succeeds reply := by
  have hurl : (Url.ofText? "http://pep.test/enforce").isSome = true := by decide +kernel
  obtain ⟨url, hurl⟩ := Option.isSome_iff_exists.1 hurl
  have hasked : Asked "http://pep.test/enforce" sampleScope
      (posted url "urn:iam::user/1" "read" "urn:iam::doc/1" []) :=
    ⟨_, _, _, url, ⟨rfl, by decide⟩, ⟨rfl, by decide⟩, ⟨rfl, by decide⟩, hurl, rfl⟩
  obtain ⟨next, hnext⟩ := Option.isSome_iff_exists.1 (redirected?_signIn
    (posted url "urn:iam::user/1" "read" "urn:iam::doc/1" []))
  have hled : Leads signIn 10 [] (posted url "urn:iam::user/1" "read" "urn:iam::doc/1" [])
      ⟨200, none, "Please sign in"⟩ :=
    .goesOn rfl hnext (.stays rfl (Http.redirected?_eq_none (.inr rfl)))
  have happroved : Approved "http://pep.test/enforce" sampleScope signIn [] :=
    ⟨_, _, hasked, hled, by decide, by decide⟩
  have hlive : Signals.none.isCancelled ⟨0, []⟩ = false := rfl
  exact ⟨enforcerUnder_ok_iff.2 ⟨hlive, happroved⟩, point_ok_iff.2 ⟨hlive, happroved⟩, _, _, hasked,
    rfl, rfl, by simp [Succeeds]⟩

end AccessControl.Remote
