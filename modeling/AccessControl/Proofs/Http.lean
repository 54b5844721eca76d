/-
Dialogues with servers. Main statements: how a sequence of dialogues is held (`Dialogue.run_bind`),
that a dialogue which only asks gives the servers no orders (`Dialogue.Asks.orders_run`), its
redirections included (`exchange_asks`), and that an exchange has the reply to which its request is
led (`exchange_eq_some_iff`).
-/
import AccessControl.Http

namespace AccessControl.Http

namespace Dialogue

variable {α β : Type}

@[simp] theorem run_pure (value : α) (servers : Servers) (sent : List Request) :
    (pure value : Dialogue α).run servers sent = (value, sent) := rfl

@[simp] theorem run_bind (first : Dialogue α) (next : α → Dialogue β) (servers : Servers)
    (sent : List Request) :
    (first >>= next).run servers sent =
      (next (first.run servers sent).1).run servers (first.run servers sent).2 := by
  induction first generalizing sent with
  | done value => rfl
  | send request rest ih => exact ih _ _

/-! ## Asking and ordering -/

/-- Every request of the dialogue only asks for something. -/
inductive Asks : Dialogue α → Prop
  | done (value : α) : Asks (done value)
  | send {request : Request} {next : Option Reply → Dialogue α} (h : request.method = .get)
      (hnext : ∀ reply, (next reply).Asks) : Asks (send request next)

theorem asks_pure (value : α) : (pure value : Dialogue α).Asks := .done value

theorem Asks.bind {first : Dialogue α} {next : α → Dialogue β} (h : first.Asks)
    (hnext : ∀ a, (next a).Asks) : (first >>= next).Asks := by
  induction h with
  | done value => exact hnext value
  | send h _ ih => exact .send h ih

end Dialogue

/-- Of the requests that servers have been sent those that do more than ask. -/
def orders (sent : List Request) : List Request := sent.filter fun request => request.method != .get

theorem Dialogue.Asks.orders_run {α : Type} {dialogue : Dialogue α} (h : dialogue.Asks)
    (servers : Servers) (sent : List Request) :
    orders (dialogue.run servers sent).2 = orders sent := by
  induction h generalizing sent with
  | done value => rfl
  | send h _ ih =>
    refine (ih _ _).trans ?_
    simp [orders, h]

/-- A redirection of a request that asks asks, too. -/
theorem redirected?_asks {request next : Request} {reply : Reply} (h : request.method = .get)
    (hnext : redirected? request reply = some next) : next.method = .get := by
  unfold redirected? at hnext
  simp only [Option.bind_eq_bind, Option.pure_def] at hnext
  split at hnext
  · cases hnext
  · obtain ⟨location, -, hnext⟩ := Option.bind_eq_some_iff.1 hnext
    obtain ⟨url, -, hnext⟩ := Option.bind_eq_some_iff.1 hnext
    cases hnext
    split
    · exact h
    · rfl

theorem follow_asks {request : Request} (h : request.method = .get) (hops : Nat) :
    (follow hops request).Asks := by
  induction hops generalizing request with
  | zero => exact .send h fun _ => .done _
  | succ hops ih =>
    refine .send h fun reply => ?_
    cases reply with
    | none => exact .done _
    | some reply =>
      cases hnext : redirected? request reply with
      | none => simpa only [hnext] using .done _
      | some next => simpa only [hnext] using ih (redirected?_asks h hnext)

theorem exchange_asks {request : Request} (h : request.method = .get) : (exchange request).Asks :=
  follow_asks h 10

/-! ## Where redirections lead -/

/-- Servers that have been sent some requests lead one more, over so many redirections at most, to a
reply that redirects no further. -/
inductive Leads (servers : Servers) : Nat → List Request → Request → Reply → Prop
  | stays {hops : Nat} {sent : List Request} {request : Request} {reply : Reply}
    (replied : servers (sent ++ [request]) = some reply)
    (final : redirected? request reply = none) : Leads servers hops sent request reply
  | goesOn {hops : Nat} {sent : List Request} {request next : Request} {between reply : Reply}
    (replied : servers (sent ++ [request]) = some between)
    (redirects : redirected? request between = some next)
    (onward : Leads servers hops (sent ++ [request]) next reply) :
    Leads servers (hops + 1) sent request reply

section Redirections

variable {servers : Servers} {hops : Nat} {sent : List Request} {request : Request} {reply : Reply}

theorem leads_of_follow (h : ((follow hops request).run servers sent).1 = some reply) :
    Leads servers hops sent request reply := by
  induction hops generalizing sent request with
  | zero =>
    obtain ⟨hreplied, hfinal⟩ := Option.filter_eq_some_iff.1 h
    exact .stays hreplied (Option.isNone_iff_eq_none.1 hfinal)
  | succ hops ih =>
    rw [follow, Dialogue.run] at h
    cases hreplied : servers (sent ++ [request]) with
    | none =>
      rw [hreplied] at h
      cases h
    | some between =>
      cases hnext : redirected? request between with
      | none =>
        simp only [hreplied, hnext, Dialogue.run, Option.some.injEq] at h
        exact .stays (h ▸ hreplied) (h ▸ hnext)
      | some next =>
        simp only [hreplied, hnext] at h
        exact .goesOn hreplied hnext (ih h)

theorem Leads.follow (h : Leads servers hops sent request reply) :
    ((Http.follow hops request).run servers sent).1 = some reply := by
  induction h with
  | @stays hops _ _ _ replied final =>
    cases hops with
    | zero => simp [Http.follow, Dialogue.run, replied, final]
    | succ hops => simp only [Http.follow, Dialogue.run, replied, final]
  | goesOn replied redirects _ ih => simpa only [Http.follow, Dialogue.run, replied, redirects]

/-- An exchange has the reply to which its request is led over ten redirections at most. -/
theorem exchange_eq_some_iff : ((exchange request).run servers sent).1 = some reply ↔
    Leads servers 10 sent request reply := ⟨leads_of_follow, Leads.follow⟩

/-- Whatever comes of it, the request itself is what is sent first. -/
theorem exchange_sent (request : Request) (servers : Servers) (sent : List Request) :
    ∃ more, ((exchange request).run servers sent).2 = sent ++ request :: more := by
  have hfollow : ∀ hops request sent,
      ∃ more, ((Http.follow hops request).run servers sent).2 = sent ++ request :: more := by
    intro hops
    induction hops with
    | zero => exact fun request sent => ⟨[], rfl⟩
    | succ hops ih =>
      intro request sent
      rw [Http.follow, Dialogue.run]
      cases servers (sent ++ [request]) with
      | none => exact ⟨[], rfl⟩
      | some reply =>
        cases hnext : redirected? request reply with
        | none => exact ⟨[], by simp only [hnext, Dialogue.run]⟩
        | some next =>
          obtain ⟨more, hmore⟩ := ih next (sent ++ [request])
          refine ⟨next :: more, ?_⟩
          simp only [hnext, hmore, List.append_assoc, List.singleton_append]
  exact hfollow 10 request sent

/-- Only five statuses redirect, and only with a location. -/
theorem redirected?_eq_none
    (h : reply.status ∉ [301, 302, 303, 307, 308] ∨ reply.location = none) :
    redirected? request reply = none := by
  unfold redirected?
  rcases h with h | h
  · simp only [List.mem_cons, List.not_mem_nil, or_false, not_or] at h
    simp [h]
  · simp only [h]
    split <;> rfl

/-- A request whose own reply does not redirect is led there and nowhere else. -/
theorem leads_iff_of_final {own : Reply} (hreplied : servers (sent ++ [request]) = some own)
    (hfinal : redirected? request own = none) :
    Leads servers hops sent request reply ↔ reply = own := by
  constructor
  · intro h
    cases h with
    | stays replied _ => exact Option.some.inj (replied.symm.trans hreplied)
    | goesOn replied redirects _ =>
      cases replied.symm.trans hreplied
      cases redirects.symm.trans hfinal
  · rintro rfl
    exact .stays hreplied hfinal

end Redirections

end AccessControl.Http
