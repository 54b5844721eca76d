/-
How often an issuer is asked for its keys. A client asks when a token names a key that it does not
know and it has not asked for some time (`Asks`). It keeps the keys that it gets, unless the one
that is needed is among them and cannot be read, in which case it asks again the next time
(`asked_again`). Main statement: for the refresh interval after it has kept keys, a client answers
from them about every token, and nothing is sent (`rate_limited`).
-/
import AccessControl.Proofs.Token.Revocation

namespace AccessControl.Accounts

open Http (Leads Servers Url)

namespace Client

/-! ## Answers from known keys -/

/-- What a client that expects something of tokens answers about one from these keys alone. -/
def fromKeys (expected : Token.Expected) (published : List Token.Published) (now : Nat)
    (token : String) : Answer String :=
  match Token.header? token with
  | none => .error (.unauthenticated s!"malformed token: {Failure.details}")
  | some header =>
    if header.algorithm ≠ Token.accepted then
      .error (.unauthenticated "unsupported token algorithm")
    else match selected published header.key with
      | .error failure => .error failure
      | .ok none => .error unknownKey
      | .ok (some key) => (Token.verify expected now token key).mapError Token.Fault.failure

theorem fromKeys_unknown {expected : Token.Expected} {published : List Token.Published} {now : Nat}
    {token : String} {id : Option String}
    (hheader : Token.header? token = some ⟨Token.accepted, id⟩)
    (hnone : Token.select published id = none) :
    fromKeys expected published now token =
      .error (.unauthenticated "token signed with unknown key") := by
  simp [fromKeys, hheader, selected, hnone, unknownKey]

/-- At a moment a token makes a client ask for the key of a name: the client does not know the key,
and it has not asked for a while. -/
structure Asks (client : Client) (now : Nat) (token : String) (id : Option String) : Prop where
  headed : Token.header? token = some ⟨Token.accepted, id⟩
  unknown : selected client.known id = .ok none
  stale : client.isFresh now = false

/-- No token makes a client ask that has asked a short time ago. -/
theorem not_asks_of_fresh {client : Client} {now : Nat} {token : String}
    (h : client.isFresh now = true) (id : Option String) : ¬ client.Asks now token id := by
  intro hasks
  rw [hasks.stale] at h
  cases h

/-- Among these keys the one of a name can be read, if it is there. -/
def Readable (published : List Token.Published) (id : Option String) : Prop :=
  ∀ key, Token.select published id = some key → key.key? ≠ none

theorem readable_iff {published : List Token.Published} {id : Option String} :
    Readable published id ↔ ∃ key, selected published id = .ok key := by
  unfold Readable selected
  cases Token.select published id with
  | none => simp
  | some key => cases h : key.key? <;> simp [h]

/-- What a client knows that got these keys at a moment when it needed the one of a name. -/
def keeping (client : Client) (now : Nat) (id : Option String) (published : List Token.Published) :
    Client :=
  match selected published id with
  | .error _ => client
  | .ok _ => { client with keys := some ⟨published, now⟩ }

section Keeping

variable {client : Client} {now : Nat} {id : Option String} {published : List Token.Published}

theorem keeping_readable (h : Readable published id) :
    client.keeping now id published = { client with keys := some ⟨published, now⟩ } := by
  obtain ⟨key, hkey⟩ := readable_iff.1 h
  simp only [keeping, hkey]

theorem keeping_unreadable (h : ¬ Readable published id) :
    client.keeping now id published = client := by
  unfold keeping
  cases hselected : selected published id with
  | error failure => rfl
  | ok key => exact absurd (readable_iff.2 ⟨key, hselected⟩) h

theorem isFresh_kept {later : Nat} (h : now ≤ later ∧ later < now + client.refresh) :
    isFresh { client with keys := some ⟨published, now⟩ } later = true := by
  simp only [isFresh, decide_eq_true_eq]
  omega

end Keeping

/-! ## One token -/

variable {client : Client} {now : Nat} {servers : Servers} {sent : List Http.Request}

/-- A client that knows the key, or has asked a short time ago, looks no further than what it knows.
-/
theorem key_quiet {id : Option String}
    (h : selected client.known id = .ok none → client.isFresh now = true) :
    client.key now id = pure
      (match selected client.known id with
        | .error failure => .error failure
        | .ok (some key) => .ok key
        | .ok none => .error unknownKey, client) := by
  unfold key known at *
  rcases hselected : selected ((client.keys.map Keys.published).getD []) id with failure | _ | key
  · rfl
  · simp [h hselected]
  · rfl

/-- A token that does not make the client ask is answered from what the client knows. -/
theorem subject_quiet {token : String} (h : ∀ id, ¬ client.Asks now token id) :
    (client.subject now token).run servers sent =
      ((fromKeys client.expected client.known now token, client), sent) := by
  unfold Client.subject fromKeys
  cases hheader : Token.header? token with
  | none => rfl
  | some header =>
    obtain ⟨algorithm, id⟩ := header
    by_cases halgorithm : algorithm = Token.accepted
    · subst halgorithm
      have hquiet : selected client.known id = .ok none → client.isFresh now = true := by
        intro hunknown
        by_contra hstale
        exact h id ⟨hheader, hunknown, Bool.eq_false_iff.2 hstale⟩
      simp only [bne_self_eq_false, Bool.false_eq_true, if_false, key_quiet hquiet, ne_eq,
        not_true_eq_false]
      rcases selected client.known id with failure | _ | key <;> rfl
    · simp [halgorithm]

/-- A token that makes the client ask is answered from the keys that the issuer answers with. -/
theorem subject_asked {token : String} {id : Option String} (h : client.Asks now token id) :
    (client.subject now token).run servers sent =
      let asked := client.fetch.run servers sent
      (match asked.1 with
        | .error failure => (.error failure, client)
        | .ok published =>
          (fromKeys client.expected published now token, client.keeping now id published),
        asked.2) := by
  have hunknown : selected ((client.keys.map Keys.published).getD []) id = .ok none := h.unknown
  simp only [Client.subject, key, fromKeys, keeping, h.headed, hunknown, h.stale,
    bne_self_eq_false, Bool.false_eq_true, if_false, ne_eq, not_true_eq_false,
    Http.Dialogue.run_bind]
  rcases client.fetch.run servers sent with ⟨failure | published, sent'⟩
  · rfl
  · dsimp only
    rcases selected published id with failure | _ | key <;> rfl

/-! ## One request -/

theorem run_send (request : Http.Request) :
    (send (some request)).run servers sent =
      let asked := (Http.exchange request).run servers sent
      (match asked.1 with
        | none => .error brokenOff
        | some reply =>
          if Http.Status.isSuccess reply.status then .ok reply else .error (failureOf reply),
        asked.2) := by
  simp only [send, Http.Dialogue.run_bind]
  rcases (Http.exchange request).run servers sent with ⟨_ | reply, sent'⟩ <;> rfl

/-- The address at which the issuer publishes its keys. -/
def keysAt? (client : Client) : Option Url :=
  Url.ofText? (Text.dropEnd '/' client.settings.issuer ++ "/jwks")

/-- The issuer, asked for its keys, answers with these. -/
def Answered (client : Client) (servers : Servers) (sent : List Http.Request)
    (published : List Token.Published) : Prop :=
  ∃ url reply, client.keysAt? = some url ∧ Leads servers 10 sent (.bare .get url) reply ∧
    Http.Status.isSuccess reply.status = true ∧
    Json.Decoder.decode Token.keySet reply.body = .ok published

theorem run_fetch {url : Url} (hurl : client.keysAt? = some url) :
    client.fetch.run servers sent =
      let asked := (Http.exchange (.bare .get url)).run servers sent
      (match asked.1 with
        | none => .error brokenOff
        | some reply =>
          if Http.Status.isSuccess reply.status then
            (Json.Decoder.decode Token.keySet reply.body).mapError fun _ =>
              .internal s!"authn key set: {Failure.details}"
          else .error (failureOf reply), asked.2) := by
  unfold keysAt? at hurl
  simp only [fetch, hurl, Option.map_some, Http.Dialogue.run_bind, run_send]
  rcases (Http.exchange (.bare .get url)).run servers sent with ⟨_ | reply, sent'⟩
  · rfl
  · cases hsuccess : Http.Status.isSuccess reply.status with
    | false => simp [hsuccess]
    | true =>
      simp only [hsuccess, if_true]
      cases Json.Decoder.decode Token.keySet reply.body <;> rfl

theorem fetch_ok_iff {published : List Token.Published} :
    (client.fetch.run servers sent).1 = .ok published ↔
      client.Answered servers sent published := by
  cases hurl : client.keysAt? with
  | none =>
    refine iff_of_false ?_ ?_
    · unfold keysAt? at hurl
      simp [fetch, hurl, send, Http.Dialogue.run]
    · rintro ⟨url, reply, hsome, -⟩
      cases hurl.symm.trans hsome
  | some url =>
    rw [run_fetch hurl]
    dsimp only
    constructor
    · intro h
      cases hreply : ((Http.exchange (.bare .get url)).run servers sent).1 with
      | none => simp [hreply] at h
      | some reply =>
        rw [hreply] at h
        cases hsuccess : Http.Status.isSuccess reply.status with
        | false => simp [hsuccess] at h
        | true =>
          simp only [hsuccess, if_true] at h
          exact ⟨url, reply, hurl, Http.exchange_eq_some_iff.1 hreply, hsuccess,
            mapError_ok_iff.1 h⟩
    · rintro ⟨other, reply, hother, hleads, hsuccess, hread⟩
      cases hurl.symm.trans hother
      simp only [Http.exchange_eq_some_iff.2 hleads, hsuccess, if_true]
      exact mapError_ok_iff.2 hread

end Client

namespace Session

variable {s : Session} {servers : Servers} {now : Nat} {token : String} {id : Option String}
  {published : List Token.Published}

/-! ## One call -/

/-- At a moment a token makes the client ask, and the issuer answers with keys that can be decoded.
-/
structure Obtains (s : Session) (servers : Servers) (now : Nat) (token : String)
    (id : Option String) (published : List Token.Published) : Prop where
  asks : s.1.Asks now token id
  answered : s.1.Answered servers s.2 published

theorem call_token : s.call servers now (.subject token) =
    (((s.1.subject now token).run servers s.2).1.1, ((s.1.subject now token).run servers s.2).1.2,
      ((s.1.subject now token).run servers s.2).2) := rfl

theorem call_quiet (h : ∀ id, ¬ s.1.Asks now token id) :
    s.call servers now (.subject token) =
      (Client.fromKeys s.1.expected s.1.known now token, s) := by
  rw [call_token, Client.subject_quiet h]

theorem call_asked (h : s.1.Asks now token id) {url : Url} (hurl : s.1.keysAt? = some url) :
    (s.call servers now (.subject token)).2.2 =
      ((Http.exchange (.bare .get url)).run servers s.2).2 := by
  rw [call_token, Client.subject_asked h, Client.run_fetch hurl]

theorem call_obtains (h : s.Obtains servers now token id published) :
    (s.call servers now (.subject token)).1 = Client.fromKeys s.1.expected published now token ∧
      (s.call servers now (.subject token)).2.1 = s.1.keeping now id published := by
  have hrun : ((s.1.subject now token).run servers s.2).1 =
      (Client.fromKeys s.1.expected published now token, s.1.keeping now id published) := by
    simp only [Client.subject_asked h.asks, Client.fetch_ok_iff.2 h.answered]
  exact ⟨congrArg Prod.fst hrun, congrArg Prod.snd hrun⟩

/-- A client that has asked a short time ago keeps what it knows, whatever is called. -/
theorem call_fresh (asked : Call) (h : s.1.isFresh now = true) :
    (s.call servers now asked).2.1 = s.1 := by
  cases asked with
  | subject token =>
    rw [call_quiet (Client.not_asks_of_fresh h)]
  | create _ _ _ | account _ | lock _ | unlock _ | archive _ => exact call_manages True.intro

/-! ## An interval of calls -/

theorem after_fresh (servers : Servers) (calls : List (Nat × Call))
    (h : ∀ c ∈ calls, s.1.isFresh c.1 = true) : (s.after servers calls).1 = s.1 := by
  induction calls generalizing s with
  | nil => rfl
  | cons c calls ih =>
    have hfirst : (s.call servers c.1 c.2).2.1 = s.1 := call_fresh c.2 (h c List.mem_cons_self)
    have hrest := @ih (s.call servers c.1 c.2).2 fun d hd => by
      rw [hfirst]
      exact h d (List.mem_cons_of_mem _ hd)
    exact hrest.trans hfirst

/-- Tokens that are looked at shortly after a client has asked have nothing sent. -/
theorem after_silent (calls : List (Nat × Call)) (h : ∀ c ∈ calls, s.1.isFresh c.1 = true)
    (htokens : ∀ c ∈ calls, ∃ token, c.2 = .subject token) : s.after servers calls = s := by
  induction calls with
  | nil => rfl
  | cons c calls ih =>
    obtain ⟨token, htoken⟩ := htokens c List.mem_cons_self
    have hfirst : (s.call servers c.1 c.2).2 = s := by
      rw [htoken, call_quiet (Client.not_asks_of_fresh (h c List.mem_cons_self))]
    have hrest := ih (fun d hd => h d (List.mem_cons_of_mem _ hd))
      fun d hd => htokens d (List.mem_cons_of_mem _ hd)
    rw [Session.after, List.foldl_cons, hfirst]
    exact hrest

/-- All calls fall into the refresh interval that begins at a moment. -/
def Within (s : Session) (now : Nat) (calls : List (Nat × Call)) : Prop :=
  ∀ c ∈ calls, now ≤ c.1 ∧ c.1 < now + s.1.refresh

/-- How often a client asks the issuer, and from what it answers about tokens. -/
structure RateLimited (s : Session) (servers : Servers) : Prop where
  /-- A token that does not make the client ask is answered from what the client knows, and nothing
  is sent. -/
  quiet : ∀ now token, (∀ id, ¬ s.1.Asks now token id) →
    s.call servers now (.subject token) = (Client.fromKeys s.1.expected s.1.known now token, s)
  /-- A token that makes the client ask has the request for the keys sent. -/
  asks : ∀ now token id url, s.1.Asks now token id → s.1.keysAt? = some url →
    ∃ more, (s.call servers now (.subject token)).2.2 = s.2 ++ .bare .get url :: more
  /-- The token itself is answered from the keys that the issuer answers with. -/
  first : ∀ now token id published, s.Obtains servers now token id published →
    (s.call servers now (.subject token)).1 = Client.fromKeys s.1.expected published now token
  /-- These keys are kept if the one that is needed can be read or is not there: whatever is called
  within the interval, every other token in it is answered from them, and nothing is sent for it. -/
  kept : ∀ now token id published, s.Obtains servers now token id published →
    Client.Readable published id → ∀ calls, s.Within now calls →
    ∀ later other, s.Within now [(later, .subject other)] →
    ((s.call servers now (.subject token)).2.after servers calls).call servers later
        (.subject other) =
      (Client.fromKeys s.1.expected published later other,
        (s.call servers now (.subject token)).2.after servers calls)
  /-- Where only tokens are looked at within the interval, nothing at all is sent. -/
  silent : ∀ now token id published, s.Obtains servers now token id published →
    Client.Readable published id → ∀ calls, s.Within now calls →
    (∀ c ∈ calls, ∃ other, c.2 = .subject other) →
    (s.call servers now (.subject token)).2.after servers calls =
      (s.call servers now (.subject token)).2
  /-- A name that is not among the keys is the name of an unknown key. -/
  unknown : ∀ now token id published, Token.header? token = some ⟨Token.accepted, id⟩ →
    Token.select published id = none →
    Client.fromKeys s.1.expected published now token =
      .error (.unauthenticated "token signed with unknown key")
  /-- Keys of which the one that is needed cannot be read are not kept, and the same token makes the
  client ask again. -/
  forgotten : ∀ now token id published, s.Obtains servers now token id published →
    ¬ Client.Readable published id →
    (s.call servers now (.subject token)).2.1 = s.1 ∧
      (s.call servers now (.subject token)).2.1.Asks now token id

theorem isFresh_obtained {later : Nat} (h : s.Obtains servers now token id published)
    (hreadable : Client.Readable published id) (hlater : now ≤ later ∧ later < now + s.1.refresh) :
    (s.call servers now (.subject token)).2.1.isFresh later = true := by
  rw [(call_obtains h).2, Client.keeping_readable hreadable]
  exact Client.isFresh_kept hlater

/-- Whatever servers do, a client that has kept keys asks for no more within the refresh interval.
-/
theorem rate_limited (s : Session) (servers : Servers) : RateLimited s servers where
  quiet _ _ := call_quiet
  asks now token id url h hurl := by
    rw [call_asked h hurl]
    exact Http.exchange_sent _ _ _
  first _ _ _ _ h := (call_obtains h).1
  kept now token id published h hreadable calls hcalls later other hlater := by
    have hkept := (call_obtains h).2.trans (Client.keeping_readable hreadable)
    have hfresh : ∀ moment, now ≤ moment ∧ moment < now + s.1.refresh →
        (s.call servers now (.subject token)).2.1.isFresh moment = true :=
      fun _ => isFresh_obtained h hreadable
    have hafter := after_fresh servers calls fun c hc => hfresh _ (hcalls c hc)
    -- The calls in between are over, and the keys are still those that the first call kept.
    have hstill : ((s.call servers now (.subject token)).2.after servers calls).1.isFresh later =
        true := by
      rw [hafter]
      exact hfresh later (hlater _ List.mem_cons_self)
    rw [call_quiet (Client.not_asks_of_fresh hstill), hafter, hkept]
    rfl
  silent now token id published h hreadable calls hcalls htokens :=
    after_silent calls (fun c hc => isFresh_obtained h hreadable (hcalls c hc)) htokens
  unknown _ _ _ _ := Client.fromKeys_unknown
  forgotten now token id published h hunreadable := by
    have hsame := (call_obtains h).2.trans (Client.keeping_unreadable hunreadable)
    exact ⟨hsame, hsame ▸ h.asks⟩

/-! ## Keys that cannot be read -/

/-- Servers of an issuer whose one key has a modulus that cannot be decoded. -/
def unreadableServers : Servers := agreeable (Token.singleKey "!" "AQAB").render

/-- The issuer has answered with a key set that can be decoded, and within the refresh interval the
same token has it asked again. -/
theorem asked_again : ∃ url published,
    newSession.Obtains unreadableServers 0 Client.silentParts.token none published ∧
      newSession.Within 0 [(1, .subject Client.silentParts.token)] ∧
      (newSession.call unreadableServers 0 (.subject Client.silentParts.token)).2.2 =
        [.bare .get url] ∧
      ((newSession.call unreadableServers 0 (.subject Client.silentParts.token)).2.call
        unreadableServers 1 (.subject Client.silentParts.token)).2.2 =
          [.bare .get url, .bare .get url] := by
  have hurl : newSession.1.keysAt?.isSome := by decide +kernel
  obtain ⟨url, hurl⟩ := Option.isSome_iff_exists.1 hurl
  have hasks : ∀ now, newSession.1.Asks now Client.silentParts.token none :=
    fun _ => ⟨header?_silent, rfl, rfl⟩
  have hobtains : newSession.Obtains unreadableServers 0 Client.silentParts.token none
      [⟨none, .rsa "!" "AQAB"⟩] :=
    ⟨hasks 0, url, _, hurl, .stays rfl (Http.redirected?_eq_none (.inr rfl)), rfl,
      Token.decode_singleKey _ _⟩
  have hunreadable : ¬ Client.Readable [⟨none, .rsa "!" "AQAB"⟩] none :=
    fun h => h _ rfl (by decide +kernel)
  have hsame := (call_obtains hobtains).2.trans (Client.keeping_unreadable hunreadable)
  have hsent : (newSession.call unreadableServers 0 (.subject Client.silentParts.token)).2.2 =
      [.bare .get url] := call_asked (hasks 0) hurl
  refine ⟨url, _, hobtains, ?_, hsent, ?_⟩
  · intro c hc
    cases List.mem_singleton.1 hc
    decide
  · -- The client is as it was before the first call.
    generalize (newSession.call unreadableServers 0 (.subject Client.silentParts.token)).2 = s
      at hsame hsent ⊢
    rw [call_asked (by rw [hsame]; exact hasks 1) (by rw [hsame]; exact hurl), hsent]
    rfl

end Session

end AccessControl.Accounts
