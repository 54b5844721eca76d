/-
What becomes of an accepted token when accounts are managed on an authentication server. A client
verifies tokens by the keys that it knows, and what it asks about accounts teaches it no keys and
takes none from it. Main statements: managing accounts leaves what a client knows as it is
(`after_managed`), so that an accepted token is accepted until a minute after its expiry for as long
as the client knows its key (`accepted_until_expiry`), whatever has become of its account
(`accepted_archived`).
-/
import AccessControl.Proofs.Json.Document
import AccessControl.Proofs.Token.Acceptance

namespace AccessControl

namespace Token

/-- When a token expires, by its own account. -/
def expiry? (token : String) : Option Nat := do
  (← read? Claims.decoder (← parts? token).claims).expirySeconds

/-- What a key lets pass at one moment it lets pass until a minute after the expiry. -/
theorem verify_later {expected : Expected} {now : Nat} {token subject : String} {key : Key}
    (h : verify expected now token key = .ok subject) (later : Nat) :
    verify expected later token key = .ok subject ↔
      ∃ expiry, expiry? token = some expiry ∧ later ≤ expiry + leeway := by
  obtain ⟨p, rsa, claims, hp, rfl, hsigned, hread, hfit, rfl⟩ := verify_ok_iff.1 h
  have hexpiry : expiry? token = claims.expirySeconds := by
    simp only [expiry?, hp, hread, Option.bind_eq_bind, Option.bind_some]
  rw [hexpiry, verify_ok_iff]
  constructor
  · rintro ⟨q, other, again, hq, -, -, hagain, hlater, -⟩
    cases hp.symm.trans hq
    cases hread.symm.trans hagain
    exact hlater.unexpired
  · intro hunexpired
    exact ⟨p, rsa, claims, hp, rfl, hsigned, hread,
      ⟨hunexpired, hfit.issuer, hfit.audience⟩, rfl⟩

/-- What an issuer publishes that has one key. -/
def singleKey (modulus exponent : String) : Json :=
  .object [("keys", .array [.object [("kty", .text "RSA"), ("n", .text modulus),
    ("e", .text exponent)]])]

theorem decode_singleKey (modulus exponent : String) :
    Json.Decoder.decode keySet (singleKey modulus exponent).render =
      .ok [⟨none, .rsa modulus exponent⟩] := by
  have hlegible : Json.Legible (singleKey modulus exponent) :=
    ⟨⟨⟨trivial, trivial, trivial, trivial⟩, trivial⟩, trivial⟩
  rw [Json.Decoder.decode_render keySet hlegible]
  rfl

end Token

namespace Accounts

open Http (Servers)

/-! ## Runs of calls to one client -/

/-- The calls about accounts, which the server answers; tokens are not among them. -/
def Call.Manages : Call → Prop
  | .subject _ => False
  | .create _ _ _ | .account _ | .lock _ | .unlock _ | .archive _ => True

/-- A client and what servers have been sent. -/
abbrev Session := Client × List Http.Request

namespace Session

/-- The answer to a call at a moment, and the session after it. -/
def call (s : Session) (servers : Servers) (now : Nat) (asked : Call) :
    Answer asked.Reply × Session :=
  let ((answer, client), sent) := (s.1.answer now asked).run servers s.2
  (answer, client, sent)

/-- A session after one call after the other, each at its moment. -/
def after (s : Session) (servers : Servers) (calls : List (Nat × Call)) : Session :=
  calls.foldl (fun s c => (s.call servers c.1 c.2).2) s

/-- At a moment a token is accepted for a subject. -/
def Accepts (s : Session) (servers : Servers) (now : Nat) (token subject : String) : Prop :=
  (s.call servers now (.subject token)).1 = .ok subject

variable {s : Session} {servers : Servers} {now : Nat}

/-- The client after it was asked for the subject of a token. -/
theorem call_subject (token : String) :
    (s.call servers now (.subject token)).2.1 = ((s.1.subject now token).run servers s.2).1.2 := rfl

/-- A token is accepted when the client finds its subject. -/
theorem accepts_iff {token subject : String} :
    s.Accepts servers now token subject ↔
      ((s.1.subject now token).run servers s.2).1.1 = .ok subject := .rfl

/-- A call about accounts leaves what a client knows as it is. -/
theorem call_manages {asked : Call} (h : asked.Manages) :
    (s.call servers now asked).2.1 = s.1 := by
  cases asked with
  | subject token => exact h.elim
  | create _ _ _ | account _ | lock _ | unlock _ | archive _ =>
    simp only [Session.call, Client.answer, Http.Dialogue.run_bind, Http.Dialogue.run_pure]

/-- What a client expects of tokens does not change. -/
theorem call_expected (asked : Call) : (s.call servers now asked).2.1.expected = s.1.expected := by
  cases asked with
  | subject token =>
    rw [call_subject]
    cases hheader : Token.header? token with
    | none => simp only [Client.subject, hheader, Http.Dialogue.run_pure]
    | some header =>
      by_cases halgorithm : header.algorithm = Token.accepted
      · rw [Client.run_subject hheader halgorithm]
        exact (Client.key_spec s.1 now servers s.2 header.key).2
      · simp only [Client.subject, hheader, bne_iff_ne, ne_eq, halgorithm, not_false_eq_true,
          if_true, Http.Dialogue.run_pure]
  | create _ _ _ | account _ | lock _ | unlock _ | archive _ =>
    exact congrArg Client.expected (call_manages True.intro)

/-- Managing accounts leaves what a client knows as it is. -/
theorem after_managed (calls : List (Nat × Call)) (h : ∀ c ∈ calls, c.2.Manages) :
    (s.after servers calls).1 = s.1 := by
  induction calls generalizing s with
  | nil => rfl
  | cons c calls ih =>
    have hrest := @ih (s.call servers c.1 c.2).2 fun c hc => h c (List.mem_cons_of_mem _ hc)
    exact hrest.trans (call_manages (h c List.mem_cons_self))

theorem after_expected (calls : List (Nat × Call)) :
    (s.after servers calls).1.expected = s.1.expected := by
  induction calls generalizing s with
  | nil => rfl
  | cons c calls ih => exact (@ih (s.call servers c.1 c.2).2).trans (call_expected c.2)

/-! ## Acceptance -/

/-- What a client knows of the key that a token names. -/
def keyOf (s : Session) (token : String) : Option (Answer (Option Token.Key)) :=
  (Token.header? token).map fun header => Client.selected s.1.known header.key

/-- A token whose key a client knows is verified with that key. -/
theorem accepts_iff_verify {token subject : String} {header : Token.Header} {key : Token.Key}
    (hheader : Token.header? token = some header) (halgorithm : header.algorithm = Token.accepted)
    (hkey : s.keyOf token = some (.ok (some key))) :
    s.Accepts servers now token subject ↔
      Token.verify s.1.expected now token key = .ok subject := by
  rw [keyOf, hheader, Option.map_some, Option.some.injEq] at hkey
  have hknown : s.1.key now header.key = pure (.ok key, s.1) := by
    unfold Client.known at hkey
    simp [Client.key, hkey]
  rw [accepts_iff, Client.run_subject hheader halgorithm, hknown]
  exact mapError_ok_iff

/-- A token that is accepted was signed in the accepted way with a key that the client knows by
then. -/
theorem known_of_accepts {token subject : String} (h : s.Accepts servers now token subject) :
    ∃ header key, Token.header? token = some header ∧ header.algorithm = Token.accepted ∧
      (s.call servers now (.subject token)).2.keyOf token = some (.ok (some key)) ∧
      Token.verify s.1.expected now token key = .ok subject := by
  rw [accepts_iff] at h
  cases hheader : Token.header? token with
  | none => simp [Client.subject, hheader] at h
  | some header =>
    by_cases halgorithm : header.algorithm = Token.accepted
    · rw [Client.run_subject hheader halgorithm] at h
      obtain ⟨key, hkey, hverify⟩ := bind_ok_iff.1 h
      refine ⟨header, key, rfl, halgorithm, ?_, mapError_ok_iff.1 hverify⟩
      rw [keyOf, hheader, Option.map_some, call_subject, Client.run_subject hheader halgorithm]
      exact congrArg some (((Client.key_spec s.1 now servers s.2 header.key).1 key).1 hkey)
    · simp [Client.subject, hheader, halgorithm] at h

/-! ## A new client -/

/-- Servers that do all that they are told, and always answer the same. -/
def agreeable (body : String) : Servers := fun _ => some ⟨200, none, body⟩

/-- A client that has not asked for anything yet. -/
def newSession : Session := (.ofSettings Client.sampleClient.settings Client.defaultRefresh, [])

theorem run_send (body : String) (request : Http.Request) (sent : List Http.Request) :
    (Client.send (some request)).run (agreeable body) sent =
      (.ok ⟨200, none, body⟩, sent ++ [request]) := rfl

/-- A new client asks for the key of a token that names none, and keeps the keys that it gets. -/
theorem run_key {body : String} {published : List Token.Published} {key : Token.Key}
    (hbody : Json.Decoder.decode Token.keySet body = .ok published)
    (hselected : Client.selected published none = .ok (some key)) (sent : List Http.Request) :
    ((newSession.1.key 0 none).run (agreeable body) sent).1 =
      (.ok key, { newSession.1 with keys := some ⟨published, 0⟩ }) := by
  have hurl : (Http.Url.ofText?
      (Text.dropEnd '/' newSession.1.settings.issuer ++ "/jwks")).isSome := by decide +kernel
  obtain ⟨url, hurl⟩ := Option.isSome_iff_exists.1 hurl
  have hfetch : (newSession.1.fetch.run (agreeable body) sent).1 = .ok published := by
    unfold Client.fetch
    simp only [hurl, Option.map_some, Http.Dialogue.run_bind, run_send, hbody,
      Http.Dialogue.run_pure]
  have hnone : Client.selected ((newSession.1.keys.map Keys.published).getD []) none = .ok none :=
    rfl
  have hstale : newSession.1.isFresh 0 = false := rfl
  unfold Client.key
  simp only [hnone, hstale, Bool.false_eq_true, if_false, Http.Dialogue.run_bind, hfetch, hselected,
    Http.Dialogue.run_pure]

/-- A new client accepts a token that the first key of its issuer has signed, and knows the keys of
its issuer by then. -/
theorem accepts_first {body token subject : String} {published : List Token.Published}
    {key : Token.Key} (hbody : Json.Decoder.decode Token.keySet body = .ok published)
    (hselected : Client.selected published none = .ok (some key))
    (hheader : Token.header? token = some ⟨Token.accepted, none⟩)
    (hverify : Token.verify newSession.1.expected 0 token key = .ok subject) :
    newSession.Accepts (agreeable body) 0 token subject ∧
      (newSession.call (agreeable body) 0 (.subject token)).2.1 =
        { newSession.1 with keys := some ⟨published, 0⟩ } := by
  have hrun : ((newSession.1.subject 0 token).run (agreeable body) newSession.2).1 = _ :=
    Client.run_subject hheader rfl
  rw [run_key hbody hselected] at hrun
  constructor
  · rw [accepts_iff, hrun]
    exact mapError_ok_iff.2 hverify
  · rw [call_subject, hrun]

/-- Servers that do all that they are told archive an account. -/
theorem archived_agreed {body : String} (hsettings : s.1.settings = newSession.1.settings) :
    (s.call (agreeable body) 0 (.archive 17)).1 = .ok () := by
  have hrequest : (newSession.1.request? .delete (Client.path 17 "")).isSome := by decide +kernel
  have hsame : s.1.request? .delete (Client.path 17 "") =
      newSession.1.request? .delete (Client.path 17 "") := by
    unfold Client.request?
    rw [hsettings]
  obtain ⟨request, hrequest⟩ := Option.isSome_iff_exists.1 hrequest
  simp only [Session.call, Client.answer, Client.order, hsame, hrequest, Http.Dialogue.run_bind,
    run_send, Http.Dialogue.run_pure]
  rfl

/-- The key has signed a token about the account of the number 17 that names neither an issuer nor
an audience. -/
theorem verify_silent :
    Token.verify newSession.1.expected 0 Client.silentParts.token
      (.rsa ⟨Client.wideBytes Client.sampleModulus, [1, 0, 1]⟩) = .ok (toString (17 : Int)) := by
  have hread : (Token.read? Token.Claims.decoder Client.silentParts.claims).map
      (fun c => (c.subject, c.expirySeconds, c.issuer.isNone, c.audience.isNone)) =
        some ("17", some 4102444800, true, true) := by decide +kernel
  obtain ⟨claims, hclaims, h⟩ := Option.map_eq_some_iff.1 hread
  simp only [Prod.mk.injEq, Option.isNone_iff_eq_none] at h
  obtain ⟨hsubject, hexpiry, hissuer, haudience⟩ := h
  have hfit : claims.Fit newSession.1.expected 0 :=
    ⟨⟨_, hexpiry, Nat.zero_le _⟩, by simp [hissuer, Token.names?],
      by simp [haudience, Token.names?]⟩
  exact Token.verify_ok_iff.2
    ⟨_, _, _, Client.parts?_silent, rfl, Client.signedBy_sample, hclaims, hfit, hsubject⟩

theorem header?_silent : Token.header? Client.silentParts.token = some ⟨"RS256", none⟩ :=
  Token.header?_eq_some_iff.2 ⟨_, Client.parts?_silent, by decide +kernel⟩

/-- Servers of an issuer with the one key that has signed the token. -/
def sampleServers : Servers :=
  agreeable (Token.singleKey (Client.wideText Client.sampleModulus) "AQAB").render

theorem selected_sample : Client.selected [Client.samplePublished] none =
    .ok (some (.rsa ⟨Client.wideBytes Client.sampleModulus, [1, 0, 1]⟩)) :=
  Client.selected_first Client.key?_sample

theorem accepts_silent :
    newSession.Accepts sampleServers 0 Client.silentParts.token (toString (17 : Int)) ∧
      (newSession.call sampleServers 0 (.subject Client.silentParts.token)).2.1 =
        { newSession.1 with keys := some ⟨[Client.samplePublished], 0⟩ } := by
  have hbody : Json.Decoder.decode Token.keySet
      (Token.singleKey (Client.wideText Client.sampleModulus) "AQAB").render =
        .ok [Client.samplePublished] := Token.decode_singleKey _ _
  unfold sampleServers
  exact accepts_first hbody selected_sample header?_silent verify_silent

/-! ## What archiving does -/

/-- A token that was accepted once is accepted until a minute after its expiry, whatever is done
with accounts and whichever accounts are archived, for as long as the client knows the key that the
token names. -/
theorem accepted_until_expiry (s : Session) (servers : Servers) (now : Nat) (token subject : String)
    (accepted : s.Accepts servers now token subject) (calls : List (Nat × Call))
    (kept : (∀ c ∈ calls, c.2.Manages) ∨
      ((s.call servers now (.subject token)).2.after servers calls).keyOf token =
        (s.call servers now (.subject token)).2.keyOf token)
    (later : Nat) :
    ((s.call servers now (.subject token)).2.after servers calls).Accepts servers later token
        subject ↔
      ∃ expiry, Token.expiry? token = some expiry ∧ later ≤ expiry + Token.leeway := by
  obtain ⟨header, key, hheader, halgorithm, hkey, hverify⟩ := known_of_accepts accepted
  have hsame : ((s.call servers now (.subject token)).2.after servers calls).keyOf token =
      (s.call servers now (.subject token)).2.keyOf token := by
    refine kept.elim (fun hmanages => ?_) id
    unfold keyOf
    rw [after_managed calls hmanages]
  rw [accepts_iff_verify hheader halgorithm (hsame.trans hkey), after_expected,
    call_expected (.subject token)]
  exact Token.verify_later hverify later

/-- The account of a token is archived, and the token is accepted for a minute after its expiry. -/
theorem accepted_until_expiry_silent :
    ((newSession.call sampleServers 0 (.subject Client.silentParts.token)).2.after sampleServers
      [(0, .archive 17)]).Accepts sampleServers 4102444860 Client.silentParts.token
        (toString (17 : Int)) := by
  have hmanages : ∀ c ∈ [((0 : Nat), Call.archive 17)], c.2.Manages := by
    intro c hc
    rw [List.mem_singleton.1 hc]
    exact True.intro
  have hexpiry : Token.expiry? Client.silentParts.token = some 4102444800 := by
    simp only [Token.expiry?, Client.parts?_silent, Option.bind_eq_bind, Option.bind_some]
    decide +kernel
  exact (accepted_until_expiry newSession sampleServers 0 _ _ accepts_silent.1 [(0, .archive 17)]
    (.inl hmanages) 4102444860).2 ⟨4102444800, hexpiry, by decide⟩

/-- The account of a token that was accepted has been archived with success, and the token is still
accepted. -/
theorem accepted_archived :
    newSession.Accepts sampleServers 0 Client.silentParts.token (toString (17 : Int)) ∧
      ∃ s, s = (newSession.call sampleServers 0 (.subject Client.silentParts.token)).2 ∧
        (s.call sampleServers 0 (.archive 17)).1 = .ok () ∧
        (s.call sampleServers 0 (.archive 17)).2.Accepts sampleServers 0 Client.silentParts.token
          (toString (17 : Int)) := by
  obtain ⟨haccepts, hclient⟩ := accepts_silent
  refine ⟨haccepts, _, rfl, ?_⟩
  generalize (newSession.call sampleServers 0 (.subject Client.silentParts.token)).2 = s
    at hclient ⊢
  have hmanages : (Call.archive 17).Manages := True.intro
  have hsame : (s.call sampleServers 0 (.archive 17)).2.1 = s.1 := call_manages hmanages
  have hkey : (s.call sampleServers 0 (.archive 17)).2.keyOf Client.silentParts.token =
      some (.ok (some (.rsa ⟨Client.wideBytes Client.sampleModulus, [1, 0, 1]⟩))) := by
    rw [keyOf, header?_silent, Option.map_some, hsame, hclient]
    exact congrArg some selected_sample
  refine ⟨archived_agreed (by rw [hclient]), ?_⟩
  rw [accepts_iff_verify header?_silent rfl hkey, hsame, hclient]
  exact verify_silent

end Session

end Accounts

end AccessControl
