/-
What a token has shown when it is accepted. Main statements: which tokens a key lets pass
(`verify_ok_iff`), and that a client accepts a token for a subject exactly when there is evidence
for it under the keys that the client then knows (`subject_ok_iff`). A claim about the issuer or
the audience is part of the evidence only if the token makes it.
-/
import AccessControl.Accounts.Client
import AccessControl.Proofs.Http
import Mathlib.Logic.Basic
import Mathlib.Logic.Function.Iterate

namespace AccessControl

namespace Digest

theorem powMod_two_pow (k base modulus : Nat) :
    powMod base (Nat.pow 2 k) modulus = (fun b => b * b % modulus)^[k] base % modulus := by
  induction k generalizing base with
  | zero => rw [powMod_eq]; simp
  | succ k ih =>
    rw [Function.iterate_succ_apply, ← ih, powMod_eq, powMod_eq]
    simp only [Nat.pow_eq]
    rw [← Nat.pow_mod, ← Nat.pow_two, ← Nat.pow_mul, ← Nat.pow_succ']

theorem powMod_succ (base exponent modulus : Nat) :
    powMod base (exponent + 1) modulus = base * powMod base exponent modulus % modulus := by
  simp only [powMod_eq, Nat.pow_eq]
  rw [Nat.pow_succ', Nat.mul_mod_mod]

end Digest

namespace Token

/-! ## One token and one key -/

/-- The token of some parts. -/
def Parts.token (p : Parts) : String := s!"{p.header}.{p.claims}.{p.signature}"

theorem parts?_token {p : Parts} (hheader : '.' ∉ p.header.toList) (hclaims : '.' ∉ p.claims.toList)
    (hsignature : '.' ∉ p.signature.toList) : parts? p.token = some p := by
  have htoken : p.token.toList.splitOn '.' =
      [p.header.toList, p.claims.toList, p.signature.toList] := by
    have h : p.token.toList =
        ['.'].intercalate [p.header.toList, p.claims.toList, p.signature.toList] := by
      simp [Parts.token, toString, List.intercalate]
    rw [h, List.splitOn_intercalate _ (by simp [hheader, hclaims, hsignature]) (by simp)]
  simp [parts?, Text.segments, htoken]

theorem key?_rsa {id : Option String} {modulus exponent : String} {n e : List UInt8}
    (hn : Text.Base64.decodeForAddresses? modulus = some n)
    (he : Text.Base64.decodeForAddresses? exponent = some e) :
    Published.key? ⟨id, .rsa modulus exponent⟩ = some (.rsa ⟨n, e⟩) := by
  simp [Published.key?, hn, he]

/-- The signature of a token was made with the key that belongs to this one. -/
def Parts.SignedBy (p : Parts) (key : Digest.PublicKey) : Prop :=
  ∃ signature, Text.Base64.decodeForAddresses? p.signature = some signature ∧
    key.verifies p.signed signature = true

theorem checkSignature_ok_iff {p : Parts} {key : Key} :
    checkSignature p key = .ok () ↔ ∃ rsa, key = .rsa rsa ∧ p.SignedBy rsa := by
  unfold checkSignature Parts.SignedBy
  cases key with
  | other => simp
  | rsa rsa =>
    cases Text.Base64.decodeForAddresses? p.signature with
    | none => simp
    | some signature => simp

/-- Claims fit what is expected: they have not expired, and what they say about the issuer and the
audience, if they say anything, names what is expected. -/
structure Claims.Fit (expected : Expected) (now : Nat) (claims : Claims) : Prop where
  unexpired : ∃ expiry, claims.expirySeconds = some expiry ∧ now ≤ expiry + leeway
  issuer : ∀ names, names? claims.issuer = some names → expected.issuer ∈ names
  audience : expected.audiences ≠ [] → ∀ names, names? claims.audience = some names →
    ∃ name ∈ names, name ∈ expected.audiences

theorem allows_iff {expected : List String} {claim : Option Json} :
    allows expected claim = true ↔
      ∀ names, names? claim = some names → ∃ name ∈ names, name ∈ expected := by
  unfold allows
  cases names? claim with
  | none => simp
  | some names => simp

theorem checkClaims_ok_iff {expected : Expected} {now : Nat} {claims : Claims} :
    checkClaims expected now claims = .ok () ↔ claims.Fit expected now := by
  have hissuer : allows [expected.issuer] claims.issuer = true ↔
      ∀ names, names? claims.issuer = some names → expected.issuer ∈ names := by
    simp [allows_iff]
  have haudience : (expected.audiences.isEmpty || allows expected.audiences claims.audience) =
      true ↔ (expected.audiences ≠ [] → ∀ names, names? claims.audience = some names →
        ∃ name ∈ names, name ∈ expected.audiences) := by
    rw [Bool.or_eq_true, allows_iff, List.isEmpty_iff, or_iff_not_imp_left]
  unfold checkClaims
  cases he : claims.expirySeconds with
  | none => exact ⟨nofun, fun h => by simpa [he] using h.unexpired⟩
  | some expiry =>
    by_cases hexp : expiry < now - leeway
    · simp only [hexp, if_true]
      refine ⟨nofun, fun h => ?_⟩
      obtain ⟨e, he', hle⟩ := h.unexpired
      cases he.symm.trans he'
      omega
    · have hle : now ≤ expiry + leeway := by omega
      by_cases hi : allows [expected.issuer] claims.issuer = true
      · by_cases ha : (expected.audiences.isEmpty ||
            allows expected.audiences claims.audience) = true
        · simp only [hexp, if_false, hi, ha]
          exact ⟨fun _ => ⟨⟨expiry, he, hle⟩, hissuer.1 hi, haudience.1 ha⟩, fun _ => rfl⟩
        · simp only [hexp, if_false, hi, ha]
          exact ⟨nofun, fun h => absurd (haudience.2 h.audience) ha⟩
      · simp only [hexp, if_false, hi]
        exact ⟨nofun, fun h => absurd (hissuer.2 h.issuer) hi⟩

theorem claims_ok_iff {p : Parts} {c : Claims} :
    claims p = .ok c ↔ read? Claims.decoder p.claims = some c := by
  unfold claims
  cases read? Claims.decoder p.claims <;> simp

/-- A key lets a token pass for a subject when it has signed the token, and the claims are about
that subject and fit what is expected. -/
theorem verify_ok_iff {expected : Expected} {now : Nat} {token subject : String} {key : Key} :
    verify expected now token key = .ok subject ↔
      ∃ p rsa claims, parts? token = some p ∧ key = .rsa rsa ∧ p.SignedBy rsa ∧
        read? Claims.decoder p.claims = some claims ∧ claims.Fit expected now ∧
        claims.subject = subject := by
  unfold verify
  cases hp : parts? token with
  | none =>
    refine ⟨nofun, ?_⟩
    rintro ⟨p, rsa, c, h, -⟩
    cases h
  | some p =>
    constructor
    · intro h
      obtain ⟨⟨⟩, hsigned, h⟩ := bind_ok_iff.1 h
      obtain ⟨c, hread, h⟩ := bind_ok_iff.1 h
      obtain ⟨⟨⟩, hfit, h⟩ := bind_ok_iff.1 h
      obtain ⟨rsa, hkey, hs⟩ := checkSignature_ok_iff.1 hsigned
      exact ⟨p, rsa, c, rfl, hkey, hs, claims_ok_iff.1 hread, checkClaims_ok_iff.1 hfit,
        Except.ok.inj h⟩
    · rintro ⟨q, rsa, c, hq, hkey, hs, hread, hfit, rfl⟩
      cases hq
      refine bind_ok_iff.2 ⟨(), checkSignature_ok_iff.2 ⟨rsa, hkey, hs⟩, bind_ok_iff.2 ⟨c,
        claims_ok_iff.2 hread, bind_ok_iff.2 ⟨(), checkClaims_ok_iff.2 hfit, rfl⟩⟩⟩

/-- What shows that a token is about a subject, under the keys that its issuer publishes. -/
structure Evidence (expected : Expected) (now : Nat) (keys : List Published)
    (token subject : String) where
  parts : Parts
  header : Header
  claims : Claims
  published : Published
  key : Digest.PublicKey
  split : parts? token = some parts
  headed : read? Header.decoder parts.header = some header
  algorithm : header.algorithm = "RS256"
  /-- The key that the header names, or the first one if it names none. -/
  selected : select keys header.key = some published
  usable : published.key? = some (.rsa key)
  signed : parts.SignedBy key
  claimed : read? Claims.decoder parts.claims = some claims
  fits : claims.Fit expected now
  about : claims.subject = subject

theorem header?_eq_some_iff {token : String} {header : Header} :
    header? token = some header ↔
      ∃ p, parts? token = some p ∧ read? Header.decoder p.header = some header := by
  unfold header?
  cases parts? token <;> simp

end Token

namespace Accounts.Client

/-! ## Keys -/

/-- The keys that a client knows of. -/
def known (client : Client) : List Token.Published := (client.keys.map Keys.published).getD []

theorem selected_ok_iff {keys : List Token.Published} {id : Option String} {key : Token.Key} :
    selected keys id = .ok (some key) ↔
      ∃ published, Token.select keys id = some published ∧ published.key? = some key := by
  unfold selected
  cases Token.select keys id with
  | none => simp
  | some published => cases h : published.key? <;> simp [h]

variable {client : Client} {now : Nat} {servers : Http.Servers} {sent : List Http.Request}

/-- What a client answers that has looked for a key, and what it knows and expects then. -/
theorem key_spec (client : Client) (now : Nat) (servers : Http.Servers) (sent : List Http.Request)
    (id : Option String) :
    (∀ key, ((client.key now id).run servers sent).1.1 = .ok key ↔
      selected ((client.key now id).run servers sent).1.2.known id = .ok (some key)) ∧
    ((client.key now id).run servers sent).1.2.expected = client.expected := by
  unfold Client.key
  cases hknown : selected ((client.keys.map Keys.published).getD []) id with
  | error failure => simp [known, hknown]
  | ok found =>
    cases found with
    | some key => simp [known, hknown]
    | none =>
      by_cases hfresh : client.isFresh now = true
      · simp [known, hknown, hfresh]
      · -- The issuer is asked; its keys are kept unless the one that is needed cannot be read.
        simp only [hfresh, Bool.false_eq_true, if_false, Http.Dialogue.run_bind]
        cases hfetch : (client.fetch.run servers sent).1 with
        | error failure => simp [known, hknown]
        | ok published =>
          cases hnew : selected published id with
          | error failure => simp [known, hknown, hnew]
          | ok found => cases found <;> simp [known, hnew, expected]

/-! ## Subjects -/

/-- A token whose header names the way to sign is verified with the key that it names. -/
theorem run_subject {token : String} {header : Token.Header}
    (hheader : Token.header? token = some header) (halgorithm : header.algorithm = Token.accepted) :
    ((client.subject now token).run servers sent).1 =
      let asked := ((client.key now header.key).run servers sent).1
      (asked.1.bind fun key =>
        (Token.verify client.expected now token key).mapError Token.Fault.failure, asked.2) := by
  simp only [Client.subject, hheader, halgorithm, bne_self_eq_false, Bool.false_eq_true, if_false,
    Http.Dialogue.run_bind]
  rcases h : ((client.key now header.key).run servers sent).1 with ⟨found, after⟩
  cases found with
  | error failure => rfl
  | ok key =>
    have hexpected : after.expected = client.expected := by
      have hkept := (key_spec client now servers sent header.key).2
      rwa [h] at hkept
    simp [Except.bind, hexpected]

/-- A key that is known is not asked for. -/
theorem subject_known {token subject : String} {header : Token.Header} {key : Token.Key}
    (hheader : Token.header? token = some header) (halgorithm : header.algorithm = Token.accepted)
    (hselected : selected client.known header.key = .ok (some key))
    (hverify : Token.verify client.expected now token key = .ok subject) :
    ((client.subject now token).run servers sent).1.1 = .ok subject := by
  have hkey : client.key now header.key = pure (.ok key, client) := by
    unfold known at hselected
    simp [Client.key, hselected]
  rw [run_subject hheader halgorithm, hkey]
  exact bind_ok_iff.2 ⟨key, rfl, mapError_ok_iff.2 hverify⟩

/-- A client accepts a token for a subject exactly when there is evidence for it under the keys
that the client knows by then. -/
theorem subject_ok_iff {token subject : String} :
    ((client.subject now token).run servers sent).1.1 = .ok subject ↔
      Nonempty (Token.Evidence client.expected now
        ((client.subject now token).run servers sent).1.2.known token subject) := by
  cases hheader : Token.header? token with
  | none =>
    simp only [Client.subject, hheader]
    refine ⟨nofun, fun ⟨e⟩ => ?_⟩
    cases hheader.symm.trans (Token.header?_eq_some_iff.2 ⟨_, e.split, e.headed⟩)
  | some header =>
    by_cases halgorithm : header.algorithm = Token.accepted
    · rw [run_subject hheader halgorithm]
      refine (@bind_ok_iff _ _ _ ((client.key now header.key).run servers sent).1.1 _ _).trans ?_
      simp only [key_spec, mapError_ok_iff, Token.verify_ok_iff, selected_ok_iff]
      constructor
      · rintro ⟨_, ⟨published, hselect, husable⟩, p, key, claims, hp, rfl, hsigned, hread, hfit,
          hsubject⟩
        obtain ⟨q, hq, hheaded⟩ := Token.header?_eq_some_iff.1 hheader
        cases hp.symm.trans hq
        exact ⟨⟨p, header, claims, published, key, hp, hheaded, halgorithm, hselect, husable,
          hsigned, hread, hfit, hsubject⟩⟩
      · rintro ⟨p, named, claims, published, key, hp, hheaded, -, hselect, husable, hsigned, hread,
          hfit, hsubject⟩
        cases hheader.symm.trans (Token.header?_eq_some_iff.2 ⟨_, hp, hheaded⟩)
        exact ⟨.rsa key, ⟨published, hselect, husable⟩, p, key, claims, hp, rfl, hsigned, hread,
          hfit, hsubject⟩
    · refine iff_of_false ?_ ?_
      · simp [Client.subject, hheader, halgorithm]
      · rintro ⟨e⟩
        cases hheader.symm.trans (Token.header?_eq_some_iff.2 ⟨_, e.split, e.headed⟩)
        exact halgorithm e.algorithm

/-! ## A token that names no issuer -/

/-- A number of 256 bytes, in 32 words. -/
def wide (words : List Nat) : Nat := words.foldl (fun n word => Nat.pow 2 64 * n + word) 0

def wideBytes (n : Nat) : List UInt8 :=
  (List.range 256).map fun i => (n / Nat.pow 256 (255 - i) % 256).toUInt8

/-- The bytes of such a number as a text in the alphabet for addresses. -/
def wideText (n : Nat) : String :=
  String.ofList <| (List.range 342).map fun i =>
    Text.Base64.character Text.Base64.forAddresses (16 * n / Nat.pow 64 (341 - i) % 64)

def sampleModulus : Nat :=
  wide [0xa49a13897b948db8, 0xe31a90af34dbf824, 0x0b8e27a9cbcb1a7d, 0xc6a8f08c7afbb500,
    0xe74d448fb137db47, 0x780c5f361f2b40ac, 0x7b9febd4eff87986, 0xd12b0e642c20fdc0,
    0xd1072ba8c3dd95d3, 0x490535e3d3f9b8a8, 0x532ba42b5994ec64, 0x04c2d4a83af3e758,
    0x6874a40f8d71179a, 0x9162078f92b09601, 0x5e862c1b94c23b59, 0xb79e2839a074c838,
    0xc38fc658e07fb981, 0x2f53bda9ff396fa4, 0xaba54dd8e026334f, 0x88f058d1aa06b03d,
    0xf90b402d3a5837d2, 0x6f079413e68373ae, 0x02b675955debb85c, 0xd2644f1f25d76d5e,
    0x4dd3274ffb12495c, 0x484c3297db4afc48, 0xf8865432ddc5df0a, 0xc5362ed4c9688900,
    0x34588ca2471a6d06, 0xa070774b7bdf08ff, 0xfaa8ea7a23cf3ea4, 0xf6f7ef1036290d49]

def samplePublished : Token.Published := ⟨none, .rsa (wideText sampleModulus) "AQAB"⟩

/-- A client that accepts one audience and has the key of its issuer. -/
def sampleClient : Client :=
  ⟨⟨"https://authn", "iam", "", "https://authn", ["iam"]⟩, defaultRefresh,
    some ⟨[samplePublished], 0⟩⟩

def sampleSignature : Nat :=
  wide [0x3b35924e1908f47a, 0x71848d3bf931264a, 0x8129b7aa6367bba7, 0x36cfaf050cd5472b,
    0x1747a888895b90bf, 0x2300170dc344edae, 0xf74581d95c2308b6, 0x3fcfcb3bc8e8be19,
    0xc0a2313317b142b4, 0xac9582efff995de6, 0xf888fe2a49d70541, 0x7298e5411ea8d5c2,
    0x11e0da69669f69f5, 0x8cc6e175f58a6393, 0xe43f34b79f0aac17, 0x184542a33884ba8d,
    0x857bce9961bea538, 0x851a91c29fd39754, 0xb37ca630881af16c, 0x3bd794f4ac747ae5,
    0x1e1e35edbe3bed78, 0x67367eed473d0201, 0xf53cd9b207a3ed97, 0xf9387895e373514f,
    0xf91b7451256f2216, 0xe11d9f355115a54f, 0x7dd6895fb30933cf, 0x7761a84741b7d633,
    0xec5423c6bcd795e9, 0xe831a015ab099232, 0xabd1fe593c5dc685, 0x96c2069e87f25d1f]

/-- Claims that say who the token is for and when it expires, and nothing else. -/
def silentParts : Token.Parts :=
  ⟨"eyJhbGciOiJSUzI1NiJ9", "eyJzdWIiOiIxNyIsImV4cCI6NDEwMjQ0NDgwMH0", wideText sampleSignature⟩

theorem parts?_silent : Token.parts? silentParts.token = some silentParts := by
  refine Token.parts?_token (by decide +kernel) (by decide +kernel) ?_
  rw [silentParts, wideText, String.toList_ofList]
  decide +kernel

theorem selected_first {key : Token.Key} {published : Token.Published}
    {rest : List Token.Published} (h : published.key? = some key) :
    selected (published :: rest) none = .ok (some key) :=
  selected_ok_iff.2 ⟨published, rfl, h⟩

theorem key?_sample :
    samplePublished.key? = some (.rsa ⟨wideBytes sampleModulus, [1, 0, 1]⟩) := by
  have hmodulus : Text.Base64.decodeForAddresses? (wideText sampleModulus) =
      some (wideBytes sampleModulus) := by
    rw [wideText, Text.Base64.decodeForAddresses?, String.toList_ofList]
    decide +kernel
  have hexponent : Text.Base64.decodeForAddresses? "AQAB" = some [1, 0, 1] := by decide +kernel
  exact Token.key?_rsa hmodulus hexponent

theorem signedBy_sample : silentParts.SignedBy ⟨wideBytes sampleModulus, [1, 0, 1]⟩ := by
  refine ⟨wideBytes sampleSignature, ?_, ?_⟩
  · rw [silentParts, wideText, Text.Base64.decodeForAddresses?, String.toList_ofList]
    decide +kernel
  · have hpower : Digest.powMod (Digest.number (wideBytes sampleSignature)) 65537
        (Digest.number (wideBytes sampleModulus)) =
          Digest.number (Digest.PublicKey.encoded silentParts.signed 256) := by
      rw [Digest.powMod_succ, show (65536 : Nat) = Nat.pow 2 16 from rfl, Digest.powMod_two_pow]
      decide +kernel
    have hsound : Digest.PublicKey.isSound ⟨wideBytes sampleModulus, [1, 0, 1]⟩ = true := by
      decide +kernel
    have hlength (n : Nat) : (wideBytes n).length = 256 := by simp [wideBytes]
    have hexponent : Digest.number [1, 0, 1] = 65537 := rfl
    have hlt : Digest.number (wideBytes sampleSignature) <
        Digest.number (wideBytes sampleModulus) := by decide +kernel
    simp only [Digest.PublicKey.verifies, hsound, hlength, hexponent, hpower, hlt, beq_self_eq_true,
      decide_true, Bool.and_self]

/-- Claims that leave the issuer and the audience out are accepted, whatever is expected. -/
theorem subject_silent :
    sampleClient.settings.audiences ≠ [] ∧
      ((sampleClient.subject 0 silentParts.token).run Http.Servers.unreachable []).1.1 = .ok "17" ∧
      ∃ claims, Token.read? Token.Claims.decoder silentParts.claims = some claims ∧
        claims.issuer = none ∧ claims.audience = none := by
  have hheader : Token.header? silentParts.token = some ⟨"RS256", none⟩ :=
    Token.header?_eq_some_iff.2 ⟨_, parts?_silent, by decide +kernel⟩
  have hread : (Token.read? Token.Claims.decoder silentParts.claims).map
      (fun c => (c.subject, c.expirySeconds, c.issuer.isNone, c.audience.isNone)) =
        some ("17", some 4102444800, true, true) := by decide +kernel
  obtain ⟨claims, hclaims, h⟩ := Option.map_eq_some_iff.1 hread
  simp only [Prod.mk.injEq, Option.isNone_iff_eq_none] at h
  obtain ⟨hsubject, hexpiry, hissuer, haudience⟩ := h
  refine ⟨by decide, ?_, claims, hclaims, hissuer, haudience⟩
  have hfit : claims.Fit sampleClient.expected 0 :=
    ⟨⟨_, hexpiry, Nat.zero_le _⟩, by simp [hissuer, Token.names?],
      by simp [haudience, Token.names?]⟩
  have hselected : selected sampleClient.known none =
      .ok (some (.rsa ⟨wideBytes sampleModulus, [1, 0, 1]⟩)) := selected_first key?_sample
  exact subject_known hheader rfl hselected (Token.verify_ok_iff.2
    ⟨_, _, _, parts?_silent, rfl, signedBy_sample, hclaims, hfit, hsubject⟩)

end Accounts.Client

end AccessControl
