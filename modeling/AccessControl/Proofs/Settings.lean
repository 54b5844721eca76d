/-
What the variables make of the settings. The audiences are the names in a list with commas
(`listed_iff`). Main statement: settings for an authentication server come with a name, a password
and an audience, and a client that is made from them never leaves the audience of a token out of
account (`audience_checked`).
-/
import AccessControl.Proofs.Token.Revocation
import AccessControl.Proofs.Urn
import AccessControl.Settings
import Mathlib.Data.List.DropRight
import Mathlib.Data.List.TakeWhile

namespace AccessControl

/-! ## Lists in texts -/

namespace Text

/-- `core` is the text without the blanks at its two ends. -/
structure Trimmed (text core : List Char) : Prop where
  around : ∃ before after, text = before ++ core ++ after ∧ (∀ c ∈ before, isBlank c = true) ∧
    ∀ c ∈ after, isBlank c = true
  first : ∀ c ∈ core.head?, isBlank c = false
  last : ∀ c ∈ core.getLast?, isBlank c = false

/-- Just the blanks before the first other character are dropped. -/
theorem dropWhile_blanks {blanks cs : List Char} (hblanks : ∀ c ∈ blanks, isBlank c = true)
    (hfirst : ∀ c ∈ cs.head?, isBlank c = false) : (blanks ++ cs).dropWhile isBlank = cs := by
  rw [List.dropWhile_append_of_pos hblanks]
  cases cs with
  | nil => rfl
  | cons c cs => simp [hfirst c rfl]

theorem trimmed_trimChars (text : List Char) : Trimmed text (trimChars text) := by
  have hblank {cs : List Char} : ∀ c ∈ cs.takeWhile isBlank, isBlank c = true :=
    fun c => List.mem_takeWhile_imp
  -- blanks are taken off at the start, and then at the start of what is left in reverse
  have hrest := congrArg List.reverse
    (List.takeWhile_append_dropWhile (p := isBlank) (l := (text.dropWhile isBlank).reverse))
  rw [List.reverse_append, List.reverse_reverse] at hrest
  refine ⟨⟨text.takeWhile isBlank, ((text.dropWhile isBlank).reverse.takeWhile isBlank).reverse,
    ?_, hblank, fun c hc => hblank c (List.mem_reverse.1 hc)⟩, trimChars_head text, fun c hc => ?_⟩
  · rw [trimChars, List.append_assoc, hrest, List.takeWhile_append_dropWhile]
  · rw [trimChars, List.getLast?_reverse] at hc
    have hhead := List.head?_dropWhile_not isBlank (text.dropWhile isBlank).reverse
    rw [Option.mem_def.1 hc] at hhead
    exact hhead

/-- Trimming leaves that text and no other. -/
theorem trimmed_iff {text core : List Char} : Trimmed text core ↔ core = trimChars text := by
  constructor
  · rintro ⟨⟨before, after, rfl, hbefore, hafter⟩, hfirst, hlast⟩
    have hstart : (before ++ core ++ after).dropWhile isBlank =
        if core = [] then [] else core ++ after := by
      split
      · subst_vars
        have hall : ∀ c ∈ before ++ [] ++ after, isBlank c = true := by
          simpa using fun c hc => hc.elim (hbefore c) (hafter c)
        simpa using @dropWhile_blanks _ [] hall nofun
      · rename_i hcore
        rw [List.append_assoc]
        refine dropWhile_blanks hbefore fun c hc => hfirst c ?_
        rwa [List.head?_append_of_ne_nil _ hcore] at hc
    rw [trimChars, hstart]
    split
    · subst_vars
      rfl
    · rw [List.reverse_append, dropWhile_blanks (fun c hc => hafter c (List.mem_reverse.1 hc)),
        List.reverse_reverse]
      intro c hc
      exact hlast c (by rwa [List.head?_reverse] at hc)
  · rintro rfl
    exact trimmed_trimChars text

theorem forall₂_trimmed_iff {pieces cores : List (List Char)} :
    List.Forall₂ Trimmed pieces cores ↔ cores = pieces.map trimChars := by
  constructor
  · intro h
    induction h with
    | nil => rfl
    | cons hpiece _ ih => rw [List.map_cons, ← ih, trimmed_iff.1 hpiece]
  · rintro rfl
    induction pieces with
    | nil => exact .nil
    | cons piece pieces ih => exact .cons (trimmed_trimChars piece) ih

/-- The names in a list with commas: what stands between the commas, in that order, without the
blanks at its ends, if there is anything left of it. -/
def Listed (list : String) (names : List String) : Prop :=
  ∃ pieces cores : List (List Char), pieces ≠ [] ∧ (∀ piece ∈ pieces, ',' ∉ piece) ∧
    list.toList = [','].intercalate pieces ∧ List.Forall₂ Trimmed pieces cores ∧
      names = (cores.filter (· ≠ [])).map String.ofList

end Text

namespace Settings

open Text (Listed forall₂_trimmed_iff)

theorem audiences_eq (list : String) : audiences list =
    (((list.toList.splitOn ',').map Text.trimChars).filter (· ≠ [])).map String.ofList := by
  have htrim : Text.trim ∘ String.ofList = String.ofList ∘ Text.trimChars := by
    funext cs
    simp [Text.trim]
  have hempty : (fun a : String => !a.isEmpty) ∘ String.ofList = fun cs => decide (cs ≠ []) := by
    funext cs
    rw [Function.comp_apply, Bool.eq_iff_iff]
    simp
  rw [audiences, Text.segments, List.map_map, htrim, ← List.map_map, List.filter_map, hempty]

/-- The audiences are the names in the list, and nothing else is. -/
theorem listed_iff {list : String} {names : List String} :
    Listed list names ↔ names = audiences list := by
  rw [audiences_eq]
  constructor
  · rintro ⟨pieces, cores, hne, hplain, hlist, htrimmed, rfl⟩
    rw [hlist, List.splitOn_intercalate ',' hplain hne, forall₂_trimmed_iff.1 htrimmed]
  · rintro rfl
    exact ⟨_, _, List.splitOn_ne_nil _ _, fun piece => Urn.not_mem_of_mem_splitOn,
      (List.intercalate_splitOn ',').symm, forall₂_trimmed_iff.2 rfl, rfl⟩

/-! ## Variables -/

variable {lookup : String → Option String} {key server : String} {authn : AuthnSettings}

theorem value?_eq_some_iff {v : String} : value? lookup key = some v ↔
    lookup key = some v ∧ ∃ c ∈ v.toList, Text.isBlank c = false := by
  simp [value?, Text.isBlankText, Option.filter_eq_some_iff]

theorem need_ok_iff {v : String} : need lookup key = .ok v ↔ value? lookup key = some v := by
  unfold need
  cases value? lookup key <;> simp

/-- The issuer that is set, or else the origin of the server. -/
def issuerOf (lookup : String → Option String) (server : String) : Except Fault String :=
  match value? lookup "AUTHN_ISSUER" with
  | some issuer => .ok issuer
  | none => origin server

/-- The settings for a server are what their variables make of them, and there is an audience. -/
structure Made (lookup : String → Option String) (server : String) (authn : AuthnSettings) :
    Prop where
  addressed : authn.server = server
  username : value? lookup "AUTHN_USER" = some authn.username
  password : value? lookup "AUTHN_PASSWORD" = some authn.password
  issuer : issuerOf lookup server = .ok authn.issuer
  audiences : ∃ list, value? lookup "AUTHN_AUDIENCE" = some list ∧ authn.audiences = audiences list
  limited : authn.audiences ≠ []

theorem authnOf_eq (lookup : String → Option String) (server : String) : authnOf lookup server =
    (do
      let list ← need lookup "AUTHN_AUDIENCE"
      if (audiences list).isEmpty then .error .noAudience
      else
        let issuer ← issuerOf lookup server
        let username ← need lookup "AUTHN_USER"
        let password ← need lookup "AUTHN_PASSWORD"
        return ⟨server, username, password, issuer, audiences list⟩) := by
  unfold authnOf issuerOf
  cases need lookup "AUTHN_AUDIENCE" with
  | error fault => rfl
  | ok list =>
    cases hempty : (audiences list).isEmpty with
    | true => simp [hempty, bind, Except.bind]
    | false =>
      cases value? lookup "AUTHN_ISSUER" <;> simp [hempty, bind, Except.bind]

theorem authnOf_ok_iff : authnOf lookup server = .ok authn ↔ Made lookup server authn := by
  rw [authnOf_eq]
  constructor
  · intro h
    obtain ⟨list, hlist, h⟩ := bind_ok_iff.1 h
    split at h
    · cases h
    · rename_i hempty
      obtain ⟨issuer, hissuer, h⟩ := bind_ok_iff.1 h
      obtain ⟨username, husername, h⟩ := bind_ok_iff.1 h
      obtain ⟨password, hpassword, h⟩ := bind_ok_iff.1 h
      cases h
      exact ⟨rfl, need_ok_iff.1 husername, need_ok_iff.1 hpassword, hissuer,
        ⟨list, need_ok_iff.1 hlist, rfl⟩, by simpa using hempty⟩
  · rintro ⟨rfl, husername, hpassword, hissuer, ⟨list, hlist, haudiences⟩, hne⟩
    have hempty : (audiences list).isEmpty = false := by simpa [haudiences] using hne
    refine bind_ok_iff.2 ⟨list, need_ok_iff.2 hlist, ?_⟩
    rw [hempty]
    refine bind_ok_iff.2 ⟨_, hissuer, bind_ok_iff.2 ⟨_, need_ok_iff.2 husername,
      bind_ok_iff.2 ⟨_, need_ok_iff.2 hpassword, ?_⟩⟩⟩
    rw [← haudiences]
    rfl

/-- What a variable says to its reader, or what holds without it. -/
def saysOr {α : Type} (lookup : String → Option String) (key : String) (otherwise : α)
    (reader : String → Except Fault α) : Except Fault α :=
  match value? lookup key with
  | none => .ok otherwise
  | some raw => reader raw

def listenOf (lookup : String → Option String) : Except Fault SocketAddress :=
  match SocketAddress.ofText? ((value? lookup "IAM_LISTEN").getD defaultListen) with
  | some listen => .ok listen
  | none => .error .listen

def storageOf (lookup : String → Option String) : StorageSetting :=
  match value? lookup "IAM_DATABASE" with
  | none => .memory
  | some path => if path = memoryPath then .memory else .file path

def logFormatOf (lookup : String → Option String) : Except Fault LogFormat :=
  saysOr lookup "IAM_LOG_FORMAT" .json fun raw => (LogFormat.ofText raw).mapError .logFormat

def flagOf (lookup : String → Option String) : Except Fault Bool :=
  saysOr lookup "IAM_DISABLE_AUTHORIZATION" false flag

theorem ofLookup_eq (lookup : String → Option String) : ofLookup lookup =
    (do
      let listen ← listenOf lookup
      let logFormat ← logFormatOf lookup
      let disableAuthorization ← flagOf lookup
      let authn ← saysOr lookup "AUTHN_SERVER" none fun server => (authnOf lookup server).map some
      return ⟨listen, storageOf lookup, logFormat, authn, disableAuthorization⟩) := by
  unfold ofLookup listenOf logFormatOf flagOf saysOr storageOf
  cases SocketAddress.ofText? ((value? lookup "IAM_LISTEN").getD defaultListen) with
  | none => rfl
  | some listen =>
    cases value? lookup "IAM_LOG_FORMAT" <;> cases value? lookup "IAM_DISABLE_AUTHORIZATION" <;>
      cases value? lookup "AUTHN_SERVER" <;> rfl

/-- Settings that have a part for a server have it from the server's variables. -/
theorem made_of_ofLookup {settings : Settings} (h : ofLookup lookup = .ok settings)
    (hauthn : settings.authn = some authn) :
    ∃ server, value? lookup "AUTHN_SERVER" = some server ∧ Made lookup server authn := by
  rw [ofLookup_eq] at h
  obtain ⟨listen, -, h⟩ := bind_ok_iff.1 h
  obtain ⟨logFormat, -, h⟩ := bind_ok_iff.1 h
  obtain ⟨disabled, -, h⟩ := bind_ok_iff.1 h
  obtain ⟨part, hpart, h⟩ := bind_ok_iff.1 h
  cases h
  unfold saysOr at hpart
  split at hpart
  · cases hpart
    cases hauthn
  · rename_i server hserver
    refine ⟨server, hserver, authnOf_ok_iff.1 ?_⟩
    cases hmade : authnOf lookup server with
    | error fault => simp [hmade, Except.map] at hpart
    | ok made =>
      simp only [hmade, Except.map, Except.ok.injEq] at hpart
      rw [← hpart] at hauthn
      exact congrArg _ (Option.some.inj hauthn)

/-! ## Audiences -/

open Accounts (Client Session)

/-- With a server, its variables and the audience are set and not blank, and the audiences are just
the names in the list, of which there is one at least. Whatever a client that is made from the
settings is asked, a token that it accepts afterwards says nothing about its audience or names one
of them. -/
theorem audience_checked {settings : Settings} (h : ofLookup lookup = .ok settings)
    (hauthn : settings.authn = some authn) :
    (∀ key ∈ ["AUTHN_SERVER", "AUTHN_USER", "AUTHN_PASSWORD", "AUTHN_AUDIENCE"],
      ∃ v, lookup key = some v ∧ ∃ c ∈ v.toList, Text.isBlank c = false) ∧
    (∃ list, lookup "AUTHN_AUDIENCE" = some list ∧
      ∀ names, Listed list names ↔ names = authn.audiences) ∧
    authn.audiences ≠ [] ∧
    ∀ refresh servers sent calls,
      let s := Session.after (.ofSettings authn refresh, sent) servers calls
      s.1.expected.audiences = authn.audiences ∧
      ∀ now token subject, s.Accepts servers now token subject → ∃ parts claims,
        Token.parts? token = some parts ∧
        Token.read? Token.Claims.decoder parts.claims = some claims ∧
        ∀ names, Token.names? claims.audience = some names →
          ∃ name ∈ names, name ∈ authn.audiences := by
  obtain ⟨server, hserver, hmade⟩ := made_of_ofLookup h hauthn
  obtain ⟨list, hlist, haudiences⟩ := hmade.audiences
  refine ⟨?_, ⟨list, (value?_eq_some_iff.1 hlist).1, fun names => ?_⟩, hmade.limited, ?_⟩
  · intro key hkey
    simp only [List.mem_cons, List.not_mem_nil, or_false] at hkey
    rcases hkey with rfl | rfl | rfl | rfl
    · exact ⟨server, value?_eq_some_iff.1 hserver⟩
    · exact ⟨_, value?_eq_some_iff.1 hmade.username⟩
    · exact ⟨_, value?_eq_some_iff.1 hmade.password⟩
    · exact ⟨list, value?_eq_some_iff.1 hlist⟩
  · rw [haudiences, listed_iff]
  · intro refresh servers sent calls s
    have hexpected : s.1.expected.audiences = authn.audiences :=
      congrArg Token.Expected.audiences (Session.after_expected calls)
    refine ⟨hexpected, fun now token subject haccepts => ?_⟩
    obtain ⟨-, key, -, -, -, hverify⟩ := Session.known_of_accepts haccepts
    obtain ⟨parts, -, claims, hparts, -, -, hclaims, hfit, -⟩ := Token.verify_ok_iff.1 hverify
    refine ⟨parts, claims, hparts, hclaims, ?_⟩
    rw [← hexpected]
    exact hfit.audience (hexpected ▸ hmade.limited)

/-- Variables with these values, and no others. -/
def given (values : List (String × String)) (key : String) : Option String := values.lookup key

/-- Blanks, among them a wide one, and empty names are no part of the list. -/
theorem audience_checked_spaced :
    let lookup := given [("AUTHN_SERVER", "https://authn.test/private/"),
      ("AUTHN_USER", "iam"), ("AUTHN_PASSWORD", "secret"),
      ("AUTHN_AUDIENCE", " iam,, \u3000console ")]
    let authn : AuthnSettings :=
      ⟨"https://authn.test/private/", "iam", "secret", "https://authn.test", ["iam", "console"]⟩
    (∃ settings, ofLookup lookup = .ok settings ∧ settings.authn = some authn) ∧
      (∃ list, lookup "AUTHN_AUDIENCE" = some list ∧
        ∀ names, Listed list names ↔ names = ["iam", "console"]) ∧
      ∀ refresh servers,
        (Session.after (.ofSettings authn refresh, []) servers []).1.expected.audiences =
          ["iam", "console"] := by
  intro lookup authn
  have hsettings : ∃ settings, ofLookup lookup = .ok settings ∧ settings.authn = some authn :=
    ⟨⟨.v4 [0, 0, 0, 0] 8080, .memory, .json, some authn, false⟩, by decide +kernel, rfl⟩
  obtain ⟨settings, hread, hauthn⟩ := hsettings
  have h := audience_checked hread hauthn
  exact ⟨⟨settings, hread, hauthn⟩, h.2.1, fun refresh servers => (h.2.2.2 refresh servers [] []).1⟩

end Settings

end AccessControl
