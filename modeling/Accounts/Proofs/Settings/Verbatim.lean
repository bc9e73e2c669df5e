import Accounts.Proofs.Account.Work
import Accounts.Proofs.Gate.Bearer
import Accounts.Proofs.Settings.Spelling
import Accounts.Proofs.Settings.Variable

/-!
# Settings that are text

What a variable of the environment makes of a setting that is text, and the service of it. The text
is not always that of the variable: what looks like a truth value or a number is written again.

* `TextSetting`: the settings, with their variables and what they are in all settings;
* `holds_of_readAuth`, `holds_of_readRedis`: what a section holds that is read;
* **`ofEntries_set`**: two trees that are the same but for a text;
* `load_set`: what is loaded for another value of a variable;
* `Service.register_eq_refused_iff`, `Service.admits_iff`: who is refused for the code;
* **`text_of_variable`**: which texts are taken as they are, and what becomes of the others;
* `zeros_of_texts_are_lost`: a code that no one can present, and a key that no one has chosen.
-/

namespace Accounts

open Settings

namespace Settings

/-- The settings that are text and that operators choose: who may register, how tokens are signed
and for whom, and how the keys of revoked tokens start. -/
inductive TextSetting
  | registrationCode
  | secret
  | issuer
  | audience
  | keyStart
  deriving DecidableEq

namespace TextSetting

/-- The section of a setting. -/
def table : TextSetting → String
  | .keyStart => "redis"
  | _ => "auth"

/-- The name of a setting. -/
def name : TextSetting → String
  | .registrationCode => "registration_code"
  | .secret => "jwt_secret"
  | .issuer => "issuer"
  | .audience => "audience"
  | .keyStart => "key_prefix"

/-- The key of a setting. -/
def key (k : TextSetting) : String := KeyPath.dotted k.table k.name

/-- The text of a setting; the registration code alone may be missing. -/
def of : TextSetting → Settings → Option String
  | .registrationCode, s => s.auth.registrationCode
  | .secret, s => some s.auth.secret
  | .issuer, s => some s.auth.issuer
  | .audience, s => some s.auth.audience
  | .keyStart, s => some s.redis.keyStart

/-- The settings with another text for one of them. -/
def set : TextSetting → String → Settings → Settings
  | .registrationCode, text, s => { s with auth := { s.auth with registrationCode := some text } }
  | .secret, text, s => { s with auth := { s.auth with secret := text } }
  | .issuer, text, s => { s with auth := { s.auth with issuer := text } }
  | .audience, text, s => { s with auth := { s.auth with audience := text } }
  | .keyStart, text, s => { s with redis := { s.redis with keyStart := text } }

@[simp]
theorem of_set (k : TextSetting) (text : String) (s : Settings) :
    k.of (k.set text s) = some text := by
  cases k <;> rfl

/-- The variable of a setting, as it is written by custom. -/
def variableName (k : TextSetting) : String :=
  match k with
  | .registrationCode => "ACCOUNT__AUTH__REGISTRATION_CODE"
  | .secret => "ACCOUNT__AUTH__JWT_SECRET"
  | .issuer => "ACCOUNT__AUTH__ISSUER"
  | .audience => "ACCOUNT__AUTH__AUDIENCE"
  | .keyStart => "ACCOUNT__REDIS__KEY_PREFIX"

theorem key?_variable (k : TextSetting) : Environment.key? k.variableName = some k.key := by
  cases k <;> decide +kernel

theorem isName (k : TextSetting) : KeyPath.IsName k.table ∧ KeyPath.IsName k.name := by
  cases k <;> decide +kernel

end TextSetting

/-! ## Reading a tree -/

section Reading

variable {entries : Tree.Entries} {origin : Option String} {α : Type} {label name : String}
  {count place : Nat} {read : Tree → Reading α} {unnamed unplaced : Option α} {v : α}

theorem holds_of_field
    (h : Section.field ⟨label, count, entries, none⟩ place name read unnamed unplaced = .ok v) :
    Holds (entries.lookup name) read unnamed v := by
  unfold Section.field at h
  unfold Holds
  dsimp only at h
  cases hfound : entries.lookup name with
  | some t =>
    rw [hfound] at h
    exact Outcome.mapError_eq_ok_iff.1 h
  | none =>
    rw [hfound] at h
    cases unnamed with
    | some a => exact congrArg some (Except.ok.inj h)
    | none => cases h

theorem holds_of_readAuth {s : AuthSettings}
    (h : AuthSettings.read (.table entries origin) = .ok s) :
    Holds (entries.lookup "jwt_secret") Tree.text (some "") s.secret ∧
      Holds (entries.lookup "token_lifetime_hours") Tree.integer none s.lifetimeHours ∧
      Holds (entries.lookup "issuer") Tree.text none s.issuer ∧
      Holds (entries.lookup "audience") Tree.text none s.audience ∧
      Holds (entries.lookup "registration_code") (Tree.optional Tree.text) (some none)
        s.registrationCode := by
  obtain ⟨_, ⟨⟩, h⟩ := Outcome.bind_eq_ok_iff.1 h
  obtain ⟨_, -, h⟩ := Outcome.bind_eq_ok_iff.1 h
  obtain ⟨secret, hsecret, h⟩ := Outcome.bind_eq_ok_iff.1 h
  obtain ⟨hours, hhours, h⟩ := Outcome.bind_eq_ok_iff.1 h
  obtain ⟨issuer, hissuer, h⟩ := Outcome.bind_eq_ok_iff.1 h
  obtain ⟨audience, haudience, h⟩ := Outcome.bind_eq_ok_iff.1 h
  obtain ⟨code, hcode, ⟨⟩⟩ := Outcome.bind_eq_ok_iff.1 h
  exact ⟨holds_of_field hsecret, holds_of_field hhours, holds_of_field hissuer,
    holds_of_field haudience, holds_of_field hcode⟩

theorem holds_of_readRedis {s : RedisSettings}
    (h : RedisSettings.read (.table entries origin) = .ok s) :
    Holds (entries.lookup "url") (Tree.optional Tree.text) (some none) s.url ∧
      Holds (entries.lookup "key_prefix") Tree.text none s.keyStart ∧
      Holds (entries.lookup "op_timeout_ms") (Tree.natural 64) none s.opTimeoutMs := by
  obtain ⟨_, ⟨⟩, h⟩ := Outcome.bind_eq_ok_iff.1 h
  obtain ⟨_, -, h⟩ := Outcome.bind_eq_ok_iff.1 h
  obtain ⟨url, hurl, h⟩ := Outcome.bind_eq_ok_iff.1 h
  obtain ⟨start, hstart, h⟩ := Outcome.bind_eq_ok_iff.1 h
  obtain ⟨timeout, htimeout, ⟨⟩⟩ := Outcome.bind_eq_ok_iff.1 h
  exact ⟨holds_of_field hurl, holds_of_field hstart, holds_of_field htimeout⟩

end Reading

section Variable

variable {k : TextSetting} {entries₀ entries : Tree.Entries} {origin₀ origin : Option String}
  {here₀ here : Tree.Entries} {s₀ : Settings} {v₀ v : String}

theorem readAuth_set (htable : k.table = "auth")
    (hread : AuthSettings.read (.table entries₀ origin₀) = .ok s₀.auth)
    (hfields : ∀ n, n ≠ k.name → entries.lookup n = entries₀.lookup n)
    (hvalue : entries.lookup k.name = some (.scalar (Scalar.ofText v) (some Environment.origin))) :
    AuthSettings.read (.table entries origin) = .ok (k.set (respelled v) s₀).auth := by
  obtain ⟨secret, hours, issuer, audience, code⟩ := holds_of_readAuth hread
  have hkeep {α : Type} {n : String} {read : Tree → Reading α} {unnamed : Option α} {a : α}
      (h : Holds (entries₀.lookup n) read unnamed a) (hn : n ≠ k.name) :
      Holds (entries.lookup n) read unnamed a := by
    rw [hfields n hn]
    exact h
  have hnew (unnamed : Option String) :
      Holds (entries.lookup k.name) Tree.text unnamed (respelled v) := by
    rw [hvalue]
    exact text_ofText v _
  have hcode : Holds (entries.lookup k.name) (Tree.optional Tree.text) (some none)
      (some (respelled v)) := by
    rw [hvalue]
    exact optional_text_ofText v _
  cases k with
  | registrationCode =>
    exact readAuth_eq (hkeep secret (by decide)) (hkeep hours (by decide))
      (hkeep issuer (by decide)) (hkeep audience (by decide)) hcode
  | secret =>
    exact readAuth_eq (hnew _) (hkeep hours (by decide)) (hkeep issuer (by decide))
      (hkeep audience (by decide)) (hkeep code (by decide))
  | issuer =>
    exact readAuth_eq (hkeep secret (by decide)) (hkeep hours (by decide)) (hnew _)
      (hkeep audience (by decide)) (hkeep code (by decide))
  | audience =>
    exact readAuth_eq (hkeep secret (by decide)) (hkeep hours (by decide))
      (hkeep issuer (by decide)) (hnew _) (hkeep code (by decide))
  | keyStart => exact absurd htable (by decide)

theorem readRedis_set (hread : RedisSettings.read (.table entries₀ origin₀) = .ok s₀.redis)
    (hfields : ∀ n, n ≠ "key_prefix" → entries.lookup n = entries₀.lookup n)
    (hvalue : entries.lookup "key_prefix" =
      some (.scalar (Scalar.ofText v) (some Environment.origin))) :
    RedisSettings.read (.table entries origin) =
      .ok (TextSetting.keyStart.set (respelled v) s₀).redis := by
  obtain ⟨url, -, timeout⟩ := holds_of_readRedis hread
  refine readRedis_eq ?_ ?_ ?_
  · rw [hfields _ (by decide)]
    exact url
  · rw [hvalue]
    exact text_ofText v _
  · rw [hfields _ (by decide)]
    exact timeout

/-- **Two trees that are the same but for a text** are read as settings that are the same but for
it. -/
theorem ofEntries_set (hagree : Tree.AgreeOff k.table k.name here₀ here)
    (hvalue₀ : Tree.valueAt here₀ k.table k.name =
      some (.scalar (Scalar.ofText v₀) (some Environment.origin)))
    (hvalue : Tree.valueAt here k.table k.name =
      some (.scalar (Scalar.ofText v) (some Environment.origin)))
    (hread : ofEntries here₀ = .ok s₀) : ofEntries here = .ok (k.set (respelled v) s₀) := by
  obtain ⟨entries₀, origin₀, hlookup₀, hentries₀⟩ := Tree.lookup_of_valueAt hvalue₀
  obtain ⟨entries, origin, hlookup, hentries⟩ := Tree.lookup_of_valueAt hvalue
  have hfields (n : String) (hn : n ≠ k.name) : entries.lookup n = entries₀.lookup n := by
    rw [hentries, hentries₀, hagree.fields n hn]
  rw [← hentries] at hvalue
  obtain ⟨server, hserver, h⟩ := Outcome.bind_eq_ok_iff.1 hread
  obtain ⟨database, hdatabase, h⟩ := Outcome.bind_eq_ok_iff.1 h
  obtain ⟨redis, hredis, h⟩ := Outcome.bind_eq_ok_iff.1 h
  obtain ⟨auth, hauth, h⟩ := Outcome.bind_eq_ok_iff.1 h
  obtain ⟨logging, hlogging, h⟩ := Outcome.bind_eq_ok_iff.1 h
  have hsection {α : Type} {n : String} {place : Nat} {read : Tree → Reading α}
      {unnamed unplaced : Option α} {a : α} (hn : n ≠ k.table)
      (h : Section.field ⟨"AppConfig", 5, here₀, none⟩ place n read unnamed unplaced = .ok a) :
      Section.field ⟨"AppConfig", 5, here, none⟩ place n read unnamed unplaced = .ok a := by
    refine field_eq ?_
    rw [hagree.sections n hn]
    exact holds_of_field h
  obtain rfl := Except.ok.inj h
  by_cases htable : k.table = "auth"
  · have hauth' : Holds (here.lookup "auth") AuthSettings.read (some {})
        (k.set (respelled v) ⟨server, database, redis, auth, logging⟩).auth := by
      have hread₀ := holds_of_field hauth
      rw [htable] at hlookup hlookup₀
      rw [hlookup₀] at hread₀
      rw [hlookup]
      exact readAuth_set htable hread₀ hfields hvalue
    have hne (n : String) (hn : n ≠ "auth") : n ≠ k.table := htable ▸ hn
    simp only [ofEntries, hsection (hne _ (by decide)) hserver,
      hsection (hne _ (by decide)) hdatabase, hsection (hne _ (by decide)) hredis,
      field_eq hauth', hsection (hne _ (by decide)) hlogging]
    cases k <;> first | rfl | exact absurd htable (by decide)
  · obtain rfl : k = .keyStart := by
      cases k <;> first | rfl | exact absurd rfl htable
    have hredis' : Holds (here.lookup "redis") RedisSettings.read (some {})
        (TextSetting.keyStart.set (respelled v)
          ⟨server, database, redis, auth, logging⟩).redis := by
      have hread₀ := holds_of_field hredis
      rw [show here₀.lookup "redis" = _ from hlookup₀] at hread₀
      rw [show here.lookup "redis" = _ from hlookup]
      exact readRedis_set hread₀ hfields hvalue
    simp only [ofEntries, hsection (show "server" ≠ _ by decide) hserver,
      hsection (show "database" ≠ _ by decide) hdatabase, field_eq hredis',
      hsection (show "auth" ≠ _ by decide) hauth, hsection (show "logging" ≠ _ by decide) hlogging]
    rfl

end Variable

/-! ## Loading -/

section Loading

variable {k : TextSetting} {file : Option SettingsFile}
  {environment before after : List (String × String)} {var v₀ v : String} {s s₀ : Settings}

theorem load_eq_ok_iff : load file environment = .ok s ↔ ∃ here,
    merged? file environment = some here ∧ ofEntries here = .ok s ∧ s.validate = .ok () := by
  unfold load
  cases merged? file environment with
  | none => simp
  | some here =>
    cases hread : ofEntries here with
    | error f => simp [hread]
    | ok s' =>
      simp only [Option.some.injEq, exists_eq_left', hread, Except.ok.injEq]
      constructor
      · intro h
        obtain ⟨_, hvalidate, ⟨⟩⟩ := Outcome.bind_eq_ok_iff.1 h
        exact ⟨rfl, hvalidate⟩
      · rintro ⟨rfl, hvalidate⟩
        exact Outcome.bind_eq_ok_iff.2 ⟨(), hvalidate, rfl⟩

theorem validate_set {text : String} (h : s.validate = .ok ())
    (hsecret : k = .secret → Text.trimmed text ≠ "") : (k.set text s).validate = .ok () := by
  rw [validate_eq_ok_iff] at h ⊢
  obtain ⟨secret, lifetime, bound, timeout⟩ := h
  cases k with
  | secret => exact ⟨hsecret rfl, lifetime, bound, timeout⟩
  | _ => exact ⟨secret, lifetime, bound, timeout⟩

theorem load_set (hvar : Environment.key? var = some k.key)
    (halone : Environment.IsAlone (before ++ after) k.table k.name)
    (hload : load file (before ++ (var, v₀) :: after) = .ok s₀)
    (hsecret : k = .secret → Text.trimmed v ≠ "") :
    load file (before ++ (var, v) :: after) = .ok (k.set (respelled v) s₀) := by
  obtain ⟨htable, hname⟩ := k.isName
  obtain ⟨here₀, hmerged, hread, hvalidate⟩ := load_eq_ok_iff.1 hload
  obtain ⟨hvalue₀, here, hmerged', hagree, hvalue⟩ :=
    exists_merged_of_variable htable hname hvar halone hmerged v
  exact load_eq_ok_iff.2 ⟨here, hmerged', ofEntries_set hagree hvalue₀ hvalue hread,
    validate_set hvalidate fun hk => trimmed_respelled (hsecret hk)⟩

end Loading

end Settings

/-! ## What the service makes of the texts -/

namespace Service

variable {service : Service} {o : Occasion} {users : UserStore} {r : RegisterRequest} {role : Role}

theorem ofStore_ne_invalidRegistrationCode (f : UserStoreFault) :
    AccountFault.ofStore f ≠ .invalidRegistrationCode := by
  cases f <;> exact nofun

theorem register_eq_refused_iff (hvalid : r.validate = .ok ()) (hrole : r.askedRole = .ok role) :
    service.register o r users = .error .invalidRegistrationCode ↔
      service.admits r.code role = false := by
  rw [register, hvalid, hrole]
  dsimp only [bind, Except.bind]
  cases service.admits r.code role with
  | false => exact ⟨fun _ => rfl, fun _ => rfl⟩
  | true =>
    refine ⟨fun h => ?_, fun h => by cases h⟩
    obtain h | ⟨hash, -, h⟩ := Outcome.bind_eq_error_iff.1 h
    · cases hhash : service.scheme.hash o.salt r.password <;> rw [hhash] at h <;> cases h
    · generalize users.create _ _ _ = x at h
      cases x with
      | error f => exact absurd (Except.error.inj h) (ofStore_ne_invalidRegistrationCode f)
      | ok p => cases h

theorem admits_iff {s : AuthSettings} {code given : String}
    (hcode : s.registrationCode = some given) (hgiven : given ≠ "") {scheme : PasswordScheme}
    {startedAt : Timestamp} :
    (ofSettings s scheme startedAt).admits (some code) role = true ↔ code = given := by
  have hknown : (ofSettings s scheme startedAt).registrationCode = some given := by
    simp [ofSettings, hcode, Option.filter, hgiven]
  rw [admits, hknown]
  simp

end Service

namespace Settings

section Texts

variable {k : TextSetting} {file : Option SettingsFile} {before after : List (String × String)}
  {var v₀ v : String} {s₀ : Settings}

/-- **A text from the environment** is what the value that it is taken for is written as. Where the
layers are loaded with some value of the variable of a text, and no other variable is about it, they
are loaded with every value, which must not be blank for the secret, and all other settings are the
same. The text is that of the variable exactly if that is how its value is written. If it is not,
the service refuses the code that the operator has chosen, and signs with another key than the
secret that he has chosen. -/
theorem text_of_variable (hvar : Environment.key? var = some k.key)
    (halone : Environment.IsAlone (before ++ after) k.table k.name)
    (hload : load file (before ++ (var, v₀) :: after) = .ok s₀)
    (hsecret : k = .secret → Text.trimmed v ≠ "") :
    ∃ s, load file (before ++ (var, v) :: after) = .ok s ∧ s = k.set (respelled v) s₀ ∧
      (k.of s = some v ↔ IsVerbatim v) ∧
      (k = .registrationCode → v ≠ "" → ∀ scheme startedAt o (r : RegisterRequest) role users,
        r.validate = .ok () → r.askedRole = .ok role → r.code = some v →
        ((Service.ofSettings s.auth scheme startedAt).register o r users =
          .error .invalidRegistrationCode ↔ ¬IsVerbatim v)) ∧
      (k = .secret → ((Signer.ofSettings s.auth).key = Utf8.encode v ↔ IsVerbatim v)) := by
  refine ⟨_, load_set hvar halone hload hsecret, rfl, ?_, ?_, ?_⟩
  · rw [TextSetting.of_set, Option.some.injEq, respelled_eq_self_iff]
  · rintro rfl hv scheme startedAt o r role users hvalid hrole hcode
    rw [Service.register_eq_refused_iff hvalid hrole, hcode, ← Bool.not_eq_true,
      Service.admits_iff rfl (respelled_ne_empty hv), ← respelled_eq_self_iff, eq_comm]
  · rintro rfl
    have hkey (text : String) :
        (Signer.ofSettings (TextSetting.secret.set text s₀).auth).key = Utf8.encode text := rfl
    rw [hkey, ← respelled_eq_self_iff]
    exact ⟨encode_injective, congrArg Utf8.encode⟩

theorem exists_load_of_secret_and_code : ∃ s₀, load none [("ACCOUNT__AUTH__JWT_SECRET", "secret"),
    ("ACCOUNT__AUTH__REGISTRATION_CODE", "code")] = .ok s₀ ∧ s₀.auth.secret = "secret" := by
  have hload : ((load none [("ACCOUNT__AUTH__JWT_SECRET", "secret"),
      ("ACCOUNT__AUTH__REGISTRATION_CODE", "code")]).toOption.map
      fun s => s.auth.secret) = some "secret" := by decide +kernel
  obtain ⟨s₀, hload, hsecret⟩ := Option.map_eq_some_iff.1 hload
  exact ⟨s₀, Outcome.toOption_eq_some_iff.1 hload, hsecret⟩

/-- A word is taken as it is for the code that is asked for. -/
theorem text_of_variable_of_word :
    ∃ s, load none [("ACCOUNT__AUTH__JWT_SECRET", "secret"),
        ("ACCOUNT__AUTH__REGISTRATION_CODE", "sesame")] = .ok s ∧
      s.auth.registrationCode = some "sesame" ∧ s.auth.secret = "secret" := by
  have hword : IsVerbatim "sesame" := by
    refine isVerbatim_of_strange (c := 's') (by decide +kernel) ?_ (by decide +kernel) ?_
    · unfold Decimal.IsNumeral
      decide +kernel
    · unfold Decimal.IsFloatWord
      decide +kernel
  have halone : Environment.IsAlone ([("ACCOUNT__AUTH__JWT_SECRET", "secret")] ++ []) "auth"
      "registration_code" := by
    unfold Environment.IsAlone
    decide +kernel
  obtain ⟨s₀, hload, hsecret⟩ := exists_load_of_secret_and_code
  obtain ⟨s, hs, rfl, hcode, -⟩ := text_of_variable (k := .registrationCode) (v := "sesame")
    (TextSetting.key?_variable _) halone hload (fun h => by cases h)
  exact ⟨_, hs, hcode.2 hword, hsecret⟩

/-- An agent's number is the code, and the secret has zeros at its start. Of both the zeros are
lost: who presents the code is refused, and the key is another. -/
theorem zeros_of_texts_are_lost :
    let o : Occasion := ⟨⟨3, 0⟩, 0, Uuid.random 3, []⟩
    let r : RegisterRequest :=
      ⟨"James", "james", "j@example.com", "secret", none, "", "", some "007"⟩
    r.validate = .ok () ∧
      ∃ s, load none [("ACCOUNT__AUTH__JWT_SECRET", "0042"),
          ("ACCOUNT__AUTH__REGISTRATION_CODE", "007")] = .ok s ∧
        s.auth.registrationCode = some "7" ∧ s.auth.secret = "42" ∧
        (Signer.ofSettings s.auth).key ≠ Utf8.encode "0042" ∧
        (Service.ofSettings s.auth .argon2id ⟨0, 0⟩).register o r {} =
          .error .invalidRegistrationCode := by
  intro o r
  have hvalid : r.validate = .ok () := Service.validate_register_eq_ok_iff.2 (by decide +kernel)
  have hblank : Text.trimmed "0042" ≠ "" := by decide +kernel
  have hzeros : respelled "0042" = "42" ∧ respelled "007" = "7" := by decide +kernel
  have halone : Environment.IsAlone ([("ACCOUNT__AUTH__JWT_SECRET", "secret")] ++ []) "auth"
      "registration_code" := by
    unfold Environment.IsAlone
    decide +kernel
  have halone' : Environment.IsAlone ([] ++ [("ACCOUNT__AUTH__REGISTRATION_CODE", "007")])
      "auth" "jwt_secret" := by
    unfold Environment.IsAlone
    decide +kernel
  obtain ⟨s₀, hload, -⟩ := exists_load_of_secret_and_code
  have hcode := load_set (k := .registrationCode) (v := "007")
    (TextSetting.key?_variable _) halone hload (fun h => by cases h)
  have hboth := load_set (k := .secret) (v := "0042") (TextSetting.key?_variable _) halone' hcode
    (fun _ => hblank)
  rw [hzeros.1, hzeros.2] at hboth
  refine ⟨hvalid, _, hboth, rfl, rfl, ?_, ?_⟩
  · exact fun h => absurd (encode_injective h) (by decide : "42" ≠ "0042")
  · rw [Service.register_eq_refused_iff hvalid rfl, ← Bool.not_eq_true,
      Service.admits_iff rfl (by decide)]
    decide

end Texts

end Settings

end Accounts
