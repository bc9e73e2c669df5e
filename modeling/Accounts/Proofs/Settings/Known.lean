import Accounts.Proofs.Outcome
import Accounts.Proofs.Settings.Tree

/-!
# The known settings

Each setting stands under a name in the table of its section and is read in its own way. Where all
of them can be read, so can their sections.

* `Setting`, `known`: the settings, with how they are read and where they stand among all of them;
* `exists_of_known`, `eq_of_known`: what the known settings are is what all settings are;
* `Setting.Holds`: what a tree has for a setting;
* **`ofEntries_eq`**: settings are read from a tree that holds each of them;
* **`builtIn_complete`**: a setting has a built-in value by key or need not be named at all.
-/

namespace Accounts.Settings

/-- A setting: its section and its name, how it is read, what it is if it need not be named, and
where it stands among all settings. -/
structure Setting where
  {Value : Type}
  table : String
  name : String
  read : Tree → Reading Value
  unnamed : Option Value
  of : Settings → Value

/-- The settings. -/
def known : List Setting := [
  ⟨"server", "host", Tree.text, none, (·.server.host)⟩,
  ⟨"server", "http_port", Tree.natural 16, none, (·.server.httpPort)⟩,
  ⟨"server", "grpc_port", Tree.natural 16, none, (·.server.grpcPort)⟩,
  ⟨"server", "request_timeout_secs", Tree.natural 64, none, (·.server.requestTimeoutSecs)⟩,
  ⟨"database", "url", Tree.optional Tree.text, some none, (·.database.url)⟩,
  ⟨"database", "max_connections", Tree.natural 32, none, (·.database.maxConnections)⟩,
  ⟨"database", "connect_timeout_secs", Tree.natural 64, none, (·.database.connectTimeoutSecs)⟩,
  ⟨"database", "run_migrations", Tree.truth, none, (·.database.runMigrations)⟩,
  ⟨"redis", "url", Tree.optional Tree.text, some none, (·.redis.url)⟩,
  ⟨"redis", "key_prefix", Tree.text, none, (·.redis.keyStart)⟩,
  ⟨"redis", "op_timeout_ms", Tree.natural 64, none, (·.redis.opTimeoutMs)⟩,
  ⟨"auth", "jwt_secret", Tree.text, some "", (·.auth.secret)⟩,
  ⟨"auth", "token_lifetime_hours", Tree.integer, none, (·.auth.lifetimeHours)⟩,
  ⟨"auth", "issuer", Tree.text, none, (·.auth.issuer)⟩,
  ⟨"auth", "audience", Tree.text, none, (·.auth.audience)⟩,
  ⟨"auth", "registration_code", Tree.optional Tree.text, some none, (·.auth.registrationCode)⟩,
  ⟨"logging", "level", Tree.text, none, (·.logging.level)⟩,
  ⟨"logging", "format", Tree.text, none, (·.logging.format)⟩]

/-- The key of a setting. -/
def Setting.key (k : Setting) : String := KeyPath.dotted k.table k.name

theorem exists_of_known {p : (k : Setting) → k.Value → Prop} (h : ∀ k ∈ known, ∃ v, p k v) :
    ∃ s : Settings, ∀ k ∈ known, p k (k.of s) := by
  simp only [known, List.forall_mem_cons] at h ⊢
  obtain ⟨⟨host, h₁⟩, ⟨http, h₂⟩, ⟨grpc, h₃⟩, ⟨request, h₄⟩, ⟨database, h₅⟩, ⟨connections, h₆⟩,
    ⟨connect, h₇⟩, ⟨migrations, h₈⟩, ⟨redis, h₉⟩, ⟨start, h₁₀⟩, ⟨timeout, h₁₁⟩, ⟨secret, h₁₂⟩,
    ⟨lifetime, h₁₃⟩, ⟨issuer, h₁₄⟩, ⟨audience, h₁₅⟩, ⟨code, h₁₆⟩, ⟨level, h₁₇⟩, ⟨format, h₁₈⟩, -⟩ := h
  exact ⟨⟨⟨host, http, grpc, request⟩, ⟨database, connections, connect, migrations⟩,
      ⟨redis, start, timeout⟩, ⟨secret, lifetime, issuer, audience, code⟩, ⟨level, format⟩⟩,
    h₁, h₂, h₃, h₄, h₅, h₆, h₇, h₈, h₉, h₁₀, h₁₁, h₁₂, h₁₃, h₁₄, h₁₅, h₁₆, h₁₇, h₁₈,
    List.forall_mem_nil _⟩

theorem eq_of_known {s s' : Settings} (h : ∀ k ∈ known, k.of s = k.of s') : s = s' := by
  obtain ⟨⟨host, http, grpc, request⟩, ⟨database, connections, connect, migrations⟩,
      ⟨redis, start, timeout⟩, ⟨secret, lifetime, issuer, audience, code⟩, ⟨level, format⟩⟩ := s
  obtain ⟨⟨host', http', grpc', request'⟩, ⟨database', connections', connect', migrations'⟩,
      ⟨redis', start', timeout'⟩, ⟨secret', lifetime', issuer', audience', code'⟩,
      ⟨level', format'⟩⟩ := s'
  simp only [known, List.forall_mem_cons] at h
  simp only [h]

theorem isName_of_known :
    ∀ k ∈ known, KeyPath.IsName k.table ∧ KeyPath.IsName k.name := by
  decide +kernel

/-! ## Fields of a section -/

/-- What stands in a table for a field: a value that is read so, or nothing, if the field need not
be named. -/
def Holds {α : Type} (found : Option Tree) (read : Tree → Reading α) (unnamed : Option α) (v : α) :
    Prop :=
  match found with
  | some t => read t = .ok v
  | none => unnamed = some v

/-- What a tree has for a setting. -/
def Setting.Holds (k : Setting) (here : Tree.Entries) (v : k.Value) : Prop :=
  Settings.Holds (Tree.valueAt here k.table k.name) k.read k.unnamed v

theorem field_eq {α : Type} {label name : String} {count place : Nat} {entries : Tree.Entries}
    {read : Tree → Reading α} {unnamed unplaced : Option α} {v : α}
    (h : Holds (entries.lookup name) read unnamed v) :
    Section.field ⟨label, count, entries, none⟩ place name read unnamed unplaced = .ok v := by
  unfold Section.field
  unfold Holds at h
  cases hfound : entries.lookup name with
  | none =>
    rw [hfound] at h
    dsimp only at h ⊢
    rw [h]
  | some t =>
    rw [hfound] at h
    dsimp only at h ⊢
    rw [h]
    rfl

variable {here : Tree.Entries} {s : Settings}

section Sections

variable {entries : Tree.Entries} {origin : Option String}

theorem readServer_eq {s : ServerSettings}
    (host : Holds (entries.lookup "host") Tree.text none s.host)
    (http : Holds (entries.lookup "http_port") (Tree.natural 16) none s.httpPort)
    (grpc : Holds (entries.lookup "grpc_port") (Tree.natural 16) none s.grpcPort)
    (request : Holds (entries.lookup "request_timeout_secs") (Tree.natural 64) none
      s.requestTimeoutSecs) :
    ServerSettings.read (.table entries origin) = .ok s := by
  refine Outcome.bind_eq_ok_iff.2 ⟨_, rfl, ?_⟩
  simp only [Section.required, field_eq host, field_eq http, field_eq grpc, field_eq request]
  rfl

theorem readDatabase_eq {s : DatabaseSettings}
    (url : Holds (entries.lookup "url") (Tree.optional Tree.text) (some none) s.url)
    (connections : Holds (entries.lookup "max_connections") (Tree.natural 32) none s.maxConnections)
    (connect : Holds (entries.lookup "connect_timeout_secs") (Tree.natural 64) none
      s.connectTimeoutSecs)
    (migrations : Holds (entries.lookup "run_migrations") Tree.truth none s.runMigrations) :
    DatabaseSettings.read (.table entries origin) = .ok s := by
  refine Outcome.bind_eq_ok_iff.2 ⟨_, rfl, ?_⟩
  simp only [Section.required, Section.nullable, field_eq url, field_eq connections,
    field_eq connect, field_eq migrations]
  rfl

theorem readRedis_eq {s : RedisSettings}
    (url : Holds (entries.lookup "url") (Tree.optional Tree.text) (some none) s.url)
    (start : Holds (entries.lookup "key_prefix") Tree.text none s.keyStart)
    (timeout : Holds (entries.lookup "op_timeout_ms") (Tree.natural 64) none s.opTimeoutMs) :
    RedisSettings.read (.table entries origin) = .ok s := by
  refine Outcome.bind_eq_ok_iff.2 ⟨_, rfl, ?_⟩
  simp only [Section.required, Section.nullable, field_eq url, field_eq start, field_eq timeout]
  rfl

theorem readAuth_eq {s : AuthSettings}
    (secret : Holds (entries.lookup "jwt_secret") Tree.text (some "") s.secret)
    (lifetime : Holds (entries.lookup "token_lifetime_hours") Tree.integer none s.lifetimeHours)
    (issuer : Holds (entries.lookup "issuer") Tree.text none s.issuer)
    (audience : Holds (entries.lookup "audience") Tree.text none s.audience)
    (code : Holds (entries.lookup "registration_code") (Tree.optional Tree.text) (some none)
      s.registrationCode) :
    AuthSettings.read (.table entries origin) = .ok s := by
  refine Outcome.bind_eq_ok_iff.2 ⟨_, rfl, ?_⟩
  simp only [Section.required, Section.nullable, field_eq secret, field_eq lifetime,
    field_eq issuer, field_eq audience, field_eq code]
  rfl

theorem readLog_eq {s : LogSettings}
    (level : Holds (entries.lookup "level") Tree.text none s.level)
    (format : Holds (entries.lookup "format") Tree.text none s.format) :
    LogSettings.read (.table entries origin) = .ok s := by
  refine Outcome.bind_eq_ok_iff.2 ⟨_, rfl, ?_⟩
  simp only [Section.required, field_eq level, field_eq format]
  rfl

end Sections

theorem exists_table_of_holds {k : Setting} {v : k.Value} (h : k.Holds here v)
    (hnamed : k.unnamed = none) :
    ∃ entries origin, here.lookup k.table = some (.table entries origin) ∧
      ∀ n, Tree.valueAt here k.table n = entries.lookup n := by
  unfold Setting.Holds Settings.Holds at h
  cases hfound : Tree.valueAt here k.table k.name with
  | none =>
    rw [hfound, hnamed] at h
    cases h
  | some t =>
    obtain ⟨entries, origin, hlookup, hentries⟩ := Tree.lookup_of_valueAt hfound
    exact ⟨entries, origin, hlookup, fun n => (hentries n).symm⟩

/-- **Settings are read from a tree that holds each of them.** -/
theorem ofEntries_eq (h : ∀ k ∈ known, k.Holds here (k.of s)) : ofEntries here = .ok s := by
  simp only [known, List.forall_mem_cons] at h
  obtain ⟨host, http, grpc, request, database, connections, connect, migrations, redis, start,
    timeout, secret, lifetime, issuer, audience, code, level, format, -⟩ := h
  have hserver : Holds (here.lookup "server") ServerSettings.read (some {}) s.server := by
    obtain ⟨entries, origin, hlookup, hentries⟩ := exists_table_of_holds host rfl
    simp only [Setting.Holds, hentries] at host http grpc request
    rw [hlookup]
    exact readServer_eq host http grpc request
  have hdatabase : Holds (here.lookup "database") DatabaseSettings.read (some {}) s.database := by
    obtain ⟨entries, origin, hlookup, hentries⟩ := exists_table_of_holds connections rfl
    simp only [Setting.Holds, hentries] at database connections connect migrations
    rw [hlookup]
    exact readDatabase_eq database connections connect migrations
  have hredis : Holds (here.lookup "redis") RedisSettings.read (some {}) s.redis := by
    obtain ⟨entries, origin, hlookup, hentries⟩ := exists_table_of_holds start rfl
    simp only [Setting.Holds, hentries] at redis start timeout
    rw [hlookup]
    exact readRedis_eq redis start timeout
  have hauth : Holds (here.lookup "auth") AuthSettings.read (some {}) s.auth := by
    obtain ⟨entries, origin, hlookup, hentries⟩ := exists_table_of_holds issuer rfl
    simp only [Setting.Holds, hentries] at secret lifetime issuer audience code
    rw [hlookup]
    exact readAuth_eq secret lifetime issuer audience code
  have hlogging : Holds (here.lookup "logging") LogSettings.read (some {}) s.logging := by
    obtain ⟨entries, origin, hlookup, hentries⟩ := exists_table_of_holds level rfl
    simp only [Setting.Holds, hentries] at level format
    rw [hlookup]
    exact readLog_eq level format
  simp only [ofEntries, field_eq hserver, field_eq hdatabase, field_eq hredis, field_eq hauth,
    field_eq hlogging]
  rfl

/-! ## Built-in values -/

/-- **A setting has a built-in value by its key, or need not be named**, and that is what it is
without layers. -/
theorem builtIn_complete (k : Setting) (hk : k ∈ known) :
    Holds ((builtIn.lookup k.key).map fun v => .scalar v none) k.read k.unnamed (k.of {}) := by
  revert k
  simp only [known, List.forall_mem_cons]
  exact ⟨rfl, rfl, rfl, rfl, rfl, rfl, rfl, rfl, rfl, rfl, rfl, rfl, rfl, rfl, rfl, rfl, rfl, rfl,
    List.forall_mem_nil _⟩

end Accounts.Settings
