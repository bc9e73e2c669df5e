import Mathlib.Data.List.Nodup
import Accounts.Proofs.Settings.Known
import Accounts.Proofs.Toml.Names

/-!
# Settings of layers

Each setting is what the environment gives it, else what the file gives it, else what is built in,
whatever the others are given. Only the check before the start can refuse what has been read.

* `Setting.inFile?`, `Setting.inEnvironment?`: what the two layers give to a setting;
* `Setting.effective`: the value of a setting;
* `IsForeign`: keys that are clear of all settings;
* `SettingsFile.Fits`, `Environment.Fits`: layers that give settings values that they take, and hold
  nothing else that is not foreign;
* **`valueAt_merged`**: the tree of all layers, setting by setting;
* **`load_of_layers`**: what is loaded from such layers, and when.
-/

namespace Accounts

open Settings

/-- The names of a table with their values. -/
def Toml.entries? : Toml → Option (List (String × Toml))
  | .table entries => some entries
  | _ => none

namespace Settings.Setting

/-- What a file gives to a setting. -/
def inFile? (k : Setting) (file : Option SettingsFile) : Option Tree := do
  let f ← file
  let entries ← Toml.parse? f.text
  let fields ← (entries.lookup k.table).bind Toml.entries?
  (fields.lookup k.name).map (Tree.ofToml f.name)

/-- What an environment gives to a setting. -/
def inEnvironment? (k : Setting) (environment : List (String × String)) : Option Tree :=
  (environment.find? fun e => Environment.key? e.1 = some k.key).map fun e =>
    .scalar (Scalar.ofText e.2) (some Environment.origin)

/-- What the built-in values give to a setting. -/
def builtIn? (k : Setting) : Option Tree := (builtIn.lookup k.key).map fun v => .scalar v none

/-- The value of a setting: that of the environment, else that of the file, else the built-in one. -/
def effective (k : Setting) (file : Option SettingsFile) (environment : List (String × String)) :
    Reading k.Value :=
  match (k.inEnvironment? environment).or (k.inFile? file) with
  | some t => k.read t
  | none => .ok (k.of {})

/-- A setting can be read from a value. -/
def Takes (k : Setting) (t : Tree) : Prop := (k.read t).isOk = true

instance (k : Setting) (t : Tree) : Decidable (k.Takes t) :=
  inferInstanceAs (Decidable ((k.read t).isOk = true))

end Settings.Setting

/-- What is put under a key leaves all settings as they are. -/
def Settings.IsForeign (key : String) : Prop :=
  ∀ k ∈ known, KeyPath.isClear key k.table k.name = true

instance (key : String) : Decidable (IsForeign key) :=
  inferInstanceAs (Decidable (∀ k ∈ known, KeyPath.isClear key k.table k.name = true))

/-- A field of a section gives the setting of its name a value that it takes, or its name is that of
no setting, in lower case either. -/
def Settings.FitField (origin section' : String) (field : String × Toml) : Prop :=
  (∃ k ∈ known, k.table = section' ∧ k.name = field.1 ∧ k.Takes (Tree.ofToml origin field.2)) ∨
    ∀ k ∈ known, k.table = section' → Text.lowercase field.1 ≠ k.name

instance (origin section' : String) (field : String × Toml) :
    Decidable (FitField origin section' field) :=
  inferInstanceAs (Decidable (_ ∨ _))

/-- What stands at the top of a file is a section with fields that fit, or foreign. -/
def Settings.FitEntry (origin : String) (e : String × Toml) : Prop :=
  ((∃ k ∈ known, k.table = e.1) ∧
      ∃ fields ∈ e.2.entries?, ∀ field ∈ fields, FitField origin e.1 field) ∨
    IsForeign e.1

instance (origin : String) (e : String × Toml) : Decidable (FitEntry origin e) :=
  inferInstanceAs (Decidable (_ ∨ _))

/-- A file is TOML and gives settings values that they take; what else it holds is foreign. -/
def SettingsFile.Fits (f : SettingsFile) : Prop :=
  ∃ entries ∈ Toml.parse? f.text, ∀ e ∈ entries, FitEntry f.name e

instance (f : SettingsFile) : Decidable f.Fits :=
  inferInstanceAs (Decidable (∃ entries ∈ Toml.parse? f.text, ∀ e ∈ entries, FitEntry f.name e))

/-- A variable gives a setting a value that it takes, or is foreign. -/
def Settings.Environment.FitVariable (e : String × String) : Prop :=
  ∀ key ∈ Environment.key? e.1,
    (∃ k ∈ known, k.key = key ∧ k.Takes (.scalar (Scalar.ofText e.2) (some Environment.origin))) ∨
      IsForeign key

instance (e : String × String) : Decidable (Environment.FitVariable e) :=
  inferInstanceAs (Decidable (∀ key ∈ Environment.key? e.1,
    (∃ k ∈ known, k.key = key ∧ k.Takes (.scalar (Scalar.ofText e.2) (some Environment.origin))) ∨
      IsForeign key))

/-- An environment gives settings values that they take, and each key at most one; what else it
holds is foreign. -/
def Settings.Environment.Fits (environment : List (String × String)) : Prop :=
  (environment.filterMap fun e => Environment.key? e.1).Nodup ∧
    ∀ e ∈ environment, Environment.FitVariable e

instance (environment : List (String × String)) : Decidable (Environment.Fits environment) :=
  inferInstanceAs (Decidable (_ ∧ _))

namespace Settings

theorem eq_of_key_eq {k k' : Setting} (hk : k ∈ known) (hk' : k' ∈ known) (h : k.key = k'.key) :
    k = k' :=
  List.inj_on_of_nodup_map (f := Setting.key) (by decide +kernel) hk hk' h

theorem isTable_of_takes {k : Setting} (hk : k ∈ known) {t : Tree} (h : k.Takes t) :
    t.isTable = false := by
  cases t with
  | table entries origin =>
    have hrefused : ∀ k ∈ known, (k.read (.table entries origin)).isOk = false := by
      simp only [known, List.forall_mem_cons]
      exact ⟨rfl, rfl, rfl, rfl, rfl, rfl, rfl, rfl, rfl, rfl, rfl, rfl, rfl, rfl, rfl, rfl, rfl,
        rfl, List.forall_mem_nil _⟩
    rw [Setting.Takes, hrefused k hk] at h
    cases h
  | scalar value origin => rfl
  | list items origin => rfl

/-! ## What fits -/

theorem isClear_key_self {k : Setting} (hk : k ∈ known) :
    KeyPath.isClear k.key k.table k.name = false := by
  obtain ⟨htable, hname⟩ := isName_of_known k hk
  rw [Setting.key, KeyPath.isClear_dotted htable hname]
  simp

theorem isClear_key_of_ne {k k' : Setting} (hk : k ∈ known) (h : k.key ≠ k'.key) :
    KeyPath.isClear k.key k'.table k'.name = true := by
  obtain ⟨htable, hname⟩ := isName_of_known k hk
  rw [Setting.key, KeyPath.isClear_dotted htable hname, Bool.or_eq_true, bne_iff_ne, bne_iff_ne]
  by_cases hsame : k.table = k'.table
  · exact .inr fun hname' => h (by rw [Setting.key, Setting.key, hsame, hname'])
  · exact .inl hsame

variable {origin : String} {k : Setting}

theorem takes_of_fitField (hk : k ∈ known) {v : Toml} (h : FitField origin k.table (k.name, v)) :
    k.Takes (Tree.ofToml origin v) := by
  obtain ⟨k', hk', htable, hname, htakes⟩ | hother := h
  · have hkeys : k'.key = k.key := by rw [Setting.key, htable, hname, Setting.key]
    rw [← eq_of_key_eq hk' hk hkeys]
    exact htakes
  · exact absurd (isName_of_known k hk).2.low (hother k hk rfl)

theorem lowercase_ne_of_fitField (hk : k ∈ known) {x : String × Toml}
    (h : FitField origin k.table x) (hx : x.1 ≠ k.name) : Text.lowercase x.1 ≠ k.name := by
  obtain ⟨k', hk', -, hname, -⟩ | hother := h
  · rw [← hname, (isName_of_known k' hk').2.low, hname]
    exact hx
  · exact hother k hk rfl

theorem exists_fields_of_fitEntry (hk : k ∈ known) {t : Toml} (h : FitEntry origin (k.table, t)) :
    ∃ fields, t = .table fields ∧ ∀ x ∈ fields, FitField origin k.table x := by
  obtain ⟨-, fields, hfields, hfit⟩ | hforeign := h
  · cases t with
    | table entries =>
      cases hfields
      exact ⟨fields, rfl, hfit⟩
    | _ => cases hfields
  · have hclear := hforeign k hk
    rw [KeyPath.isClear_table (isName_of_known k hk).1] at hclear
    simp at hclear

theorem isClear_of_fitEntry (hk : k ∈ known) {e : String × Toml} (h : FitEntry origin e)
    (he : e.1 ≠ k.table) : KeyPath.isClear e.1 k.table k.name = true := by
  obtain ⟨⟨k', hk', htable⟩, -⟩ | hforeign := h
  · rw [← htable, KeyPath.isClear_table (isName_of_known k' hk').1, bne_iff_ne, htable]
    exact he
  · exact hforeign k hk

theorem takes_of_fitVariable (hk : k ∈ known) {e : String × String}
    (h : Environment.FitVariable e) (he : Environment.key? e.1 = some k.key) :
    k.Takes (.scalar (Scalar.ofText e.2) (some Environment.origin)) := by
  obtain ⟨k', hk', hkeys, htakes⟩ | hforeign := h k.key he
  · rw [← eq_of_key_eq hk' hk hkeys]
    exact htakes
  · have hclear := hforeign k hk
    rw [isClear_key_self hk] at hclear
    cases hclear

theorem isClear_of_fitVariable (hk : k ∈ known) {e : String × String} {key : String}
    (h : Environment.FitVariable e) (he : Environment.key? e.1 = some key) (hkey : key ≠ k.key) :
    KeyPath.isClear key k.table k.name = true := by
  obtain ⟨k', hk', rfl, -⟩ | hforeign := h key he
  · exact isClear_key_of_ne hk' hkey
  · exact hforeign k hk

/-! ## The layers as trees -/

theorem ofTomlEntries_eq_map (origin : String) (entries : List (String × Toml)) :
    Tree.ofTomlEntries origin entries = entries.map fun e => (e.1, Tree.ofToml origin e.2) := by
  induction entries with
  | nil => rw [Tree.ofTomlEntries, List.map_nil]
  | cons e entries ih => rw [Tree.ofTomlEntries, ih, List.map_cons]

theorem valueAt_fromFile {f : SettingsFile} {entries : List (String × Toml)}
    (hparse : Toml.parse? f.text = some entries) (k : Setting) :
    Tree.valueAt (Tree.ofTomlEntries f.name entries) k.table k.name = k.inFile? (some f) := by
  have hfile : k.inFile? (some f) = ((entries.lookup k.table).bind Toml.entries?).bind
      fun fields => (fields.lookup k.name).map (Tree.ofToml f.name) := by
    simp only [Setting.inFile?, hparse, Option.bind_eq_bind, Option.bind_some]
  rw [hfile, Tree.valueAt, Tree.tableAt, ofTomlEntries_eq_map, lookup_map_snd]
  cases entries.lookup k.table with
  | none => rfl
  | some t =>
    cases t with
    | table fields =>
      simp only [Option.map_some, Option.getD_some, Tree.ofToml, Tree.entries, ofTomlEntries_eq_map,
        lookup_map_snd, Option.bind_some, Toml.entries?]
    | _ =>
      simp only [Option.map_some, Option.getD_some, Tree.ofToml, Tree.entries, List.lookup_nil,
        Option.bind_some, Toml.entries?, Option.bind_none]

theorem lookup_fromEnvironment (k : Setting) (environment : List (String × String)) :
    (Environment.settings environment).lookup k.key = k.inEnvironment? environment := by
  unfold Environment.settings Setting.inEnvironment?
  induction environment with
  | nil => rfl
  | cons e environment ih =>
    obtain ⟨name, value⟩ := e
    cases hkey : Environment.key? name with
    | none => simpa [hkey] using ih
    | some key =>
      by_cases h : key = k.key
      · subst h
        simp [hkey]
      · simpa [hkey, h, List.lookup_cons, beq_eq_false_iff_ne.2 (Ne.symm h)] using ih

theorem map_fst_fromEnvironment (environment : List (String × String)) :
    (Environment.settings environment).map Prod.fst =
      environment.filterMap fun e => Environment.key? e.1 := by
  unfold Environment.settings
  rw [List.map_filterMap]
  refine List.filterMap_congr fun e _ => ?_
  rw [Option.map_map]
  exact Option.map_id'

theorem valueAt_builtInTree (hk : k ∈ known) :
    Tree.valueAt builtInTree k.table k.name = k.builtIn? := by
  obtain ⟨htable, hname⟩ := isName_of_known k hk
  have hkeys : ∀ e ∈ builtIn, ∃ k ∈ known, k.key = e.1 := by decide +kernel
  have hlookup : (builtIn.map fun e => (e.1, Tree.scalar e.2 none)).lookup k.key = k.builtIn? :=
    lookup_map_snd (fun v => Tree.scalar v none) k.key builtIn
  have hempty : (k.builtIn?).or (Tree.valueAt [] k.table k.name) = k.builtIn? := Option.or_none
  rw [← hempty, ← hlookup, builtInTree]
  refine Tree.valueAt_lay_keys ?_ ?_ ?_
  · have hnames : (builtIn.map fun e => (e.1, Tree.scalar e.2 none)).map Prod.fst =
        builtIn.map Prod.fst := List.map_map
    rw [hnames]
    decide +kernel
  · intro e he hkey here
    obtain ⟨b, hb, rfl⟩ := List.mem_map.1 he
    exact Tree.valueAt_putKey_dotted htable hname rfl
  · intro e he hkey
    obtain ⟨b, hb, rfl⟩ := List.mem_map.1 he
    obtain ⟨k', hk', hkey'⟩ := hkeys b hb
    exact hkey' ▸ isClear_key_of_ne hk' (hkey' ▸ hkey)

variable {file : Option SettingsFile} {environment : List (String × String)}

theorem valueAt_layEnvironment (h : Environment.Fits environment) (here : Tree.Entries)
    (hk : k ∈ known) :
    Tree.valueAt (Tree.lay here (Environment.settings environment)) k.table k.name =
      (k.inEnvironment? environment).or (Tree.valueAt here k.table k.name) := by
  obtain ⟨honce, hvariables⟩ := h
  obtain ⟨htable, hname⟩ := isName_of_known k hk
  rw [← lookup_fromEnvironment]
  refine Tree.valueAt_lay_keys ?_ ?_ ?_
  · rw [map_fst_fromEnvironment]
    exact honce
  · intro e he hkey here
    obtain ⟨v, hv, hsetting⟩ := List.mem_filterMap.1 he
    obtain ⟨key, -, rfl⟩ := Option.map_eq_some_iff.1 hsetting
    exact Tree.valueAt_putKey_dotted htable hname rfl
  · intro e he hkey
    obtain ⟨v, hv, hsetting⟩ := List.mem_filterMap.1 he
    obtain ⟨key, hkey', rfl⟩ := Option.map_eq_some_iff.1 hsetting
    exact isClear_of_fitVariable hk (hvariables v hv) hkey' hkey

theorem valueAt_layFile {f : SettingsFile} {entries : List (String × Toml)}
    (hparse : Toml.parse? f.text = some entries) (h : ∀ e ∈ entries, FitEntry f.name e)
    (here : Tree.Entries) (hk : k ∈ known) :
    Tree.valueAt (Tree.lay here (Tree.ofTomlEntries f.name entries)) k.table k.name =
      (k.inFile? (some f)).or (Tree.valueAt here k.table k.name) := by
  obtain ⟨htable, hname⟩ := isName_of_known k hk
  obtain ⟨honce, hsections⟩ := Toml.once_of_parse? hparse
  rw [← valueAt_fromFile hparse, ofTomlEntries_eq_map]
  refine Tree.valueAt_lay_tables ?_ ?_ ?_
  · rw [List.map_map]
    exact honce
  · intro e' he' hsection here
    obtain ⟨⟨table, t⟩, he, rfl⟩ := List.mem_map.1 he'
    cases hsection
    obtain ⟨fields, rfl, hfields⟩ := exists_fields_of_fitEntry hk (h _ he)
    rw [Tree.ofToml, ofTomlEntries_eq_map]
    refine Tree.valueAt_putKey_table htable ?_ ?_ ?_
    · rw [List.map_map]
      exact hsections _ he
    · intro x' hx' hfield
      obtain ⟨⟨name, v⟩, hx, rfl⟩ := List.mem_map.1 hx'
      cases hfield
      exact ⟨hname.low, isTable_of_takes hk (takes_of_fitField hk (hfields _ hx))⟩
    · intro x' hx' hfield
      obtain ⟨x, hx, rfl⟩ := List.mem_map.1 hx'
      exact lowercase_ne_of_fitField hk (hfields x hx) hfield
  · intro e' he' hsection
    obtain ⟨e, he, rfl⟩ := List.mem_map.1 he'
    exact isClear_of_fitEntry hk (h e he) hsection

/-- **The tree of all layers, setting by setting.** -/
theorem valueAt_merged (hfile : ∀ f ∈ file, f.Fits) (henvironment : Environment.Fits environment) :
    ∃ here, merged? file environment = some here ∧ ∀ k ∈ known,
      Tree.valueAt here k.table k.name =
        (k.inEnvironment? environment).or ((k.inFile? file).or k.builtIn?) := by
  cases file with
  | none =>
    refine ⟨Tree.lay (Tree.lay builtInTree []) (Environment.settings environment), ?_,
      fun k hk => ?_⟩
    · simp only [merged?, Option.bind_eq_bind, Option.bind_some]
    · have hnothing : k.inFile? none = none := rfl
      rw [valueAt_layEnvironment henvironment _ hk, hnothing, Option.none_or,
        ← valueAt_builtInTree hk, Tree.lay, List.foldl_nil]
  | some f =>
    obtain ⟨entries, hparse, hentries⟩ := hfile f rfl
    refine ⟨Tree.lay (Tree.lay builtInTree (Tree.ofTomlEntries f.name entries))
      (Environment.settings environment), ?_, fun k hk => ?_⟩
    · simp only [merged?, Option.mem_def.1 hparse, Option.map_some, Option.bind_eq_bind,
        Option.bind_some]
    · rw [valueAt_layEnvironment henvironment _ hk, valueAt_layFile hparse hentries _ hk,
        valueAt_builtInTree hk]

/-! ## The settings that are loaded -/

theorem takes_of_inEnvironment? (h : Environment.Fits environment) (hk : k ∈ known) {t : Tree}
    (ht : k.inEnvironment? environment = some t) : k.Takes t := by
  obtain ⟨e, he, rfl⟩ := Option.map_eq_some_iff.1 ht
  have hkey := List.find?_some he
  exact takes_of_fitVariable hk (h.2 e (List.mem_of_find?_eq_some he)) (of_decide_eq_true hkey)

theorem takes_of_inFile? (h : ∀ f ∈ file, f.Fits) (hk : k ∈ known) {t : Tree}
    (ht : k.inFile? file = some t) : k.Takes t := by
  obtain ⟨f, hf, hentries⟩ := Option.bind_eq_some_iff.1 ht
  obtain ⟨entries, hparse, hfields⟩ := Option.bind_eq_some_iff.1 hentries
  obtain ⟨fields, hsection, hvalue⟩ := Option.bind_eq_some_iff.1 hfields
  obtain ⟨u, hu, htable⟩ := Option.bind_eq_some_iff.1 hsection
  obtain ⟨v, hv, rfl⟩ := Option.map_eq_some_iff.1 hvalue
  obtain ⟨entries', hparse', hfits⟩ := h f hf
  cases hparse.symm.trans (Option.mem_def.1 hparse')
  obtain ⟨fields', rfl, hfit⟩ := exists_fields_of_fitEntry hk (hfits _ (mem_of_lookup hu))
  cases htable
  exact takes_of_fitField hk (hfit _ (mem_of_lookup hv))

theorem exists_effective (hfile : ∀ f ∈ file, f.Fits)
    (henvironment : Environment.Fits environment) {here : Tree.Entries} (hk : k ∈ known)
    (hhere : Tree.valueAt here k.table k.name =
      (k.inEnvironment? environment).or ((k.inFile? file).or k.builtIn?)) :
    ∃ v, k.effective file environment = .ok v ∧ k.Holds here v := by
  unfold Setting.effective Setting.Holds
  rw [hhere, ← Option.or_assoc]
  cases hgiven : (k.inEnvironment? environment).or (k.inFile? file) with
  | none => exact ⟨k.of {}, rfl, builtIn_complete k hk⟩
  | some t =>
    have htakes : k.Takes t := by
      rw [Option.or_eq_some_iff] at hgiven
      obtain ht | ⟨-, ht⟩ := hgiven
      · exact takes_of_inEnvironment? henvironment hk ht
      · exact takes_of_inFile? hfile hk ht
    unfold Setting.Takes at htakes
    cases hread : k.read t with
    | error f => rw [hread] at htakes; cases htakes
    | ok v => exact ⟨v, hread, hread⟩

theorem validate_ne_unreadable (s : Settings) (reason : String) :
    s.validate ≠ .error (.unreadable reason) := by
  unfold validate
  split_ifs <;> intro h <;> cases h

/-- **The settings of layers.** Where a file, if there is one, and an environment give settings values
that they take, each setting is what the environment gives it, else what the file gives it, else
what is built in, whatever the others are given and whatever foreign names there are. These settings
are loaded if they pass the check before the start, and else its fault is reported, never one of
reading. They pass exactly if the secret is not blank, the lifetime is one of 1 to 8760 hours and
the time for an operation of the store of revoked tokens is not 0. -/
theorem load_of_layers (hfile : ∀ f ∈ file, f.Fits) (henvironment : Environment.Fits environment) :
    ∃ s : Settings,
      (∀ s', (∀ k ∈ known, k.effective file environment = .ok (k.of s')) ↔ s' = s) ∧
      load file environment = s.validate.map (fun _ => s) ∧
      (∀ reason, load file environment ≠ .error (.unreadable reason)) ∧
      ((∃ s', load file environment = .ok s') ↔
        Text.trimmed s.auth.secret ≠ "" ∧ 1 ≤ s.auth.lifetimeHours ∧ s.auth.lifetimeHours ≤ 8760 ∧
          s.redis.opTimeoutMs ≠ 0) := by
  obtain ⟨here, hmerged, hhere⟩ := valueAt_merged hfile henvironment
  obtain ⟨s, hs⟩ := exists_of_known fun k hk =>
    exists_effective hfile henvironment hk (hhere k hk)
  have hread : ofEntries here = .ok s := ofEntries_eq fun k hk => (hs k hk).2
  have hload : load file environment = s.validate.map fun _ => s := by
    unfold load
    simp only [hmerged, hread]
    cases s.validate <;> rfl
  refine ⟨s, fun s' => ⟨fun h => ?_, ?_⟩, hload, fun reason h => ?_, ?_⟩
  · exact eq_of_known fun k hk => Except.ok.inj ((h k hk).symm.trans (hs k hk).1)
  · rintro rfl k hk
    exact (hs k hk).1
  · rw [hload] at h
    cases hvalidate : s.validate with
    | ok _ => rw [hvalidate] at h; cases h
    | error f =>
      rw [hvalidate] at h
      cases h
      exact validate_ne_unreadable s reason hvalidate
  · rw [hload]
    refine Iff.trans ⟨?_, fun h => ?_⟩ s.validate_eq_ok_iff
    · rintro ⟨s', h⟩
      obtain ⟨_, hvalidate, -⟩ := Outcome.map_eq_ok_iff.1 h
      exact hvalidate
    · rw [h]
      exact ⟨s, rfl⟩

/-- A file gives parts of two sections, and the environment another part and one of the same; both
hold foreign names too. -/
theorem load_of_layers_in_parts :
    let file : SettingsFile := ⟨"config/default.toml", "[server]\nhttp_port = 9090\ncolor = true\n\n" ++
      "[auth]\njwt_secret = \"file-provided-secret\"\ntoken_lifetime_hours = 12\n\n" ++
      "[cache]\nsize = 3\n"⟩
    let environment := [("PATH", "/bin"), ("ACCOUNT__AUTH__TOKEN_LIFETIME_HOURS", "6"),
      ("ACCOUNT__CACHE__SIZE", "4"), ("ACCOUNT__REDIS__URL", "redis://localhost")]
    ∃ s, load (some file) environment = .ok s ∧ s.server.httpPort = 9090 ∧
      s.server.grpcPort = 50051 ∧ s.database.url = none ∧ s.redis.url = some "redis://localhost" ∧
      s.auth.secret = "file-provided-secret" ∧ s.auth.lifetimeHours = 6 := by
  intro file environment
  have hfile : ∀ f ∈ some file, f.Fits := by
    rintro f ⟨⟩
    decide +kernel
  have henvironment : Environment.Fits environment := by decide +kernel
  obtain ⟨s, hvalues, hload, -, hok⟩ := load_of_layers hfile henvironment
  have heffective := (hvalues s).2 rfl
  simp only [known, List.forall_mem_cons, ← Outcome.toOption_eq_some_iff] at heffective
  obtain ⟨-, http, grpc, -, database, -, -, -, redis, -, timeout, secret, lifetime, -⟩ := heffective
  -- one evaluation, so that the file is read once
  obtain ⟨hhttp, hgrpc, hdatabase, hredis, htimeout, hsecret, hlifetime⟩ :
      some s.server.httpPort = some 9090 ∧ some s.server.grpcPort = some 50051 ∧
        some s.database.url = some none ∧ some s.redis.url = some (some "redis://localhost") ∧
        some s.redis.opTimeoutMs = some 2000 ∧ some s.auth.secret = some "file-provided-secret" ∧
        some s.auth.lifetimeHours = some 6 := by
    rw [← http, ← grpc, ← database, ← redis, ← timeout, ← secret, ← lifetime]
    decide +kernel
  simp only [Option.some.injEq] at hhttp hgrpc hdatabase hredis htimeout hsecret hlifetime
  obtain ⟨s', hs'⟩ := hok.2 (by rw [htimeout, hsecret, hlifetime]; decide +kernel)
  rw [hload] at hs' ⊢
  obtain ⟨_, hpass, -⟩ := Outcome.map_eq_ok_iff.1 hs'
  exact ⟨s, by rw [hpass]; rfl, hhttp, hgrpc, hdatabase, hredis, hsecret, hlifetime⟩

end Settings

end Accounts
