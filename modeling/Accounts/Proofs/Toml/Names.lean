import Accounts.Proofs.Lookup
import Accounts.Toml.Document

/-!
# No name is given twice

A text that gives a name twice is no TOML: the names of a table that is read are distinct, in the
table of the whole text and in every table under its names.

* `Toml.Once`: the names of a value, if it is a table, are distinct;
* `Draft.Sound`: a table under construction has distinct names, and so have those in it;
* `Draft.sound_descend`: a change that keeps tables sound keeps them so at the end of every path;
* **`once_of_parse?`**: the tables of a text.
-/

namespace Accounts.Toml

/-- The names of a value, if it is a table, are distinct. -/
def Once : Toml → Prop
  | .table entries => (entries.map Prod.fst).Nodup
  | _ => True

namespace Draft

/-- Names are distinct in a table that is built and in the tables below it; the values satisfy a
predicate. -/
inductive Sound (p : Toml → Prop) : Draft → Prop
  | value {v : Toml} (h : p v) : Sound p (.value v)
  | table {origin : Origin} {entries : Entries} (hnames : (entries.map Prod.fst).Nodup)
      (h : ∀ e ∈ entries, Sound p e.2) : Sound p (.table origin entries)
  | tables {list : List Entries} (hnames : ∀ entries ∈ list, (entries.map Prod.fst).Nodup)
      (h : ∀ entries ∈ list, ∀ e ∈ entries, Sound p e.2) : Sound p (.tables list)

/-- The same of the entries of a table. -/
structure SoundEntries (p : Toml → Prop) (entries : Entries) : Prop where
  names : (entries.map Prod.fst).Nodup
  sound : ∀ e ∈ entries, Sound p e.2

variable {p : Toml → Prop} {entries : Entries} {name : String} {d : Draft}

theorem SoundEntries.nil : SoundEntries p [] := ⟨List.nodup_nil, List.forall_mem_nil _⟩

theorem SoundEntries.table (h : SoundEntries p entries) (origin : Origin) :
    Sound p (.table origin entries) := .table h.names h.sound

theorem sound_of_lookup (h : SoundEntries p entries) (hd : entries.lookup name = some d) :
    Sound p d :=
  h.sound _ (mem_of_lookup hd)

theorem sound_tables {newest : Entries} {older : List Entries} (h : SoundEntries p newest)
    (holder : ∀ entries ∈ older, SoundEntries p entries) : Sound p (.tables (newest :: older)) :=
  .tables (List.forall_mem_cons.2 ⟨h.names, fun entries he => (holder entries he).names⟩)
    (List.forall_mem_cons.2 ⟨h.sound, fun entries he => (holder entries he).sound⟩)

theorem soundEntries_of_tables {list : List Entries} (h : Sound p (.tables list)) :
    ∀ entries ∈ list, SoundEntries p entries := by
  cases h with
  | tables hnames h => exact fun entries he => ⟨hnames entries he, h entries he⟩

theorem soundEntries_of_table {origin : Origin} (h : Sound p (.table origin entries)) :
    SoundEntries p entries := by
  cases h with
  | table hnames h => exact ⟨hnames, h⟩

theorem SoundEntries.concat (h : SoundEntries p entries) (hnew : entries.lookup name = none)
    (hd : Sound p d) : SoundEntries p (entries ++ [(name, d)]) := by
  have hname : name ∉ entries.map Prod.fst := by
    rintro hmem
    obtain ⟨e, he, rfl⟩ := List.mem_map.1 hmem
    exact absurd (List.lookup_eq_none_iff.1 hnew e he) (by simp)
  refine ⟨?_, ?_⟩
  · rw [List.map_append, List.nodup_append]
    refine ⟨h.names, by simp, fun a ha b hb => ?_⟩
    rw [List.map_singleton, List.mem_singleton] at hb
    rintro rfl
    rw [hb] at ha
    exact hname ha
  · intro e he
    rw [List.mem_append, List.mem_singleton] at he
    obtain he | rfl := he
    · exact h.sound e he
    · exact hd

theorem soundEntries_set (h : SoundEntries p entries) (hd : Sound p d) :
    SoundEntries p (set entries name d) := by
  unfold set
  split
  · refine ⟨?_, ?_⟩
    · have hnames : (entries.map fun e => if e.1 = name then (name, d) else e).map Prod.fst =
          entries.map Prod.fst := by
        rw [List.map_map]
        refine List.map_congr_left fun e _ => ?_
        by_cases he : e.1 = name <;> simp [he]
      rw [hnames]
      exact h.names
    · intro e he
      obtain ⟨e', he', rfl⟩ := List.mem_map.1 he
      split
      · exact hd
      · exact h.sound e' he'
  · rename_i hnone
    exact h.concat (Option.not_isSome_iff_eq_none.1 hnone) hd

/-- **A change that keeps tables sound keeps them so at the end of every path.** -/
theorem sound_descend {way : Origin} {change : Origin → Entries → Option Entries}
    (hchange : ∀ here entries entries', SoundEntries p entries →
      change here entries = some entries' → SoundEntries p entries')
    {path : List String} {here : Origin} {entries entries' : Entries}
    (h : SoundEntries p entries) (hd : descend way change path here entries = some entries') :
    SoundEntries p entries' := by
  induction path generalizing here entries entries' with
  | nil => exact hchange here entries entries' h hd
  | cons name path ih =>
    rw [descend] at hd
    split at hd
    · obtain ⟨inner, hinner, hset⟩ := Option.bind_eq_some_iff.1 hd
      cases hset
      exact soundEntries_set h ((ih .nil hinner).table way)
    · cases hd
    · cases hd
    · rename_i newest older hfound
      obtain ⟨inner, hinner, hset⟩ := Option.bind_eq_some_iff.1 hd
      cases hset
      obtain ⟨hnewest, holder⟩ :=
        List.forall_mem_cons.1 (soundEntries_of_tables (sound_of_lookup h hfound))
      exact soundEntries_set h (sound_tables (ih hnewest hinner) holder)
    · rename_i origin inner hfound
      split at hd
      · cases hd
      · obtain ⟨inner', hinner, hset⟩ := Option.bind_eq_some_iff.1 hd
        cases hset
        have hbelow := soundEntries_of_table (sound_of_lookup h hfound)
        exact soundEntries_set h ((ih hbelow hinner).table origin)

/-! ## Headers and pairs -/

theorem sound_openTable? {root root' : Entries} {path : List String} (h : SoundEntries p root)
    (hopen : openTable? root path = some root') : SoundEntries p root' := by
  obtain ⟨⟨before, name⟩, -, hd⟩ := Option.bind_eq_some_iff.1 hopen
  refine sound_descend (fun here entries entries' h hchange => ?_) h hd
  split at hchange
  · cases hchange
    exact soundEntries_set h (SoundEntries.nil.table .header)
  · rename_i inner hfound
    cases hchange
    exact soundEntries_set h ((soundEntries_of_table (sound_of_lookup h hfound)).table .header)
  · cases hchange

theorem sound_openArray? {root root' : Entries} {path : List String} (h : SoundEntries p root)
    (hopen : openArray? root path = some root') : SoundEntries p root' := by
  obtain ⟨⟨before, name⟩, -, hd⟩ := Option.bind_eq_some_iff.1 hopen
  refine sound_descend (fun here entries entries' h hchange => ?_) h hd
  split at hchange
  · cases hchange
    exact soundEntries_set h (sound_tables .nil (List.forall_mem_nil _))
  · rename_i list hfound
    cases hchange
    exact soundEntries_set h (sound_tables .nil (soundEntries_of_tables (sound_of_lookup h hfound)))
  · cases hchange

theorem sound_putHere? {key : List String} {v : Toml} {here : Origin} {entries entries' : Entries}
    (h : SoundEntries p entries) (hv : p v) (hput : putHere? key v here entries = some entries') :
    SoundEntries p entries' := by
  obtain ⟨⟨before, name⟩, -, hd⟩ := Option.bind_eq_some_iff.1 hput
  refine sound_descend (fun here entries entries' h hchange => ?_) h hd
  split at hchange
  · cases hchange
  split at hchange
  · cases hchange
  · rename_i hnone
    cases hchange
    exact h.concat (Option.not_isSome_iff_eq_none.1 hnone) (.value hv)

theorem sound_put? {root root' : Entries} {header key : List String} {v : Toml}
    (h : SoundEntries p root) (hv : p v) (hput : put? root header key v = some root') :
    SoundEntries p root' :=
  sound_descend (fun _ _ _ h hchange => sound_putHere? h hv hchange) h hput

theorem map_fst_entriesToToml (entries : Entries) :
    (entriesToToml entries).map Prod.fst = entries.map Prod.fst := by
  induction entries with
  | nil => rw [entriesToToml]; rfl
  | cons e entries ih =>
    obtain ⟨name, d⟩ := e
    rw [entriesToToml, List.map_cons, List.map_cons, ih]

theorem once_toToml (h : Sound Once d) : (toToml d).Once := by
  cases h with
  | value h => rw [toToml]; exact h
  | table hnames h =>
    rw [toToml, Once, map_fst_entriesToToml]
    exact hnames
  | tables hnames h => rw [toToml]; exact trivial

theorem mem_entriesToToml {e : String × Toml} (he : e ∈ entriesToToml entries) :
    ∃ d, (e.1, d) ∈ entries ∧ e.2 = toToml d := by
  induction entries with
  | nil => rw [entriesToToml] at he; cases he
  | cons e' entries ih =>
    obtain ⟨name, d⟩ := e'
    rw [entriesToToml, List.mem_cons] at he
    obtain rfl | he := he
    · exact ⟨d, List.mem_cons_self, rfl⟩
    · obtain ⟨d', hd', heq⟩ := ih he
      exact ⟨d', List.mem_cons_of_mem _ hd', heq⟩

end Draft

/-! ## Texts -/

open Draft

theorem sound_putAll? {pairs : List (List String × Toml)} {start entries : Draft.Entries}
    (h : SoundEntries (fun _ => True) start)
    (hput : pairs.foldlM (fun entries pair => putHere? pair.1 pair.2 .header entries) start =
      some entries) : SoundEntries (fun _ => True) entries := by
  induction pairs generalizing start with
  | nil =>
    cases hput
    exact h
  | cons pair pairs ih =>
    rw [List.foldlM_cons] at hput
    obtain ⟨next, hnext, hrest⟩ := Option.bind_eq_some_iff.1 hput
    exact ih (sound_putHere? h trivial hnext) hrest

theorem once_inlineTable? {pairs : List (List String × Toml)} {t : Toml}
    (h : inlineTable? pairs = some t) : t.Once := by
  obtain ⟨entries, hentries, htable⟩ := Option.bind_eq_some_iff.1 h
  cases htable
  rw [Once, map_fst_entriesToToml]
  exact (sound_putAll? .nil hentries).names

theorem once_scalarWord? {cs rest : List Char} {v : Toml} (h : scalarWord? cs = some (v, rest)) :
    v.Once := by
  obtain ⟨v', hword, heq⟩ := Option.map_eq_some_iff.1 h
  cases heq
  unfold word? at hword
  split at hword
  · cases hword
    exact trivial
  split at hword
  · cases hword
    exact trivial
  split at hword <;> cases hword <;> exact trivial

theorem once_single {cs rest : List Char} {v : Toml}
    (h : (match string? cs with
      | some (s, rest) => some (.string (String.ofList s), rest)
      | none => scalarWord? cs) = some (v, rest)) : v.Once := by
  split at h
  · cases h
    exact trivial
  · exact once_scalarWord? h

theorem once_value? {depth : Nat} {cs rest : List Char} {v : Toml}
    (h : value? depth cs = some (v, rest)) : v.Once := by
  cases depth with
  | zero => exact once_single h
  | succ depth =>
    unfold value? at h
    split at h
    · obtain ⟨items, -, heq⟩ := Option.map_eq_some_iff.1 h
      cases heq
      exact trivial
    · split at h
      · cases h
        exact List.nodup_nil
      · obtain ⟨⟨pairs, rest'⟩, -, htable⟩ := Option.bind_eq_some_iff.1 h
        obtain ⟨t, ht, heq⟩ := Option.bind_eq_some_iff.1 htable
        cases heq
        exact once_inlineTable? ht
    · exact once_single h

theorem once_line? {cs rest : List Char} {key : List String} {v : Toml}
    (h : line? cs = some (.pair key v, rest)) : v.Once := by
  unfold line? at h
  split at h
  · obtain ⟨⟨path, rest'⟩, -, hrest⟩ := Option.bind_eq_some_iff.1 h
    dsimp only at hrest
    split at hrest <;> cases hrest
  · obtain ⟨⟨path, rest'⟩, -, hrest⟩ := Option.bind_eq_some_iff.1 h
    dsimp only at hrest
    split at hrest <;> cases hrest
  · obtain ⟨⟨pair, rest'⟩, hpair, heq⟩ := Option.map_eq_some_iff.1 h
    cases heq
    obtain ⟨⟨path, after⟩, -, hafter⟩ := Option.bind_eq_some_iff.1 hpair
    dsimp only at hafter
    split at hafter
    · obtain ⟨⟨v', rest''⟩, hv, heq⟩ := Option.bind_eq_some_iff.1 hafter
      cases heq
      exact once_value? hv
    · cases hafter

theorem sound_take? {root root' : Draft.Entries} {header header' : List String} {line : Line}
    (h : SoundEntries Once root) (hline : ∀ key v, line = .pair key v → v.Once)
    (htake : take? root header line = some (root', header')) : SoundEntries Once root' := by
  cases line with
  | table path =>
    obtain ⟨opened, hopen, heq⟩ := Option.map_eq_some_iff.1 htake
    cases heq
    exact sound_openTable? h hopen
  | array path =>
    obtain ⟨opened, hopen, heq⟩ := Option.map_eq_some_iff.1 htake
    cases heq
    exact sound_openArray? h hopen
  | pair key v =>
    obtain ⟨opened, hput, heq⟩ := Option.map_eq_some_iff.1 htake
    cases heq
    exact sound_put? h (hline key v rfl) hput

theorem sound_lines? {root entries : Draft.Entries} {header : List String} {budget : Nat}
    {cs : List Char} (h : SoundEntries Once root)
    (hlines : lines? root header budget cs = some entries) : SoundEntries Once entries := by
  induction budget generalizing root header cs with
  | zero => cases hlines
  | succ budget ih =>
    rw [lines?] at hlines
    split at hlines
    · cases hlines
      exact h
    · obtain ⟨⟨line, rest⟩, hline, hlines⟩ := Option.bind_eq_some_iff.1 hlines
      obtain ⟨⟨root', header'⟩, htake, hlines⟩ := Option.bind_eq_some_iff.1 hlines
      have hroot := sound_take? h (fun key v hv => once_line? (hv ▸ hline)) htake
      dsimp only at hlines
      split at hlines
      · cases hlines
        exact hroot
      · exact ih hroot hlines
      · cases hlines

/-- **The names of the table of a text are distinct**, and so are those of each table in it. -/
theorem once_of_parse? {text : String} {entries : List (String × Toml)}
    (h : parse? text = some entries) :
    (entries.map Prod.fst).Nodup ∧ ∀ e ∈ entries, e.2.Once := by
  obtain ⟨root, hroot, rfl⟩ := Option.map_eq_some_iff.1 h
  have hsound := sound_lines? .nil hroot
  refine ⟨?_, fun e he => ?_⟩
  · rw [map_fst_entriesToToml]
    exact hsound.names
  · obtain ⟨d, hd, heq⟩ := mem_entriesToToml he
    rw [heq]
    exact once_toToml (hsound.sound _ hd)

end Accounts.Toml
