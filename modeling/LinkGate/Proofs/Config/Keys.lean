import LinkGate.Proofs.Config.Fallback
import LinkGate.Proofs.Toml.Keys

/-!
# The keys that matter

Settings are made from the entries of a document one after the other. An entry with an unknown key
is passed over, one with a known key sets a field or ends the reading (`addEntry_cases`). Which of
the two it does is a matter of its value alone, whatever has been read before.

* **`addEntries_eq_error_iff`**: the first known key with a bad value is the one that is reported.
* **`addEntries_known`**: the other entries might as well not be there.
* **`addEntries_eq_ok_iff`**: since no document gives a key twice, each field can be looked up by
  its name (`Decides`), so the order does not matter to the settings.
* **`knownKeysDecide`**: what all this says of a file that is a document.
-/

namespace LinkGate.Config

open Files Files.Tree

variable {t t' : Tree} {path : Path} {entries entries' : Toml.Entries} {start next config : Config}
  {key : String} {value : Toml.Value} {f : OutputFormat} {reason : Mismatch}

/-! ## Values that are accepted -/

inductive HoldsNothing : Toml.Value → Prop
  | array : HoldsNothing (.array [])
  | tables : HoldsNothing (.tables [])
  | table (kind : Toml.TableKind) : HoldsNothing (.table kind [])

/-- The value stands for a format: as its name, or as a table with the name as its one key. -/
inductive Spells : Toml.Value → OutputFormat → Prop
  | name (f : OutputFormat) : Spells (.string f.name) f
  | key {content : Toml.Value} (kind : Toml.TableKind) (f : OutputFormat)
    (h : HoldsNothing content) : Spells (.table kind [(f.name, content)]) f

/-- Each format has its name and no other. -/
theorem ofName?_eq_some_iff {name : String} :
    OutputFormat.ofName? name = some f ↔ name = f.name := by
  unfold OutputFormat.ofName?
  constructor
  · intro h
    split at h
    · next hname =>
      cases h
      exact hname
    · split at h
      · next hname =>
        cases h
        exact hname
      · cases h
  · rintro rfl
    cases f <;> rfl

theorem formatOfName_eq_ok_iff {name : String} : formatOfName name = .ok f ↔ name = f.name := by
  rw [← ofName?_eq_some_iff, formatOfName]
  cases OutputFormat.ofName? name <;> simp

theorem checkEmpty_eq_ok_iff : checkEmpty value = .ok () ↔ HoldsNothing value := by
  constructor
  · intro h
    unfold checkEmpty at h
    split at h
    · exact .array
    · exact .tables
    · exact .table _
    all_goals cases h
  · intro h
    cases h <;> rfl

/-- The reader of formats accepts the values that stand for a format. -/
theorem formatOf_eq_ok_iff : formatOf value = .ok f ↔ Spells value f := by
  constructor
  · intro h
    unfold formatOf at h
    split at h
    · next name =>
      rw [formatOfName_eq_ok_iff.mp h]
      exact .name f
    · cases h
    · next kind name content =>
      split at h
      · cases h
      · next g hname =>
        cases hempty : checkEmpty content with
        | error m =>
          rw [hempty] at h
          cases h
        | ok _ =>
          rw [hempty] at h
          cases h
          rw [formatOfName_eq_ok_iff.mp hname]
          exact .key kind _ (checkEmpty_eq_ok_iff.mp hempty)
    · cases h
    · cases h
  · intro h
    cases h with
    | name => exact formatOfName_eq_ok_iff.mpr rfl
    | key kind _ hempty =>
      rw [formatOf, formatOfName_eq_ok_iff.mpr rfl]
      simp only [checkEmpty_eq_ok_iff.mpr hempty]
      rfl

/-- A value stands for one format at most. -/
theorem Spells.unique {f' : OutputFormat} (h : Spells value f) (h' : Spells value f') : f = f' := by
  rw [← formatOf_eq_ok_iff] at h h'
  rw [h] at h'
  cases h'
  rfl

/-! ## One entry -/

def booleanKeys : List String :=
  ["log_rejections", "skip_blank_lines"]

def knownKeys : List String :=
  "output" :: booleanKeys

/-- A document may give the key this value. -/
structure Accepts (key : String) (value : Toml.Value) : Prop where
  output : key = "output" → ∃ f, Spells value f
  boolean : key ∈ booleanKeys → ∃ b, value = .boolean b

inductive Refuses (key : String) (value : Toml.Value) : Mismatch → Prop
  | output {reason : Mismatch} (hkey : key = "output") (h : formatOf value = .error reason) :
    Refuses key value reason
  | boolean (hkey : key ∈ booleanKeys) (h : ∀ b, value ≠ .boolean b) :
    Refuses key value (.notBoolean value)

/-- A value is not refused and accepted at once. -/
theorem Refuses.not_accepts (h : Refuses key value reason) : ¬ Accepts key value := by
  intro haccepts
  cases h with
  | output hkey h =>
    obtain ⟨f, hspells⟩ := haccepts.output hkey
    rw [formatOf_eq_ok_iff.mpr hspells] at h
    cases h
  | boolean hkey h =>
    obtain ⟨b, hb⟩ := haccepts.boolean hkey
    exact h b hb

/-- There is one reason at most to refuse a value. -/
theorem Refuses.unique {reason' : Mismatch} (h : Refuses key value reason)
    (h' : Refuses key value reason') : reason = reason' := by
  cases h with
  | output hkey h =>
    cases h' with
    | output _ h' =>
      rw [h] at h'
      cases h'
      rfl
    | boolean hkey' => simp [hkey, booleanKeys] at hkey'
  | boolean hkey =>
    cases h' with
    | output hkey' => simp [hkey', booleanKeys] at hkey
    | boolean => rfl

/-- Nothing is asked of the value of an unknown key. -/
theorem accepts_of_unknown (h : key ∉ knownKeys) : Accepts key value where
  output hkey := absurd (hkey ▸ List.mem_cons_self) h
  boolean hkey := absurd (List.mem_cons_of_mem _ hkey) h

/-- An entry with an unknown key changes nothing. -/
theorem addEntry_of_unknown (h : key ∉ knownKeys) : addEntry start key value = .ok start := by
  simp only [knownKeys, booleanKeys, List.mem_cons, List.not_mem_nil, or_false, not_or] at h
  rw [addEntry, if_neg h.1, if_neg h.2.1, if_neg h.2.2]

/-- What an accepted entry makes of the settings. -/
inductive Sets (start : Config) (key : String) (value : Toml.Value) : Config → Prop
  | output {f : OutputFormat} (hkey : key = "output") (h : Spells value f) :
    Sets start key value { start with output := f }
  | logRejections {b : Bool} (hkey : key = "log_rejections") (h : value = .boolean b) :
    Sets start key value { start with logRejections := b }
  | skipBlankLines {b : Bool} (hkey : key = "skip_blank_lines") (h : value = .boolean b) :
    Sets start key value { start with skipBlankLines := b }
  | other (h : key ∉ knownKeys) : Sets start key value start

/-- The two keys of truth values are added in the same way: with a truth value, or not at all. -/
theorem addEntry_cases_of_boolean {set : Bool → Config} (hkey : key ∈ booleanKeys)
    (hset : addEntry start key value = (booleanOf value).map set)
    (hsets : ∀ b, value = .boolean b → Sets start key value (set b)) :
    (∃ next, addEntry start key value = .ok next ∧ Sets start key value next) ∨
      ∃ reason, addEntry start key value = .error reason ∧ Refuses key value reason := by
  rw [hset]
  cases value with
  | boolean b => exact .inl ⟨_, rfl, hsets b rfl⟩
  | _ => exact .inr ⟨_, rfl, .boolean hkey nofun⟩

/-- What the settings are before the entry plays no part in whether it is accepted. -/
theorem addEntry_cases (start : Config) (key : String) (value : Toml.Value) :
    (∃ next, addEntry start key value = .ok next ∧ Sets start key value next) ∨
      ∃ reason, addEntry start key value = .error reason ∧ Refuses key value reason := by
  by_cases hknown : key ∈ knownKeys
  · simp only [knownKeys, booleanKeys, List.mem_cons, List.not_mem_nil, or_false] at hknown
    rcases hknown with rfl | rfl | rfl
    · have hset : addEntry start "output" value
          = (formatOf value).map fun f => { start with output := f } := rfl
      rw [hset]
      cases h : formatOf value with
      | ok f => exact .inl ⟨_, rfl, .output rfl (formatOf_eq_ok_iff.mp h)⟩
      | error reason => exact .inr ⟨reason, rfl, .output rfl h⟩
    · exact addEntry_cases_of_boolean (by decide) rfl fun _ => .logRejections rfl
    · exact addEntry_cases_of_boolean (by decide) rfl fun _ => .skipBlankLines rfl
  · exact .inl ⟨start, addEntry_of_unknown hknown, .other hknown⟩

theorem sets_of_addEntry (h : addEntry start key value = .ok next) :
    Sets start key value next := by
  rcases addEntry_cases start key value with ⟨next', h', hsets⟩ | ⟨reason, h', -⟩
  · rw [h'] at h
    cases h
    exact hsets
  · rw [h'] at h
    cases h

theorem Sets.accepts (h : Sets start key value next) : Accepts key value := by
  cases h with
  | output hkey h => exact ⟨fun _ => ⟨_, h⟩, fun hkey' => by simp [hkey, booleanKeys] at hkey'⟩
  | logRejections hkey h | skipBlankLines hkey h =>
    exact ⟨fun hkey' => by simp [hkey] at hkey', fun _ => ⟨_, h⟩⟩
  | other h => exact accepts_of_unknown h

/-! ## All entries -/

def known (entries : Toml.Entries) : Toml.Entries :=
  entries.filter fun e => e.1 ∈ knownKeys

/-- Entries with unknown keys may be left out before all are added. -/
theorem addEntries_known (start : Config) (entries : Toml.Entries) :
    addEntries start (known entries) = addEntries start entries := by
  induction entries generalizing start with
  | nil => rfl
  | cons e rest ih =>
    obtain ⟨key, value⟩ := e
    by_cases hkey : key ∈ knownKeys
    · have hknown : known ((key, value) :: rest) = (key, value) :: known rest := by
        simp [known, hkey]
      rw [hknown, addEntries, addEntries]
      split
      · rfl
      · exact ih _
    · have hknown : known ((key, value) :: rest) = known rest := by
        simp [known, hkey]
      rw [hknown, ih, addEntries, addEntry_of_unknown hkey]

/-- The entry with this key and value is the first one that is not accepted. -/
def FirstBad (entries : Toml.Entries) (key : String) (value : Toml.Value) : Prop :=
  ∃ before after, entries = before ++ (key, value) :: after ∧
    (∀ e ∈ before, Accepts e.1 e.2) ∧ ¬ Accepts key value

/-- Either all entries are accepted, or adding them stops at the first that is not. Along the
entries, by `addEntry_cases`. -/
theorem addEntries_cases (start : Config) (entries : Toml.Entries) :
    (∃ config, addEntries start entries = .ok config ∧ ∀ e ∈ entries, Accepts e.1 e.2) ∨
      ∃ key value reason, addEntries start entries = .error reason ∧ FirstBad entries key value ∧
        Refuses key value reason := by
  induction entries generalizing start with
  | nil => exact .inl ⟨start, rfl, nofun⟩
  | cons e rest ih =>
    obtain ⟨key, value⟩ := e
    rw [addEntries]
    rcases addEntry_cases start key value with ⟨next, h, hsets⟩ | ⟨reason, h, hrefuses⟩
    · rw [h]
      have haccepts := hsets.accepts
      rcases ih next with ⟨config, hrest, hall⟩ | ⟨k, v, reason, hrest, hbad, hrefuses⟩
      · exact .inl ⟨config, hrest, List.forall_mem_cons.mpr ⟨haccepts, hall⟩⟩
      · obtain ⟨before, after, rfl, hbefore, hnot⟩ := hbad
        refine .inr ⟨k, v, reason, hrest, ⟨(key, value) :: before, after, rfl, ?_, hnot⟩, hrefuses⟩
        exact List.forall_mem_cons.mpr ⟨haccepts, hbefore⟩
    · rw [h]
      exact .inr ⟨key, value, reason, rfl, ⟨[], rest, rfl, nofun, hrefuses.not_accepts⟩, hrefuses⟩

/-- The entries make settings if each of them is accepted. -/
theorem exists_addEntries_eq_ok_iff :
    (∃ config, addEntries start entries = .ok config) ↔ ∀ e ∈ entries, Accepts e.1 e.2 := by
  rcases addEntries_cases start entries with ⟨config, h, hall⟩ | ⟨key, value, reason, h, hbad, -⟩
  · exact ⟨fun _ => hall, fun _ => ⟨config, h⟩⟩
  · obtain ⟨before, after, rfl, -, hnot⟩ := hbad
    refine ⟨fun ⟨config, hok⟩ => ?_, fun hall => ?_⟩
    · rw [h] at hok
      cases hok
    · exact absurd (hall (key, value) (by simp)) hnot

theorem addEntries_append (h : addEntries start entries = .ok next) (rest : Toml.Entries) :
    addEntries start (entries ++ rest) = addEntries next rest := by
  induction entries generalizing start with
  | nil =>
    cases h
    rfl
  | cons e entries ih =>
    rw [addEntries] at h
    rw [List.cons_append, addEntries]
    split at h
    · cases h
    · exact ih h

/-- The first entry that is not accepted gives the reason, by its value alone. -/
theorem addEntries_eq_error_iff :
    addEntries start entries = .error reason ↔
      ∃ key value, FirstBad entries key value ∧ Refuses key value reason := by
  constructor
  · intro h
    rcases addEntries_cases start entries with ⟨_, h', _⟩ | ⟨key, value, _, h', hbad, hrefuses⟩
    · rw [h] at h'
      cases h'
    · rw [h] at h'
      cases h'
      exact ⟨key, value, hbad, hrefuses⟩
  · rintro ⟨key, value, ⟨before, after, rfl, hbefore, -⟩, hrefuses⟩
    have hok : ∃ next, addEntries start before = .ok next :=
      exists_addEntries_eq_ok_iff.mpr hbefore
    obtain ⟨next, hnext⟩ := hok
    rw [addEntries_append hnext, addEntries]
    rcases addEntry_cases next key value with ⟨_, h, hsets⟩ | ⟨reason', h, hrefuses'⟩
    · exact absurd hsets.accepts hrefuses.not_accepts
    · rw [h, hrefuses.unique hrefuses']

/-! ## The settings by their names -/

/-- The setting is what the value of its key says, or the default if the key is missing. -/
def Says {α : Type} (entries : Toml.Entries) (key : String) (Means : Toml.Value → α → Prop)
    (setting default : α) : Prop :=
  match entries.get? key with
  | some value => Means value setting
  | none => setting = default

/-- The settings are what the entries say, and the defaults where they say nothing. -/
structure Decides (entries : Toml.Entries) (default config : Config) : Prop where
  output : Says entries "output" Spells config.output default.output
  logRejections : Says entries "log_rejections" (· = .boolean ·) config.logRejections
    default.logRejections
  skipBlankLines : Says entries "skip_blank_lines" (· = .boolean ·) config.skipBlankLines
    default.skipBlankLines

section Field

variable {α : Type} {Means : Toml.Value → α → Prop} {x y d : α}

/-- If each value means one thing at most, the entries say one thing at most. -/
theorem Says.unique (hx : Says entries key Means x d) (hy : Says entries key Means y d)
    (hmeans : ∀ value x y, Means value x → Means value y → x = y) : x = y := by
  unfold Says at hx hy
  cases h : entries.get? key with
  | some value =>
    rw [h] at hx hy
    exact hmeans value x y hx hy
  | none =>
    rw [h] at hx hy
    exact hx.trans hy.symm

theorem Says.means (h : Says entries key Means x d) (hvalue : entries.get? key = some value) :
    Means value x := by
  unfold Says at h
  rwa [hvalue] at h

/-- What is said depends on the value of the key alone. -/
theorem Says.congr (h : entries'.get? key = entries.get? key) (hx : Says entries key Means x d) :
    Says entries' key Means x d := by
  unfold Says at hx ⊢
  rwa [h]

/-- A field is set by the entry with its key and left alone by all others. -/
theorem says_of_addEntries {field : Config → α}
    (hself : ∀ {start value next}, Sets start key value next → Means value (field next))
    (hother : ∀ {start k value next}, k ≠ key → Sets start k value next → field next = field start)
    (hentries : entries.keys.Nodup) (h : addEntries start entries = .ok config) :
    Says entries key Means (field config) (field start) := by
  induction entries generalizing start with
  | nil =>
    cases h
    rfl
  | cons e rest ih =>
    obtain ⟨k, value⟩ := e
    obtain ⟨hk, hrest⟩ := List.nodup_cons.mp hentries
    rw [addEntries] at h
    split at h
    · cases h
    · next next hentry =>
      have hsets := sets_of_addEntry hentry
      have hfield := ih hrest h
      unfold Says at hfield ⊢
      rw [Toml.Entries.get?_cons]
      by_cases hkey : k = key
      · -- the key does not come again
        subst hkey
        rw [Toml.Entries.get?_eq_none_iff.mpr hk] at hfield
        rw [if_pos rfl]
        show Means value (field config)
        rw [hfield]
        exact hself hsets
      · rw [if_neg (Ne.symm hkey)]
        rwa [hother hkey hsets] at hfield

end Field

/-- Settings that are made from entries with distinct keys are what these say, each by its own key
(`says_of_addEntries`). -/
theorem decides_of_addEntries (hentries : entries.keys.Nodup)
    (h : addEntries start entries = .ok config) : Decides entries start config where
  output := by
    refine says_of_addEntries (fun hsets => ?_) (fun hk hsets => ?_) hentries h
    · cases hsets <;> simp_all [knownKeys]
    · cases hsets <;> simp_all
  logRejections := by
    refine says_of_addEntries (fun hsets => ?_) (fun hk hsets => ?_) hentries h
    · cases hsets <;> simp_all [knownKeys, booleanKeys]
    · cases hsets <;> simp_all
  skipBlankLines := by
    refine says_of_addEntries (fun hsets => ?_) (fun hk hsets => ?_) hentries h
    · cases hsets <;> simp_all [knownKeys, booleanKeys]
    · cases hsets <;> simp_all

/-- Entries say one choice of settings at most. -/
theorem Decides.unique {config' : Config} (h : Decides entries start config)
    (h' : Decides entries start config') : config = config' := by
  have hboolean : ∀ (value : Toml.Value) (x y : Bool), value = .boolean x → value = .boolean y →
      x = y := by
    rintro _ x y rfl hy
    cases hy
    rfl
  have houtput := h.output.unique h'.output fun _ _ _ => Spells.unique
  have hlog := h.logRejections.unique h'.logRejections hboolean
  have hskip := h.skipBlankLines.unique h'.skipBlankLines hboolean
  cases config
  cases config'
  simp_all

/-- Entries that say what the settings are have no value that is refused. -/
theorem Decides.accepts (hentries : entries.keys.Nodup) (h : Decides entries start config) :
    ∀ e ∈ entries, Accepts e.1 e.2 := by
  rintro ⟨key, value⟩ he
  have hvalue : entries.get? key = some value := (Toml.Entries.get?_eq_some_iff hentries).mpr he
  constructor
  · rintro rfl
    exact ⟨_, h.output.means hvalue⟩
  · intro hkey
    simp only [booleanKeys, List.mem_cons, List.not_mem_nil, or_false] at hkey
    rcases hkey with rfl | rfl
    · exact ⟨_, h.logRejections.means hvalue⟩
    · exact ⟨_, h.skipBlankLines.means hvalue⟩

/-- The settings that entries with distinct keys make are those that they say. -/
theorem addEntries_eq_ok_iff (hentries : entries.keys.Nodup) :
    addEntries start entries = .ok config ↔ Decides entries start config := by
  refine ⟨decides_of_addEntries hentries, fun h => ?_⟩
  obtain ⟨config', h'⟩ := exists_addEntries_eq_ok_iff.mpr (h.accepts hentries)
  rw [h', (decides_of_addEntries hentries h').unique h]

/-- The value of a known key is the same among the known entries. -/
theorem get?_known (hkey : key ∈ knownKeys) (hentries : entries.keys.Nodup) :
    entries.get? key = some value ↔ (key, value) ∈ known entries := by
  rw [Toml.Entries.get?_eq_some_iff hentries, known, List.mem_filter]
  simp [hkey]

/-- What is said is the same for the known entries in any order. -/
theorem Decides.of_perm (hentries : entries.keys.Nodup) (hentries' : entries'.keys.Nodup)
    (hperm : (known entries').Perm (known entries)) (h : Decides entries start config) :
    Decides entries' start config := by
  have hget : ∀ key ∈ knownKeys, entries'.get? key = entries.get? key := by
    intro key hkey
    apply Option.ext
    intro value
    rw [get?_known hkey hentries, get?_known hkey hentries', hperm.mem_iff]
  constructor
  · exact h.output.congr (hget _ (by decide))
  · exact h.logRejections.congr (hget _ (by decide))
  · exact h.skipBlankLines.congr (hget _ (by decide))

/-! ## Files -/

/-- The path leads to a file that is a document with these entries. -/
def Document (t : Tree) (path : Path) (entries : Toml.Entries) : Prop :=
  ∃ content text, t.LeadsToFile path content ∧ Text.ofBytes? content = some text ∧
    Toml.parse? text = some entries

theorem Document.nodup (h : Document t path entries) : entries.keys.Nodup := by
  obtain ⟨content, text, -, -, hentries⟩ := h
  exact Toml.nodup_keys_of_parse? hentries

/-- Loading a document is adding its entries to the defaults. -/
theorem Document.loadFrom_eq (h : Document t path entries) :
    loadFrom t path = (ofEntries entries).mapError (.mismatch path) := by
  obtain ⟨content, text, hleads, htext, hentries⟩ := h
  rw [loadFrom, read_eq_ok_iff.mpr hleads]
  simp only [htext, hentries]
  cases ofEntries entries <;> rfl

theorem Document.loadFrom_eq_ok_iff (h : Document t path entries) :
    loadFrom t path = .ok config ↔ ofEntries entries = .ok config := by
  rw [h.loadFrom_eq]
  cases ofEntries entries with
  | ok config' => simp [Except.mapError]
  | error reason => simp [Except.mapError]

/-- What settings the document at a path makes, and what they depend on. -/
structure KnownKeysDecide (t : Tree) (path : Path) (entries : Toml.Entries) : Prop where
  /-- There are settings if every known key has a value that it may have. -/
  loads_iff : (∃ config, loadFrom t path = .ok config) ↔ ∀ e ∈ entries, Accepts e.1 e.2
  /-- Each is then what its key says, or its default. -/
  ok_iff : ∀ config, loadFrom t path = .ok config ↔ Decides entries default config
  /-- The first bad key is reported. -/
  error_iff : ∀ failure, loadFrom t path = .error failure ↔
    ∃ key value reason, FirstBad entries key value ∧ Refuses key value reason ∧
      failure = .mismatch path reason
  /-- Any other entries may be added, removed or changed. -/
  of_known : ∀ t' entries', Document t' path entries' → known entries' = known entries →
    loadFrom t' path = loadFrom t path
  /-- The order makes no difference to the settings. -/
  of_perm : ∀ t' entries', Document t' path entries' → (known entries').Perm (known entries) →
    ∀ config, loadFrom t' path = .ok config ↔ loadFrom t path = .ok config
  /-- Two documents with the same first bad key are refused for the same reason, whatever is in
  front of the key and after it. -/
  of_firstBad : ∀ t' entries' key value, Document t' path entries' → FirstBad entries key value →
    FirstBad entries' key value → loadFrom t' path = loadFrom t path

/-- The first entry that is not accepted is refused for some reason. -/
theorem FirstBad.exists_refuses (h : FirstBad entries key value) :
    ∃ reason, Refuses key value reason := by
  obtain ⟨before, after, -, -, hnot⟩ := h
  rcases addEntry_cases default key value with ⟨next, -, hsets⟩ | ⟨reason, -, hrefuses⟩
  · exact absurd hsets.accepts hnot
  · exact ⟨reason, hrefuses⟩

/-- **Only the known keys matter.** A document makes settings if each known key in it has a value
that it may have, and each setting is then that value, or its default if the key is missing. If not,
the first bad key in the order of the document is reported. All other entries may change freely,
and so may the order as long as there are settings. -/
theorem knownKeysDecide (h : Document t path entries) : KnownKeysDecide t path entries where
  loads_iff := by
    simp only [h.loadFrom_eq_ok_iff]
    exact exists_addEntries_eq_ok_iff
  ok_iff config := by
    rw [h.loadFrom_eq_ok_iff]
    exact addEntries_eq_ok_iff h.nodup
  error_iff failure := by
    rw [h.loadFrom_eq]
    constructor
    · intro herror
      cases hsettings : ofEntries entries with
      | ok config =>
        rw [hsettings] at herror
        cases herror
      | error reason =>
        rw [hsettings] at herror
        cases herror
        obtain ⟨key, value, hbad, hrefuses⟩ := addEntries_eq_error_iff.mp hsettings
        exact ⟨key, value, reason, hbad, hrefuses, rfl⟩
    · rintro ⟨key, value, reason, hbad, hrefuses, rfl⟩
      rw [ofEntries, addEntries_eq_error_iff.mpr ⟨key, value, hbad, hrefuses⟩]
      rfl
  of_known t' entries' h' hknown := by
    rw [h.loadFrom_eq, h'.loadFrom_eq, ofEntries, ofEntries, ← addEntries_known, hknown,
      addEntries_known]
  of_perm t' entries' h' hperm config := by
    rw [h.loadFrom_eq_ok_iff, h'.loadFrom_eq_ok_iff, ofEntries, ofEntries,
      addEntries_eq_ok_iff h.nodup, addEntries_eq_ok_iff h'.nodup]
    exact ⟨.of_perm h'.nodup h.nodup hperm.symm, .of_perm h.nodup h'.nodup hperm⟩
  of_firstBad t' entries' key value h' hbad hbad' := by
    obtain ⟨reason, hrefuses⟩ := hbad.exists_refuses
    rw [h.loadFrom_eq, h'.loadFrom_eq, ofEntries, ofEntries,
      addEntries_eq_error_iff.mpr ⟨key, value, hbad, hrefuses⟩,
      addEntries_eq_error_iff.mpr ⟨key, value, hbad', hrefuses⟩]

/-- A file with a key that is known but for the case of a letter, and with a table that holds a
known key. -/
theorem knownKeysDecide_nested :
    let text := "Output = 3\nlog_rejections = false\n[site]\nskip_blank_lines = 0\n"
    let t : Tree := ⟨[("config.toml", .file (Text.toBytes text))]⟩
    ∃ entries, Document t ⟨"config.toml"⟩ entries ∧
      entries.keys = ["Output", "log_rejections", "site"] ∧
        KnownKeysDecide t ⟨"config.toml"⟩ entries := by
  intro text t
  have hread : t.read ⟨"config.toml"⟩ = .ok (Text.toBytes text) := by decide +kernel
  have htext : Text.ofBytes? (Text.toBytes text) = some text := by decide +kernel
  have hparse : (Toml.parse? text).map Toml.Entries.keys
      = some ["Output", "log_rejections", "site"] := by decide +kernel
  obtain ⟨entries, hentries, hkeys⟩ := Option.map_eq_some_iff.mp hparse
  have hdocument : Document t ⟨"config.toml"⟩ entries :=
    ⟨_, text, read_eq_ok_iff.mp hread, htext, hentries⟩
  exact ⟨entries, hdocument, hkeys, knownKeysDecide hdocument⟩

end LinkGate.Config
