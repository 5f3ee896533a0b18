import LinkGate.Proofs.Config.Keys

/-!
# The values that stand for a format

A format is written as its name, or as a table that has the name as its one key and nothing below
it. Any other value is put to four tests, and one value may fail several of them: a table with two
unknown names and a number under each fails all but the first. What is reported is the failure in
the first test.

* **`exists_spells_of_passes`**: a value that passes all tests spells a format.
* **`formatOf_eq_error_iff`**: a value is refused exactly for its failure in the first test that it
  does not pass.
* **`formatsDecide`**: what this says of a file in which the key `output` has the value.
-/

namespace LinkGate.Config

open Files Files.Tree

/-! ## The tests -/

/-- What is asked of a value that is to stand for a format. -/
inductive FormatTest
  | textOrTable
  | oneKey
  | knownName
  | emptyContent
  deriving DecidableEq, Repr

def FormatTest.rank : FormatTest → Nat
  | textOrTable => 0
  | oneKey => 1
  | knownName => 2
  | emptyContent => 3

/-- The value gives this name, as a string or as a key. -/
inductive Names : Toml.Value → String → Prop
  | string (name : String) : Names (.string name) name
  | key {kind : Toml.TableKind} {es : Toml.Entries} {name : String} {content : Toml.Value}
    (h : (name, content) ∈ es) : Names (.table kind es) name

/-- The value is not an empty table or array, for this reason. -/
inductive HoldsSomething : Toml.Value → Mismatch → Prop
  | table {kind : Toml.TableKind} {es : Toml.Entries} (h : es ≠ []) :
    HoldsSomething (.table kind es) .tableNotEmpty
  -- the reason does not tell an array from a table
  | array {items : List Toml.Value} (h : items ≠ []) :
    HoldsSomething (.array items) .tableNotEmpty
  | tables {items : List Toml.Entries} (h : items ≠ []) :
    HoldsSomething (.tables items) .arrayNotEmpty
  | other {value : Toml.Value} (htable : ∀ kind es, value ≠ .table kind es)
    (harray : ∀ items, value ≠ .array items) (htables : ∀ items, value ≠ .tables items) :
    HoldsSomething value (.notTable value)

inductive Fails : Toml.Value → FormatTest → Mismatch → Prop
  | notVariant {value : Toml.Value} (hstring : ∀ s, value ≠ .string s)
    (htable : ∀ kind es, value ≠ .table kind es) : Fails value .textOrTable .notVariant
  | noKey {kind : Toml.TableKind} : Fails (.table kind []) .oneKey .noKey
  | manyKeys {kind : Toml.TableKind} {es : Toml.Entries} (h : 1 < es.length) :
    Fails (.table kind es) .oneKey .manyKeys
  | unknownName {value : Toml.Value} {name : String} (h : Names value name)
    (hunknown : ∀ f : OutputFormat, name ≠ f.name) :
    Fails value .knownName (.unknownFormat name)
  | content {kind : Toml.TableKind} {es : Toml.Entries} {name : String} {content : Toml.Value}
    {reason : Mismatch} (h : (name, content) ∈ es) (hsomething : HoldsSomething content reason) :
    Fails (.table kind es) .emptyContent reason

def Passes (value : Toml.Value) (test : FormatTest) : Prop :=
  ∀ reason, ¬ Fails value test reason

/-- The value fails a test for this reason, and passes all tests before. -/
def FirstFailure (value : Toml.Value) (reason : Mismatch) : Prop :=
  ∃ test, Fails value test reason ∧
    ∀ earlier : FormatTest, earlier.rank < test.rank → Passes value earlier

variable {t : Tree} {path : Path} {entries es : Toml.Entries} {value content : Toml.Value}
  {kind : Toml.TableKind} {name : String} {reason : Mismatch} {failure : Unusable} {config : Config}

/-! ## Values that pass -/

/-- The first test leaves strings and tables. -/
theorem eq_string_or_table_of_passes (h : Passes value .textOrTable) :
    (∃ s, value = .string s) ∨ ∃ kind es, value = .table kind es := by
  by_contra hneither
  rw [not_or] at hneither
  exact h _ (.notVariant (fun s hs => hneither.1 ⟨s, hs⟩)
    fun kind es hes => hneither.2 ⟨kind, es, hes⟩)

/-- Of the tables the second test leaves those with one key. -/
theorem eq_singleton_of_passes (h : Passes (.table kind es) .oneKey) :
    ∃ name content, es = [(name, content)] := by
  match es with
  | [] => exact absurd .noKey (h _)
  | [(name, content)] => exact ⟨name, content, rfl⟩
  | first :: second :: rest => exact absurd (.manyKeys (by simp)) (h _)

/-- The third test leaves the names of the two formats. -/
theorem eq_name_of_passes (h : Passes value .knownName) (hname : Names value name) :
    ∃ f : OutputFormat, name = f.name := by
  by_contra hunknown
  exact h _ (.unknownName hname fun f hf => hunknown ⟨f, hf⟩)

theorem holdsNothing_or_holdsSomething (value : Toml.Value) :
    HoldsNothing value ∨ ∃ reason, HoldsSomething value reason := by
  cases value with
  | table kind es =>
    by_cases h : es = []
    · exact .inl (h ▸ .table kind)
    · exact .inr ⟨_, .table h⟩
  | array items =>
    by_cases h : items = []
    · exact .inl (h ▸ .array)
    · exact .inr ⟨_, .array h⟩
  | tables items =>
    by_cases h : items = []
    · exact .inl (h ▸ .tables)
    · exact .inr ⟨_, .tables h⟩
  | _ => exact .inr ⟨_, .other nofun nofun nofun⟩

/-- A value that passes all tests stands for a format. -/
theorem exists_spells_of_passes (h : ∀ test, Passes value test) : ∃ f, Spells value f := by
  rcases eq_string_or_table_of_passes (h .textOrTable) with ⟨s, rfl⟩ | ⟨kind, es, rfl⟩
  · obtain ⟨f, rfl⟩ := eq_name_of_passes (h .knownName) (.string s)
    exact ⟨f, .name f⟩
  · obtain ⟨name, content, rfl⟩ := eq_singleton_of_passes (h .oneKey)
    obtain ⟨f, rfl⟩ := eq_name_of_passes (h .knownName) (.key List.mem_cons_self)
    rcases holdsNothing_or_holdsSomething content with hnothing | ⟨reason, hsomething⟩
    · exact ⟨f, .key kind f hnothing⟩
    · exact absurd (.content List.mem_cons_self hsomething) (h .emptyContent reason)

/-! ## The first failure -/

/-- A test that is not passed is failed for some reason. -/
theorem exists_fails_of_not_passes {test : FormatTest} (h : ¬ Passes value test) :
    ∃ reason, Fails value test reason := by
  unfold Passes at h
  exact not_forall_not.mp h

/-- If some test is failed, one of them is the first. -/
theorem exists_firstFailure_of_fails {test : FormatTest} (h : Fails value test reason) :
    ∃ reason', FirstFailure value reason' := by
  induction hn : test.rank using Nat.strongRecOn generalizing test reason with
  | ind n ih =>
    by_cases hall : ∀ earlier : FormatTest, earlier.rank < test.rank → Passes value earlier
    · exact ⟨reason, test, h, hall⟩
    · -- go back to an earlier test that fails
      simp only [not_forall] at hall
      obtain ⟨earlier, hless, hnot⟩ := hall
      obtain ⟨reason', hfails⟩ := exists_fails_of_not_passes hnot
      exact ih earlier.rank (hn ▸ hless) hfails rfl

/-- A name that is none of the two formats is told back. -/
theorem formatOfName_of_unknown (h : ∀ f : OutputFormat, name ≠ f.name) :
    formatOfName name = .error (.unknownFormat name) := by
  unfold formatOfName
  cases hname : OutputFormat.ofName? name with
  | none => rfl
  | some f => exact absurd (ofName?_eq_some_iff.mp hname) (h f)

theorem HoldsSomething.checkEmpty_eq (h : HoldsSomething content reason) :
    checkEmpty content = .error reason := by
  cases h with
  | @table kind es h =>
    cases es with
    | nil => exact absurd rfl h
    | cons => rfl
  | @array items h =>
    cases items with
    | nil => exact absurd rfl h
    | cons => rfl
  | @tables items h =>
    cases items with
    | nil => exact absurd rfl h
    | cons => rfl
  | other htable harray htables =>
    cases content with
    | table kind es => exact absurd rfl (htable kind es)
    | array items => exact absurd rfl (harray items)
    | tables items => exact absurd rfl (htables items)
    | _ => rfl

/-- The reader of formats gives the reason of the first test that fails. -/
theorem FirstFailure.formatOf_eq (h : FirstFailure value reason) :
    formatOf value = .error reason := by
  obtain ⟨test, hfails, hearlier⟩ := h
  cases hfails with
  | notVariant hstring htable =>
    cases value with
    | string s => exact absurd rfl (hstring s)
    | table kind es => exact absurd rfl (htable kind es)
    | _ => rfl
  | noKey => rfl
  | @manyKeys kind es hlength =>
    match es, hlength with
    | _ :: _ :: _, _ => rfl
  | unknownName hname hunknown =>
    cases hname with
    | string => exact formatOfName_of_unknown hunknown
    | key hkey =>
      obtain ⟨name', content, rfl⟩ := eq_singleton_of_passes (hearlier .oneKey (by decide))
      cases List.mem_singleton.mp hkey
      rw [formatOf, formatOfName_of_unknown hunknown]
  | content hkey hsomething =>
    obtain ⟨name', content, rfl⟩ := eq_singleton_of_passes (hearlier .oneKey (by decide))
    cases List.mem_singleton.mp hkey
    -- the name is known, so it is the content that is looked at
    obtain ⟨f, rfl⟩ := eq_name_of_passes (hearlier .knownName (by decide)) (.key List.mem_cons_self)
    rw [formatOf, formatOfName_eq_ok_iff.mpr rfl]
    show (checkEmpty _).map _ = _
    rw [hsomething.checkEmpty_eq]
    rfl

/-- The reader of formats fails as the first failing test says, and in no other way. -/
theorem formatOf_eq_error_iff : formatOf value = .error reason ↔ FirstFailure value reason := by
  refine ⟨fun h => ?_, FirstFailure.formatOf_eq⟩
  have hfails : ∃ test reason, Fails value test reason := by
    by_contra hpasses
    obtain ⟨f, hspells⟩ := exists_spells_of_passes fun test reason hfails =>
      hpasses ⟨test, reason, hfails⟩
    rw [formatOf_eq_ok_iff.mpr hspells] at h
    cases h
  obtain ⟨test, _, hfails⟩ := hfails
  obtain ⟨reason', hfirst⟩ := exists_firstFailure_of_fails hfails
  -- there is a first failure, and the reader reports it
  rw [hfirst.formatOf_eq] at h
  cases h
  exact hfirst

-- the second test goes before the third and the fourth, which the table fails too
example : FirstFailure (.table .inline [("yaml", .integer 1), ("xml", .integer 2)]) .manyKeys :=
  formatOf_eq_error_iff.mp rfl

/-! ## Files -/

namespace Document

/-- A document gives a key only once. -/
theorem eq_of_output (h : Document t path entries) (hvalue : ("output", value) ∈ entries) :
    ∀ e ∈ entries, e.1 = "output" → e.2 = value := by
  rintro ⟨key, other⟩ he rfl
  rw [← Toml.Entries.get?_eq_some_iff h.nodup] at he hvalue
  exact Option.some.inj (he.symm.trans hvalue)

/-- Settings that are loaded have the format that the value of `output` stands for. -/
theorem spells_of_loadFrom (h : Document t path entries) (hvalue : ("output", value) ∈ entries)
    (hload : loadFrom t path = .ok config) : Spells value config.output := by
  have hdecides : Decides entries default config :=
    decides_of_addEntries h.nodup (h.loadFrom_eq_ok_iff.mp hload)
  exact hdecides.output.means ((Toml.Entries.get?_eq_some_iff h.nodup).mpr hvalue)

/-- If all else in the document is accepted, it is up to the value of `output`. -/
theorem accepts_iff (h : Document t path entries) (hvalue : ("output", value) ∈ entries)
    (hothers : ∀ e ∈ entries, e.1 ≠ "output" → Accepts e.1 e.2) :
    (∀ e ∈ entries, Accepts e.1 e.2) ↔ ∃ f, Spells value f := by
  refine ⟨fun hall => (hall _ hvalue).output rfl, fun ⟨f, hspells⟩ e he => ?_⟩
  by_cases hkey : e.1 = "output"
  · refine ⟨fun _ => ⟨f, (h.eq_of_output hvalue e he hkey).symm ▸ hspells⟩, fun hboolean => ?_⟩
    rw [hkey] at hboolean
    exact absurd hboolean (by decide)
  · exact hothers e he hkey

/-- The value of `output` is the first bad one, as it is the only one. -/
theorem firstFailure_of_loadFrom (h : Document t path entries)
    (hvalue : ("output", value) ∈ entries)
    (hothers : ∀ e ∈ entries, e.1 ≠ "output" → Accepts e.1 e.2)
    (hload : loadFrom t path = .error failure) :
    ∃ reason, FirstFailure value reason ∧ failure = .mismatch path reason := by
  rw [h.loadFrom_eq] at hload
  cases hsettings : ofEntries entries with
  | ok config =>
    rw [hsettings] at hload
    cases hload
  | error reason =>
    rw [hsettings] at hload
    cases hload
    obtain ⟨key, bad, ⟨before, after, hentries, -, hbad⟩, hrefuses⟩ :=
      addEntries_eq_error_iff.mp hsettings
    have hmem : (key, bad) ∈ entries := by simp [hentries]
    cases hrefuses with
    | output hkey hformat =>
      cases h.eq_of_output hvalue (key, bad) hmem hkey
      exact ⟨reason, formatOf_eq_error_iff.mp hformat, rfl⟩
    | boolean hkey =>
      have hne : key ≠ "output" := by
        rintro rfl
        exact absurd hkey (by decide)
      exact absurd (hothers (key, bad) hmem hne) hbad

end Document

/-- What the settings in the file at a path are, by the value of the key `output`. -/
structure FormatsDecide (t : Tree) (path : Path) (value : Toml.Value) : Prop where
  -- the shapes that `Spells` lists are accepted, and no others
  loads_iff : (∃ config, loadFrom t path = .ok config) ↔ ∃ f, Spells value f
  output_eq : ∀ config, loadFrom t path = .ok config → Spells value config.output
  error_iff : ∀ failure, loadFrom t path = .error failure ↔
    ∃ reason, FirstFailure value reason ∧ failure = .mismatch path reason

/-- **The values that `output` may have.** Let a document give this key a value, and all other known
keys values that they may have. Its settings are in order exactly if the value is the name of a
format, or a table with the name as its one key and an empty table or array below it. They have this
format then. Any other value is refused for its failure in the first test that it does not pass. -/
theorem formatsDecide (h : Document t path entries) (hvalue : ("output", value) ∈ entries)
    (hothers : ∀ e ∈ entries, e.1 ≠ "output" → Accepts e.1 e.2) :
    FormatsDecide t path value where
  loads_iff := by
    simp only [h.loadFrom_eq_ok_iff]
    exact exists_addEntries_eq_ok_iff.trans (h.accepts_iff hvalue hothers)
  output_eq := fun _ hload => h.spells_of_loadFrom hvalue hload
  error_iff := by
    intro failure
    refine ⟨h.firstFailure_of_loadFrom hvalue hothers, ?_⟩
    rintro ⟨reason, hfirst, rfl⟩
    -- the load fails too, and a value has only one first failure
    have hrefused := hfirst.formatOf_eq
    cases hload : loadFrom t path with
    | ok config =>
      rw [formatOf_eq_ok_iff.mpr (h.spells_of_loadFrom hvalue hload)] at hrefused
      cases hrefused
    | error failure =>
      obtain ⟨reason', hfirst', rfl⟩ := h.firstFailure_of_loadFrom hvalue hothers hload
      rw [hfirst'.formatOf_eq] at hrefused
      cases hrefused
      rfl

/-- A table with two names in a file that also has a title. -/
theorem formatsDecide_two_names :
    let text := "title = 1\noutput = \x7b yaml = 1, xml = 2 \x7d\n"
    let t : Tree := ⟨[("config.toml", .file (Text.toBytes text))]⟩
    ∃ entries value, Document t ⟨"config.toml"⟩ entries ∧ ("output", value) ∈ entries ∧
      (∀ e ∈ entries, e.1 ≠ "output" → Accepts e.1 e.2) ∧
        FormatsDecide t ⟨"config.toml"⟩ value := by
  intro text t
  have hread : t.read ⟨"config.toml"⟩ = .ok (Text.toBytes text) := by decide +kernel
  have htext : Text.ofBytes? (Text.toBytes text) = some text := by decide +kernel
  have hparse : (Toml.parse? text).map Toml.Entries.keys = some ["title", "output"] := by
    decide +kernel
  obtain ⟨entries, hentries, hkeys⟩ := Option.map_eq_some_iff.mp hparse
  have hdocument : Document t ⟨"config.toml"⟩ entries :=
    ⟨_, text, read_eq_ok_iff.mp hread, htext, hentries⟩
  have hkey : "output" ∈ entries.keys := by rw [hkeys]; decide
  obtain ⟨⟨_, value⟩, hvalue, rfl⟩ := List.mem_map.mp hkey
  have hothers : ∀ e ∈ entries, e.1 ≠ "output" → Accepts e.1 e.2 := by
    intro e he hne
    have htitle : e.1 ∈ entries.keys := List.mem_map_of_mem he
    rw [hkeys] at htitle
    apply accepts_of_unknown
    rw [(List.mem_cons.mp htitle).resolve_right (by simpa using hne)]
    decide
  exact ⟨entries, value, hdocument, hvalue, hothers, formatsDecide hdocument hvalue hothers⟩

end LinkGate.Config
