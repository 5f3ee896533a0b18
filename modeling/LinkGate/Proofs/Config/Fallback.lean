import LinkGate.Proofs.Config.Loading
import LinkGate.Proofs.Files.Existing

/-!
# What a load falls back from

A load that may fall back on the defaults does so whenever there is no settings file and none can be
made. It does not if there is a file and the file is bad: then its reason to fail is in the content
(`Bad`), and nothing is done.

* **`loadFrom_eq_error_iff`**, **`loadFrom_eq_ok_iff`**: a file gives its settings, or the first
  thing that is wrong with it.
* **`writeDefault_eq_or`**: the defaults are written and one event tells so, or nothing is but
  directories.
* **`writeDefault_of_isDirectory`**: nothing at all changes where the path leads to a directory.
* **`loadsTogether`**: the five ways in which the two loads go, on which all the rest is read off.
* **`fallback_loadOrDefaultAt`**: all ways a load may go, and how it compares with the load that
  does not fall back.
-/

namespace LinkGate.Config

open Files Files.Tree

variable {t t' : Tree} {path : Path} {content : Bytes} {reason : Unusable} {config : Config}

/-! ## Files that are good or bad -/

/-- What is wrong with a settings file of this content. -/
inductive Bad (path : Path) (content : Bytes) : Unusable → Prop
  | notText (h : Text.ofBytes? content = none) : Bad path content (.notText path)
  | notDocument {text : String} (htext : Text.ofBytes? content = some text)
    (h : Toml.parse? text = none) : Bad path content (.notDocument path)
  | mismatch {text : String} {entries : Toml.Entries} {reason : Mismatch}
    (htext : Text.ofBytes? content = some text) (hentries : Toml.parse? text = some entries)
    (h : ofEntries entries = .error reason) : Bad path content (.mismatch path reason)

/-- What is wrong is told with the path of the file. -/
theorem Bad.path_eq (h : Bad path content reason) : reason.path = path := by
  cases h <;> rfl

def Good (content : Bytes) (config : Config) : Prop :=
  ∃ text entries, Text.ofBytes? content = some text ∧ Toml.parse? text = some entries ∧
    ofEntries entries = .ok config

/-- The content decides, and it decides in one way. -/
theorem loadFrom_of_leadsToFile (h : t.LeadsToFile path content) :
    (∃ config, loadFrom t path = .ok config ∧ Good content config) ∨
      ∃ reason, loadFrom t path = .error reason ∧ Bad path content reason := by
  have hread := read_eq_ok_iff.mpr h
  unfold loadFrom
  rw [hread]
  simp only
  cases htext : Text.ofBytes? content with
  | none => exact .inr ⟨_, rfl, .notText htext⟩
  | some text =>
    simp only
    cases hentries : Toml.parse? text with
    | none => exact .inr ⟨_, rfl, .notDocument htext hentries⟩
    | some entries =>
      simp only
      cases hsettings : ofEntries entries with
      | error mismatch => exact .inr ⟨_, rfl, .mismatch htext hentries hsettings⟩
      | ok config => exact .inl ⟨_, rfl, text, entries, htext, hentries, hsettings⟩

/-- A content makes one choice of settings at most. -/
theorem Good.unique {config' : Config} (h : Good content config) (h' : Good content config') :
    config = config' := by
  obtain ⟨text, entries, htext, hentries, hsettings⟩ := h
  obtain ⟨text', entries', htext', hentries', hsettings'⟩ := h'
  rw [htext] at htext'
  cases htext'
  rw [hentries] at hentries'
  cases hentries'
  rw [hsettings] at hsettings'
  cases hsettings'
  rfl

/-- A content is bad for one reason at most. -/
theorem Bad.unique {reason' : Unusable} (h : Bad path content reason)
    (h' : Bad path content reason') : reason = reason' := by
  cases h <;> cases h' <;> simp_all

theorem Good.not_bad (h : Good content config) : ¬ Bad path content reason := by
  obtain ⟨text, entries, htext, hentries, hsettings⟩ := h
  intro hbad
  cases hbad <;> simp_all

theorem loadFrom_eq_ok_iff (h : t.LeadsToFile path content) :
    loadFrom t path = .ok config ↔ Good content config := by
  rcases loadFrom_of_leadsToFile h with ⟨config', hload, hgood⟩ | ⟨reason, hload, hbad⟩
  · rw [hload]
    constructor
    · rintro ⟨⟩
      exact hgood
    · exact fun hgood' => by rw [hgood.unique hgood']
  · rw [hload]
    constructor
    · rintro ⟨⟩
    · exact fun hgood => absurd hbad hgood.not_bad

/-- Loading fails for the reason for which the content is bad, and for no other. -/
theorem loadFrom_eq_error_iff (h : t.LeadsToFile path content) :
    loadFrom t path = .error reason ↔ Bad path content reason := by
  rcases loadFrom_of_leadsToFile h with ⟨config, hload, hgood⟩ | ⟨reason', hload, hbad⟩
  · rw [hload]
    constructor
    · rintro ⟨⟩
    · exact fun hbad => absurd hbad hgood.not_bad
  · rw [hload]
    constructor
    · rintro ⟨⟩
      exact hbad
    · exact fun hbad' => by rw [hbad.unique hbad']

/-- A directory in place of the file cannot be read. -/
theorem loadFrom_of_isDirectory (h : t.isDirectory path = true) :
    loadFrom t path = .error (.unreadable path .isDirectory) := by
  rw [loadFrom, read_of_isDirectory h]

/-! ## Writing the defaults -/

/-- The defaults are written where the path leads, after the directories above are made. -/
def CreatesDefault (path : Path) (t t' : Tree) : Prop :=
  ∃ made q, AddsDirectories path t made ∧ Writes path q defaultContent made t'

/-- Either the defaults are written and one event says so, or a reason is given and no file is
touched. -/
theorem writeDefault_eq_or (t : Tree) (path : Path) :
    (∃ t', writeDefault t path = ⟨.ok default, t', [.createdConfig path]⟩ ∧
      CreatesDefault path t t') ∨
    ∃ reason t', writeDefault t path = ⟨.error reason, t', []⟩ ∧ AddsDirectories path t t' := by
  have hmade : AddsDirectories path t (createParent t path).1 := addsDirectories_createParent
  unfold writeDefault
  cases hparent : createParent t path with
  | mk made result =>
    rw [hparent] at hmade
    cases result with
    | error reason => exact .inr ⟨_, _, rfl, hmade⟩
    | ok _ =>
      simp only
      cases hwrite : made.write path (Text.toBytes defaultText) with
      | error cause => exact .inr ⟨_, _, rfl, hmade⟩
      | ok written =>
        obtain ⟨hslash, d, name, hnames, hold, rfl⟩ := write_eq_ok_iff.mp hwrite
        exact .inl ⟨_, rfl, made, d ++ [name], hmade, writes_put hnames hslash hold⟩

/-- Nothing is made above a path that leads to an entry. -/
theorem createParent_of_leadsTo {q : Place} (h : t.LeadsTo path q) :
    createParent t path = (t, .ok ()) := by
  have hparents : ∀ parent, path.parent? = some parent → t.createAll parent = (t, .ok ()) := by
    intro parent hparent
    by_cases hempty : parent.text = ""
    · exact createAll_of_empty hempty
    · exact createAll_of_isDirectory (isDirectory_of_leadsTo hparent hempty h)
  unfold createParent
  cases hparent : path.parent? with
  | none => rfl
  | some parent => simp only [hparents parent hparent]

/-- A directory is in the way of the defaults, and nothing is made. -/
theorem writeDefault_of_isDirectory (h : t.isDirectory path = true) :
    writeDefault t path = ⟨.error (.write path .isDirectory), t, []⟩ := by
  obtain ⟨q, hleads, hq⟩ := isDirectory_iff.mp h
  have hwrite := write_of_leadsTo_directory hleads hq (Text.toBytes defaultText)
  rw [writeDefault, createParent_of_leadsTo hleads]
  simp only [hwrite]

/-! ## The two ways to load -/

/-- If there is a file, the load that may fall back only reads it. -/
theorem loadOrDefaultAt_of_isFile (h : t.isFile path = true) :
    loadOrDefaultAt t path = ⟨loadFrom t path, t, []⟩ := by
  rw [loadOrDefaultAt, if_pos h]

/-- If there is anything, the load that does not fall back only reads it. -/
theorem loadOrInitAt_of_contains (h : t.contains path = true) :
    loadOrInitAt t path = ⟨(loadFrom t path).mapError .unusable, t, []⟩ := by
  rw [loadOrInitAt, if_pos h]

theorem isFile_of_not_contains (h : t.contains path = false) : t.isFile path = false := by
  by_contra hfile
  rw [Bool.not_eq_false] at hfile
  rw [contains_of_isFile hfile] at h
  cases h

/-- How the load that fails and the load that may fall back go together. They differ in what they
make of a directory, and in what they do if the defaults cannot be written. -/
inductive LoadsTogether (t : Tree) (path : Path) : Loading Failure → Loading Unusable → Prop
  | good {content : Bytes} {config : Config} (hfile : t.LeadsToFile path content)
    (h : Good content config) :
    LoadsTogether t path ⟨.ok config, t, []⟩ ⟨.ok config, t, []⟩
  | bad {content : Bytes} {reason : Unusable} (hfile : t.LeadsToFile path content)
    (h : Bad path content reason) :
    LoadsTogether t path ⟨.error (.unusable reason), t, []⟩ ⟨.error reason, t, []⟩
  | directory (h : t.isDirectory path = true) :
    LoadsTogether t path ⟨.error (.unusable (.unreadable path .isDirectory)), t, []⟩
      ⟨.ok default, t, [.configUnavailable (.write path .isDirectory)]⟩
  | written {t' : Tree} (h : CreatesDefault path t t') :
    LoadsTogether t path ⟨.ok default, t', [.createdConfig path]⟩
      ⟨.ok default, t', [.createdConfig path]⟩
  | unavailable {reason : Unavailable} {t' : Tree} (h : AddsDirectories path t t')
    (hwrite : writeDefault t path = ⟨.error reason, t', []⟩) :
    LoadsTogether t path ⟨.error (.unavailable reason), t', []⟩
      ⟨.ok default, t', [.configUnavailable reason]⟩

/-- The two loads go in one of the five ways. They part only where there is no file. -/
theorem loadsTogether (t : Tree) (path : Path) :
    LoadsTogether t path (loadOrInitAt t path) (loadOrDefaultAt t path) := by
  cases hcontains : t.contains path with
  | true =>
    rw [loadOrInitAt_of_contains hcontains]
    rcases isFile_or_isDirectory hcontains with hfile | hdirectory
    · rw [loadOrDefaultAt_of_isFile hfile]
      obtain ⟨content, hleads⟩ := isFile_iff_leadsToFile.mp hfile
      rcases loadFrom_of_leadsToFile hleads with ⟨config, hload, hgood⟩ | ⟨reason, hload, hbad⟩
      · rw [hload]
        exact .good hleads hgood
      · rw [hload]
        exact .bad hleads hbad
    · -- the defaults cannot be written in the place of a directory
      rw [loadFrom_of_isDirectory hdirectory, loadOrDefaultAt, isFile_of_isDirectory hdirectory,
        writeDefault_of_isDirectory hdirectory]
      exact .directory hdirectory
  | false =>
    rw [loadOrInitAt, hcontains, loadOrDefaultAt, isFile_of_not_contains hcontains]
    rcases writeDefault_eq_or t path with ⟨t', hmade, hcreates⟩ | ⟨reason, t', hmade, hadds⟩
    · rw [hmade]
      exact .written hcreates
    · rw [hmade]
      exact .unavailable hadds hmade

namespace LoadsTogether

variable {init : Loading Failure} {fallback : Loading Unusable}

/-- Without a file the load that may fall back never fails. It has the defaults, with an event that
tells whether they were written. -/
theorem of_no_file (h : LoadsTogether t path init fallback)
    (hnone : ¬ ∃ content, t.LeadsToFile path content) :
    (∃ t', fallback = ⟨.ok default, t', [.createdConfig path]⟩ ∧ CreatesDefault path t t') ∨
    ∃ reason t', fallback = ⟨.ok default, t', [.configUnavailable reason]⟩ ∧
      AddsDirectories path t t' := by
  cases h with
  | good hfile => exact absurd ⟨_, hfile⟩ hnone
  | bad hfile => exact absurd ⟨_, hfile⟩ hnone
  | directory => exact .inr ⟨_, t, rfl, .refl path t⟩
  | written h => exact .inl ⟨_, rfl, h⟩
  | unavailable h => exact .inr ⟨_, _, rfl, h⟩

/-- A load that may fall back fails only if there is a bad file. -/
theorem of_error (h : LoadsTogether t path init fallback)
    (herror : fallback.result = .error reason) :
    (∃ content, t.LeadsToFile path content ∧ Bad path content reason) ∧
      fallback = ⟨.error reason, t, []⟩ := by
  cases h with
  | bad hfile h =>
    cases herror
    exact ⟨⟨_, hfile, h⟩, rfl⟩
  | good | directory | written | unavailable => cases herror

/-- What the load that does not fall back gives, the other one gives too. -/
theorem of_init_ok (h : LoadsTogether t path init fallback) (hinit : init.result = .ok config) :
    fallback = ⟨.ok config, init.tree, init.events⟩ := by
  cases h with
  | good | written =>
    cases hinit
    rfl
  | bad | directory | unavailable => cases hinit

/-- If there is no file and none can be made, the other load has the defaults and warns. -/
theorem of_init_unavailable {reason : Unavailable} (h : LoadsTogether t path init fallback)
    (hinit : init.result = .error (.unavailable reason)) :
    init.events = [] ∧ fallback = ⟨.ok default, init.tree, [.configUnavailable reason]⟩ := by
  cases h with
  | unavailable =>
    cases hinit
    exact ⟨rfl, rfl⟩
  | good | bad | directory | written => cases hinit

/-- If what is there cannot be used, the other load fails as well, unless it is a directory. -/
theorem of_init_unusable (h : LoadsTogether t path init fallback)
    (hinit : init.result = .error (.unusable reason)) :
    init = ⟨.error (.unusable reason), t, []⟩ ∧
    ((∃ content, t.LeadsToFile path content ∧ Bad path content reason) ∧
        fallback = ⟨.error reason, t, []⟩ ∨
      t.isDirectory path = true ∧ reason = .unreadable path .isDirectory ∧
        fallback = ⟨.ok default, t, [.configUnavailable (.write path .isDirectory)]⟩) := by
  cases h with
  | bad hfile h =>
    cases hinit
    exact ⟨rfl, .inl ⟨⟨_, hfile, h⟩, rfl⟩⟩
  | directory h =>
    cases hinit
    exact ⟨rfl, .inr ⟨h, rfl, rfl⟩⟩
  | good | written | unavailable => cases hinit

end LoadsTogether

/-! ## All ways to load -/

/-- How a load that may fall back on the defaults goes. -/
structure FallsBack (t : Tree) (path : Path) : Prop where
  /-- It fails only for a bad file, and for what is wrong with that. -/
  error_iff : ∀ reason, (loadOrDefaultAt t path).result = .error reason ↔
    ∃ content, t.LeadsToFile path content ∧ Bad path content reason
  /-- It then does what reading the file does, and nothing else. -/
  of_error : ∀ reason, (loadOrDefaultAt t path).result = .error reason →
    loadFrom t path = .error reason ∧ loadOrDefaultAt t path = ⟨.error reason, t, []⟩
  /-- A good file is read and left alone. -/
  of_good : ∀ content config, t.LeadsToFile path content → Good content config →
    loadOrDefaultAt t path = ⟨.ok config, t, []⟩
  /-- Without a file the defaults hold, and one event tells whether they were written. -/
  of_no_file : (¬ ∃ content, t.LeadsToFile path content) →
    (∃ t', loadOrDefaultAt t path = ⟨.ok default, t', [.createdConfig path]⟩ ∧
      CreatesDefault path t t') ∨
    ∃ reason t', loadOrDefaultAt t path = ⟨.ok default, t', [.configUnavailable reason]⟩ ∧
      AddsDirectories path t t'
  /-- Where the other load succeeds this one does the same. -/
  of_init_ok : ∀ config, (loadOrInitAt t path).result = .ok config →
    loadOrDefaultAt t path = ⟨.ok config, (loadOrInitAt t path).tree, (loadOrInitAt t path).events⟩
  /-- Where the other one cannot create the file this one warns and leaves the same tree. -/
  of_init_unavailable : ∀ reason, (loadOrInitAt t path).result = .error (.unavailable reason) →
    (loadOrInitAt t path).events = [] ∧ loadOrDefaultAt t path
      = ⟨.ok default, (loadOrInitAt t path).tree, [.configUnavailable reason]⟩
  /-- Where the other one finds something that it cannot use this one fails too if that is a file,
  and warns if it is a directory. -/
  of_init_unusable : ∀ reason, (loadOrInitAt t path).result = .error (.unusable reason) →
    loadOrInitAt t path = ⟨.error (.unusable reason), t, []⟩ ∧
    ((∃ content, t.LeadsToFile path content ∧ Bad path content reason) ∧
        loadOrDefaultAt t path = ⟨.error reason, t, []⟩ ∨
      t.isDirectory path = true ∧ reason = .unreadable path .isDirectory ∧
        loadOrDefaultAt t path
          = ⟨.ok default, t, [.configUnavailable (.write path .isDirectory)]⟩)

/-- **Only a bad file is not forgiven.** A load that may fall back on the defaults fails exactly for
a file that is no text, no document or a document of the wrong shape, and then says what reading
that file says and does nothing. In all other cases it gives the settings in the file, or the
defaults and one event. It never does less than the load that creates the file or fails. -/
theorem fallback_loadOrDefaultAt (t : Tree) (path : Path) : FallsBack t path where
  error_iff reason := by
    refine ⟨fun h => ((loadsTogether t path).of_error h).1, fun ⟨content, hleads, hbad⟩ => ?_⟩
    rw [loadOrDefaultAt_of_isFile (isFile_iff_leadsToFile.mpr ⟨content, hleads⟩)]
    exact (loadFrom_eq_error_iff hleads).mpr hbad
  of_error reason h := by
    obtain ⟨⟨content, hleads, hbad⟩, hload⟩ := (loadsTogether t path).of_error h
    exact ⟨(loadFrom_eq_error_iff hleads).mpr hbad, hload⟩
  of_good content config hleads hgood := by
    rw [loadOrDefaultAt_of_isFile (isFile_iff_leadsToFile.mpr ⟨content, hleads⟩),
      (loadFrom_eq_ok_iff hleads).mpr hgood]
  of_no_file := (loadsTogether t path).of_no_file
  of_init_ok _ := (loadsTogether t path).of_init_ok
  of_init_unavailable _ := (loadsTogether t path).of_init_unavailable
  of_init_unusable _ := (loadsTogether t path).of_init_unusable

end LinkGate.Config
