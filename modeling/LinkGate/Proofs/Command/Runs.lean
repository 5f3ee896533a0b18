import LinkGate.Proofs.Command.Run
import LinkGate.Proofs.Config.Loading

/-!
# Runs only add

A run opens the log, carries out a request, and appends to the log. Each of these leaves a tree that
`Grows` out of the tree before: no entry is lost, a file that is no log keeps its content, a log
keeps its text as the beginning of the new one, and a new file is a log or has the default settings.
The relation is transitive, so one lemma for each step gives it for a run (`grows_treeAfter`) and,
by induction, for any number of runs.

A request writes a file only to create the settings. The directory of that file is made when its
path is looked up, so no file surfaces when the defaults are written. A user without a home
directory has no base directory, so the file has no path and is not made.
-/

namespace LinkGate

open Files Files.Tree

def logPath (base : Path) : Path :=
  (programDirectory base).join Log.fileName

def settingsPath (base : Path) : Path :=
  (programDirectory base).join Config.fileName

/-- The path of the user's log, which only a user with a home directory has. -/
def Environment.logPath? (env : Environment) : Option Path :=
  env.stateBase?.map logPath

def Environment.settingsPath? (env : Environment) : Option Path :=
  env.configBase?.map settingsPath

namespace Command

variable {texts : Texts} {t t' t'' : Tree} {p path base : Path} {base? : Option Path} {q : Place}
  {content : Bytes} {env : Environment} {logs settings logs' settings' : List Path}
  {file : Log.OpenFile}

/-! ## Growth -/

/-- One of the paths leads to the place `q`. -/
def LedTo (t : Tree) (paths : List Path) (q : Place) : Prop :=
  ∃ p ∈ paths, t.LeadsTo p q

theorem LedTo.extends {paths : List Path} (h : LedTo t paths q) (hext : t.Extends t') :
    LedTo t' paths q := by
  obtain ⟨p, hp, hleads⟩ := h
  exact ⟨p, hp, hext.leadsTo hleads⟩

theorem LedTo.mono {paths paths' : List Path} (h : LedTo t paths q) (hsub : paths ⊆ paths') :
    LedTo t paths' q := by
  obtain ⟨p, hp, hleads⟩ := h
  exact ⟨p, hsub hp, hleads⟩

/-- `t'` has all that `t` has, where logs and settings files are at the given paths. -/
structure Grows (logs settings : List Path) (t t' : Tree) : Prop where
  /-- No entry is lost, and none changes its kind. -/
  entries : t.Extends t'
  /-- A file keeps its content, or it is a log and has text after it. -/
  files : ∀ q content, t.entryAt? q = some (.file content) →
    t'.entryAt? q = some (.file content) ∨
      LedTo t' logs q ∧ ∃ more, t'.entryAt? q = some (.file (content ++ more))
  /-- A new file is a log, or it has the default settings. -/
  new_files : ∀ q content, t.entryAt? q = none → t'.entryAt? q = some (.file content) →
    LedTo t' logs q ∨ LedTo t' settings q ∧ content = Config.defaultContent

/-- A step that does nothing is one that only adds. -/
theorem Grows.refl (t : Tree) : Grows logs settings t t := by
  refine ⟨.refl t, fun _ _ hfile => .inl hfile, fun q content hnone hfile => ?_⟩
  rw [hnone] at hfile
  cases hfile

/-- More logs and settings files may be allowed for. -/
theorem Grows.mono (h : Grows logs settings t t') (hlogs : logs ⊆ logs')
    (hsettings : settings ⊆ settings') : Grows logs' settings' t t' := by
  refine ⟨h.entries, fun q content hfile => ?_, fun q content hnone hfile => ?_⟩
  · exact (h.files q content hfile).imp_right fun ⟨hlog, hmore⟩ => ⟨hlog.mono hlogs, hmore⟩
  · exact (h.new_files q content hnone hfile).imp (·.mono hlogs)
      fun ⟨hled, hcontent⟩ => ⟨hled.mono hsettings, hcontent⟩

/-- Steps that only add may follow each other. A file that is new in the first may be a log that
grows in the second, so the middle tree is looked at. -/
theorem Grows.trans (h : Grows logs settings t t') (h' : Grows logs settings t' t'') :
    Grows logs settings t t'' := by
  refine ⟨h.entries.trans h'.entries, fun q content hfile => ?_, fun q content hnone hfile => ?_⟩
  · rcases h.files q content hfile with hsame | ⟨hlog, more, hmore⟩
    · exact h'.files q content hsame
    · refine .inr ⟨hlog.extends h'.entries, ?_⟩
      rcases h'.files q _ hmore with hsame | ⟨-, more', hmore'⟩
      · exact ⟨more, hsame⟩
      · exact ⟨more ++ more', by rw [hmore', List.append_assoc]⟩
  · -- the file is new in the second step, or it was new in the first and may have grown since
    cases hmiddle : t'.entryAt? q with
    | none => exact h'.new_files q content hmiddle hfile
    | some e =>
      cases e with
      | directory =>
        rw [h'.entries.directory hmiddle] at hfile
        cases hfile
      | file old =>
        rcases h.new_files q old hnone hmiddle with hlog | ⟨hled, rfl⟩
        · exact .inl (hlog.extends h'.entries)
        · rcases h'.files q _ hmiddle with hsame | ⟨hlog, -⟩
          · rw [hsame] at hfile
            cases hfile
            exact .inr ⟨hled.extends h'.entries, rfl⟩
          · exact .inl hlog

/-! ## What each step adds -/

/-- Making directories adds no file and changes none. -/
theorem grows_of_addsDirectories (h : AddsDirectories p t t') : Grows logs settings t t' := by
  refine ⟨h.extends, fun _ _ hfile => .inl (h.kept hfile), fun q content hnone hfile => ?_⟩
  cases (h.new hnone hfile).1

/-- Writing a log adds to it if the new content begins with the old. -/
theorem grows_of_writes (h : Writes p q content t t') (hp : p ∈ logs)
    (hold : ∀ old, t.entryAt? q = some (.file old) → old <+: content) :
    Grows logs settings t t' := by
  have hlog : LedTo t' logs q := ⟨p, hp, h.leadsTo⟩
  refine ⟨h.extends, fun r old hfile => ?_, fun r new hnone hfile => ?_⟩
  · by_cases hr : r = q
    · subst hr
      obtain ⟨more, hmore⟩ := hold old hfile
      exact .inr ⟨hlog, more, by rw [h.entryAt?_eq, if_pos rfl, hmore]⟩
    · exact .inl (by rw [h.entryAt?_eq, if_neg hr, hfile])
  · by_cases hr : r = q
    · exact .inl (hr ▸ hlog)
    · rw [h.entryAt?_eq, if_neg hr, hnone] at hfile
      cases hfile

/-- Loading only adds if no file surfaces. -/
theorem grows_of_footprint (h : Config.Footprint p t t') (hups : t.ReachesUps p)
    (hp : p ∈ settings) : Grows logs settings t t' := by
  refine ⟨h.keeps_entries, fun q content hfile => .inl ?_, fun q content hnone hfile => ?_⟩
  · have hnot := Config.not_surfaces_of_reachesUps hups (q := q) (by simp [hfile])
    exact h.keeps_files q content hnot hfile
  · rcases h.adds q _ hnone hfile with ⟨hdirectory, -⟩ | ⟨hcontent, hleads⟩
    · cases hdirectory
    · cases hcontent
      exact .inr ⟨⟨p, hp, hleads⟩, rfl⟩

/-- The tree after a file of the program is looked up. The program's directory is made in it, or as
much of the way there as can be. -/
def withProgramDirectory (t : Tree) : Option Path → Tree
  | none => t
  | some base => (t.createAll (programDirectory base)).1

/-- Looking up a file of the program adds directories only. -/
theorem addsDirectories_withProgramDirectory (t : Tree) (base? : Option Path) :
    ∃ p, AddsDirectories p t (withProgramDirectory t base?) := by
  cases base? with
  | none => exact ⟨⟨""⟩, .refl _ t⟩
  | some base => exact ⟨programDirectory base, addsDirectories_createAll⟩

/-- Whether or not the file can be placed, this is the tree that is left. -/
theorem tree_placeFile (t : Tree) (base? : Option Path) (name : String) :
    (placeFile t base? name).1 = withProgramDirectory t base? := by
  cases base? with
  | none => rfl
  | some base =>
    simp only [placeFile, withProgramDirectory]
    split
    · next hall => rw [hall]
    · next hall => rw [hall]

/-- The program's directory has a name, also below an empty base. -/
theorem programDirectory_text_ne (base : Path) : (programDirectory base).text ≠ "" := by
  unfold programDirectory Path.join
  intro h
  split at h
  · simp [programName] at h
  · simp [programName] at h

/-- A file is placed only below a base directory, and the program's directory is there then. -/
theorem exists_base_of_placeFile {name : String} (h : placeFile t base? name = (t', .ok path)) :
    ∃ base, base? = some base ∧ path = (programDirectory base).join name ∧
      t'.isDirectory (programDirectory base) = true := by
  cases base? with
  | none => cases h
  | some base =>
    simp only [placeFile] at h
    split at h
    · cases h
    · next made hall =>
      cases h
      have hdirectory := isDirectory_of_createAll (programDirectory_text_ne base) (by rw [hall])
      rw [hall] at hdirectory
      exact ⟨base, rfl, rfl, hdirectory⟩

/-! ### The log -/

structure OpenIn (t : Tree) (file : Log.OpenFile) : Prop where
  names : t.Names file.path file.directory file.name
  slash : file.path.endsInSlash = false

/-- An open file stays open while the tree grows. -/
theorem OpenIn.extends (h : OpenIn t file) (hext : t.Extends t') : OpenIn t' file :=
  ⟨hext.names h.names, h.slash⟩

/-- What opening the log does: the program's directory is made, and then the file is opened. -/
theorem openFile_eq (t : Tree) (h : env.stateBase? = some base) : Log.openFile t env =
    match t.createAll (programDirectory base) with
    | (made, .error _) => (made, none)
    | (made, .ok ()) =>
      match made.openForWriting (logPath base) with
      | .error _ => (made, none)
      | .ok (d, name, content) =>
        (made.put d name (.file content), some ⟨logPath base, d, name⟩) := by
  unfold Log.openFile Log.locate
  rw [h]
  simp only [placeFile]
  cases t.createAll (programDirectory base) with
  | mk made result => cases result <;> rfl

/-- Without a base directory there is no log to open. -/
theorem openFile_of_no_base (t : Tree) (h : env.stateBase? = none) :
    Log.openFile t env = (t, none) := by
  unfold Log.openFile Log.locate
  rw [h]
  rfl

/-- Opening the log only adds. What is opened is the log of the environment, and its path names it.
-/
theorem grows_openFile (settings : List Path) (t : Tree) (env : Environment)
    (hlog : env.logPath?.toList ⊆ logs) :
    Grows logs settings t (Log.openFile t env).1 ∧
      ∀ file, (Log.openFile t env).2 = some file →
        env.logPath? = some file.path ∧ OpenIn (Log.openFile t env).1 file := by
  cases hbase : env.stateBase? with
  | none =>
    rw [openFile_of_no_base t hbase]
    exact ⟨.refl t, fun file h => (by cases h)⟩
  | some base =>
    have hpath : env.logPath? = some (logPath base) := by rw [Environment.logPath?, hbase]; rfl
    have hmem : logPath base ∈ logs := hlog (by rw [hpath]; exact List.mem_singleton_self _)
    have hadds : AddsDirectories (programDirectory base) t
        (t.createAll (programDirectory base)).1 := addsDirectories_createAll
    rw [openFile_eq t hbase, hpath]
    cases hall : t.createAll (programDirectory base) with
    | mk made result =>
      rw [hall] at hadds
      have hmade : Grows logs settings t made := grows_of_addsDirectories hadds
      cases result with
      | error cause => exact ⟨hmade, fun file h => (by cases h)⟩
      | ok _ =>
        cases hopen : made.openForWriting (logPath base) with
        | error cause =>
          simp only [hopen]
          exact ⟨hmade, fun file h => (by cases h)⟩
        | ok target =>
          obtain ⟨d, name, content⟩ := target
          obtain ⟨hnames, hslash, hold⟩ := openForWriting_eq_ok_iff.mp hopen
          have hwrites : Writes (logPath base) (d ++ [name]) content made
              (made.put d name (.file content)) := writes_of_openForWriting hopen
          simp only [hopen]
          refine ⟨hmade.trans (grows_of_writes hwrites hmem fun old hfile => ?_),
            fun file h => ?_⟩
          · -- the file is put back as it was, or it was not there
            rcases hold with hfile' | ⟨hnone, -⟩
            · rw [hfile'] at hfile
              cases hfile
              exact List.prefix_refl _
            · rw [hnone] at hfile
              cases hfile
          · cases h
            exact ⟨rfl, hwrites.extends.names hnames, hslash⟩

/-- Appending to the log keeps its text as the beginning. -/
theorem grows_append (h : OpenIn t file) (hlog : file.path ∈ logs) (text : String) :
    Grows logs settings t (file.append t text) := by
  unfold Log.OpenFile.append
  split
  · next content hget =>
    have hfile := entryAt?_eq_file_iff.mpr hget
    refine grows_of_writes (writes_put h.names h.slash (by simp [hfile])) hlog fun old hold => ?_
    rw [hfile] at hold
    cases hold
    exact List.prefix_append _ _
  · exact .refl t

/-! ### The request -/

/-- Loading the settings only adds. Their directory is there when the defaults are written, so no
file surfaces. -/
theorem grows_loadOrDefault (t : Tree) (env : Environment)
    (hpath : env.settingsPath?.toList ⊆ settings) :
    Grows logs settings t (Config.loadOrDefault t env).tree := by
  obtain ⟨p, hplaced⟩ := addsDirectories_withProgramDirectory t env.configBase?
  rw [← tree_placeFile t env.configBase? Config.fileName] at hplaced
  unfold Config.loadOrDefault Config.locate
  cases hplace : placeFile t env.configBase? Config.fileName with
  | mk made result =>
    rw [hplace] at hplaced
    have hmade : Grows logs settings t made := grows_of_addsDirectories hplaced
    cases result with
    | error reason => exact hmade
    | ok path =>
      obtain ⟨base, hbase, rfl, hdirectory⟩ := exists_base_of_placeFile hplace
      have hups : made.ReachesUps (settingsPath base) :=
        reachesUps_join hdirectory (by decide) (by decide)
      have hmem : settingsPath base ∈ settings := by
        apply hpath
        rw [Environment.settingsPath?, hbase]
        exact List.mem_singleton_self _
      exact hmade.trans
        (grows_of_footprint (Config.footprint_loadOrDefaultAt made _) hups hmem)

/-- A batch leaves the tree as loading the settings left it. -/
theorem tree_sanitize (t : Tree) (env : Environment) (urls : List String)
    (format : Option OutputFormat) (stream : List UInt8) :
    (sanitize t env urls format stream).tree = (Config.loadOrDefault t env).tree := by
  unfold sanitize
  simp only
  split <;> rfl

def Request.isSanitize : Request → Bool
  | .sanitize _ _ => true
  | _ => false

/-- A request only adds, and no file at all if it does not sanitize. -/
theorem grows_execute (texts : Texts) (t : Tree) (env : Environment) (stream : List UInt8)
    (request : Request)
    (hpath : request.isSanitize = true → env.settingsPath?.toList ⊆ settings) :
    Grows logs settings t (execute texts t env stream request).tree := by
  cases request with
  | sanitize urls format =>
    have hloaded : Grows logs settings t (Config.loadOrDefault t env).tree :=
      grows_loadOrDefault t env (hpath rfl)
    rw [execute, tree_sanitize]
    exact hloaded
  | check url strict =>
    rw [execute, check]
    split <;> exact .refl t
  | href url => exact .refl t
  | completions shell => exact .refl t
  | man => exact .refl t
  | help verb => exact .refl t

/-! ## Runs -/

namespace Invocation

def isSanitize (i : Invocation texts) : Bool :=
  match parse i.arguments with
  | .ok request => request.isSanitize
  | .error _ => false

def treeAfterAll (runs : List (Invocation texts)) (t : Tree) : Tree :=
  runs.foldl (fun t i => i.treeAfter t) t

def logPaths (runs : List (Invocation texts)) : List Path :=
  runs.flatMap (·.env.logPath?.toList)

/-- The paths of the settings files of those runs that sanitize. -/
def settingsPaths (runs : List (Invocation texts)) : List Path :=
  (runs.filter isSanitize).flatMap (·.env.settingsPath?.toList)

end Invocation

/-- The same of what is done besides logging; refused arguments do nothing. -/
theorem grows_perform (t : Tree) (i : Invocation texts)
    (hpath : i.isSanitize = true → i.env.settingsPath?.toList ⊆ settings) :
    Grows logs settings t (perform texts t i.env i.arguments i.stream).tree := by
  unfold Invocation.isSanitize at hpath
  unfold perform
  cases hparse : parse i.arguments with
  | error e => exact .refl t
  | ok request =>
    rw [hparse] at hpath
    have hdone : Grows logs settings t (execute texts t i.env i.stream request).tree :=
      grows_execute texts t i.env i.stream request hpath
    simp only
    split <;> exact hdone

/-- Opening the log and adding to it is all that is done besides the request. -/
theorem grows_treeAfter_of_outcome {i : Invocation texts} (hlog : i.env.logPath?.toList ⊆ logs)
    (h : Grows logs settings (i.opened t) (i.outcome t).tree) :
    Grows logs settings t (i.treeAfter t) := by
  obtain ⟨hopened, hfile⟩ := grows_openFile settings t i.env hlog
  unfold Invocation.outcome Invocation.opened at h
  unfold Invocation.treeAfter run
  cases hopen : Log.openFile t i.env with
  | mk made opened =>
    rw [hopen] at hopened hfile h
    cases opened with
    | none => exact hopened.trans h
    | some file =>
      obtain ⟨hfilePath, hin⟩ := hfile file rfl
      have hmem : file.path ∈ logs := hlog (by rw [hfilePath]; exact List.mem_singleton_self _)
      exact (hopened.trans h).trans (grows_append (hin.extends h.entries) hmem _)

/-- A run only adds: it opens the log, carries out the request, and appends to the log. -/
theorem grows_treeAfter (t : Tree) (i : Invocation texts) (hlog : i.env.logPath?.toList ⊆ logs)
    (hpath : i.isSanitize = true → i.env.settingsPath?.toList ⊆ settings) :
    Grows logs settings t (i.treeAfter t) :=
  grows_treeAfter_of_outcome hlog (grows_perform _ i hpath)

/-- Any runs one after another only add, from any tree and in any environments: no entry is lost,
every file that is no log of these runs keeps its content, a log keeps its text as the beginning of
the new one, and a new file is a log or the settings file of a run that sanitizes, with the
defaults. -/
theorem grows_treeAfterAll (t : Tree) (runs : List (Invocation texts)) :
    Grows (Invocation.logPaths runs) (Invocation.settingsPaths runs) t
      (Invocation.treeAfterAll runs t) := by
  induction runs generalizing t with
  | nil => exact .refl t
  | cons i runs ih =>
    have hfirst : Grows (Invocation.logPaths (i :: runs)) (Invocation.settingsPaths (i :: runs)) t
        (i.treeAfter t) := by
      refine grows_treeAfter t i (by simp [Invocation.logPaths]) fun h => ?_
      simp [Invocation.settingsPaths, h]
    -- the rest of the runs have some of the logs and settings files only
    have hrest := ih (i.treeAfter t)
    refine hfirst.trans (hrest.mono ?_ ?_)
    · simp [Invocation.logPaths]
    · rw [Invocation.settingsPaths, Invocation.settingsPaths, List.filter_cons]
      split
      · rw [List.flatMap_cons]
        exact List.subset_append_right _ _
      · exact List.Subset.refl _

end Command

end LinkGate
