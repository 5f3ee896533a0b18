import LinkGate.Proofs.Config.Fallback
import LinkGate.Proofs.Files.Repeated

/-!
# Loading twice

What a load leaves behind is of one of three kinds (`Leaves`): a good file, with which every load
ends at once; a bad file, which no load touches; or no file, and then none can be made. The defaults
that a load has written are a good file, because they read as the defaults
(`good_defaultContent`). If they could not be written, some of the directories above may be new. But
the directory that failed is still missing, so the path leads nowhere, or all of them are there and
the path leads to a directory (`writeDefault_of_error`). Either way the next load fails at the same
place.

So the second load never does more than the first (`loadsOnce`).
-/

namespace LinkGate.Config

open Files Files.Tree

variable {t t' : Tree} {path : Path} {content : Bytes} {config : Config} {events : List Log.Event}

/-! ## Writing the defaults twice -/

/-- Directories that were made are not made again. -/
theorem createParent_of_ok (h : createParent t path = (t', .ok ())) :
    createParent t' path = (t', .ok ()) := by
  unfold createParent at h ⊢
  cases hparent : path.parent? with
  | none => rfl
  | some parent =>
    simp only [hparent] at h ⊢
    cases hall : t.createAll parent with
    | mk made result =>
      rw [hall] at h
      cases result with
      | error cause => cases h
      | ok _ =>
        cases h
        simp only [createAll_of_ok hall]

/-- What is above the path is no directory then, so the path leads nowhere. -/
theorem createParent_of_error {reason : Unavailable}
    (h : createParent t path = (t', .error reason)) :
    t'.contains path = false ∧ ∃ reason', createParent t' path = (t', .error reason') := by
  unfold createParent at h ⊢
  cases hparent : path.parent? with
  | none =>
    rw [hparent] at h
    cases h
  | some parent =>
    simp only [hparent] at h ⊢
    cases hall : t.createAll parent with
    | mk made result =>
      rw [hall] at h
      cases result with
      | ok _ => cases h
      | error cause =>
        cases h
        obtain ⟨hne, hmissing, e, hagain⟩ := createAll_of_error hall
        have hnowhere := contains_of_parent? hparent hne hmissing
        exact ⟨hnowhere, .createDirectory parent e, by simp only [hagain]⟩

/-- Defaults that could not be written cannot be written after that either. -/
theorem writeDefault_of_error {reason : Unavailable}
    (h : writeDefault t path = ⟨.error reason, t', events⟩) :
    t'.isFile path = false ∧ ∃ reason', writeDefault t' path = ⟨.error reason', t', []⟩ := by
  unfold writeDefault at h
  cases hparent : createParent t path with
  | mk made result =>
    rw [hparent] at h
    cases result with
    | error cause =>
      cases h
      obtain ⟨hnowhere, reason', hagain⟩ := createParent_of_error hparent
      refine ⟨isFile_of_not_contains hnowhere, reason', ?_⟩
      rw [writeDefault, hagain]
    | ok _ =>
      simp only at h
      cases hwrite : made.write path (Text.toBytes defaultText) with
      | ok written =>
        rw [hwrite] at h
        cases h
      | error cause =>
        rw [hwrite] at h
        cases h
        refine ⟨?_, .write path cause, ?_⟩
        · -- a file could have been written
          by_contra hfile
          rw [Bool.not_eq_false] at hfile
          obtain ⟨q, old, hleads, hold⟩ := isFile_iff.mp hfile
          obtain ⟨written, hwritten⟩ :=
            write_of_leadsTo_file hleads hold (Text.toBytes defaultText)
          rw [hwritten] at hwrite
          cases hwrite
        · rw [writeDefault, createParent_of_ok hparent]
          simp only [hwrite]

/-- The defaults that are written read as the defaults. -/
theorem good_defaultContent : Good defaultContent default := by
  have hread : ((Text.ofBytes? defaultContent).bind fun text => (Toml.parse? text).bind
      fun entries => (ofEntries entries).toOption) = some default := by decide +kernel
  obtain ⟨text, htext, hread⟩ := Option.bind_eq_some_iff.mp hread
  obtain ⟨entries, hentries, hread⟩ := Option.bind_eq_some_iff.mp hread
  refine ⟨text, entries, htext, hentries, ?_⟩
  cases hsettings : ofEntries entries with
  | error reason =>
    rw [hsettings] at hread
    cases hread
  | ok config =>
    rw [hsettings] at hread
    cases hread
    rfl

/-- The path leads to the defaults once they are written. -/
theorem leadsToFile_of_createsDefault (h : CreatesDefault path t t') :
    t'.LeadsToFile path defaultContent := by
  obtain ⟨made, q, -, hwrites⟩ := h
  refine ⟨q, hwrites.leadsTo, ?_⟩
  rw [hwrites.entryAt?_eq, if_pos rfl]

/-! ## What a load leaves -/

/-- Both ways to load leave the tree `t'`, in which there is a good file with what they gave, or a
bad file of which they told, or no file and no way to make one. -/
inductive Leaves (path : Path) (t' : Tree) : Loading Failure → Loading Unusable → Prop
  | good {content : Bytes} {config : Config} {events : List Log.Event}
    (hfile : t'.LeadsToFile path content) (h : Good content config) :
    Leaves path t' ⟨.ok config, t', events⟩ ⟨.ok config, t', events⟩
  | bad {content : Bytes} {reason : Unusable} (hfile : t'.LeadsToFile path content)
    (h : Bad path content reason) :
    Leaves path t' ⟨.error (.unusable reason), t', []⟩ ⟨.error reason, t', []⟩
  | unavailable {failure : Failure} {reason reason' : Unavailable} (hfile : t'.isFile path = false)
    (h : writeDefault t' path = ⟨.error reason', t', []⟩) :
    Leaves path t' ⟨.error failure, t', []⟩ ⟨.ok default, t', [.configUnavailable reason]⟩

/-- Whatever there was, a load leaves one of the three. By the five ways in which the two loads go
(`loadsTogether`). -/
theorem exists_leaves (t : Tree) (path : Path) :
    ∃ t', Leaves path t' (loadOrInitAt t path) (loadOrDefaultAt t path) := by
  have h := loadsTogether t path
  generalize loadOrInitAt t path = init, loadOrDefaultAt t path = fallback at h
  cases h with
  | good hfile hgood => exact ⟨t, .good hfile hgood⟩
  | bad hfile hbad => exact ⟨t, .bad hfile hbad⟩
  | directory hdirectory =>
    have hwrite := writeDefault_of_isDirectory hdirectory
    exact ⟨t, .unavailable (isFile_of_isDirectory hdirectory) hwrite⟩
  | written hcreates =>
    exact ⟨_, .good (leadsToFile_of_createsDefault hcreates) good_defaultContent⟩
  | unavailable _ hwrite =>
    obtain ⟨hfile, reason', hagain⟩ := writeDefault_of_error hwrite
    exact ⟨_, .unavailable hfile hagain⟩

/-! ## Loading again -/

/-- With a good file every load gives its settings and changes nothing. -/
theorem load_of_good (hfile : t.LeadsToFile path content) (h : Good content config) :
    loadOrInitAt t path = ⟨.ok config, t, []⟩ ∧ loadOrDefaultAt t path = ⟨.ok config, t, []⟩ ∧
      loadFrom t path = .ok config := by
  have hload : loadFrom t path = .ok config := (loadFrom_eq_ok_iff hfile).mpr h
  have hisFile : t.isFile path = true := isFile_iff_leadsToFile.mpr ⟨content, hfile⟩
  rw [loadOrInitAt_of_contains (contains_of_isFile hisFile), loadOrDefaultAt_of_isFile hisFile,
    hload]
  exact ⟨rfl, rfl, rfl⟩

theorem loadOrInitAt_of_bad {reason : Unusable} (hfile : t.LeadsToFile path content)
    (h : Bad path content reason) :
    loadOrInitAt t path = ⟨.error (.unusable reason), t, []⟩ := by
  have hisFile : t.isFile path = true := isFile_iff_leadsToFile.mpr ⟨content, hfile⟩
  rw [loadOrInitAt_of_contains (contains_of_isFile hisFile), (loadFrom_eq_error_iff hfile).mpr h]
  rfl

/-- Where no file can be made, one load fails and the other warns, and neither changes anything. -/
theorem load_of_unavailable {reason : Unavailable} (hfile : t.isFile path = false)
    (h : writeDefault t path = ⟨.error reason, t, []⟩) :
    (∃ failure, loadOrInitAt t path = ⟨.error failure, t, []⟩) ∧
      loadOrDefaultAt t path = ⟨.ok default, t, [.configUnavailable reason]⟩ := by
  constructor
  · cases hcontains : t.contains path with
    | true =>
      -- what is there is a directory
      rw [loadOrInitAt_of_contains hcontains]
      rcases isFile_or_isDirectory hcontains with hisFile | hdirectory
      · rw [hisFile] at hfile
        cases hfile
      · rw [loadFrom_of_isDirectory hdirectory]
        exact ⟨_, rfl⟩
    | false =>
      rw [loadOrInitAt, hcontains, h]
      exact ⟨_, rfl⟩
  · rw [loadOrDefaultAt, hfile, h]
    rfl

/-- How loads go in the tree that a load has left. -/
structure LoadsOnce (t : Tree) (path : Path) : Prop where
  /-- After a success all ways to load give the same settings, say nothing and change nothing. -/
  of_init_ok : ∀ config t' events, loadOrInitAt t path = ⟨.ok config, t', events⟩ →
    loadOrInitAt t' path = ⟨.ok config, t', []⟩ ∧ loadOrDefaultAt t' path = ⟨.ok config, t', []⟩ ∧
      loadFrom t' path = .ok config
  /-- A failure is final. -/
  of_init_error : ∀ failure t' events, loadOrInitAt t path = ⟨.error failure, t', events⟩ →
    ∃ failure', loadOrInitAt t' path = ⟨.error failure', t', []⟩
  /-- A load that may fall back gives the same settings again. Only if there is still no file it
  warns, and then these are the defaults. -/
  of_default_ok : ∀ config t' events, loadOrDefaultAt t path = ⟨.ok config, t', events⟩ →
    loadOrDefaultAt t' path = ⟨.ok config, t', []⟩ ∨ config = default ∧
      ∃ reason, loadOrDefaultAt t' path = ⟨.ok config, t', [.configUnavailable reason]⟩

/-- **Loading twice is loading once.** A load that is repeated gives the same settings or fails
again, and leaves the tree as it finds it. After a load that has created the file, or has found a
good one, the second is silent. -/
theorem loadsOnce (t : Tree) (path : Path) : LoadsOnce t path where
  of_init_ok config t' events h := by
    obtain ⟨made, hleaves⟩ := exists_leaves t path
    rw [h] at hleaves
    generalize loadOrDefaultAt t path = fallback at hleaves
    cases hleaves with
    | good hfile hgood => exact load_of_good hfile hgood
  of_init_error failure t' events h := by
    obtain ⟨made, hleaves⟩ := exists_leaves t path
    rw [h] at hleaves
    generalize loadOrDefaultAt t path = fallback at hleaves
    cases hleaves with
    | bad hfile hbad => exact ⟨_, loadOrInitAt_of_bad hfile hbad⟩
    | unavailable hfile hwrite => exact (load_of_unavailable hfile hwrite).1
  of_default_ok config t' events h := by
    obtain ⟨made, hleaves⟩ := exists_leaves t path
    rw [h] at hleaves
    generalize loadOrInitAt t path = init at hleaves
    cases hleaves with
    | good hfile hgood => exact .inl (load_of_good hfile hgood).2.1
    | unavailable hfile hwrite => exact .inr ⟨rfl, _, (load_of_unavailable hfile hwrite).2⟩

end LinkGate.Config
