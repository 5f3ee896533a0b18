import LinkGate.Config.Loading
import LinkGate.Log.Sink
import LinkGate.Proofs.Files.Shape

/-!
# What a run finds of its files

The log is opened and the settings are looked up by paths, and defaults are written where there is
no file. All this goes the same way in trees of one shape, and the events on the way tell of paths
and causes. The settings themselves are the one thing that is read from a file, and no event before
the batch tells of them (`events_loadOrDefault_eq`).
-/

namespace LinkGate

open Files Files.Tree

variable {t t' : Tree} {path : Path} {env : Environment}

/-- Whether a file can be placed does not depend on the contents of files. -/
theorem sameOutcome_placeFile (h : SameShape t t') (base? : Option Path) (name : String) :
    SameOutcome (placeFile t base? name) (placeFile t' base? name) := by
  cases base? with
  | none => exact .mk h
  | some base =>
    have hmade := h.createAll (p := programDirectory base)
    simp only [placeFile]
    generalize t.createAll (programDirectory base) = made,
      t'.createAll (programDirectory base) = made' at hmade
    obtain @⟨made, made', result, hmade⟩ := hmade
    cases result with
    | error cause => exact .mk hmade
    | ok _ => exact .mk hmade

/-- The log is opened at the same place, or at none. -/
theorem sameOutcome_openFile (h : SameShape t t') (env : Environment) :
    SameOutcome (Log.openFile t env) (Log.openFile t' env) := by
  have hplaced := sameOutcome_placeFile h env.stateBase? Log.fileName
  unfold Log.openFile Log.locate
  generalize placeFile t env.stateBase? Log.fileName = placed,
    placeFile t' env.stateBase? Log.fileName = placed' at hplaced
  obtain @⟨made, made', result, hmade⟩ := hplaced
  cases result with
  | error cause => exact .mk hmade
  | ok path =>
    -- the file is put back with the content it has, which need not be the same in both
    have hopened := hmade.openForWriting (p := path)
    simp only
    generalize made.openForWriting path = opened, made'.openForWriting path = opened' at hopened
    cases hopened with
    | error cause => exact .mk hmade
    | @ok target target' hsame =>
      obtain ⟨d, name, old⟩ := target
      obtain ⟨d', name', old'⟩ := target'
      obtain ⟨hd, hname, hput⟩ := hsame
      cases hd
      cases hname
      exact .mk (hput old old')

namespace Config

theorem sameOutcome_createParent (h : SameShape t t') (path : Path) :
    SameOutcome (createParent t path) (createParent t' path) := by
  unfold createParent
  cases path.parent? with
  | none => exact .mk h
  | some parent =>
    have hmade := h.createAll (p := parent)
    simp only
    generalize t.createAll parent = made, t'.createAll parent = made' at hmade
    obtain @⟨made, made', result, hmade⟩ := hmade
    cases result with
    | error cause => exact .mk hmade
    | ok _ => exact .mk hmade

/-- Writing the defaults fails for the same reason or succeeds in both. -/
theorem writeDefault_eq (h : SameShape t t') (path : Path) :
    (writeDefault t path).result = (writeDefault t' path).result ∧
      (writeDefault t path).events = (writeDefault t' path).events := by
  have hparent := sameOutcome_createParent h path
  unfold writeDefault
  generalize createParent t path = parent, createParent t' path = parent' at hparent
  obtain @⟨made, made', result, hmade⟩ := hparent
  cases result with
  | error reason => exact ⟨rfl, rfl⟩
  | ok _ =>
    have hwritten := hmade.write (p := path) (Text.toBytes defaultText) (Text.toBytes defaultText)
    simp only
    generalize made.write path (Text.toBytes defaultText) = written,
      made'.write path (Text.toBytes defaultText) = written' at hwritten
    cases hwritten <;> exact ⟨rfl, rfl⟩

/-- Trees of one shape give a load the same events: a file with bad content gives none, as one with
good content does. -/
theorem events_loadOrDefaultAt_eq (h : SameShape t t') (path : Path) :
    (loadOrDefaultAt t path).events = (loadOrDefaultAt t' path).events := by
  obtain ⟨hresult, hevents⟩ := writeDefault_eq h path
  unfold loadOrDefaultAt
  rw [h.isFile_eq]
  split
  · rfl
  · simp only
    rw [hresult, hevents]
    cases (writeDefault t' path).result <;> rfl

/-- No event of loading tells what is in a file. -/
theorem events_loadOrDefault_eq (h : SameShape t t') (env : Environment) :
    (loadOrDefault t env).events = (loadOrDefault t' env).events := by
  have hplaced := sameOutcome_placeFile h env.configBase? fileName
  unfold loadOrDefault locate
  generalize placeFile t env.configBase? fileName = placed,
    placeFile t' env.configBase? fileName = placed' at hplaced
  obtain @⟨made, made', result, hmade⟩ := hplaced
  cases result with
  | error cause => rfl
  | ok path => exact events_loadOrDefaultAt_eq hmade path

end Config

end LinkGate
