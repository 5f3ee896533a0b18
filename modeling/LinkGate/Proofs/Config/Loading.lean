import LinkGate.Config.Loading
import LinkGate.Proofs.Files.Growth

/-!
# What loading does to the tree

Both ways to load look where the path leads before any directory is made. If it leads to no file
they make the directory that the file is in and then write the defaults, in place of what is there.
On the way of the path a missing directory may be left again by `..`; then the path leads nowhere at
first, but once the directory is made it can lead to a file of the user (`Surfaces`). That file is
lost, and no other (`Footprint`). If every `..` is taken from a directory that exists, no file
surfaces (`not_surfaces_of_reachesUps`).
-/

namespace LinkGate.Config

open Files Files.Tree

variable {t t' : Tree} {path : Path} {q : Place} {content : Bytes}

def defaultContent : Bytes := Text.toBytes defaultText

/-! ## Making the directory -/

/-- All that is made above a path is directories on the way. -/
theorem addsDirectories_createParent : AddsDirectories path t (createParent t path).1 := by
  unfold createParent
  cases hparent : path.parent? with
  | none => exact .refl path t
  | some parent =>
    have hmade : AddsDirectories path t (t.createAll parent).1 :=
      addsDirectories_createAll.along (Path.steps_prefix_of_parent? hparent)
    simp only
    split
    · next hall =>
      rw [hall] at hmade
      exact hmade
    · next hall =>
      rw [hall] at hmade
      exact hmade

/-- The path comes to lead to the entry at `q` only when the directories above it are made. -/
def Surfaces (t : Tree) (path : Path) (q : Place) : Prop :=
  ¬ t.LeadsTo path q ∧ (createParent t path).2 = .ok () ∧ (createParent t path).1.LeadsTo path q

/-- No entry surfaces if every `..` of the path is taken from a directory that exists. -/
theorem not_surfaces_of_reachesUps (hups : t.ReachesUps path) (hq : t.entryAt? q ≠ none) :
    ¬ Surfaces t path q := by
  intro ⟨hbefore, _, hafter⟩
  exact hbefore (addsDirectories_createParent.extends.leadsTo_of_reachesUps hups hafter hq)

/-! ## Writing the defaults -/

/-- Writing the defaults makes directories and then writes the file, or it fails on the way. If the
path then leads to a file it does not fail. -/
theorem writeDefault_cases (t : Tree) (path : Path) :
    (∃ q, (createParent t path).2 = .ok () ∧
      Writes path q defaultContent (createParent t path).1 (writeDefault t path).tree) ∨
    (writeDefault t path).tree = (createParent t path).1 ∧
      ((createParent t path).2 = .ok () → ∀ q content,
        (createParent t path).1.LeadsTo path q →
          (createParent t path).1.entryAt? q ≠ some (.file content)) := by
  unfold writeDefault
  cases hparent : createParent t path with
  | mk made result =>
    cases result with
    | error reason => exact .inr ⟨rfl, fun h => (by cases h)⟩
    | ok _ =>
      simp only
      cases hwrite : made.write path (Text.toBytes defaultText) with
      | error cause =>
        refine .inr ⟨rfl, fun _ q content hleads hfile => ?_⟩
        obtain ⟨written, hwritten⟩ := write_of_leadsTo_file hleads hfile (Text.toBytes defaultText)
        rw [hwritten] at hwrite
        cases hwrite
      | ok written =>
        obtain ⟨hslash, d, name, hnames, hold, rfl⟩ := write_eq_ok_iff.mp hwrite
        exact .inl ⟨d ++ [name], trivial, writes_put hnames hslash hold⟩

/-! ## What is left of the tree -/

/-- What a load at the path `path` may make of the tree `t`. -/
structure Footprint (path : Path) (t t' : Tree) : Prop where
  /-- No entry is lost, and none changes its kind. -/
  keeps_entries : t.Extends t'
  /-- A new entry is a directory on the way or, where the path leads, a file with the defaults. -/
  adds : ∀ q e, t.entryAt? q = none → t'.entryAt? q = some e →
    e = .directory ∧ t'.OnTheWay path q ∨ e = .file defaultContent ∧ t'.LeadsTo path q
  /-- A file that surfaces is replaced by the defaults. -/
  overwrites : ∀ q content, Surfaces t path q → t.entryAt? q = some (.file content) →
    t'.entryAt? q = some (.file defaultContent)
  /-- Every other file keeps its content. -/
  keeps_files : ∀ q content, ¬ Surfaces t path q → t.entryAt? q = some (.file content) →
    t'.entryAt? q = some (.file content)

/-- A tree that is left as it is has a footprint that is allowed, if the path leads somewhere. -/
theorem footprint_refl (h : ∃ q, t.LeadsTo path q) : Footprint path t t := by
  obtain ⟨r, hr⟩ := h
  refine ⟨.refl t, ?_, ?_, fun _ _ _ hfile => hfile⟩
  · intro q e hnone he
    rw [hnone] at he
    cases he
  · -- where the path leads it still leads when directories are made
    intro q content ⟨hbefore, _, hafter⟩ _
    rw [(addsDirectories_createParent.extends.leadsTo hr).unique hafter] at hr
    exact absurd hr hbefore

/-- Writing the defaults keeps to the footprint if the path did not lead to a file before. -/
theorem footprint_writeDefault
    (h : ∀ q content, t.LeadsTo path q → t.entryAt? q ≠ some (.file content)) :
    Footprint path t (writeDefault t path).tree := by
  have hmade : AddsDirectories path t (createParent t path).1 := addsDirectories_createParent
  rcases writeDefault_cases t path with ⟨r, hok, hwrites⟩ | ⟨htree, hno⟩
  · refine ⟨hmade.extends.trans hwrites.extends, ?_, ?_, ?_⟩
    · intro q e hnone he
      rw [hwrites.entryAt?_eq] at he
      split at he
      · next hq =>
        cases he
        exact .inr ⟨rfl, hq ▸ hwrites.leadsTo⟩
      · obtain ⟨rfl, hway⟩ := hmade.new hnone he
        exact .inl ⟨rfl, hwrites.extends.onTheWay hway⟩
    · -- the file that surfaces is where the path leads in the end
      intro q content ⟨_, _, hafter⟩ _
      have hq : q = r := (hwrites.extends.leadsTo hafter).unique hwrites.leadsTo
      rw [hwrites.entryAt?_eq, if_pos hq]
    · -- a file that was there and is written to has surfaced
      intro q content hnot hfile
      rw [hwrites.entryAt?_eq, if_neg, hmade.kept hfile]
      intro hq
      subst hq
      have hafter := hwrites.leadsTo_of_extends (.refl _) (by simp [hmade.kept hfile])
      exact hnot ⟨fun hbefore => h q content hbefore hfile, hok, hafter⟩
  · rw [htree]
    refine ⟨hmade.extends, ?_, ?_, fun q content _ hfile => hmade.kept hfile⟩
    · intro q e hnone he
      exact .inl (hmade.new hnone he)
    · intro q content ⟨_, hok, hafter⟩ hfile
      exact absurd (hmade.kept hfile) (hno hok q content hafter)

/-- The load that does not fall back keeps to the footprint. -/
theorem footprint_loadOrInitAt (t : Tree) (path : Path) :
    Footprint path t (loadOrInitAt t path).tree := by
  unfold loadOrInitAt
  split
  · next h => exact footprint_refl (contains_iff.mp h)
  · next h =>
    refine footprint_writeDefault fun q content hleads _ => ?_
    exact h (contains_iff.mpr ⟨q, hleads⟩)

/-- So does the load that may fall back. -/
theorem footprint_loadOrDefaultAt (t : Tree) (path : Path) :
    Footprint path t (loadOrDefaultAt t path).tree := by
  unfold loadOrDefaultAt
  split
  · next h =>
    obtain ⟨q, content, hleads, -⟩ := isFile_iff.mp h
    exact footprint_refl ⟨q, hleads⟩
  · next h =>
    have hmade : Footprint path t (writeDefault t path).tree := by
      refine footprint_writeDefault fun q content hleads hfile => ?_
      exact h (isFile_iff.mpr ⟨q, content, hleads, hfile⟩)
    simp only
    split <;> exact hmade

/-- Loading loses no file but one that surfaces, and none surfaces if every `..` of the path is
taken from a directory that exists. All that is new is directories on the way and one file with the
defaults where the path leads. -/
theorem footprint_of_load (t : Tree) (path : Path) :
    Footprint path t (loadOrInitAt t path).tree ∧
      Footprint path t (loadOrDefaultAt t path).tree ∧
        (t.ReachesUps path → ∀ q, t.entryAt? q ≠ none → ¬ Surfaces t path q) :=
  ⟨footprint_loadOrInitAt t path, footprint_loadOrDefaultAt t path,
    fun hups _ => not_surfaces_of_reachesUps hups⟩

/-- A path that leaves a missing directory by `..` costs the user the file after it. -/
theorem load_loses_file :
    let chosen := Text.toBytes "output = \"json\"\n"
    let t : Tree := ⟨[("config.toml", .file chosen)]⟩
    let path : Path := ⟨"missing/../config.toml"⟩
    t.entryAt? ["config.toml"] = some (.file chosen) ∧ chosen ≠ defaultContent ∧
      (loadOrInitAt t path).tree.entryAt? ["config.toml"] = some (.file defaultContent) ∧
        (loadOrDefaultAt t path).tree.entryAt? ["config.toml"] = some (.file defaultContent) := by
  decide +kernel

end LinkGate.Config
