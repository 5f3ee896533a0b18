import LinkGate.Files.Access
import LinkGate.Proofs.Files.Path
import LinkGate.Proofs.Files.Tree
import Mathlib.Data.List.Induction

/-!
# Walks, and when an operation succeeds

A walk goes from directory to directory by moves, and ends at an entry of the tree
(`entryAt?_ne_none_of_walk`). A path leads to the place where its walk ends (`leadsTo_iff`). To make
or to write an entry the entry need not be there: the path then `Names` it in a directory that is.

Each operation that makes or writes an entry gets one lemma that says when it succeeds and what it
gives (`create_eq_ok_iff`, `openForWriting_eq_ok_iff`, `write_eq_ok_iff`). Later modules cite these
and do not unfold the operations.
-/

namespace LinkGate.Files

namespace Tree

variable {t t' t'' : Tree} {p : Path} {place start q r d : Place} {s : Step} {steps : List Step}
  {name : String} {content : Bytes}

/-! ## Walks -/

/-- `t.Move s r q`: a walk in the tree `t` gets by the step `s` from the place `r` to `q`. -/
inductive Move (t : Tree) : Step → Place → Place → Prop
  | stay {r : Place} (hr : t.entryAt? r = some .directory) : Move t .stay r r
  | up {r : Place} (hr : t.entryAt? r = some .directory) : Move t .up r r.dropLast
  | down {r : Place} {name : String} (hr : t.entryAt? r = some .directory)
    (hname : isNameTooLong name = false) (hentry : t.entryAt? (r ++ [name]) ≠ none) :
    Move t (.down name) r (r ++ [name])

theorem lookUp_eq_ok_iff {found : Option Node} :
    t.lookUp d name = .ok found ↔ isNameTooLong name = false ∧ t.get? (d ++ [name]) = found := by
  unfold lookUp
  cases isNameTooLong name <;> simp

theorem Move.entryAt?_left (h : t.Move s r q) : t.entryAt? r = some .directory := by
  cases h <;> assumption

/-- The step function makes the moves of the relation and no others. -/
theorem step_eq_ok_iff : t.step r s = .ok q ↔ t.Move s r q := by
  refine ⟨fun h => ?_, fun h => ?_⟩
  · unfold step at h
    split at h
    · cases h
    · cases h
    · next entries hget =>
      have hr : t.entryAt? r = some .directory := entryAt?_eq_directory_iff.mpr ⟨entries, hget⟩
      cases s with
      | stay =>
        cases h
        exact .stay hr
      | up =>
        cases h
        exact .up hr
      | down name =>
        simp only at h
        split at h
        · cases h
        · cases h
        · next node hfound =>
          cases h
          obtain ⟨hname, hentry⟩ := lookUp_eq_ok_iff.mp hfound
          exact .down hr hname (by simp [entryAt?, hentry])
  · obtain ⟨entries, hget⟩ := entryAt?_eq_directory_iff.mp h.entryAt?_left
    cases h with
    | stay hr => simp [step, hget]
    | up hr => simp [step, hget]
    | down hr hname hentry =>
      obtain ⟨node, hnode⟩ := Option.ne_none_iff_exists'.mp (mt entryAt?_eq_none_iff.mpr hentry)
      simp [step, hget, lookUp_eq_ok_iff.mpr ⟨hname, hnode⟩]

/-- A walk stops at an entry between any two of its steps. -/
theorem walk_append_eq_ok_iff {more : List Step} :
    t.walk start (steps ++ more) = .ok q ↔
      ∃ r, t.walk start steps = .ok r ∧ t.walk r more = .ok q := by
  induction steps generalizing start with
  | nil => simp [walk]
  | cons s steps ih =>
    rw [List.cons_append, walk, walk]
    cases t.step start s with
    | error e => simp
    | ok next => simp [ih]

/-- The last step of a walk is a move. Inductions over a walk go from its end by this lemma. -/
theorem walk_concat_eq_ok_iff :
    t.walk start (steps ++ [s]) = .ok q ↔ ∃ r, t.walk start steps = .ok r ∧ t.Move s r q := by
  rw [walk_append_eq_ok_iff]
  refine exists_congr fun r => and_congr_right fun _ => ?_
  rw [← step_eq_ok_iff, walk]
  cases t.step r s <;> simp [walk]

/-- A move ends at an entry. -/
theorem Move.entryAt?_right_ne_none (h : t.Move s r q) : t.entryAt? q ≠ none := by
  cases h with
  | stay hr => simp [hr]
  | up hr => simp [entryAt?_dropLast hr]
  | down _ _ hentry => exact hentry

/-- Only a step down can get to a file. -/
theorem Move.eq_down_of_file (h : t.Move s r q) (hq : t.entryAt? q = some (.file content)) :
    ∃ name, s = .down name ∧ q = r ++ [name] ∧ isNameTooLong name = false := by
  cases h with
  | stay hr => rw [hr] at hq; cases hq
  | up hr => rw [entryAt?_dropLast hr] at hq; cases hq
  | down _ hname _ => exact ⟨_, rfl, rfl, hname⟩

/-- So does a walk that starts at one. -/
theorem entryAt?_ne_none_of_walk (h : t.walk start steps = .ok q)
    (hstart : t.entryAt? start ≠ none) : t.entryAt? q ≠ none := by
  induction steps using List.reverseRecOn generalizing q with
  | nil =>
    cases h
    exact hstart
  | append_singleton steps s _ =>
    obtain ⟨r, -, hmove⟩ := walk_concat_eq_ok_iff.mp h
    exact hmove.entryAt?_right_ne_none

/-! ## Where a path leads -/

/-- The path `p` leads to the place `q` in the tree `t`. -/
def LeadsTo (t : Tree) (p : Path) (q : Place) : Prop :=
  ∃ node, t.find p = .ok (q, node)

/-- What finding a path comes to: the walk along it ends at an entry, which is a directory if the
path ends in a slash. -/
theorem find_eq_ok_iff {node : Node} : t.find p = .ok (q, node) ↔
    p.refusal? = none ∧ t.walk [] p.steps = .ok q ∧ t.get? q = some node ∧
      (p.endsInSlash = true → node.kind = .directory) := by
  unfold find
  cases hrefusal : p.refusal? with
  | some e => simp
  | none =>
    cases hwalk : t.walk [] p.steps with
    | error e => simp
    | ok place =>
      refine ⟨fun h => ?_, fun h => ?_⟩
      · simp only at h
        split at h
        · cases h
        · next content hget =>
          split at h
          · cases h
          · next hslash =>
            cases h
            exact ⟨rfl, rfl, hget, fun hslash' => absurd hslash' hslash⟩
        · next entries hget =>
          cases h
          exact ⟨rfl, rfl, hget, fun _ => rfl⟩
      · obtain ⟨-, hplace, hget, hslash⟩ := h
        cases hplace
        cases node with
        | file content =>
          have hslash' : ¬ p.endsInSlash = true := by
            intro hend
            cases hslash hend
          simp [hget, hslash']
        | directory entries => simp [hget]

/-- The relation by which all operations are specified, as a walk. -/
theorem leadsTo_iff : t.LeadsTo p q ↔ p.refusal? = none ∧ t.walk [] p.steps = .ok q ∧
    (p.endsInSlash = true → t.entryAt? q = some .directory) := by
  refine ⟨fun h => ?_, fun h => ?_⟩
  · obtain ⟨node, hnode⟩ := h
    obtain ⟨hrefusal, hwalk, hget, hslash⟩ := find_eq_ok_iff.mp hnode
    refine ⟨hrefusal, hwalk, fun hend => ?_⟩
    cases node with
    | file content => cases hslash hend
    | directory entries => exact entryAt?_eq_directory_iff.mpr ⟨entries, hget⟩
  · obtain ⟨hrefusal, hwalk, hslash⟩ := h
    have hentry : t.entryAt? q ≠ none := entryAt?_ne_none_of_walk hwalk (by simp)
    obtain ⟨node, hnode⟩ := Option.ne_none_iff_exists'.mp (mt entryAt?_eq_none_iff.mpr hentry)
    refine ⟨node, find_eq_ok_iff.mpr ⟨hrefusal, hwalk, hnode, fun hend => ?_⟩⟩
    obtain ⟨entries, hdirectory⟩ := entryAt?_eq_directory_iff.mp (hslash hend)
    rw [hnode] at hdirectory
    cases hdirectory
    rfl

/-- A path leads to one place at most. -/
theorem LeadsTo.unique (h : t.LeadsTo p q) (h' : t.LeadsTo p r) : q = r := by
  obtain ⟨node, hnode⟩ := h
  obtain ⟨node', hnode'⟩ := h'
  rw [hnode] at hnode'
  cases hnode'
  rfl

theorem find_eq_file_iff :
    t.find p = .ok (q, .file content) ↔ t.LeadsTo p q ∧ t.entryAt? q = some (.file content) := by
  rw [entryAt?_eq_file_iff]
  refine ⟨fun h => ⟨⟨_, h⟩, (find_eq_ok_iff.mp h).2.2.1⟩, fun h => ?_⟩
  obtain ⟨⟨node, hnode⟩, hget⟩ := h
  have hfound := (find_eq_ok_iff.mp hnode).2.2.1
  rw [hget] at hfound
  cases hfound
  exact hnode

theorem contains_iff : t.contains p = true ↔ ∃ q, t.LeadsTo p q := by
  unfold contains LeadsTo
  cases t.find p with
  | error e => simp
  | ok found =>
    obtain ⟨q, node⟩ := found
    simp

theorem isFile_iff :
    t.isFile p = true ↔ ∃ q content, t.LeadsTo p q ∧ t.entryAt? q = some (.file content) := by
  simp only [← find_eq_file_iff]
  unfold isFile
  split
  · next q content hfind => simp [hfind]
  · next hother =>
    refine ⟨fun h => (by cases h), fun h => ?_⟩
    obtain ⟨q, content, h⟩ := h
    exact absurd h (hother q content)

theorem isDirectory_iff :
    t.isDirectory p = true ↔ ∃ q, t.LeadsTo p q ∧ t.entryAt? q = some .directory := by
  unfold isDirectory LeadsTo
  cases hfind : t.find p with
  | error e => simp
  | ok found =>
    obtain ⟨q, node⟩ := found
    have hget := (find_eq_ok_iff.mp hfind).2.2.1
    cases node with
    | file content => simp [entryAt?, hget, Node.entry]
    | directory entries => simp [entryAt?, hget, Node.entry]

/-! ## The entry that a path names -/

/-- The last step of the path `p` names the entry `name` of the directory at `d`, whether or not it
is there. -/
structure Names (t : Tree) (p : Path) (d : Place) (name : String) : Prop where
  refusal : p.refusal? = none
  steps : ∃ above, p.steps = above ++ [.down name] ∧ t.walk [] above = .ok d
  directory : t.entryAt? d = some .directory
  short : isNameTooLong name = false

/-- A path names an entry to be made if its last step goes down from a directory to which the other
steps lead. -/
theorem findTarget_eq_entry_iff : t.findTarget p = .ok (.entry d name) ↔
    p.refusal? = none ∧ (∃ above, p.steps = above ++ [.down name] ∧ t.walk [] above = .ok d) ∧
      t.entryAt? d = some .directory := by
  unfold findTarget
  cases hrefusal : p.refusal? with
  | some e => simp
  | none =>
    rcases List.eq_nil_or_concat p.steps with hsteps | ⟨above, last, hsteps⟩
    · simp [hsteps]
    · rw [List.concat_eq_append] at hsteps
      simp only [hsteps, List.getLast?_concat, List.dropLast_concat, entryAt?_eq_directory_iff]
      cases hwalk : t.walk [] above with
      | error e =>
        refine ⟨fun h => (by cases h), fun h => ?_⟩
        obtain ⟨-, ⟨above', hsteps', hwalk'⟩, -⟩ := h
        rw [(List.append_inj' hsteps' rfl).1, hwalk'] at hwalk
        cases hwalk
      | ok parent =>
        refine ⟨fun h => ?_, fun h => ?_⟩
        · simp only at h
          split at h
          · cases h
          · cases h
          · next entries hget =>
            cases last with
            | stay => cases h
            | up => cases h
            | down name =>
              cases h
              exact ⟨trivial, ⟨above, rfl, hwalk⟩, entries, hget⟩
        · obtain ⟨-, ⟨above', hsteps', hwalk'⟩, entries, hget⟩ := h
          obtain ⟨rfl, hlast⟩ := List.append_inj' hsteps' rfl
          cases hlast
          rw [hwalk] at hwalk'
          cases hwalk'
          simp [hget]

/-- The operations that make an entry look it up as soon as they have its name; what they find is
what is at the place that the path names. -/
theorem findTarget_and_lookUp_iff {found : Option Node} :
    t.findTarget p = .ok (.entry d name) ∧ t.lookUp d name = .ok found ↔
      t.Names p d name ∧ t.get? (d ++ [name]) = found := by
  rw [findTarget_eq_entry_iff, lookUp_eq_ok_iff]
  refine ⟨fun ⟨⟨h1, h2, h3⟩, h4, h5⟩ => ⟨⟨h1, h2, h3, h4⟩, h5⟩, fun ⟨h, h5⟩ => ?_⟩
  exact ⟨⟨h.refusal, h.steps, h.directory⟩, h.short, h5⟩

/-- A file that a path leads to is one that the path names. -/
theorem names_of_leadsTo_file (h : t.LeadsTo p q) (hq : t.entryAt? q = some (.file content)) :
    p.endsInSlash = false ∧ ∃ d name, q = d ++ [name] ∧ t.Names p d name := by
  obtain ⟨hrefusal, hwalk, hslash⟩ := leadsTo_iff.mp h
  refine ⟨?_, ?_⟩
  · cases hend : p.endsInSlash with
    | false => rfl
    | true =>
      rw [hslash hend] at hq
      cases hq
  · rcases List.eq_nil_or_concat p.steps with hsteps | ⟨above, last, hsteps⟩
    · -- without a step the walk stays at the root
      rw [hsteps] at hwalk
      cases hwalk
      simp at hq
    · rw [hsteps, List.concat_eq_append] at hwalk
      obtain ⟨d, hd, hmove⟩ := walk_concat_eq_ok_iff.mp hwalk
      obtain ⟨name, rfl, rfl, hshort⟩ := hmove.eq_down_of_file hq
      exact ⟨d, name, rfl, hrefusal, ⟨above, by rw [hsteps, List.concat_eq_append], hd⟩,
        hmove.entryAt?_left, hshort⟩

/-! ## Operations -/

/-- A directory can be made exactly where the path names an entry that is not there. -/
theorem create_eq_ok_iff : t.create p = .ok t' ↔ ∃ d name, t.Names p d name ∧
    t.entryAt? (d ++ [name]) = none ∧ t' = t.put d name (.directory []) := by
  simp only [entryAt?_eq_none_iff]
  refine ⟨fun h => ?_, fun h => ?_⟩
  · unfold create at h
    split at h
    · cases h
    · cases h
    · next d name htarget =>
      split at h
      · cases h
      · cases h
      · next hfound =>
        cases h
        obtain ⟨hnames, hget⟩ := findTarget_and_lookUp_iff.mp ⟨htarget, hfound⟩
        exact ⟨d, name, hnames, hget, rfl⟩
  · obtain ⟨d, name, hnames, hget, rfl⟩ := h
    obtain ⟨htarget, hfound⟩ := findTarget_and_lookUp_iff.mpr ⟨hnames, hget⟩
    simp [create, htarget, hfound]

/-- A file can be opened where the path names a file, whose content is kept, or an entry that is not
there. -/
theorem openForWriting_eq_ok_iff : t.openForWriting p = .ok (d, name, content) ↔
    t.Names p d name ∧ p.endsInSlash = false ∧
      (t.entryAt? (d ++ [name]) = some (.file content) ∨
        t.entryAt? (d ++ [name]) = none ∧ content = []) := by
  simp only [entryAt?_eq_none_iff, entryAt?_eq_file_iff]
  refine ⟨fun h => ?_, fun h => ?_⟩
  · unfold openForWriting at h
    split at h
    · cases h
    · cases h
    · next htarget =>
      split at h
      · cases h
      · next hslash =>
        split at h
        · cases h
        · cases h
        · next hfound =>
          cases h
          obtain ⟨hnames, hget⟩ := findTarget_and_lookUp_iff.mp ⟨htarget, hfound⟩
          exact ⟨hnames, by simpa using hslash, .inl hget⟩
        · next hfound =>
          cases h
          obtain ⟨hnames, hget⟩ := findTarget_and_lookUp_iff.mp ⟨htarget, hfound⟩
          exact ⟨hnames, by simpa using hslash, .inr ⟨hget, rfl⟩⟩
  · obtain ⟨hnames, hslash, hold⟩ := h
    rcases hold with hget | ⟨hget, rfl⟩
    · obtain ⟨htarget, hfound⟩ := findTarget_and_lookUp_iff.mpr ⟨hnames, hget⟩
      simp [openForWriting, htarget, hfound, hslash]
    · obtain ⟨htarget, hfound⟩ := findTarget_and_lookUp_iff.mpr ⟨hnames, hget⟩
      simp [openForWriting, htarget, hfound, hslash]

/-- Writing succeeds where the path names anything but a directory, and puts the file there. -/
theorem write_eq_ok_iff : t.write p content = .ok t' ↔ p.endsInSlash = false ∧
    ∃ d name, t.Names p d name ∧ t.entryAt? (d ++ [name]) ≠ some .directory ∧
      t' = t.put d name (.file content) := by
  unfold write
  refine ⟨fun h => ?_, fun h => ?_⟩
  · split at h
    · cases h
    · next d name old hopen =>
      cases h
      obtain ⟨hnames, hslash, hold⟩ := openForWriting_eq_ok_iff.mp hopen
      refine ⟨hslash, d, name, hnames, ?_, rfl⟩
      rcases hold with hfile | ⟨hnone, -⟩
      · simp [hfile]
      · simp [hnone]
  · obtain ⟨hslash, d, name, hnames, hold, rfl⟩ := h
    have hopen : ∃ old, t.openForWriting p = .ok (d, name, old) := by
      cases hentry : t.entryAt? (d ++ [name]) with
      | none => exact ⟨[], openForWriting_eq_ok_iff.mpr ⟨hnames, hslash, .inr ⟨hentry, rfl⟩⟩⟩
      | some e =>
        cases e with
        | directory => exact absurd hentry hold
        | file old => exact ⟨old, openForWriting_eq_ok_iff.mpr ⟨hnames, hslash, .inl hentry⟩⟩
    obtain ⟨old, hopen⟩ := hopen
    simp [hopen]

/-- A file that a path leads to can be written. -/
theorem write_of_leadsTo_file {old : Bytes} (h : t.LeadsTo p q)
    (hq : t.entryAt? q = some (.file old)) (content : Bytes) :
    ∃ t', t.write p content = .ok t' := by
  obtain ⟨hslash, d, name, rfl, hnames⟩ := names_of_leadsTo_file h hq
  have hold : t.entryAt? (d ++ [name]) ≠ some .directory := by simp [hq]
  exact ⟨_, write_eq_ok_iff.mpr ⟨hslash, d, name, hnames, hold, rfl⟩⟩

end Tree

end LinkGate.Files
