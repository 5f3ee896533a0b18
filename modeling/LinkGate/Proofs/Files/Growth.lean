import LinkGate.Proofs.Files.Access

/-!
# Trees that grow

A walk depends only on which entries are there and of which kind. So a tree that `Extends` another
one, with all its entries in their kinds, has all its walks (`Extends.walk`), and a path that leads
somewhere still leads there.

Making a directory with all above it only adds directories, and each of them is on the way along the
path (`addsDirectories_createAll`). Writing a file changes one entry, to which the path leads then
(`Writes`).

A directory that is added can give a path a walk that it had not before, and with `..` that walk
may end at a file that was there all along. It cannot if every `..` of the path is taken from a
directory that was there before (`Extends.leadsTo_of_reachesUps`).
-/

namespace LinkGate.Files.Tree

variable {t t' t'' : Tree} {p : Path} {place start q r d : Place} {s : Step} {steps : List Step}
  {name : String} {content : Bytes}

/-! ## Trees with more entries -/

/-- Every entry of `t` is in `t'` too, with its kind. -/
def Extends (t t' : Tree) : Prop :=
  ∀ q e, t.entryAt? q = some e → ∃ e', t'.entryAt? q = some e' ∧ e'.kind = e.kind

/-- A tree has all its own entries. -/
theorem Extends.refl (t : Tree) : t.Extends t :=
  fun _ e h => ⟨e, h, rfl⟩

/-- Growing in two steps is growing. -/
theorem Extends.trans (h : t.Extends t') (h' : t'.Extends t'') : t.Extends t'' := by
  intro q e he
  obtain ⟨e', he', hkind⟩ := h q e he
  obtain ⟨e'', he'', hkind'⟩ := h' q e' he'
  exact ⟨e'', he'', hkind'.trans hkind⟩

/-- An entry that was there is still there. -/
theorem Extends.ne_none (h : t.Extends t') (hq : t.entryAt? q ≠ none) : t'.entryAt? q ≠ none := by
  obtain ⟨e, he⟩ := Option.ne_none_iff_exists'.mp hq
  obtain ⟨e', he', -⟩ := h q e he
  simp [he']

/-- A directory stays one. -/
theorem Extends.directory (h : t.Extends t') (hq : t.entryAt? q = some .directory) :
    t'.entryAt? q = some .directory := by
  obtain ⟨e', he', hkind⟩ := h q .directory hq
  rw [he', Entry.kind_eq_directory_iff.mp hkind]

/-- What is a directory now was one, if it was there at all. -/
theorem Extends.directory_of_ne_none (h : t.Extends t') (hq : t.entryAt? q ≠ none)
    (hq' : t'.entryAt? q = some .directory) : t.entryAt? q = some .directory := by
  obtain ⟨e, he⟩ := Option.ne_none_iff_exists'.mp hq
  obtain ⟨e', he', hkind⟩ := h q e he
  rw [hq'] at he'
  cases he'
  rw [he, Entry.kind_eq_directory_iff.mp hkind.symm]

/-- Each move of a walk only asks for entries and their kinds. -/
theorem Extends.move (h : t.Extends t') (hmove : t.Move s r q) : t'.Move s r q := by
  cases hmove with
  | stay hr => exact .stay (h.directory hr)
  | up hr => exact .up (h.directory hr)
  | down hr hname hentry => exact .down (h.directory hr) hname (h.ne_none hentry)

/-- So a walk through a tree is a walk through any tree that it grows into. The induction is on the
steps from the end. -/
theorem Extends.walk (h : t.Extends t') (hwalk : t.walk start steps = .ok q) :
    t'.walk start steps = .ok q := by
  induction steps using List.reverseRecOn generalizing q with
  | nil => exact hwalk
  | append_singleton steps s ih =>
    obtain ⟨r, hr, hmove⟩ := walk_concat_eq_ok_iff.mp hwalk
    exact walk_concat_eq_ok_iff.mpr ⟨r, ih hr, h.move hmove⟩

/-- A path leads where it led before. -/
theorem Extends.leadsTo (h : t.Extends t') (hp : t.LeadsTo p q) : t'.LeadsTo p q := by
  obtain ⟨hrefusal, hwalk, hslash⟩ := leadsTo_iff.mp hp
  exact leadsTo_iff.mpr ⟨hrefusal, h.walk hwalk, fun hend => h.directory (hslash hend)⟩

/-- A path names the entry that it named before. -/
theorem Extends.names (h : t.Extends t') (hnames : t.Names p d name) : t'.Names p d name := by
  obtain ⟨above, hsteps, hwalk⟩ := hnames.steps
  exact ⟨hnames.refusal, ⟨above, hsteps, h.walk hwalk⟩, h.directory hnames.directory, hnames.short⟩

/-- A path leads to the entry that it names as soon as the entry is there. -/
theorem Names.leadsTo (h : t.Names p d name) (hext : t.Extends t')
    (hentry : t'.entryAt? (d ++ [name]) ≠ none)
    (hslash : p.endsInSlash = true → t'.entryAt? (d ++ [name]) = some .directory) :
    t'.LeadsTo p (d ++ [name]) := by
  obtain ⟨above, hsteps, hwalk⟩ := h.steps
  refine leadsTo_iff.mpr ⟨h.refusal, ?_, hslash⟩
  rw [hsteps]
  exact walk_concat_eq_ok_iff.mpr
    ⟨d, hext.walk hwalk, .down (hext.directory h.directory) h.short hentry⟩

/-! ## Making directories -/

/-- The place `q` is passed by the walk along the path `p`. -/
def OnTheWay (t : Tree) (p : Path) (q : Place) : Prop :=
  ∃ passed, passed <+: p.steps ∧ t.walk [] passed = .ok q

/-- What was on the way along a path is on it still. -/
theorem Extends.onTheWay (h : t.Extends t') (hq : t.OnTheWay p q) : t'.OnTheWay p q := by
  obtain ⟨passed, hpassed, hwalk⟩ := hq
  exact ⟨passed, hpassed, h.walk hwalk⟩

/-- `t'` is `t` but for new directories, all of them on the way along the path `p`. -/
def AddsDirectories (p : Path) (t t' : Tree) : Prop :=
  ∀ q, t'.entryAt? q = t.entryAt? q ∨
    t.entryAt? q = none ∧ t'.entryAt? q = some .directory ∧ t'.OnTheWay p q

/-- Adding nothing is a case of it. -/
theorem AddsDirectories.refl (p : Path) (t : Tree) : AddsDirectories p t t :=
  fun _ => .inl rfl

/-- All entries are kept as they are, files with their content. -/
theorem AddsDirectories.kept {e : Entry} (h : AddsDirectories p t t') (hq : t.entryAt? q = some e) :
    t'.entryAt? q = some e := by
  rcases h q with hsame | ⟨hnone, -, -⟩
  · rw [hsame, hq]
  · rw [hnone] at hq
    cases hq

/-- The tree only grows. -/
theorem AddsDirectories.extends (h : AddsDirectories p t t') : t.Extends t' :=
  fun _ e he => ⟨e, h.kept he, rfl⟩

/-- A new entry is a directory on the way. -/
theorem AddsDirectories.new {e : Entry} (h : AddsDirectories p t t') (hq : t.entryAt? q = none)
    (he : t'.entryAt? q = some e) : e = .directory ∧ t'.OnTheWay p q := by
  rcases h q with hsame | ⟨-, hdirectory, hway⟩
  · rw [hsame, hq] at he
    cases he
  · rw [hdirectory] at he
    cases he
    exact ⟨rfl, hway⟩

/-- The files are the same as before. -/
theorem AddsDirectories.entryAt?_eq_file_iff (h : AddsDirectories p t t') :
    t'.entryAt? q = some (.file content) ↔ t.entryAt? q = some (.file content) := by
  refine ⟨fun hfile => ?_, h.kept⟩
  rcases h q with hsame | ⟨-, hdirectory, -⟩
  · rw [← hsame, hfile]
  · rw [hdirectory] at hfile
    cases hfile

/-- Directories on the way may be added one after another. -/
theorem AddsDirectories.trans (h : AddsDirectories p t t') (h' : AddsDirectories p t' t'') :
    AddsDirectories p t t'' := by
  intro q
  rcases h' q with hsame' | ⟨hnone', hdirectory', hway'⟩
  · rcases h q with hsame | ⟨hnone, hdirectory, hway⟩
    · exact .inl (hsame'.trans hsame)
    · exact .inr ⟨hnone, hsame'.trans hdirectory, h'.extends.onTheWay hway⟩
  · rcases h q with hsame | ⟨-, hdirectory, -⟩
    · exact .inr ⟨hsame.symm.trans hnone', hdirectory', hway'⟩
    · rw [hdirectory] at hnone'
      cases hnone'

/-- What is on the way along the beginning of a path is on the way along the path. -/
theorem AddsDirectories.along {above : Path} (h : AddsDirectories above t t')
    (hsteps : above.steps <+: p.steps) : AddsDirectories p t t' := by
  intro q
  refine (h q).imp_right fun ⟨hnone, hdirectory, passed, hpassed, hwalk⟩ => ?_
  exact ⟨hnone, hdirectory, passed, hpassed.trans hsteps, hwalk⟩

/-- Making one directory adds it and nothing else, and the path leads to it then. -/
theorem addsDirectories_create (h : t.create p = .ok t') :
    AddsDirectories p t t' ∧ t'.isDirectory p = true := by
  obtain ⟨d, name, hnames, hnone, rfl⟩ := create_eq_ok_iff.mp h
  have hput := fun r => entryAt?_put_directory (q := r) hnames.directory hnone
  have hext : t.Extends (t.put d name (.directory [])) := by
    intro q e he
    refine ⟨e, ?_, rfl⟩
    rw [hput, if_neg, he]
    intro hq
    rw [hq, hnone] at he
    cases he
  have hnew : (t.put d name (.directory [])).entryAt? (d ++ [name]) = some .directory := by
    rw [hput, if_pos rfl]
  have hleads := hnames.leadsTo hext (by simp [hnew]) fun _ => hnew
  refine ⟨fun q => ?_, isDirectory_iff.mpr ⟨_, hleads, hnew⟩⟩
  by_cases hq : q = d ++ [name]
  · refine .inr ⟨hq ▸ hnone, hq ▸ hnew, p.steps, List.prefix_refl _, ?_⟩
    rw [hq]
    exact (leadsTo_iff.mp hleads).2.1
  · exact .inl (by rw [hput, if_neg hq])

/-- Making the directories of a list adds directories on the way along a path below all of them,
whether or not it succeeds. -/
theorem addsDirectories_createChain {paths : List Path}
    (hpaths : ∀ above ∈ paths, above.steps <+: p.steps) :
    AddsDirectories p t (t.createChain paths).1 := by
  induction paths generalizing t with
  | nil => exact .refl p t
  | cons first paths ih =>
    obtain ⟨hfirst, hpaths⟩ := List.forall_mem_cons.mp hpaths
    have habove := ih (t := t) hpaths
    unfold createChain
    split
    · exact .refl p t
    · split
      · next t' hcreate => exact (addsDirectories_create hcreate).1.along hfirst
      · -- the directory above was missing
        cases hchain : createChain t paths with
        | mk t' result =>
          rw [hchain] at habove
          cases result with
          | error e => exact habove
          | ok _ =>
            simp only
            split
            · next t'' hcreate =>
              exact habove.trans ((addsDirectories_create hcreate).1.along hfirst)
            · exact habove
      · exact .refl p t

/-- Making a directory with all above it adds nothing but directories on the way, even if it fails
halfway. -/
theorem addsDirectories_createAll : AddsDirectories p t (t.createAll p).1 :=
  addsDirectories_createChain fun _ habove => Path.steps_prefix_of_mem_lineage habove

/-- Making a directory succeeds only if it is there in the end. -/
theorem isDirectory_of_createChain {above : List Path} (hp : p.text ≠ "")
    (h : (t.createChain (p :: above)).2 = .ok ()) :
    (t.createChain (p :: above)).1.isDirectory p = true := by
  have hcheck : ∀ (t : Tree) (e : Failure),
      (if t.isDirectory p then Except.ok () else Except.error e) = .ok () →
        t.isDirectory p = true := by
    intro t e h
    split at h
    · assumption
    · cases h
  revert h
  unfold createChain
  rw [if_neg (by simpa using hp)]
  split
  · next hcreate => exact fun _ => (addsDirectories_create hcreate).2
  · split
    · exact fun h => (by cases h)
    · split
      · next hcreate => exact fun _ => (addsDirectories_create hcreate).2
      · exact hcheck _ _
  · exact hcheck _ _

/-- If it succeeds the path leads to a directory. -/
theorem isDirectory_of_createAll (hp : p.text ≠ "") (h : (t.createAll p).2 = .ok ()) :
    (t.createAll p).1.isDirectory p = true :=
  isDirectory_of_createChain hp h

/-! ## Writing a file -/

/-- `t'` is `t` but for the file at the place `q`, which the path `p` names. -/
structure Writes (p : Path) (q : Place) (content : Bytes) (t t' : Tree) : Prop where
  named : ∃ d name, q = d ++ [name] ∧ t.Names p d name
  slash : p.endsInSlash = false
  not_directory : t.entryAt? q ≠ some .directory
  entryAt?_eq : ∀ r, t'.entryAt? r = if r = q then some (.file content) else t.entryAt? r

/-- Putting a file where the path names an entry changes that one file. -/
theorem writes_put (hnames : t.Names p d name) (hslash : p.endsInSlash = false)
    (hold : t.entryAt? (d ++ [name]) ≠ some .directory) :
    Writes p (d ++ [name]) content t (t.put d name (.file content)) :=
  ⟨⟨d, name, rfl, hnames⟩, hslash, hold, fun _ => entryAt?_put_file hnames.directory hold⟩

/-- Opening a file for writing and putting any content there is such a change. -/
theorem writes_of_openForWriting {old : Bytes} (h : t.openForWriting p = .ok (d, name, old)) :
    Writes p (d ++ [name]) content t (t.put d name (.file content)) := by
  obtain ⟨hnames, hslash, hold⟩ := openForWriting_eq_ok_iff.mp h
  refine writes_put hnames hslash ?_
  rcases hold with hfile | ⟨hnone, -⟩
  · simp [hfile]
  · simp [hnone]

/-- Writing a file loses no entry. -/
theorem Writes.extends (h : Writes p q content t t') : t.Extends t' := by
  intro r e he
  by_cases hr : r = q
  · subst hr
    cases e with
    | directory => exact absurd he h.not_directory
    | file old => exact ⟨.file content, by rw [h.entryAt?_eq, if_pos rfl], rfl⟩
  · exact ⟨e, by rw [h.entryAt?_eq, if_neg hr, he], rfl⟩

/-- The path leads to the file that was written, in every later tree that has it. -/
theorem Writes.leadsTo_of_extends (h : Writes p q content t t') (hext : t.Extends t'')
    (hq : t''.entryAt? q ≠ none) : t''.LeadsTo p q := by
  obtain ⟨d, name, rfl, hnames⟩ := h.named
  refine hnames.leadsTo hext hq fun hend => ?_
  rw [h.slash] at hend
  cases hend

/-- It leads there right after writing. -/
theorem Writes.leadsTo (h : Writes p q content t t') : t'.LeadsTo p q := by
  refine h.leadsTo_of_extends h.extends ?_
  rw [h.entryAt?_eq, if_pos rfl]
  simp

/-! ## Walks that were there before -/

/-- Every `..` of the path `p` is taken from a directory of the tree `t`. -/
def ReachesUps (t : Tree) (p : Path) : Prop :=
  ∀ before after, p.steps = before ++ .up :: after → ∃ q, t.walk [] before = .ok q

/-- No `..` of a path comes after a directory that the path without its last name leads to. -/
theorem reachesUps_join (h : t.isDirectory p = true) (hslash : '/' ∉ name.toList)
    (hname : stepOf? name.toList = some (.down name)) : t.ReachesUps (p.join name) := by
  obtain ⟨q, hleads, -⟩ := isDirectory_iff.mp h
  intro before after hsteps
  rw [Path.steps_join hslash hname] at hsteps
  rcases List.eq_nil_or_concat after with rfl | ⟨after, last, rfl⟩
  · cases (List.append_inj' hsteps rfl).2
  · rw [List.concat_eq_append, ← List.cons_append, ← List.append_assoc] at hsteps
    have hwalk := (leadsTo_iff.mp hleads).2.1
    rw [(List.append_inj' hsteps rfl).1] at hwalk
    obtain ⟨r, hr, -⟩ := walk_append_eq_ok_iff.mp hwalk
    exact ⟨r, hr⟩

/-- A walk through the grown tree to an entry that is old was there before, if each `..` on it is
taken from a directory that is old. -/
theorem Extends.walk_of_walk (h : t.Extends t')
    (hups : ∀ before after, steps = before ++ .up :: after → ∃ q, t.walk [] before = .ok q)
    (hwalk : t'.walk [] steps = .ok q) (hq : t.entryAt? q ≠ none) : t.walk [] steps = .ok q := by
  induction steps using List.reverseRecOn generalizing q with
  | nil => exact hwalk
  | append_singleton steps s ih =>
    obtain ⟨r, hr, hmove⟩ := walk_concat_eq_ok_iff.mp hwalk
    have hups' : ∀ before after, steps = before ++ .up :: after →
        ∃ q, t.walk [] before = .ok q := by
      intro before after hsteps
      exact hups before (after ++ [s]) (by rw [hsteps, List.append_assoc, List.cons_append])
    rw [walk_concat_eq_ok_iff]
    cases hmove with
    | stay hr' => exact ⟨q, ih hups' hr hq, .stay (h.directory_of_ne_none hq hr')⟩
    | down hr' hname _ =>
      -- the entry is in a directory, which therefore was there before too
      have hdirectory : t.entryAt? r = some .directory := entryAt?_eq_directory_of_append hq
      exact ⟨r, ih hups' hr (by simp [hdirectory]), .down hdirectory hname hq⟩
    | up hr' =>
      -- the walk to the `..` is one of `t`, so it is the same walk
      obtain ⟨r', hbefore⟩ := hups steps [] rfl
      have hsame := h.walk hbefore
      rw [hr] at hsame
      cases hsame
      have hentry : t.entryAt? r ≠ none := entryAt?_ne_none_of_walk hbefore (by simp)
      exact ⟨r, hbefore, .up (h.directory_of_ne_none hentry hr')⟩

/-- So no path is led to an old file by directories that are new, if all its `..` are reached
without them. -/
theorem Extends.leadsTo_of_reachesUps (h : t.Extends t') (hups : t.ReachesUps p)
    (hp : t'.LeadsTo p q) (hq : t.entryAt? q ≠ none) : t.LeadsTo p q := by
  obtain ⟨hrefusal, hwalk, hslash⟩ := leadsTo_iff.mp hp
  exact leadsTo_iff.mpr ⟨hrefusal, h.walk_of_walk hups hwalk hq,
    fun hend => h.directory_of_ne_none hq (hslash hend)⟩

end LinkGate.Files.Tree
