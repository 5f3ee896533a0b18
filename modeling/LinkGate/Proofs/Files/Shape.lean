import LinkGate.Proofs.Files.Growth

/-!
# Trees of one shape

Two trees that have entries of the same kinds at the same places differ in the contents of their
files only (`SameShape`). Access by path does not look at contents, so it goes the same way in both:
a walk ends at the same place, an operation fails for the same cause or succeeds in both, and then
the trees after it have one shape again (`SameShape.create`, `SameShape.createAll`,
`SameShape.openForWriting`, `SameShape.write`).
-/

namespace LinkGate.Files

/-- Two results are the same error, or both are values and these are related. -/
inductive SameResult {ε α : Type} (related : α → α → Prop) : Except ε α → Except ε α → Prop
  | error (cause : ε) : SameResult related (.error cause) (.error cause)
  | ok {a a' : α} (h : related a a') : SameResult related (.ok a) (.ok a')

/-- What relates the values may be drawn from what the first result is. -/
theorem SameResult.imp {ε α : Type} {related related' : α → α → Prop} {result result' : Except ε α}
    (h : SameResult related result result')
    (himp : ∀ a a', result = .ok a → related a a' → related' a a') :
    SameResult related' result result' := by
  cases h with
  | error cause => exact .error cause
  | ok hrelated => exact .ok (himp _ _ rfl hrelated)

/-- Nothing is at two places, or a file at each, or a directory at each. -/
inductive SameKind : Option Node → Option Node → Prop
  | none : SameKind none none
  | file (content content' : Bytes) : SameKind (some (.file content)) (some (.file content'))
  | directory (entries entries' : Entries) :
    SameKind (some (.directory entries)) (some (.directory entries'))

namespace Tree

variable {t t' : Tree} {p : Path} {place q r d : Place} {s : Step} {steps : List Step}
  {name : String} {node node' : Node}

/-- The trees have the same places, and at each an entry of the same kind. -/
def SameShape (t t' : Tree) : Prop :=
  ∀ q, SameKind (t.get? q) (t'.get? q)

/-- Two results with the same value, in trees of one shape. -/
inductive SameOutcome {ρ : Type} : Tree × ρ → Tree × ρ → Prop
  | mk {t t' : Tree} {result : ρ} (h : SameShape t t') : SameOutcome (t, result) (t', result)

/-- Two files that are opened are at the same place, and may get any contents. -/
structure SameTarget (t t' : Tree) (target target' : Place × String × Bytes) : Prop where
  directory : target.1 = target'.1
  name : target.2.1 = target'.2.1
  put : ∀ content content', SameShape (t.put target.1 target.2.1 (.file content))
    (t'.put target'.1 target'.2.1 (.file content'))

/-- Having the same kind of entry, or none, is the same on entries with all that is in them and
without. -/
theorem sameKind_iff : SameKind (t.get? q) (t'.get? q) ↔
    (t.entryAt? q).map Entry.kind = (t'.entryAt? q).map Entry.kind := by
  rw [entryAt?, entryAt?]
  generalize t.get? q = found, t'.get? q = found'
  refine ⟨fun h => by cases h <;> rfl, fun h => ?_⟩
  cases found with
  | none =>
    cases found' with
    | none => exact .none
    | some node' => cases h
  | some node =>
    cases found' with
    | none => cases h
    | some node' =>
      cases node <;> cases node' <;> simp [Node.entry, Entry.kind] at h
      · exact .file _ _
      · exact .directory _ _

namespace SameShape

theorem directory (h : SameShape t t') (hq : t.entryAt? q = some .directory) :
    t'.entryAt? q = some .directory := by
  have hkind := sameKind_iff.mp (h q)
  rw [hq] at hkind
  obtain ⟨e, he, hdirectory⟩ := Option.map_eq_some_iff.mp hkind.symm
  rw [he, Entry.kind_eq_directory_iff.mp hdirectory]

/-- The relation goes both ways, so what it says of one tree it says of the other. -/
theorem symm (h : SameShape t t') : SameShape t' t :=
  fun q => sameKind_iff.mpr (sameKind_iff.mp (h q)).symm

/-- Putting entries of one kind at the same place keeps one shape. -/
theorem put (h : SameShape t t') (hd : t.entryAt? d = some .directory)
    (hold : t.entryAt? (d ++ [name]) ≠ some .directory) (hkind : node.entry.kind = node'.entry.kind)
    (hnode : ∀ first rest, node.get? (first :: rest) = none)
    (hnode' : ∀ first rest, node'.get? (first :: rest) = none) :
    SameShape (t.put d name node) (t'.put d name node') := by
  intro q
  have hold' : t'.entryAt? (d ++ [name]) ≠ some .directory := fun he => hold (h.symm.directory he)
  rw [sameKind_iff, entryAt?_put hd hold hnode, entryAt?_put (h.directory hd) hold' hnode']
  split
  · exact congrArg some hkind
  · exact sameKind_iff.mp (h q)

/-- A file may get any other content. -/
theorem of_put_file {old : Bytes} (hfile : t.entryAt? (d ++ [name]) = some (.file old))
    (content : Bytes) : SameShape t (t.put d name (.file content)) := by
  intro q
  have hentry : t.entryAt? (d ++ [name]) ≠ none := by simp [hfile]
  have hd : t.entryAt? d = some .directory := entryAt?_eq_directory_of_append hentry
  rw [sameKind_iff, entryAt?_put_file hd (by simp [hfile])]
  split
  · next hq =>
    rw [hq, hfile]
    rfl
  · rfl

/-! ## Walks -/

/-- A name is found in both trees or in neither. -/
theorem lookUp (h : SameShape t t') (d : Place) (name : String) :
    SameResult SameKind (t.lookUp d name) (t'.lookUp d name) := by
  unfold Tree.lookUp
  split
  · exact .error _
  · exact .ok (h _)

/-- A step depends on kinds only. -/
theorem step_eq (h : SameShape t t') : t.step r s = t'.step r s := by
  have hr := h r
  unfold step
  generalize t.get? r = node, t'.get? r = node' at hr
  cases hr with
  | none => rfl
  | file => rfl
  | directory =>
    cases s with
    | stay => rfl
    | up => rfl
    | down name =>
      have hname := h.lookUp r name
      simp only
      generalize t.lookUp r name = found, t'.lookUp r name = found' at hname
      cases hname with
      | error cause => rfl
      | ok hkind => cases hkind <;> rfl

/-- So does a walk. -/
theorem walk_eq (h : SameShape t t') : t.walk place steps = t'.walk place steps := by
  induction steps generalizing place with
  | nil => rfl
  | cons s steps ih =>
    rw [walk, walk, h.step_eq]
    cases t'.step place s with
    | error cause => rfl
    | ok next => exact ih

/-- A path finds entries of one kind at one place, or fails for the same cause. -/
theorem find (h : SameShape t t') :
    SameResult (fun found found' => found.1 = found'.1 ∧ SameKind (some found.2) (some found'.2))
      (t.find p) (t'.find p) := by
  unfold Tree.find
  rw [h.walk_eq]
  cases p.refusal? with
  | some cause => exact .error cause
  | none =>
    cases t'.walk [] p.steps with
    | error cause => exact .error cause
    | ok place =>
      have hplace := h place
      simp only
      generalize t.get? place = node, t'.get? place = node' at hplace
      cases hplace with
      | none => exact .error _
      | file =>
        simp only
        split
        · exact .error _
        · exact .ok ⟨rfl, .file _ _⟩
      | directory => exact .ok ⟨rfl, .directory _ _⟩

/-- A path leads to a file in both trees or in neither. -/
theorem isFile_eq (h : SameShape t t') : t.isFile p = t'.isFile p := by
  have hfind := h.find (p := p)
  unfold isFile
  generalize t.find p = found, t'.find p = found' at hfind
  cases hfind with
  | error cause => rfl
  | @ok a a' hsame =>
    obtain ⟨place, node⟩ := a
    obtain ⟨place', node'⟩ := a'
    cases hsame.2 <;> rfl

/-- The same for directories. -/
theorem isDirectory_eq (h : SameShape t t') : t.isDirectory p = t'.isDirectory p := by
  have hfind := h.find (p := p)
  unfold isDirectory
  generalize t.find p = found, t'.find p = found' at hfind
  cases hfind with
  | error cause => rfl
  | @ok a a' hsame =>
    obtain ⟨place, node⟩ := a
    obtain ⟨place', node'⟩ := a'
    cases hsame.2 <;> rfl

/-- A path names the same entry in both trees. -/
theorem findTarget_eq (h : SameShape t t') : t.findTarget p = t'.findTarget p := by
  unfold findTarget
  rw [h.walk_eq]
  cases p.refusal? with
  | some cause => rfl
  | none =>
    cases p.steps.getLast? with
    | none => rfl
    | some last =>
      cases t'.walk [] p.steps.dropLast with
      | error cause => rfl
      | ok parent =>
        have hparent := h parent
        simp only
        generalize t.get? parent = node, t'.get? parent = node' at hparent
        cases hparent <;> rfl

/-! ## Operations -/

/-- A directory can be made in both trees or in neither, and the shapes stay the same. -/
theorem create (h : SameShape t t') : SameResult SameShape (t.create p) (t'.create p) := by
  unfold Tree.create
  rw [← h.findTarget_eq]
  cases htarget : t.findTarget p with
  | error cause => exact .error cause
  | ok target =>
    cases target with
    | fixed => exact .error _
    | entry d name =>
      have hd := (findTarget_eq_entry_iff.mp htarget).2.2
      have hfound : SameResult (fun found found' => SameKind found found' ∧
          t.get? (d ++ [name]) = found) (t.lookUp d name) (t'.lookUp d name) :=
        (h.lookUp d name).imp fun _ _ hlookUp hkind => ⟨hkind, (lookUp_eq_ok_iff.mp hlookUp).2⟩
      simp only
      generalize t.lookUp d name = found, t'.lookUp d name = found' at hfound
      cases hfound with
      | error cause => exact .error cause
      | ok hboth =>
        obtain ⟨hkind, hget⟩ := hboth
        cases hkind with
        -- the name is free in both trees
        | none =>
          have hnone := entryAt?_eq_none_iff.mpr hget
          have hempty : ∀ first rest, (Node.directory []).get? (first :: rest) = none := by
            intro first rest
            rw [Node.get?_directory, getFrom?_cons]
            rfl
          exact .ok (h.put hd (by simp [hnone]) rfl hempty hempty)
        | file => exact .error _
        | directory => exact .error _

/-- Making a chain of directories fails for the same cause or succeeds in both. -/
theorem createChain (h : SameShape t t') (paths : List Path) :
    SameOutcome (t.createChain paths) (t'.createChain paths) := by
  induction paths generalizing t t' with
  | nil => exact .mk h
  | cons first paths ih =>
    have hfirst := h.create (p := first)
    rw [Tree.createChain, Tree.createChain, h.isDirectory_eq]
    split
    · exact .mk h
    · generalize t.create first = made, t'.create first = made' at hfirst
      cases hfirst with
      | ok hmade => exact .mk hmade
      | error cause =>
        cases cause with
        | notFound =>
          -- the directory above is made first, and then this one in what that gives
          have habove := ih h
          simp only
          generalize t.createChain paths = chain, t'.createChain paths = chain' at habove
          obtain @⟨made, made', result, habove⟩ := habove
          cases result with
          | error cause => exact .mk habove
          | ok _ =>
            have hsecond := habove.create (p := first)
            simp only
            rw [habove.isDirectory_eq]
            generalize made.create first = last, made'.create first = last' at hsecond
            cases hsecond with
            | error cause => exact .mk habove
            | ok hlast => exact .mk hlast
        | _ => exact .mk h

/-- So do the shapes when all directories above are made too, even if that fails. -/
theorem createAll (h : SameShape t t') : SameOutcome (t.createAll p) (t'.createAll p) :=
  h.createChain p.lineage

/-- A file is opened at one place in both trees; what it holds may differ. -/
theorem openForWriting (h : SameShape t t') :
    SameResult (SameTarget t t') (t.openForWriting p) (t'.openForWriting p) := by
  have hplaces : SameResult (fun target target' => target.1 = target'.1 ∧ target.2.1 = target'.2.1)
      (t.openForWriting p) (t'.openForWriting p) := by
    unfold Tree.openForWriting
    rw [h.findTarget_eq]
    cases t'.findTarget p with
    | error cause => exact .error cause
    | ok target =>
      cases target with
      | fixed => exact .error _
      | entry d name =>
        have hfound := h.lookUp d name
        simp only
        split
        · exact .error _
        · generalize t.lookUp d name = found, t'.lookUp d name = found' at hfound
          cases hfound with
          | error cause => exact .error cause
          | ok hkind =>
            cases hkind with
            | none => exact .ok ⟨rfl, rfl⟩
            | file => exact .ok ⟨rfl, rfl⟩
            | directory => exact .error _
  -- what is at the place of an opened file is no directory, so a file may be put there
  refine hplaces.imp ?_
  rintro ⟨d, name, old⟩ ⟨d', name', old'⟩ hopen ⟨hd, hname⟩
  cases hd
  cases hname
  have hnames : t.Names p d name := (openForWriting_eq_ok_iff.mp hopen).1
  have hwrites : Writes p (d ++ [name]) old t (t.put d name (.file old)) :=
    writes_of_openForWriting hopen
  exact ⟨rfl, rfl, fun _ _ =>
    h.put hnames.directory hwrites.not_directory rfl (fun _ _ => rfl) fun _ _ => rfl⟩

/-- Writing succeeds in both or in neither, whatever is written. -/
theorem write (h : SameShape t t') (content content' : Bytes) :
    SameResult SameShape (t.write p content) (t'.write p content') := by
  have hopened := h.openForWriting (p := p)
  unfold Tree.write
  generalize t.openForWriting p = opened, t'.openForWriting p = opened' at hopened
  cases hopened with
  | error cause => exact .error cause
  | ok hsame => exact .ok (hsame.put content content')

end SameShape

end Tree

end LinkGate.Files
