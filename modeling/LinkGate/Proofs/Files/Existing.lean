import LinkGate.Proofs.Files.Growth

/-!
# Paths that lead somewhere already

Where a path leads to an entry, making that entry again fails or does nothing, and whatever stands
above it is there too. So a loader that finds a directory in the place of its file changes nothing.

* **`read_eq_ok_iff`**: what can be read is the content of the file that the path leads to.
* **`create_of_leadsTo`**: an entry that is there cannot be made.
* **`write_of_leadsTo_directory`**: a directory cannot be written.
* **`createAll_of_isDirectory`**: making a directory that is there succeeds and changes nothing.
* **`isDirectory_of_leadsTo`**: the path above a path that leads somewhere leads to a directory.
-/

namespace LinkGate.Files

/-! ## The text of the path above -/

theorem Path.trimReversed_suffix (r : List Char) : Path.trimReversed r <:+ r := by
  induction r with
  | nil => exact List.suffix_refl _
  | cons c r ih =>
    rw [Path.trimReversed]
    split
    · exact ih.trans (List.suffix_cons c r)
    · exact List.suffix_refl _

namespace Path

variable {p parent : Path}

/-- What stands above a path begins its text. -/
theorem text_prefix_of_parent? (h : p.parent? = some parent) :
    parent.text.toList <+: p.text.toList := by
  have hreversed : ∀ r : List Char,
      trimReversed ((trimReversed r).dropWhile (· ≠ '/')) <:+ r := by
    intro r
    have hdrop : (trimReversed r).dropWhile (· ≠ '/') <:+ trimReversed r := List.dropWhile_suffix _
    exact ((trimReversed_suffix _).trans hdrop).trans (trimReversed_suffix r)
  have hprefix := List.reverse_prefix.mpr (hreversed p.text.toList.reverse)
  rw [List.reverse_reverse] at hprefix
  unfold parent? at h
  split at h
  · cases h
  · cases h
  · cases h
    rw [String.toList_ofList]
    exact hprefix

/-- Joining a name only adds to the text of a path. -/
theorem text_prefix_join (p : Path) (name : String) :
    p.text.toList <+: (p.join name).text.toList := by
  unfold join
  split <;> simp [String.toList_append]

/-- A path whose text begins another one holds no character that the other does not hold. -/
theorem hasNul_of_prefix (h : parent.text.toList <+: p.text.toList) (hp : p.hasNul = false) :
    parent.hasNul = false := by
  have hnot : '\x00' ∉ p.text.toList := by simpa [hasNul] using hp
  have hparent : '\x00' ∉ parent.text.toList := fun hmem => hnot (h.subset hmem)
  simpa [hasNul] using hparent

/-- Nor is it longer. -/
theorem isTooLong_of_prefix (h : parent.text.toList <+: p.text.toList)
    (hp : p.isTooLong = false) : parent.isTooLong = false := by
  obtain ⟨rest, hrest⟩ := h
  have hlength : (Text.toBytes p.text).length
      = (Text.toBytes parent.text).length + (Text.Utf8.encode rest).length := by
    rw [Text.toBytes, Text.toBytes, ← hrest, Text.Utf8.encode_append, List.length_append]
  have hshort : (Text.toBytes p.text).length ≤ greatestSize := by simpa [isTooLong] using hp
  have hparent : (Text.toBytes parent.text).length ≤ greatestSize := by omega
  simpa [isTooLong] using hparent

/-- A path is refused for what is in its text, and a shorter text has no more of it. -/
theorem refusal?_of_prefix (h : parent.text.toList <+: p.text.toList) (hne : parent.text ≠ "")
    (hp : p.refusal? = none) : parent.refusal? = none := by
  have hparts : p.hasNul = false ∧ p.isTooLong = false := by
    unfold refusal? at hp
    split at hp
    · cases hp
    · next hnul =>
      split at hp
      · cases hp
      · split at hp
        · cases hp
        · next hlong => exact ⟨by simpa using hnul, by simpa using hlong⟩
  have hnul := hasNul_of_prefix h hparts.1
  have hlong := isTooLong_of_prefix h hparts.2
  unfold refusal?
  simp [hnul, hlong, hne]

end Path

namespace Tree

variable {t : Tree} {p parent : Path} {place q r d : Place} {name : String} {content : Bytes}
  {steps : List Step}

/-! ## Reading -/

def LeadsToFile (t : Tree) (p : Path) (content : Bytes) : Prop :=
  ∃ q, t.LeadsTo p q ∧ t.entryAt? q = some (.file content)

/-- Reading gives the content of the file to which the path leads, and succeeds only then. -/
theorem read_eq_ok_iff : t.read p = .ok content ↔ t.LeadsToFile p content := by
  unfold LeadsToFile
  simp only [← find_eq_file_iff]
  unfold read
  cases hfind : t.find p with
  | error cause => simp
  | ok found =>
    obtain ⟨q, node⟩ := found
    cases node <;> simp

/-- The test for a file is the test for something that can be read. -/
theorem isFile_iff_leadsToFile : t.isFile p = true ↔ ∃ content, t.LeadsToFile p content := by
  rw [isFile_iff, exists_comm]
  rfl

/-- A directory cannot be read, and the cause says so. -/
theorem read_of_isDirectory (h : t.isDirectory p = true) : t.read p = .error .isDirectory := by
  unfold isDirectory at h
  unfold read
  split at h
  · next hfind => rw [hfind]
  · cases h

/-- A path leads to nothing, to a file, or to a directory. -/
theorem isFile_or_isDirectory (h : t.contains p = true) :
    t.isFile p = true ∨ t.isDirectory p = true := by
  unfold contains at h
  unfold isFile isDirectory
  split at h
  · next found hfind =>
    obtain ⟨q, node⟩ := found
    rw [hfind]
    cases node with
    | file content => exact .inl rfl
    | directory entries => exact .inr rfl
  · cases h

/-- A path that leads to a file leads somewhere. -/
theorem contains_of_isFile (h : t.isFile p = true) : t.contains p = true := by
  obtain ⟨q, -, hleads, -⟩ := isFile_iff.mp h
  exact contains_iff.mpr ⟨q, hleads⟩

/-- A path that leads nowhere leads to no directory. -/
theorem isDirectory_of_not_contains (h : t.contains p = false) : t.isDirectory p = false := by
  unfold contains at h
  unfold isDirectory
  split at h
  · cases h
  · next hfind => rw [hfind]

/-- A directory is no file. -/
theorem isFile_of_isDirectory (h : t.isDirectory p = true) : t.isFile p = false := by
  unfold isDirectory at h
  unfold isFile
  split at h
  · next hfind => rw [hfind]
  · cases h

/-! ## Making what is there -/

/-- A path that leads to an entry names it, unless the last step does not go down. Then it leads to
a directory. -/
theorem findTarget_of_leadsTo (h : t.LeadsTo p q) :
    t.findTarget p = .ok .fixed ∧ t.entryAt? q = some .directory ∨
      ∃ d name, q = d ++ [name] ∧ t.findTarget p = .ok (.entry d name) ∧
        isNameTooLong name = false := by
  obtain ⟨hrefusal, hwalk, -⟩ := leadsTo_iff.mp h
  rcases List.eq_nil_or_concat p.steps with hsteps | ⟨above, last, hsteps⟩
  · -- without a step the walk stays at the root
    rw [hsteps] at hwalk
    cases hwalk
    refine .inl ⟨?_, entryAt?_root t⟩
    simp [findTarget, hrefusal, hsteps]
  · rw [List.concat_eq_append] at hsteps
    rw [hsteps] at hwalk
    obtain ⟨d, hd, hmove⟩ := walk_concat_eq_ok_iff.mp hwalk
    obtain ⟨entries, hget⟩ := entryAt?_eq_directory_iff.mp hmove.entryAt?_left
    have hlast : p.steps.getLast? = some last := by rw [hsteps, List.getLast?_concat]
    have habove : t.walk [] p.steps.dropLast = .ok d := by rw [hsteps, List.dropLast_concat, hd]
    cases hmove with
    | stay hr => exact .inl ⟨by simp only [findTarget, hrefusal, hlast, habove, hget], hr⟩
    | up hr =>
      refine .inl ⟨?_, entryAt?_dropLast hr⟩
      simp only [findTarget, hrefusal, hlast, habove, hget]
    | @down _ name hr hname hentry =>
      refine .inr ⟨d, name, rfl, ?_, hname⟩
      simp only [findTarget, hrefusal, hlast, habove, hget]

/-- Nothing is made where the path leads to an entry. -/
theorem create_of_leadsTo (h : t.LeadsTo p q) : t.create p = .error .alreadyExists := by
  have hentry : t.entryAt? q ≠ none :=
    entryAt?_ne_none_of_walk (leadsTo_iff.mp h).2.1 (by simp)
  rcases findTarget_of_leadsTo h with ⟨htarget, -⟩ | ⟨d, name, rfl, htarget, hname⟩
  · simp only [create, htarget]
  · obtain ⟨node, hnode⟩ := Option.ne_none_iff_exists'.mp (mt entryAt?_eq_none_iff.mpr hentry)
    simp only [create, htarget, lookUp_eq_ok_iff.mpr ⟨hname, hnode⟩]

/-- A directory is never overwritten. -/
theorem write_of_leadsTo_directory (h : t.LeadsTo p q) (hq : t.entryAt? q = some .directory)
    (content : Bytes) : t.write p content = .error .isDirectory := by
  have hopen : t.openForWriting p = .error .isDirectory := by
    rcases findTarget_of_leadsTo h with ⟨htarget, -⟩ | ⟨d, name, rfl, htarget, hname⟩
    · simp only [openForWriting, htarget]
    · obtain ⟨entries, hget⟩ := entryAt?_eq_directory_iff.mp hq
      simp only [openForWriting, htarget, lookUp_eq_ok_iff.mpr ⟨hname, hget⟩, ite_self]
  simp only [write, hopen]

/-- A directory that is there counts as made, and nothing above it is tried. -/
theorem createChain_of_isDirectory (h : t.isDirectory p = true) (above : List Path) :
    t.createChain (p :: above) = (t, .ok ()) := by
  obtain ⟨q, hleads, -⟩ := isDirectory_iff.mp h
  rw [createChain, create_of_leadsTo hleads]
  simp only [h, if_true, ite_self]

/-- The empty path stands for a directory that is there. -/
theorem createAll_of_empty (h : p.text = "") : t.createAll p = (t, .ok ()) := by
  unfold createAll Path.lineage Path.lineageUpTo createChain
  rw [if_pos (by simp [h])]

/-- Where the path leads to a directory the tree is left as it is. -/
theorem createAll_of_isDirectory (h : t.isDirectory p = true) : t.createAll p = (t, .ok ()) :=
  createChain_of_isDirectory h _

/-! ## What stands above -/

/-- A walk that ends in a directory goes through directories only. -/
theorem entryAt?_of_walk_directory (h : t.walk r steps = .ok q)
    (hq : t.entryAt? q = some .directory) : t.entryAt? r = some .directory := by
  cases steps with
  | nil =>
    cases h
    exact hq
  | cons s rest =>
    rw [walk] at h
    split at h
    · cases h
    · next next hstep => exact (step_eq_ok_iff.mp hstep).entryAt?_left

/-- The walk to what holds the last name of a path passes all that stands above. -/
theorem isDirectory_of_walk_dropLast (hparent : p.parent? = some parent) (hne : parent.text ≠ "")
    (hrefusal : p.refusal? = none) (hwalk : t.walk [] p.steps.dropLast = .ok d)
    (hd : t.entryAt? d = some .directory) : t.isDirectory parent = true := by
  obtain ⟨rest, hrest⟩ := Path.steps_prefix_dropLast_of_parent? hparent
  rw [← hrest] at hwalk
  obtain ⟨r, hr, hmore⟩ := walk_append_eq_ok_iff.mp hwalk
  have hdirectory := entryAt?_of_walk_directory hmore hd
  have hrefusal' : parent.refusal? = none :=
    Path.refusal?_of_prefix (Path.text_prefix_of_parent? hparent) hne hrefusal
  exact isDirectory_iff.mpr ⟨r, leadsTo_iff.mpr ⟨hrefusal', hr, fun _ => hdirectory⟩, hdirectory⟩

/-- A path leads somewhere only if its parent is a directory. -/
theorem isDirectory_of_leadsTo (hparent : p.parent? = some parent) (hne : parent.text ≠ "")
    (h : t.LeadsTo p q) : t.isDirectory parent = true := by
  obtain ⟨hrefusal, hwalk, -⟩ := leadsTo_iff.mp h
  rcases List.eq_nil_or_concat p.steps with hsteps | ⟨above, last, hsteps⟩
  · -- a path without a step has none above it
    have hlength := Path.length_steps_lt_of_parent? hparent
    rw [hsteps, List.length_nil] at hlength
    omega
  · rw [List.concat_eq_append] at hsteps
    rw [hsteps] at hwalk
    obtain ⟨d, hd, hmove⟩ := walk_concat_eq_ok_iff.mp hwalk
    apply isDirectory_of_walk_dropLast hparent hne hrefusal _ hmove.entryAt?_left
    rw [hsteps, List.dropLast_concat, hd]

/-- A path with one more name leads to an entry of the directory that it leads to without it. -/
theorem exists_of_leadsTo_join (hslash : '/' ∉ name.toList)
    (hname : stepOf? name.toList = some (.down name)) (hne : p.text ≠ "")
    (h : t.LeadsTo (p.join name) q) : ∃ d, q = d ++ [name] ∧ t.isDirectory p = true := by
  obtain ⟨hrefusal, hwalk, -⟩ := leadsTo_iff.mp h
  rw [Path.steps_join hslash hname] at hwalk
  obtain ⟨d, hd, hmove⟩ := walk_concat_eq_ok_iff.mp hwalk
  have hdirectory := hmove.entryAt?_left
  have hrefusal' : p.refusal? = none :=
    Path.refusal?_of_prefix (Path.text_prefix_join p name) hne hrefusal
  cases hmove with
  | down =>
    refine ⟨d, rfl, isDirectory_iff.mpr ⟨d, ?_, hdirectory⟩⟩
    exact leadsTo_iff.mpr ⟨hrefusal', hd, fun _ => hdirectory⟩

/-- What is not there has nothing below it. -/
theorem contains_of_parent? (hparent : p.parent? = some parent) (hne : parent.text ≠ "")
    (h : t.isDirectory parent = false) : t.contains p = false := by
  by_contra hcontains
  rw [Bool.not_eq_false] at hcontains
  obtain ⟨q, hleads⟩ := contains_iff.mp hcontains
  rw [isDirectory_of_leadsTo hparent hne hleads] at h
  cases h

/-- The same for a path that only names an entry. -/
theorem isDirectory_of_names (hparent : p.parent? = some parent) (hne : parent.text ≠ "")
    (h : t.Names p d name) : t.isDirectory parent = true := by
  obtain ⟨above, hsteps, hwalk⟩ := h.steps
  apply isDirectory_of_walk_dropLast hparent hne h.refusal _ h.directory
  rw [hsteps, List.dropLast_concat, hwalk]

end Tree

end LinkGate.Files
