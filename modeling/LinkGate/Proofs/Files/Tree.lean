import LinkGate.Files.Tree

/-!
# What is at a place

A directory of a tree holds all that is below it, so two trees that differ in one file differ in
every directory above that file too. `Tree.entryAt?` takes the depth away: it tells of a place
whether there is a file, with its content, or a directory, and nothing of what is in that directory.
Then putting a file or an empty directory changes one place only (`entryAt?_put`), and all that
later modules have to know of the shape of a tree is that an entry is in a directory
(`entryAt?_eq_directory_of_append`).
-/

namespace LinkGate.Files

/-- An entry by itself: a file with its content, or a directory without what is in it. -/
inductive Entry
  | file (content : Bytes)
  | directory
  deriving DecidableEq, Repr

def Entry.kind : Entry → Kind
  | file _ => .file
  | directory => .directory

theorem Entry.kind_eq_directory_iff {e : Entry} : e.kind = .directory ↔ e = .directory := by
  cases e <;> simp [Entry.kind]

/-- A node without what is below it. -/
def Node.entry : Node → Entry
  | file content => .file content
  | directory _ => .directory

variable {entries : Entries} {name : String} {node : Node} {place rest d q : Place} {t : Tree}

/-! ## Entries by name -/

theorem Entries.get?_cons (first : String) (kept : Node) (rest : Entries) (name : String) :
    Entries.get? ((first, kept) :: rest) name
      = if name = first then some kept else rest.get? name := by
  unfold Entries.get?
  rw [List.lookup_cons]
  by_cases h : name = first
  · rw [if_pos h, h, beq_self_eq_true]
  · rw [if_neg h, beq_false_of_ne h]

/-- Putting an entry changes what is under its name and nothing else. -/
theorem Entries.get?_put (entries : Entries) (name : String) (node : Node) (other : String) :
    (entries.put name node).get? other
      = if other = name then some node else entries.get? other := by
  induction entries with
  | nil =>
    rw [Entries.put, Entries.get?_cons]
  | cons entry rest ih =>
    obtain ⟨first, kept⟩ := entry
    rw [Entries.put]
    split
    · next hname =>
      subst hname
      rw [Entries.get?_cons, Entries.get?_cons]
      by_cases h : other = name <;> simp [h]
    · next hname =>
      rw [Entries.get?_cons, Entries.get?_cons, ih]
      by_cases h : other = first
      · have hne : first ≠ name := Ne.symm hname
        simp [h, hne]
      · simp [h]

/-! ## Below a node -/

def Node.get? (node : Node) : Place → Option Node
  | [] => some node
  | name :: rest =>
    match node with
    | file _ => none
    | directory entries => Tree.getFrom? entries (name :: rest)

@[simp] theorem Node.get?_nil (node : Node) : node.get? [] = some node := by
  cases node <;> rfl

@[simp] theorem Node.get?_file_cons {content : Bytes} :
    (Node.file content).get? (name :: rest) = none := rfl

@[simp] theorem Node.get?_directory : (Node.directory entries).get? place
    = Tree.getFrom? entries place := by
  cases place <;> rfl

namespace Tree

theorem getFrom?_cons : getFrom? entries (name :: rest)
    = (entries.get? name).bind (·.get? rest) := by
  cases rest with
  | nil =>
    rw [getFrom?]
    cases entries.get? name <;> simp
  | cons next rest =>
    rw [getFrom?]
    · cases entries.get? name with
      | none => rfl
      | some node => cases node <;> rfl
    · simp

/-- A place is looked up piece by piece: first the way to it, then the rest from the entry found
there. -/
theorem getFrom?_append : getFrom? entries (place ++ rest)
    = (getFrom? entries place).bind (·.get? rest) := by
  induction place generalizing entries with
  | nil => simp [getFrom?]
  | cons name place ih =>
    rw [List.cons_append, getFrom?_cons, getFrom?_cons]
    cases entries.get? name with
    | none => rfl
    | some node =>
      cases node with
      | file content => cases place <;> cases rest <;> simp
      | directory below => simp [ih]

/-! ## The entry at a place -/

def entryAt? (t : Tree) (place : Place) : Option Entry :=
  (t.get? place).map Node.entry

@[simp] theorem entryAt?_root (t : Tree) : t.entryAt? [] = some .directory := by
  simp [entryAt?, get?, getFrom?, Node.entry]

/-- What is at a place forgets only the entries of a directory, so it is missing with its node. -/
theorem entryAt?_eq_none_iff : t.entryAt? q = none ↔ t.get? q = none := by
  simp [entryAt?]

theorem entryAt?_eq_file_iff {content : Bytes} :
    t.entryAt? q = some (.file content) ↔ t.get? q = some (.file content) := by
  unfold entryAt?
  cases t.get? q with
  | none => simp
  | some node => cases node <;> simp [Node.entry]

theorem entryAt?_eq_directory_iff :
    t.entryAt? q = some .directory ↔ ∃ entries, t.get? q = some (.directory entries) := by
  unfold entryAt?
  cases t.get? q with
  | none => simp
  | some node => cases node <;> simp [Node.entry]

/-- What has an entry below it is a directory. -/
theorem entryAt?_eq_directory_of_append (h : t.entryAt? (place ++ name :: rest) ≠ none) :
    t.entryAt? place = some .directory := by
  rw [Ne, entryAt?_eq_none_iff, get?, getFrom?_append] at h
  rw [entryAt?_eq_directory_iff, get?]
  cases hnode : getFrom? t.entries place with
  | none => simp [hnode] at h
  | some node =>
    cases node with
    | file content => simp [hnode] at h
    | directory entries => exact ⟨entries, rfl⟩

/-- The place above a directory is a directory, and the root is above itself. -/
theorem entryAt?_dropLast (h : t.entryAt? place = some .directory) :
    t.entryAt? place.dropLast = some .directory := by
  rcases List.eq_nil_or_concat place with rfl | ⟨above, name, rfl⟩
  · exact h
  · rw [List.concat_eq_append, List.dropLast_concat]
    rw [List.concat_eq_append] at h
    have hbelow : t.entryAt? (above ++ name :: []) ≠ none := by
      rw [h]
      simp
    exact entryAt?_eq_directory_of_append hbelow

/-! ## Putting an entry -/

/-- What has a directory below it is a directory. -/
theorem exists_directory_of_getFrom?_cons {es : Entries}
    (h : getFrom? entries (name :: place) = some (.directory es)) :
    ∃ below, entries.get? name = some (.directory below) ∧
      getFrom? below place = some (.directory es) := by
  rw [getFrom?_cons] at h
  cases hget : entries.get? name with
  | none => simp [hget] at h
  | some kept =>
    cases kept with
    | file content => cases place <;> simp [hget] at h
    | directory below => exact ⟨below, rfl, by simpa [hget] using h⟩

/-- In the directory that gets the new entry nothing else changes. -/
theorem getFrom?_put (hold : ∀ es, entries.get? name ≠ some (.directory es))
    (hnode : ∀ first rest, node.get? (first :: rest) = none) :
    (getFrom? (entries.put name node) q).map Node.entry
      = if q = [name] then some node.entry else (getFrom? entries q).map Node.entry := by
  cases q with
  | nil => simp [getFrom?, Node.entry]
  | cons first rest =>
    rw [getFrom?_cons, getFrom?_cons, Entries.get?_put]
    by_cases hfirst : first = name
    · subst hfirst
      cases rest with
      | nil => simp
      | cons second rest =>
        -- nothing was below the old entry, and nothing is below the new one
        have hbelow : (entries.get? first).bind (·.get? (second :: rest)) = none := by
          cases hget : entries.get? first with
          | none => rfl
          | some kept =>
            cases kept with
            | file content => rfl
            | directory es => exact absurd hget (hold es)
        rw [hbelow]
        simp [hnode]
    · simp [hfirst]

/-- A directory that gets a new entry is still a directory, and all that is not below the new entry
is as before. -/
theorem getFrom?_changeFrom_put (hd : ∃ es, getFrom? entries d = some (.directory es))
    (hold : ∀ es, getFrom? entries (d ++ [name]) ≠ some (.directory es))
    (hnode : ∀ first rest, node.get? (first :: rest) = none) :
    (getFrom? (changeFrom (·.put name node) entries d) q).map Node.entry
      = if q = d ++ [name] then some node.entry else (getFrom? entries q).map Node.entry := by
  induction d generalizing entries q with
  | nil => exact getFrom?_put hold hnode
  | cons above d ih =>
    obtain ⟨es, hd⟩ := hd
    obtain ⟨below, hget, hdirectory⟩ := exists_directory_of_getFrom?_cons hd
    have hchange : changeFrom (·.put name node) entries (above :: d)
        = entries.put above (.directory (changeFrom (·.put name node) below d)) := by
      rw [changeFrom, hget]
    rw [hchange]
    cases q with
    | nil => simp [getFrom?, Node.entry]
    | cons first rest =>
      rw [getFrom?_cons, getFrom?_cons, Entries.get?_put]
      by_cases hfirst : first = above
      · subst hfirst
        have hold' : ∀ es', getFrom? below (d ++ [name]) ≠ some (.directory es') := by
          intro es' hes'
          refine hold es' ?_
          rw [List.cons_append, getFrom?_cons, hget]
          simpa using hes'
        have hbelow := ih (q := rest) ⟨es, hdirectory⟩ hold'
        simpa [hget] using hbelow
      · simp [hfirst]

/-- Putting a file or an empty directory where there is no directory changes that one place. -/
theorem entryAt?_put (hd : t.entryAt? d = some .directory)
    (hold : t.entryAt? (d ++ [name]) ≠ some .directory)
    (hnode : ∀ first rest, node.get? (first :: rest) = none) :
    (t.put d name node).entryAt? q = if q = d ++ [name] then some node.entry else t.entryAt? q := by
  refine getFrom?_changeFrom_put (entryAt?_eq_directory_iff.mp hd) ?_ hnode
  intro es hes
  exact hold (entryAt?_eq_directory_iff.mpr ⟨es, hes⟩)

/-- A file that is put into a directory is the one change, unless a directory had its name. -/
theorem entryAt?_put_file {content : Bytes} (hd : t.entryAt? d = some .directory)
    (hold : t.entryAt? (d ++ [name]) ≠ some .directory) :
    (t.put d name (.file content)).entryAt? q
      = if q = d ++ [name] then some (.file content) else t.entryAt? q :=
  entryAt?_put hd hold fun _ _ => rfl

/-- The same of a new directory, which is empty. -/
theorem entryAt?_put_directory (hd : t.entryAt? d = some .directory)
    (hold : t.entryAt? (d ++ [name]) = none) :
    (t.put d name (.directory [])).entryAt? q
      = if q = d ++ [name] then some .directory else t.entryAt? q :=
  entryAt?_put hd (by simp [hold]) fun first rest => by
    rw [Node.get?_directory, getFrom?_cons]
    rfl

end Tree

end LinkGate.Files
