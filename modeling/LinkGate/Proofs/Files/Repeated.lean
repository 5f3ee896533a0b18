import LinkGate.Proofs.Files.Existing

/-!
# Directories that are made twice

To make a directory with all above it, the path is tried first, and while what stands above is
missing the paths above it are tried, the lowest first. Then the directories are made from the top
down. An attempt may fail on the way down, and then the directories above the one that failed are
left behind. None of them gives a second attempt a way that the first had not: the path that failed
stands above all that are still missing, and as long as it leads to no directory none of these can
be made. So the second attempt comes to the same path, fails there, and makes nothing
(`createChain_of_error`). One that succeeded finds its directory (`createChain_of_ok`).
-/

namespace LinkGate.Files

variable {p : Path}

/-- A path, the path above it, the one above that, and so on. -/
def IsLineage (paths : List Path) : Prop :=
  paths.IsChain fun p above => p.parent? = some above

/-- The paths above a path are such a list. -/
theorem isLineage_lineageUpTo (n : Nat) (p : Path) : IsLineage (Path.lineageUpTo n p) := by
  induction n generalizing p with
  | zero => exact .nil
  | succ n ih =>
    rw [Path.lineageUpTo]
    cases hparent : p.parent? with
    | none => exact .singleton p
    | some q =>
      have habove := ih q
      cases n with
      | zero => exact .singleton p
      | succ n =>
        show List.IsChain _ (p :: Path.lineageUpTo (n + 1) q)
        rw [Path.lineageUpTo] at habove ⊢
        exact .cons_cons hparent habove

namespace Tree

variable {t t' : Tree} {paths above : List Path} {cause : Failure} {q : Place}

/-! ## An attempt that succeeded -/

/-- What was made is there, so it is not made again. -/
theorem createChain_of_ok (h : t.createChain (p :: above) = (t', .ok ())) :
    t'.createChain (p :: above) = (t', .ok ()) := by
  by_cases hempty : p.text = ""
  · rw [createChain, if_pos (by simp [hempty])]
  · have hdirectory := isDirectory_of_createChain hempty (congrArg Prod.snd h)
    rw [h] at hdirectory
    exact createChain_of_isDirectory hdirectory above

/-- What was made is found by the second attempt. -/
theorem createAll_of_ok (h : t.createAll p = (t', .ok ())) : t'.createAll p = (t', .ok ()) :=
  createChain_of_ok h

/-! ## An attempt that failed -/

/-- How an attempt fails: at the path itself, before what stands above is tried; at a path above; or
at the path itself, once what stands above is there. -/
inductive ChainFails (t t' : Tree) (p : Path) (above : List Path) : Prop
  | here {cause : Failure} (hcreate : t.create p = .error cause) (hcause : cause ≠ .notFound)
    (hdirectory : t.isDirectory p = false) (htree : t' = t)
  | before {cause : Failure} (hcreate : t.create p = .error .notFound)
    (habove : t.createChain above = (t', .error cause))
  | after {cause : Failure} (hcreate : t'.create p = .error cause)
    (hdirectory : t'.isDirectory p = false) (habove : t.createChain above = (t', .ok ()))

/-- A failure has one of the two shapes of `ChainFails`, with the tree that it leaves. -/
theorem chainFails_of_createChain (h : t.createChain (p :: above) = (t', .error cause)) :
    p.text ≠ "" ∧ ChainFails t t' p above := by
  -- a directory that cannot be made may be there
  have hcheck : ∀ {made : Tree} {e : Failure},
      (made, if made.isDirectory p = true then Except.ok () else .error e)
        = (t', Except.error cause) → t' = made ∧ made.isDirectory p = false := by
    intro made e h
    cases hdirectory : made.isDirectory p with
    | true =>
      rw [hdirectory] at h
      cases h
    | false => exact ⟨(congrArg Prod.fst h).symm, rfl⟩
  rw [createChain] at h
  split at h
  · cases h
  · next hempty =>
    refine ⟨by simpa using hempty, ?_⟩
    cases hcreate : t.create p with
    | ok made =>
      rw [hcreate] at h
      cases h
    | error e =>
      rw [hcreate] at h
      by_cases he : e = .notFound
      · subst he
        cases habove : t.createChain above with
        | mk made result =>
          simp only [habove] at h
          cases result with
          | error e =>
            cases h
            exact .before hcreate habove
          | ok _ =>
            cases hagain : made.create p with
            | ok _ =>
              simp only [hagain] at h
              cases h
            | error e =>
              simp only [hagain] at h
              obtain ⟨rfl, hdirectory⟩ := hcheck h
              exact .after hagain hdirectory habove
      · have hhere : t' = t ∧ t.isDirectory p = false := by
          cases e with
          | notFound => exact absurd rfl he
          | _ => exact hcheck h
        exact .here hcreate he hhere.2 hhere.1

/-- A path cannot be made that leads to no directory and cannot be made by itself, as long as
trying what stands above makes nothing. -/
theorem createChain_eq_error (hne : p.text ≠ "") (hcreate : t.create p = .error cause)
    (hdirectory : t.isDirectory p = false)
    (habove : cause = .notFound → ∃ result, t.createChain above = (t, result)) :
    ∃ e, t.createChain (p :: above) = (t, .error e) := by
  rw [createChain, if_neg (by simpa using hne), hcreate]
  cases cause with
  | notFound =>
    obtain ⟨result, hresult⟩ := habove rfl
    cases result with
    | error e => exact ⟨e, by simp only [hresult]⟩
    | ok _ =>
      simp only [hresult, hcreate, hdirectory, Bool.false_eq_true, if_false]
      exact ⟨_, rfl⟩
  | _ =>
    simp only [hdirectory, Bool.false_eq_true, if_false]
    exact ⟨_, rfl⟩

/-- Where a directory above is missing, the path leads to none. -/
theorem isDirectory_of_create_eq_notFound (h : t.create p = .error .notFound) :
    t.isDirectory p = false := by
  by_contra hdirectory
  rw [Bool.not_eq_false] at hdirectory
  obtain ⟨q, hleads, -⟩ := isDirectory_iff.mp hdirectory
  rw [create_of_leadsTo hleads] at h
  cases h

/-- An attempt that failed left no directory at the path, and fails again without making any. -/
theorem createChain_of_error (hlineage : IsLineage (p :: above))
    (h : t.createChain (p :: above) = (t', .error cause)) :
    p.text ≠ "" ∧ t'.isDirectory p = false ∧
      ∃ e, t'.createChain (p :: above) = (t', .error e) := by
  induction above generalizing p cause with
  | nil =>
    obtain ⟨hne, hfails⟩ := chainFails_of_createChain h
    cases hfails with
    | here hcreate hcause hdirectory htree =>
      subst htree
      exact ⟨hne, hdirectory, _, h⟩
    | before hcreate habove =>
      cases habove
      exact ⟨hne, isDirectory_of_create_eq_notFound hcreate, _, h⟩
    | after _ _ habove => cases habove
  | cons parent above ih =>
    obtain ⟨hne, hfails⟩ := chainFails_of_createChain h
    refine ⟨hne, ?_⟩
    cases hfails with
    | here hcreate hcause hdirectory htree =>
      subst htree
      exact ⟨hdirectory, _, h⟩
    | before hcreate habove =>
      -- what failed is above, so nothing that goes through it is there or can be made
      obtain ⟨hparent, hrest⟩ := List.isChain_cons_cons.mp hlineage
      obtain ⟨hparentNe, hparentDirectory, e, hagain⟩ := ih hrest habove
      have hnowhere := contains_of_parent? hparent hparentNe hparentDirectory
      have hdirectory : t'.isDirectory p = false := isDirectory_of_not_contains hnowhere
      refine ⟨hdirectory, ?_⟩
      cases hcreate' : t'.create p with
      | ok made =>
        obtain ⟨d, name, hnames, -⟩ := create_eq_ok_iff.mp hcreate'
        rw [isDirectory_of_names hparent hparentNe hnames] at hparentDirectory
        cases hparentDirectory
      | error cause =>
        exact createChain_eq_error hne hcreate' hdirectory fun _ => ⟨_, hagain⟩
    | after hcreate hdirectory habove =>
      refine ⟨hdirectory, ?_⟩
      exact createChain_eq_error hne hcreate hdirectory fun _ => ⟨_, createChain_of_ok habove⟩

/-- A failed attempt leaves a tree in which the directory is still not there, and in which a second
attempt fails and changes nothing. -/
theorem createAll_of_error (h : t.createAll p = (t', .error cause)) :
    p.text ≠ "" ∧ t'.isDirectory p = false ∧ ∃ e, t'.createAll p = (t', .error e) :=
  createChain_of_error (isLineage_lineageUpTo (p.text.length + 1) p) h

end Tree

end LinkGate.Files
