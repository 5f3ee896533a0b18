import LinkGate.Files.Path
import LinkGate.Proofs.Text.Run

/-!
# The steps of a path and of the paths above it

The path above a path is found in its text, from the end: slashes and names `.` are taken off, then
a name, then slashes and names `.` again. A walk goes by steps. Here the text and the steps are
brought together: a slash parts the steps (`stepsOf_append_slash`), so whatever is taken off the end
of a text takes steps off the end of the walk, and the steps of all paths above a path begin the
walk along it (`steps_prefix_of_mem_lineage`). A name is taken off at each turn, so the last step of
a path is none of them (`steps_prefix_dropLast_of_parent?`).
-/

namespace LinkGate.Files

variable {a b s : List Char} {name : String} {p q : Path}

/-! ## Slashes -/

def stepsOf (s : List Char) : List Step :=
  (s.splitOn '/').filterMap stepOf?

theorem Path.steps_eq (p : Path) : p.steps = stepsOf p.text.toList := rfl

@[simp] theorem stepsOf_nil : stepsOf [] = [] := rfl

/-- A slash parts the steps, so a walk along the whole is a walk along each part in turn. -/
theorem stepsOf_append_slash (a b : List Char) :
    stepsOf (a ++ '/' :: b) = stepsOf a ++ stepsOf b := by
  unfold stepsOf
  rw [List.splitOn_append_cons_self, List.filterMap_append]

/-- Without a slash there is one step at most. -/
theorem stepsOf_of_not_mem (hs : '/' ∉ s) : stepsOf s = (stepOf? s).toList := by
  unfold stepsOf
  rw [List.splitOn_eq_singleton hs, List.filterMap_cons]
  cases stepOf? s <;> rfl

/-- A slash at the end adds no step. -/
theorem stepsOf_concat_slash (a : List Char) : stepsOf (a ++ ['/']) = stepsOf a := by
  rw [stepsOf_append_slash, stepsOf_nil, List.append_nil]

/-! ## Paths above a path -/

/-- Trimming takes steps that stay off the end, if any. -/
theorem stepsOf_trimReversed (r : List Char) :
    stepsOf (Path.trimReversed r).reverse <+: stepsOf r.reverse := by
  induction r with
  | nil => exact List.prefix_refl _
  | cons c r ih =>
    rw [Path.trimReversed]
    split
    · next hc =>
      rcases hc with ⟨hc, -⟩ | ⟨hc, hslash⟩
      · have hsame : stepsOf (c :: r).reverse = stepsOf r.reverse := by
          rw [List.reverse_cons, hc, stepsOf_concat_slash]
        rw [hsame]
        exact ih
      · refine ih.trans ?_
        rw [List.reverse_cons]
        obtain ⟨r', rfl⟩ := List.head?_eq_some_iff.mp hslash
        rw [List.reverse_cons, stepsOf_concat_slash, List.append_assoc, List.singleton_append,
          stepsOf_append_slash]
        exact List.prefix_append _ _
    · exact List.prefix_refl _

/-- So does taking off all that follows the last slash. -/
theorem stepsOf_dropWhile_ne_slash (r : List Char) :
    stepsOf (r.dropWhile (· ≠ '/')).reverse <+: stepsOf r.reverse := by
  have hr := List.takeWhile_append_dropWhile (p := (· ≠ '/')) (l := r)
  cases h : r.dropWhile (· ≠ '/') with
  | nil => exact List.nil_prefix
  | cons c above =>
    have hc : c = '/' := by
      have hhead := List.head?_dropWhile_not (· ≠ '/') r
      rw [h] at hhead
      simpa using hhead
    rw [h, hc] at hr
    rw [hc, ← hr, List.reverse_append, List.reverse_cons, stepsOf_concat_slash,
      List.append_assoc, List.singleton_append, stepsOf_append_slash]
    exact List.prefix_append _ _

/-- The walk to the parent is the beginning of the walk to the path. -/
theorem Path.steps_prefix_of_parent? (h : p.parent? = some q) : q.steps <+: p.steps := by
  have htrim := stepsOf_trimReversed p.text.toList.reverse
  rw [List.reverse_reverse] at htrim
  unfold Path.parent? at h
  split at h
  · cases h
  · cases h
  · cases h
    rw [Path.steps_eq, Path.steps_eq, String.toList_ofList]
    exact (stepsOf_trimReversed _).trans ((stepsOf_dropWhile_ne_slash _).trans htrim)

/-- What is left after trimming ends in no slash, unless it is the root's. -/
theorem trimReversed_eq_cons {r : List Char} {c : Char} (h : Path.trimReversed r = c :: s)
    (hroot : c :: s ≠ ['/']) : c ≠ '/' := by
  induction r with
  | nil => cases h
  | cons d r ih =>
    rw [Path.trimReversed] at h
    split at h
    · exact ih h
    · next hkept =>
      cases h
      rintro rfl
      exact hkept (.inl ⟨rfl, fun hnil => hroot (by rw [hnil])⟩)

/-- A name that is taken off the end was a step. -/
theorem length_stepsOf_dropWhile_ne_slash {c : Char} (hc : c ≠ '/') (r : List Char) :
    (stepsOf ((c :: r).dropWhile (· ≠ '/')).reverse).length
      < (stepsOf (c :: r).reverse).length := by
  have hr := List.takeWhile_append_dropWhile (p := (· ≠ '/')) (l := c :: r)
  -- the name is not empty, so it is one step
  have hname : (stepsOf ((c :: r).takeWhile (· ≠ '/')).reverse).length = 1 := by
    have hslash : '/' ∉ ((c :: r).takeWhile (· ≠ '/')).reverse := by
      rw [List.mem_reverse]
      exact fun hmem => by simpa using List.mem_takeWhile_imp hmem
    have hne : ((c :: r).takeWhile (· ≠ '/')).reverse ≠ [] := by simp [hc]
    rw [stepsOf_of_not_mem hslash, stepOf?, if_neg (by simpa using hne)]
    split
    · rfl
    · split <;> rfl
  cases h : (c :: r).dropWhile (· ≠ '/') with
  | nil =>
    rw [h, List.append_nil] at hr
    rw [hr] at hname
    show 0 < _
    omega
  | cons d above =>
    have hd : d = '/' := by
      have hhead := List.head?_dropWhile_not (· ≠ '/') (c :: r)
      rw [h] at hhead
      simpa using hhead
    rw [h, hd] at hr
    rw [hd, ← hr, List.reverse_append, List.reverse_cons, stepsOf_concat_slash,
      List.append_assoc, List.singleton_append, stepsOf_append_slash, List.length_append, hname]
    omega

/-- It is shorter, because the last name is taken off. -/
theorem Path.length_steps_lt_of_parent? (h : p.parent? = some q) :
    q.steps.length < p.steps.length := by
  have htrim := (stepsOf_trimReversed p.text.toList.reverse).length_le
  rw [List.reverse_reverse] at htrim
  unfold Path.parent? at h
  split at h
  · cases h
  · cases h
  · next hnil hroot =>
    cases h
    rw [Path.steps_eq, Path.steps_eq, String.toList_ofList]
    cases hrest : Path.trimReversed p.text.toList.reverse with
    | nil => exact absurd hrest hnil
    | cons c r =>
      rw [hrest] at htrim hroot
      have hname := length_stepsOf_dropWhile_ne_slash (trimReversed_eq_cons hrest hroot) r
      have habove := (stepsOf_trimReversed ((c :: r).dropWhile (· ≠ '/'))).length_le
      omega

/-- The steps of the path above are among those before the last. -/
theorem Path.steps_prefix_dropLast_of_parent? (h : p.parent? = some q) :
    q.steps <+: p.steps.dropLast := by
  have hlength := Path.length_steps_lt_of_parent? h
  apply List.prefix_of_prefix_length_le (Path.steps_prefix_of_parent? h) (List.dropLast_prefix _)
  rw [List.length_dropLast]
  omega

/-- So is the walk to any path above. -/
theorem Path.steps_prefix_of_mem_lineageUpTo {n : Nat} (h : q ∈ Path.lineageUpTo n p) :
    q.steps <+: p.steps := by
  induction n generalizing p with
  | zero => cases h
  | succ n ih =>
    rw [Path.lineageUpTo] at h
    rcases List.mem_cons.mp h with rfl | habove
    · exact List.prefix_refl _
    · split at habove
      · next parent hparent => exact (ih habove).trans (Path.steps_prefix_of_parent? hparent)
      · cases habove

/-- Each of the directories that are made for a path is on the way along it. -/
theorem Path.steps_prefix_of_mem_lineage (h : q ∈ p.lineage) : q.steps <+: p.steps :=
  Path.steps_prefix_of_mem_lineageUpTo h

/-! ## Joining -/

/-- One more name is one more step down. -/
theorem Path.steps_join (hslash : '/' ∉ name.toList)
    (hname : stepOf? name.toList = some (.down name)) :
    (p.join name).steps = p.steps ++ [.down name] := by
  have hlast : stepsOf name.toList = [.down name] := by
    rw [stepsOf_of_not_mem hslash, hname]
    rfl
  rw [Path.steps_eq, Path.steps_eq, Path.join]
  split
  · next hend =>
    rw [Bool.or_eq_true] at hend
    rcases hend with hempty | hend
    · rw [String.isEmpty_iff.mp hempty, String.empty_append, hlast]
      rfl
    · obtain ⟨a, ha⟩ := List.getLast?_eq_some_iff.mp (beq_iff_eq.mp hend)
      rw [String.toList_append, ha, stepsOf_concat_slash, List.append_assoc,
        List.singleton_append, stepsOf_append_slash, hlast]
  · rw [String.toList_append, String.toList_append, List.append_assoc]
    show stepsOf (p.text.toList ++ '/' :: name.toList) = _
    rw [stepsOf_append_slash, hlast]

end LinkGate.Files
