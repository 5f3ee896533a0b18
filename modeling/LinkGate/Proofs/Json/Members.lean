import LinkGate.Json.Members
import Mathlib.Data.List.Induction
import Mathlib.Data.List.Nodup

/-!
# Members by name

The members of an object by name are told by two facts: their names ascend (`ascending_byName`),
and a name has the value that it has last in the text (`mem_byName_iff`). There is only one list
like that (`Ascending.eq_of_mem_iff`). Members whose names ascend already are left as they are
(`byName_eq_self`).

The members are put in one after the other, so the induction is on the text from its end.
-/

namespace LinkGate.Json

variable {α β : Type} {name other : String} {value kept : Json}
  {members sorted : List (String × Json)}

/-! ## Ascending names -/

/-- The names stand in ascending order, each once. -/
def Ascending (members : List (String × α)) : Prop :=
  members.Pairwise fun m m' => m.1 < m'.1

theorem ascending_cons {m : String × α} {rest : List (String × α)} :
    Ascending (m :: rest) ↔ (∀ m' ∈ rest, m.1 < m'.1) ∧ Ascending rest :=
  List.pairwise_cons

/-- The order depends on the names alone. -/
theorem ascending_map {f : α → β} {named : List (String × α)} :
    Ascending (named.map fun m => (m.1, f m.2)) ↔ Ascending named :=
  List.pairwise_map

theorem Ascending.nodup {named : List (String × α)} (h : Ascending named) : named.Nodup := by
  apply h.imp
  rintro m _ hless rfl
  exact String.lt_irrefl _ hless

/-- Lists in ascending order with the same members are the same. -/
theorem Ascending.eq_of_mem_iff {named named' : List (String × α)} (h : Ascending named)
    (h' : Ascending named') (hmem : ∀ m, m ∈ named ↔ m ∈ named') : named = named' := by
  have hperm : named.Perm named' := (List.perm_ext_iff_of_nodup h.nodup h'.nodup).mpr hmem
  apply List.Perm.eq_of_pairwise _ h h' hperm
  intro m m' _ _ hless hgreater
  exact absurd hgreater (String.lt_asymm hless)

/-- The members with lesser names are those that stand before. -/
theorem Ascending.mem_before_iff {before after : List (String × α)} {m m' : String × α}
    (h : Ascending (before ++ m :: after)) :
    m' ∈ before ↔ m' ∈ before ++ m :: after ∧ m'.1 < m.1 := by
  obtain ⟨-, hafter, hbefore⟩ := List.pairwise_append.mp h
  constructor
  · intro hmem
    exact ⟨List.mem_append_left _ hmem, hbefore m' hmem m List.mem_cons_self⟩
  · rintro ⟨hmem, hless⟩
    rw [List.mem_append, List.mem_cons] at hmem
    rcases hmem with hmem | rfl | hmem
    · exact hmem
    · exact absurd hless (String.lt_irrefl _)
    · exact absurd hless (String.lt_asymm ((ascending_cons.mp hafter).1 m' hmem))

theorem lt_of_not_lt_of_ne (h : ¬ name < other) (hne : name ≠ other) : other < name := by
  by_contra hnot
  exact hne (String.le_antisymm (String.not_lt.mp hnot) (String.not_lt.mp h))

theorem Ascending.forall_lt {m : String × α} {rest : List (String × α)} (h : Ascending (m :: rest))
    (hless : name < m.1) : ∀ m' ∈ m :: rest, name < m'.1 := by
  rw [List.forall_mem_cons]
  exact ⟨hless, fun m' hm' => String.lt_trans hless ((ascending_cons.mp h).1 m' hm')⟩

theorem forall_ne_of_forall_lt {named : List (String × α)} (h : ∀ m ∈ named, name < m.1) :
    ∀ m ∈ named, m.1 ≠ name := by
  intro m hm heq
  exact String.lt_irrefl _ (heq ▸ h m hm)

/-! ## One member -/

/-- Putting a member in replaces the one of its name and keeps all others. -/
theorem mem_putMember_iff (h : Ascending sorted) : (other, kept) ∈ putMember name value sorted ↔
    (other = name ∧ kept = value) ∨ (other ≠ name ∧ (other, kept) ∈ sorted) := by
  induction sorted with
  | nil => simp [putMember]
  | cons m rest ih =>
    obtain ⟨first, v⟩ := m
    obtain ⟨hfirst, hrest⟩ := ascending_cons.mp h
    unfold putMember
    split
    · next hless =>
      -- no member has the name, since all of them are greater
      have habsent := forall_ne_of_forall_lt (h.forall_lt hless)
      rw [List.mem_cons, Prod.mk.injEq]
      apply or_congr_right
      exact ⟨fun hm => ⟨habsent _ hm, hm⟩, And.right⟩
    split
    · next hsame =>
      subst hsame
      have habsent := forall_ne_of_forall_lt hfirst
      rw [List.mem_cons, List.mem_cons, Prod.mk.injEq, Prod.mk.injEq]
      apply or_congr_right
      constructor
      · exact fun hm => ⟨habsent _ hm, .inr hm⟩
      · rintro ⟨hne, ⟨heq, -⟩ | hm⟩
        · exact absurd heq hne
        · exact hm
    · next hnot hne =>
      rw [List.mem_cons, List.mem_cons, ih hrest, Prod.mk.injEq]
      constructor
      · rintro (⟨rfl, rfl⟩ | hput | ⟨hother, hm⟩)
        · exact .inr ⟨Ne.symm hne, .inl ⟨rfl, rfl⟩⟩
        · exact .inl hput
        · exact .inr ⟨hother, .inr hm⟩
      · rintro (hput | ⟨hother, heq | hm⟩)
        · exact .inr (.inl hput)
        · exact .inl heq
        · exact .inr (.inr ⟨hother, hm⟩)

/-- Putting a member in keeps the order. Along the sorted members, by where the name belongs. -/
theorem ascending_putMember (h : Ascending sorted) (name : String) (value : Json) :
    Ascending (putMember name value sorted) := by
  induction sorted with
  | nil => exact List.pairwise_singleton _ _
  | cons m rest ih =>
    obtain ⟨first, v⟩ := m
    obtain ⟨hfirst, hrest⟩ := ascending_cons.mp h
    unfold putMember
    split
    · next hless => exact ascending_cons.mpr ⟨h.forall_lt hless, h⟩
    split
    · next hsame =>
      subst hsame
      exact ascending_cons.mpr ⟨hfirst, hrest⟩
    · next hnot hne =>
      rw [ascending_cons]
      refine ⟨fun m hm => ?_, ih hrest⟩
      rcases (mem_putMember_iff hrest).mp hm with ⟨heq, -⟩ | ⟨-, hm⟩
      · rw [heq]
        exact lt_of_not_lt_of_ne hnot hne
      · exact hfirst m hm

/-- A member whose name comes last is put at the end. -/
theorem putMember_of_forall_lt (h : ∀ m ∈ sorted, m.1 < name) :
    putMember name value sorted = sorted ++ [(name, value)] := by
  induction sorted with
  | nil => rfl
  | cons m rest ih =>
    obtain ⟨first, v⟩ := m
    obtain ⟨hfirst, hrest⟩ := List.forall_mem_cons.mp h
    have hne : name ≠ first := by
      rintro rfl
      exact String.lt_irrefl _ hfirst
    rw [putMember, if_neg (String.lt_asymm hfirst), if_neg hne, ih hrest, List.cons_append]

/-! ## All members -/

/-- Members are put in one by one, so a later one of the same name wins. -/
theorem byName_concat (members : List (String × Json)) (name : String) (value : Json) :
    byName (members ++ [(name, value)]) = putMember name value (byName members) :=
  List.foldl_concat ..

/-- The last member of a name is the one that is found. -/
theorem member?_concat (members : List (String × Json)) (name : String) (value : Json)
    (other : String) : member? other (.object (members ++ [(name, value)]))
      = if name = other then some value else member? other (.object members) := by
  rw [member?, List.reverse_append, List.reverse_singleton, List.singleton_append, List.find?_cons]
  split
  · next h => rw [if_pos (beq_iff_eq.mp h)]; rfl
  · next h => rw [if_neg (by simpa using h)]; rfl

theorem ascending_byName (members : List (String × Json)) : Ascending (byName members) := by
  induction members using List.reverseRecOn with
  | nil => exact List.Pairwise.nil
  | append_singleton members m ih =>
    rw [byName_concat]
    exact ascending_putMember ih _ _

/-- A name has the value that it has last. -/
theorem mem_byName_iff :
    (other, kept) ∈ byName members ↔ member? other (.object members) = some kept := by
  induction members using List.reverseRecOn with
  | nil => exact ⟨nofun, nofun⟩
  | append_singleton members m ih =>
    obtain ⟨name, value⟩ := m
    rw [byName_concat, mem_putMember_iff (ascending_byName _), member?_concat, ih]
    split
    · next heq => simp [heq, eq_comm]
    · next hne => simp [Ne.symm hne]

/-- Members that are in order stay as they are. -/
theorem byName_eq_self (h : Ascending members) : byName members = members := by
  induction members using List.reverseRecOn with
  | nil => rfl
  | append_singleton members m ih =>
    obtain ⟨hmembers, -, hless⟩ := List.pairwise_append.mp h
    rw [byName_concat, ih hmembers]
    exact putMember_of_forall_lt fun m' hm' => hless m' hm' m List.mem_cons_self

end LinkGate.Json
