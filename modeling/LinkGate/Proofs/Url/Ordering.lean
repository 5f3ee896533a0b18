import LinkGate.Proofs.Text.ByteOrder
import LinkGate.Proofs.Url.Sanitized
import Mathlib.Data.Finset.Card
import Mathlib.Data.Finset.Dedup
import Mathlib.Data.Finset.Image

/-!
# Sanitized URLs in order

Sanitized URLs are compared by their bytes, and sorted by their characters. As UTF-8 keeps the order
of characters, that is one linear order (`le_iff`, `compare_eq_lt_iff`), and equality and the hash
go with it.

So there is only one way to sort a list (`sort_eq_of_perm`), and equal values stand next to each
other (`exists_block`). Sanitizing makes values equal only by refusing them
(`sanitize_eq_sanitize_iff`): all refused texts become one value, the placeholder, and all others
stay as different as they were (`countDistinct_sanitize`).
-/

namespace LinkGate

variable {u v w : SanitizedUrl} {a b : String}

namespace SanitizedUrl

/-! ## The order -/

/-- Sanitized URLs are compared by the bytes of their texts. -/
theorem compare_eq (u v : SanitizedUrl) :
    compare u v = compare (Text.toBytes u.value) (Text.toBytes v.value) := rfl

theorem compare_eq_lt_iff :
    compare u v = .lt ↔ Text.BytesPrecede (Text.toBytes u.value) (Text.toBytes v.value) := by
  rw [compare_eq]
  exact Text.Utf8.compare_eq_lt_iff

theorem compare_swap (u v : SanitizedUrl) : (compare u v).swap = compare v u := by
  rw [compare_eq, compare_eq]
  exact Std.OrientedOrd.eq_swap.symm

/-- They compare equal only if they are. -/
theorem compare_eq_eq_iff : compare u v = .eq ↔ u = v := by
  rw [compare_eq, Std.compare_eq_iff_eq]
  refine ⟨fun h => ?_, fun h => by rw [h]⟩
  have hread := congrArg Text.Utf8.decode? h
  rw [Text.toBytes, Text.toBytes, Text.Utf8.decode?_encode, Text.Utf8.decode?_encode] at hread
  exact ext (String.toList_inj.mp (Option.some.inj hread))

/-- Sorting goes by characters, and comparing by bytes. -/
theorem le_iff : u ≤ v ↔ compare u v ≠ .gt := by
  show ¬ v.value < u.value ↔ _
  rw [Text.string_lt_iff, ← Text.Utf8.bytesPrecede_encode_iff]
  show ¬ Text.BytesPrecede (Text.toBytes v.value) (Text.toBytes u.value) ↔ _
  rw [← compare_eq_lt_iff, ← compare_swap u v]
  cases compare u v <;> decide

theorem le_total (u v : SanitizedUrl) : u ≤ v ∨ v ≤ u := by
  rw [le_iff, le_iff, ← compare_swap u v]
  cases compare u v <;> decide

theorem le_antisymm (h : u ≤ v) (h' : v ≤ u) : u = v := by
  rw [le_iff] at h h'
  rw [← compare_swap u v] at h'
  rw [← compare_eq_eq_iff]
  revert h h'
  cases compare u v <;> decide

theorem isLE_iff : (compare u v).isLE = true ↔ u ≤ v := by
  rw [le_iff]
  cases compare u v <;> decide

/-- The order is that of a dictionary, and so transitive. -/
theorem le_trans (h : u ≤ v) (h' : v ≤ w) : u ≤ w := by
  rw [← isLE_iff, compare_eq] at h h' ⊢
  exact Std.TransOrd.isLE_trans h h'

/-- Of all hashers there is one that keeps what it is given. -/
theorem hashInto_eq_iff : (∀ {σ : Type} (write : σ → List UInt8 → σ) (state : σ),
    hashInto write state u = hashInto write state v) ↔ u = v := by
  refine ⟨fun h => ?_, fun h => by rw [h]; exact fun _ _ => rfl⟩
  have hkept : [] ++ Text.toBytes u.value ++ [0xFF] = [] ++ Text.toBytes v.value ++ [0xFF] :=
    h (fun kept bytes => kept ++ bytes) []
  have hbytes : Text.toBytes u.value = Text.toBytes v.value := List.append_cancel_right hkept
  rw [← compare_eq_eq_iff, compare_eq, hbytes]
  exact Std.ReflOrd.compare_self

/-! ## Sorted lists -/

theorem sort_perm (us : List SanitizedUrl) : (sort us).Perm us :=
  List.mergeSort_perm us _

/-- Sorted URLs ascend. -/
theorem pairwise_sort (us : List SanitizedUrl) : (sort us).Pairwise (· ≤ ·) := by
  have hsorted : (sort us).Pairwise fun u v => decide (u ≤ v) = true := by
    apply List.pairwise_mergeSort
    · intro u v w h h'
      rw [decide_eq_true_eq] at h h' ⊢
      exact le_trans h h'
    · intro u v
      simpa using le_total u v
  simpa using hsorted

/-- The order in which URLs were does not matter to the sorted ones. -/
theorem sort_eq_of_perm {us vs : List SanitizedUrl} (h : us.Perm vs) : sort us = sort vs := by
  apply List.Perm.eq_of_pairwise (fun u v _ _ => le_antisymm) (pairwise_sort us) (pairwise_sort vs)
  exact (sort_perm us).trans (h.trans (sort_perm vs).symm)

/-- All that is equal to `u` stands together in a sorted list. -/
theorem exists_block {us : List SanitizedUrl} (h : us.Pairwise (· ≤ ·)) (u : SanitizedUrl) :
    ∃ before after, us = before ++ List.replicate (us.count u) u ++ after ∧ u ∉ before ∧
      u ∉ after := by
  induction us with
  | nil => exact ⟨[], [], rfl, List.not_mem_nil, List.not_mem_nil⟩
  | cons v us ih =>
    obtain ⟨hv, hus⟩ := List.pairwise_cons.mp h
    obtain ⟨before, after, heq, hbefore, hafter⟩ := ih hus
    by_cases hvu : v = u
    · subst hvu
      by_cases hcount : us.count v = 0
      · refine ⟨[], us, ?_, List.not_mem_nil, List.count_eq_zero.mp hcount⟩
        rw [List.count_cons_self, hcount]
        rfl
      · -- what stands before the block would be both below and above `v`
        have hempty : before = [] := by
          cases before with
          | nil => rfl
          | cons w before =>
            have hw : v ≤ w := hv w (by rw [heq]; simp)
            rw [heq] at hus
            have hwv : w ≤ v := (List.pairwise_cons.mp hus).1 v (by simp [hcount])
            exact absurd (le_antisymm hw hwv ▸ List.mem_cons_self) hbefore
        refine ⟨[], after, ?_, List.not_mem_nil, hafter⟩
        rw [List.count_cons_self, List.replicate_succ, List.nil_append, List.cons_append]
        rw [hempty] at heq
        exact congrArg (v :: ·) heq
    · refine ⟨v :: before, after, ?_, ?_, hafter⟩
      · rw [List.count_cons_of_ne hvu, List.cons_append, List.cons_append, ← heq]
      · rw [List.mem_cons, not_or]
        exact ⟨Ne.symm hvu, hbefore⟩

/-! ## Different values -/

theorem nodup_eraseDups (us : List SanitizedUrl) : us.eraseDups.Nodup := by
  induction hn : us.length using Nat.strongRecOn generalizing us with
  | ind n ih =>
    cases us with
    | nil => exact List.nodup_nil
    | cons u us =>
      rw [List.eraseDups_cons, List.nodup_cons, List.mem_eraseDups]
      refine ⟨by simp, ih _ ?_ _ rfl⟩
      have hless := List.length_filter_le (fun v => !v == u) us
      rw [List.length_cons] at hn
      omega

/-- The URLs that are counted are the distinct ones. -/
theorem countDistinct_eq_card (us : List SanitizedUrl) : countDistinct us = us.toFinset.card := by
  rw [countDistinct, ← List.toFinset_card_of_nodup (nodup_eraseDups us)]
  congr 1
  ext u
  rw [List.mem_toFinset, List.mem_toFinset, List.mem_eraseDups]

end SanitizedUrl

open SanitizedUrl

namespace Url

/-- The placeholder comes from the refused URLs, and only from them. -/
theorem sanitize_eq_innocuous_iff : sanitize a = .innocuous ↔ ¬ isSafe a = true := by
  rw [← value_sanitize_eq_placeholder_iff_not_isSafe]
  exact ⟨fun h => by rw [h]; rfl, fun h => SanitizedUrl.ext h⟩

/-- Two texts become one value only if both are refused. -/
theorem sanitize_eq_sanitize_iff :
    sanitize a = sanitize b ↔ a = b ∨ (¬ isSafe a = true ∧ ¬ isSafe b = true) := by
  constructor
  · intro h
    by_cases ha : isSafe a = true
    · have hb : isSafe b = true := by
        by_contra hb
        exact sanitize_eq_innocuous_iff.mp (h.trans (sanitize_eq_innocuous_iff.mpr hb)) ha
      have hvalue := congrArg SanitizedUrl.value h
      rw [sanitize_of_isSafe ha, sanitize_of_isSafe hb] at hvalue
      exact .inl hvalue
    · exact .inr ⟨ha, sanitize_eq_innocuous_iff.mp (h ▸ sanitize_eq_innocuous_iff.mpr ha)⟩
  · rintro (rfl | ⟨ha, hb⟩)
    · rfl
    · rw [sanitize_of_not_isSafe ha, sanitize_of_not_isSafe hb]

/-- There are as many placeholders as refused URLs. -/
theorem count_innocuous (urls : List String) :
    (urls.map sanitize).count .innocuous = urls.countP fun url => !isSafe url := by
  rw [List.count, List.countP_map]
  apply List.countP_congr
  intro url _
  have hrefused : sanitize url = .innocuous ↔ ¬ isSafe url = true := sanitize_eq_innocuous_iff
  simpa using hrefused

/-- Different safe texts stay different, and all that are refused count once. -/
theorem countDistinct_sanitize (urls : List String) : countDistinct (urls.map sanitize)
    = (urls.filter isSafe).toFinset.card + if urls.all isSafe then 0 else 1 := by
  have hinjective : Set.InjOn sanitize ↑(urls.filter isSafe).toFinset := by
    intro a ha b _ h
    rw [List.coe_toFinset] at ha
    have hsafe : isSafe a = true := (List.mem_filter.mp ha).2
    exact (sanitize_eq_sanitize_iff.mp h).resolve_right fun hrefused => hrefused.1 hsafe
  rw [countDistinct_eq_card, ← Finset.card_image_of_injOn hinjective]
  split
  · next hall =>
    have hkept : urls.filter isSafe = urls := List.filter_eq_self.mpr (List.all_eq_true.mp hall)
    rw [hkept, Nat.add_zero]
    congr 1
    ext u
    simp
  · next hall =>
    obtain ⟨bad, hbad, hrefused⟩ : ∃ url ∈ urls, ¬ isSafe url = true := by
      simpa [List.all_eq_true] using hall
    have habsent : SanitizedUrl.innocuous ∉ (urls.filter isSafe).toFinset.image sanitize := by
      intro h
      obtain ⟨url, hurl, heq⟩ := Finset.mem_image.mp h
      rw [List.mem_toFinset, List.mem_filter] at hurl
      exact sanitize_eq_innocuous_iff.mp heq hurl.2
    rw [← Finset.card_insert_of_notMem habsent]
    congr 1
    ext u
    rw [List.mem_toFinset, List.mem_map, Finset.mem_insert, Finset.mem_image]
    constructor
    · rintro ⟨url, hurl, rfl⟩
      by_cases hsafe : isSafe url = true
      · exact .inr ⟨url, List.mem_toFinset.mpr (List.mem_filter.mpr ⟨hurl, hsafe⟩), rfl⟩
      · exact .inl (sanitize_of_not_isSafe hsafe)
    · rintro (rfl | ⟨url, hurl, rfl⟩)
      · exact ⟨bad, hbad, sanitize_of_not_isSafe hrefused⟩
      · exact ⟨url, (List.mem_filter.mp (List.mem_toFinset.mp hurl)).1, rfl⟩

end Url

/-! ## The sorted list -/

/-- What the sorted list of sanitized texts is. -/
structure SortsByBytes (urls : List String) (sorted : List SanitizedUrl) : Prop where
  perm : sorted.Perm (urls.map Url.sanitize)
  -- no later value is less than an earlier one, in either order
  ascends : sorted.Pairwise fun u v =>
    ¬ Text.BytesPrecede (Text.toBytes v.value) (Text.toBytes u.value)
  ascends_chars : sorted.Pairwise fun u v => ¬ Text.CharsPrecede v.value.toList u.value.toList
  of_perm : ∀ urls' : List String, urls'.Perm urls → sort (urls'.map Url.sanitize) = sorted
  countDistinct_eq : countDistinct sorted
    = (urls.filter Url.isSafe).toFinset.card + if urls.all Url.isSafe then 0 else 1
  block : ∃ before after,
    sorted = before
      ++ List.replicate (urls.countP fun url => !Url.isSafe url) SanitizedUrl.innocuous ++ after ∧
    SanitizedUrl.innocuous ∉ before ∧ SanitizedUrl.innocuous ∉ after

structure ComparesByBytes (u v w : SanitizedUrl) : Prop where
  lt_iff : compare u v = .lt ↔ Text.BytesPrecede (Text.toBytes u.value) (Text.toBytes v.value)
  lt_iff_chars : compare u v = .lt ↔ Text.CharsPrecede u.value.toList v.value.toList
  eq_iff : compare u v = .eq ↔ u = v
  gt_iff : compare u v = .gt ↔ compare v u = .lt
  hash_iff : (∀ {σ : Type} (write : σ → List UInt8 → σ) (state : σ),
    hashInto write state u = hashInto write state v) ↔ u = v
  le_iff : u ≤ v ↔ compare u v ≠ .gt
  total : u ≤ v ∨ v ≤ u
  trans : u ≤ v → v ≤ w → u ≤ w

theorem sortsByBytes (urls : List String) :
    SortsByBytes urls (sort (urls.map Url.sanitize)) where
  perm := sort_perm _
  ascends := by
    apply (pairwise_sort _).imp
    intro u v h hless
    rw [← SanitizedUrl.compare_eq_lt_iff, ← compare_swap u v] at hless
    rw [SanitizedUrl.le_iff] at h
    revert h hless
    cases compare u v <;> decide
  ascends_chars := by
    apply (pairwise_sort _).imp
    intro u v h hless
    exact h (Text.string_lt_iff.mpr hless)
  of_perm := fun _ h => sort_eq_of_perm (h.map _)
  countDistinct_eq := by
    rw [← Url.countDistinct_sanitize, countDistinct_eq_card, countDistinct_eq_card,
      List.toFinset_eq_of_perm _ _ (sort_perm _)]
  block := by
    rw [← Url.count_innocuous, ← (sort_perm _).count_eq]
    exact exists_block (pairwise_sort _) _

theorem comparesByBytes (u v w : SanitizedUrl) : ComparesByBytes u v w where
  lt_iff := SanitizedUrl.compare_eq_lt_iff
  lt_iff_chars := SanitizedUrl.compare_eq_lt_iff.trans Text.Utf8.bytesPrecede_encode_iff
  eq_iff := compare_eq_eq_iff
  gt_iff := by
    rw [← compare_swap u v]
    cases compare u v <;> decide
  hash_iff := hashInto_eq_iff
  le_iff := SanitizedUrl.le_iff
  total := SanitizedUrl.le_total u v
  trans := SanitizedUrl.le_trans

-- in 16-bit units the second text would be the lesser one
example : compare (Url.sanitize "/\uffff") (Url.sanitize "/𐀀") = .lt := by decide +kernel

/-- **Sorted and distinct values.** Sorting sanitized texts gives the same list for all ways to
arrange the texts. It ascends by bytes, which is the order of characters for any two texts. Two
texts become the same value only if they are the same or both refused, so the refused ones are one
value and one block. Equality, order and hash agree on all values. -/
theorem sorted_by_bytes (urls : List String) :
    SortsByBytes urls (sort (urls.map Url.sanitize)) ∧
      (∀ s t : String, Text.BytesPrecede (Text.toBytes s) (Text.toBytes t)
        ↔ Text.CharsPrecede s.toList t.toList) ∧
      (∀ a b : String, Url.sanitize a = Url.sanitize b
        ↔ a = b ∨ (¬ Url.isSafe a = true ∧ ¬ Url.isSafe b = true)) ∧
      ∀ u v w : SanitizedUrl, ComparesByBytes u v w :=
  ⟨sortsByBytes urls, fun _ _ => Text.Utf8.bytesPrecede_encode_iff,
    fun _ _ => Url.sanitize_eq_sanitize_iff, comparesByBytes⟩

end LinkGate
