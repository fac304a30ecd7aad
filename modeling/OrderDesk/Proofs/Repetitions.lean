import Mathlib.Data.List.Induction
import Mathlib.Tactic.Common
import OrderDesk.Proofs.Fields

/-! # Lists without their repetitions

The items of a list, each where it first occurs. A list grows at its end, so that the laws follow
by induction from there: a new item is appended and one that is there already changes nothing. So
it is with entries that are written again, and with sort keys that have had their say.
-/

namespace OrderDesk

variable {α β : Type}

/-- Items that are appended one by one, unless one that equals them is there, are those of the whole
list without its repetitions. -/
theorem foldl_eraseDupsBy (same : α → α → Bool) (xs ys : List α) :
    ys.foldl (fun kept y => if kept.any (same y) then kept else kept ++ [y])
      (xs.eraseDupsBy same) = (xs ++ ys).eraseDupsBy same := by
  have hfold : ∀ (items kept : List α), List.eraseDupsBy.loop same items kept =
      items.foldl (fun kept y => if kept.any (same y) then kept else kept ++ [y])
        kept.reverse := by
    intro items
    induction items with
    | nil => exact fun kept => rfl
    | cons x items ih =>
        intro kept
        rw [List.eraseDupsBy.loop, List.foldl_cons, List.any_reverse]
        cases kept.any (same x) with
        | true => exact ih kept
        | false => exact (ih (x :: kept)).trans (by rw [List.reverse_cons]; rfl)
  rw [List.eraseDupsBy, List.eraseDupsBy, hfold, hfold, List.reverse_nil, List.foldl_append]

/-! ### Keys -/

theorem foldr_then_concat (compareBy : α → Ordering) (keys : List α) (last : α) :
    (keys ++ [last]).foldr (fun key rest => (compareBy key).then rest) .eq =
      (keys.foldr (fun key rest => (compareBy key).then rest) .eq).then (compareBy last) := by
  induction keys with
  | nil => exact Ordering.then_eq
  | cons key keys ih =>
      rw [List.cons_append, List.foldr_cons, ih, List.foldr_cons, Ordering.then_assoc]

/-- What all keys together do not tell apart, none of them does. -/
theorem eq_of_foldr_then_eq {compareBy : α → Ordering} {keys : List α}
    (h : keys.foldr (fun key rest => (compareBy key).then rest) .eq = .eq) :
    ∀ key ∈ keys, compareBy key = .eq := by
  induction keys with
  | nil => exact fun _ => nofun
  | cons key keys ih =>
      rw [List.foldr_cons, Ordering.then_eq_eq] at h
      exact List.forall_mem_cons.mpr ⟨h.1, ih h.2⟩

variable [DecidableEq α]

/-! ### Repeated items -/

theorem eraseDups_concat (xs : List α) (x : α) :
    (xs ++ [x]).eraseDups = if x ∈ xs then xs.eraseDups else xs.eraseDups ++ [x] := by
  rw [List.eraseDups_append]
  by_cases h : x ∈ xs <;> simp [List.removeAll, List.eraseDups_cons, h]

theorem nodup_eraseDups (xs : List α) : xs.eraseDups.Nodup := by
  induction xs using List.reverseRecOn with
  | nil => exact List.nodup_nil
  | append_singleton xs x ih =>
      rw [eraseDups_concat]
      split
      · exact ih
      · next hnew =>
        rw [List.nodup_append]
        refine ⟨ih, by simp, fun y hy z hz heq => hnew ?_⟩
        rw [← List.mem_singleton.mp hz, ← heq]
        exact List.mem_eraseDups.mp hy

/-- Distinct items are all kept. -/
theorem eraseDups_of_nodup {xs : List α} (h : xs.Nodup) : xs.eraseDups = xs := by
  induction xs using List.reverseRecOn with
  | nil => rfl
  | append_singleton xs x ih =>
      have hnew : x ∉ xs := fun hmem =>
        (List.nodup_append.mp h).2.2 x hmem x (List.mem_singleton_self x) rfl
      rw [eraseDups_concat, if_neg hnew, ih (List.nodup_append.mp h).1]

/-- What is selected first occurs in the order in which all items do. -/
theorem eraseDups_filter (p : α → Bool) (xs : List α) :
    (xs.filter p).eraseDups = xs.eraseDups.filter p := by
  induction xs using List.reverseRecOn with
  | nil => rfl
  | append_singleton xs x ih =>
      rw [List.filter_append, eraseDups_concat]
      cases hp : p x with
      | false =>
          rw [List.filter_cons_of_neg (by simp [hp]), List.filter_nil, List.append_nil, ih]
          split
          · rfl
          · simp [hp]
      | true =>
          rw [List.filter_cons_of_pos hp, List.filter_nil, eraseDups_concat, ih]
          by_cases hmem : x ∈ xs <;> simp [hmem, hp]

/-! ### Repeated entries -/

/-- Where entries of one name are the same, those that repeat an earlier one change nothing. -/
theorem Fields.ofEntries_map_eraseDups {f : α → String × β} {xs : List α}
    (h : ∀ x ∈ xs, ∀ y ∈ xs, (f x).1 = (f y).1 → f x = f y) :
    ofEntries (xs.eraseDups.map f) = ofEntries (xs.map f) := by
  have hconcat : ∀ (ys : List α) (y : α),
      ofEntries ((ys ++ [y]).map f) = set (ofEntries (ys.map f)) (f y).1 (f y).2 := by
    intro ys y
    rw [ofEntries, List.map_append, List.foldl_append]
    rfl
  induction xs using List.reverseRecOn with
  | nil => rfl
  | append_singleton xs x ih =>
      have hbefore : ∀ y ∈ xs, ∀ z ∈ xs, (f y).1 = (f z).1 → f y = f z := fun y hy z hz =>
        h y (List.mem_append_left _ hy) z (List.mem_append_left _ hz)
      rw [eraseDups_concat, hconcat]
      split
      · next hmem =>
        -- What is found under the name is an earlier entry, which is the same.
        obtain ⟨found, hfound⟩ : ∃ found, get? (ofEntries (xs.map f)) (f x).1 = some found := by
          apply Option.ne_none_iff_exists'.mp
          rw [ne_eq, get?_eq_none, not_not, mem_names_ofEntries]
          exact List.mem_map_of_mem (List.mem_map_of_mem hmem)
        obtain ⟨y, hy, hentry⟩ := List.mem_map.mp (ofEntries_subset _ (mem_of_get? hfound))
        have hsame : f y = f x := hbefore y hy x hmem (by rw [hentry])
        rw [ih hbefore, set_of_get?]
        rw [hfound, ← hsame, hentry]
      · rw [hconcat, ih hbefore]

/-! ### Repeated keys -/

/-- A key that repeats an earlier one has no say in a comparison. -/
theorem foldr_then_eraseDups (compareBy : α → Ordering) (keys : List α) :
    keys.eraseDups.foldr (fun key rest => (compareBy key).then rest) .eq =
      keys.foldr (fun key rest => (compareBy key).then rest) .eq := by
  induction keys using List.reverseRecOn with
  | nil => rfl
  | append_singleton keys key ih =>
      rw [eraseDups_concat, foldr_then_concat]
      split
      · next hmem =>
        rw [ih]
        cases hcompare : keys.foldr (fun key rest => (compareBy key).then rest) .eq with
        | eq => exact (eq_of_foldr_then_eq hcompare key hmem).symm
        | lt | gt => rfl
      · rw [foldr_then_concat, ih]

end OrderDesk
