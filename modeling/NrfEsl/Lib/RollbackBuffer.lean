import Mathlib.Algebra.BigOperators.Group.List.Basic
import Mathlib.Algebra.GroupWithZero.Nat
import Mathlib.Algebra.Order.BigOperators.Group.List
import Mathlib.Algebra.Order.Group.Nat
import Mathlib.Data.List.Induction

/-!
# A bounded buffer that rolls back

Elements of known sizes are put one behind the other in a buffer of bounded size.  An element that
does not fit **replaces the last entry by a marker**.  An entry is `some x`, or `none` for the
marker.

* `push`, `pushAll` — the buffer.
* `OverflowAt` — which element is the first that does not fit.
* `Meets` — what one may want of it: everything when everything fits, and otherwise the elements
  up to the rolled back one followed by a single marker.

**The buffer goes on after a rollback.**  `pushAll_overflow` gives its contents from there on: a
later element that fits behind the marker is put there.  `meets_filter_iff` says exactly when the
contents are what is wanted of some of the elements only, the others having been pushed as well.
-/

namespace RollbackBuffer

variable {α : Type*} (size : α → ℕ) (cap mark : ℕ)

/-- The size of some elements. -/
def total (xs : List α) : ℕ := (xs.map size).sum

/-- The size of some entries. -/
def entrySizes (ys : List (Option α)) : ℕ := total (fun y => (y.map size).getD mark) ys

/-- Put an element behind the last entry, or roll back. -/
def push (ys : List (Option α)) (x : α) : List (Option α) :=
  if cap < entrySizes size mark ys + size x then ys.dropLast ++ [none] else ys ++ [some x]

/-- The buffer after all elements. -/
def pushAll (xs : List α) : List (Option α) := xs.foldl (push size cap mark) []

/-- Element `k` is the first that does not fit. -/
def OverflowAt (xs : List α) (k : ℕ) : Prop :=
  k < xs.length ∧ total size (xs.take k) ≤ cap ∧ cap < total size (xs.take (k + 1))

/-- Everything when it fits; otherwise everything before the rolled back element, and a marker. -/
structure Meets (xs : List α) (ys : List (Option α)) : Prop where
  fits : total size xs ≤ cap → ys = xs.map some
  overflow : ∀ k, OverflowAt size cap xs k → ys = (xs.take (k - 1)).map some ++ [none]

variable {size cap mark}

/-! ## Sizes -/

@[simp] lemma total_nil : total size [] = 0 := rfl

@[simp] lemma total_append (xs ys : List α) :
    total size (xs ++ ys) = total size xs + total size ys := by
  simp [total]

@[simp] lemma total_singleton (x : α) : total size [x] = size x := by simp [total]

@[simp] lemma entrySizes_map_some (xs : List α) :
    entrySizes size mark (xs.map some) = total size xs := by
  simp [entrySizes, total, Function.comp_def]

@[simp] lemma entrySizes_concat_none (ys : List (Option α)) :
    entrySizes size mark (ys ++ [none]) = entrySizes size mark ys + mark := by
  simp [entrySizes]

/-- Fewer elements are not larger. -/
lemma total_le_of_sublist {xs ys : List α} (h : xs.Sublist ys) : total size xs ≤ total size ys :=
  (h.map size).sum_le_sum fun _ _ => Nat.zero_le _

lemma total_take_mono (size : α → ℕ) (xs : List α) {j k : ℕ} (h : j ≤ k) :
    total size (xs.take j) ≤ total size (xs.take k) :=
  total_le_of_sublist (List.take_sublist_take_left h)

/-- There is one first element that does not fit. -/
lemma OverflowAt.unique {xs : List α} {j k : ℕ} (hj : OverflowAt size cap xs j)
    (hk : OverflowAt size cap xs k) : j = k := by
  rcases lt_trichotomy j k with h | h | h
  · have := total_take_mono size xs (show j + 1 ≤ k from h)
    have := hj.2.2
    have := hk.2.1
    omega
  · exact h
  · have := total_take_mono size xs (show k + 1 ≤ j from h)
    have := hk.2.2
    have := hj.2.1
    omega

/-- There is one when the elements do not fit together. -/
lemma exists_overflowAt {xs : List α} (h : cap < total size xs) :
    ∃ k, OverflowAt size cap xs k := by
  induction xs using List.reverseRecOn with
  | nil => simp at h
  | append_singleton xs x ih =>
      by_cases hxs : cap < total size xs
      · obtain ⟨k, hk, hle, hlt⟩ := ih hxs
        refine ⟨k, by simp; omega, ?_, ?_⟩
        · rwa [List.take_append_of_le_length (by omega)]
        · rwa [List.take_append_of_le_length (by omega)]
      · refine ⟨xs.length, by simp, ?_, ?_⟩
        · rw [List.take_left']
          · omega
          · rfl
        · rw [List.take_of_length_le (by simp)]
          exact h

lemma OverflowAt.lt_total {xs : List α} {k : ℕ} (h : OverflowAt size cap xs k) :
    cap < total size xs :=
  lt_of_lt_of_le h.2.2 (total_le_of_sublist (List.take_sublist _ _))

/-- The first element fits when every element does on its own. -/
lemma OverflowAt.pos {xs : List α} {k : ℕ} (hsize : ∀ x ∈ xs, size x ≤ cap)
    (h : OverflowAt size cap xs k) : 0 < k := by
  obtain ⟨hk, -, hlt⟩ := h
  rcases Nat.eq_zero_or_pos k with rfl | hpos
  · cases xs with
    | nil => simp at hk
    | cons x xs =>
        have := hsize x List.mem_cons_self
        simp only [Nat.zero_add, List.take_succ_cons, List.take_zero, total_singleton] at hlt
        omega
  · exact hpos

/-! ## The contents of the buffer -/

lemma pushAll_concat (xs : List α) (x : α) :
    pushAll size cap mark (xs ++ [x]) = push size cap mark (pushAll size cap mark xs) x := by
  simp [pushAll]

/-- As long as everything fits, everything is there. -/
theorem pushAll_fits {xs : List α} (h : total size xs ≤ cap) :
    pushAll size cap mark xs = xs.map some := by
  induction xs using List.reverseRecOn with
  | nil => rfl
  | append_singleton xs x ih =>
      rw [total_append, total_singleton] at h
      rw [pushAll_concat, ih (by omega), push, if_neg (by simpa using h)]
      simp

variable (size cap mark) in
/-- Behind a marker a push keeps everything up to the marker. -/
lemma push_behind_marker (ys ws : List (Option α)) (x : α) :
    ∃ ws', push size cap mark (ys ++ none :: ws) x = ys ++ none :: ws'
      ∧ ws.length ≤ ws'.length := by
  rw [push]
  split
  · cases ws using List.reverseRecOn with
    | nil => exact ⟨[], by simp, le_rfl⟩
    | append_singleton ws w =>
        refine ⟨ws ++ [none], ?_, by simp⟩
        rw [← List.cons_append, ← List.append_assoc, List.dropLast_concat]
        simp
  · exact ⟨ws ++ [some x], by simp, by simp⟩

variable (size cap mark) in
/-- So do any number of pushes. -/
lemma foldl_push_behind_marker (ys ws : List (Option α)) (zs : List α) :
    ∃ ws', zs.foldl (push size cap mark) (ys ++ none :: ws) = ys ++ none :: ws'
      ∧ ws.length ≤ ws'.length := by
  induction zs generalizing ws with
  | nil => exact ⟨ws, rfl, le_rfl⟩
  | cons z zs ih =>
      obtain ⟨ws₁, h₁, hle₁⟩ := push_behind_marker size cap mark ys ws z
      obtain ⟨ws₂, h₂, hle₂⟩ := ih ws₁
      exact ⟨ws₂, by rw [List.foldl_cons, h₁, h₂], hle₁.trans hle₂⟩

variable (size cap mark) in
/-- The marker stays last exactly when nothing later fits behind it. -/
lemma foldl_push_marker (ys : List (Option α)) (zs : List α) :
    ∃ ws, zs.foldl (push size cap mark) (ys ++ [none]) = ys ++ none :: ws
      ∧ (ws = [] ↔ ∀ z ∈ zs, cap < entrySizes size mark ys + mark + size z) := by
  induction zs with
  | nil => exact ⟨[], rfl, by simp⟩
  | cons z zs ih =>
      by_cases hz : cap < entrySizes size mark ys + mark + size z
      · obtain ⟨ws, h, hiff⟩ := ih
        refine ⟨ws, ?_, by simpa [hz] using hiff⟩
        rw [List.foldl_cons, push, if_pos (by simpa using hz), List.dropLast_concat, h]
      · obtain ⟨ws, h, hle⟩ := foldl_push_behind_marker size cap mark ys [some z] zs
        refine ⟨ws, ?_, iff_of_false ?_ (by simp [hz])⟩
        · rw [List.foldl_cons, push, if_neg (by simpa using hz), List.append_assoc]
          exact h
        · rintro rfl
          simp at hle

variable (mark) in
/-- **After an overflow** the buffer holds what was there before the rolled back element, the
marker, and what was pushed behind it. -/
theorem pushAll_overflow {xs : List α} {k : ℕ} (h : OverflowAt size cap xs k) :
    ∃ ws, pushAll size cap mark xs = (xs.take (k - 1)).map some ++ none :: ws
      ∧ (ws = [] ↔ ∀ x ∈ xs.drop (k + 1),
          cap < total size (xs.take (k - 1)) + mark + size x) := by
  obtain ⟨hk, hle, hlt⟩ := h
  obtain ⟨ws, hws, hiff⟩ := foldl_push_marker size cap mark
    ((xs.take (k - 1)).map some) (xs.drop (k + 1))
  rw [entrySizes_map_some] at hiff
  refine ⟨ws, ?_, hiff⟩
  have htake : xs.take (k + 1) = xs.take k ++ [xs[k]] := by simp
  have hfirst : pushAll size cap mark (xs.take (k + 1))
      = (xs.take (k - 1)).map some ++ [none] := by
    have hdrop : (xs.take k).dropLast = xs.take (k - 1) := by
      rw [List.dropLast_eq_take, List.take_take, List.length_take]
      congr 1
      omega
    rw [htake, total_append, total_singleton] at hlt
    rw [htake, pushAll_concat, pushAll_fits hle, push,
      if_pos (by rwa [entrySizes_map_some]), ← List.map_dropLast, hdrop]
  calc pushAll size cap mark xs
      = (xs.drop (k + 1)).foldl (push size cap mark) (pushAll size cap mark (xs.take (k + 1))) := by
        conv_lhs => rw [pushAll, ← List.take_append_drop (k + 1) xs, List.foldl_append]
        rfl
    _ = (xs.take (k - 1)).map some ++ none :: ws := by rw [hfirst, hws]

/-! ## Meeting the requirement for some of the elements -/

/-- When the buffer of all elements is what is wanted of the elements that satisfy `p`: all
elements satisfy it and fit, or both lists overflow at the same place, only elements that satisfy
it come before the rolled back one, and nothing later fits behind the marker. -/
def GoodFor (size : α → ℕ) (cap mark : ℕ) (p : α → Bool) (xs : List α) : Prop :=
  (total size xs ≤ cap ∧ ∀ x ∈ xs, p x)
    ∨ ∃ k, OverflowAt size cap xs k ∧ OverflowAt size cap (xs.filter p) k
      ∧ (∀ x ∈ xs.take (k - 1), p x)
      ∧ ∀ x ∈ xs.drop (k + 1), cap < total size (xs.take (k - 1)) + mark + size x

/-- Entries up to the first marker are determined. -/
lemma eq_of_append_none {us vs : List α} {ws : List (Option α)}
    (h : us.map some ++ [none] = vs.map some ++ none :: ws) : us = vs ∧ ws = [] := by
  induction us generalizing vs with
  | nil =>
      cases vs with
      | nil => simpa using h.symm
      | cons v vs => simp at h
  | cons u us ih =>
      cases vs with
      | nil => simp at h
      | cons v vs =>
          simp only [List.map_cons, List.cons_append, List.cons.injEq, Option.some.injEq] at h
          obtain ⟨rfl, h⟩ := h
          obtain ⟨rfl, hws⟩ := ih h
          exact ⟨rfl, hws⟩

lemma filter_take_eq {p : α → Bool} {xs : List α} {n : ℕ} (hn : n ≤ xs.length)
    (h : ∀ x ∈ xs.take n, p x) : (xs.filter p).take n = xs.take n := by
  conv_lhs => rw [← List.take_append_drop n xs, List.filter_append, List.filter_eq_self.mpr h]
  exact List.take_left' (by simpa using hn)

/-- **When the buffer meets the requirement for the elements that satisfy `p`.** -/
theorem meets_filter_iff {p : α → Bool} {xs : List α} (hsize : ∀ x ∈ xs, size x ≤ cap) :
    Meets size cap (xs.filter p) (pushAll size cap mark xs) ↔ GoodFor size cap mark p xs := by
  have hsub : total size (xs.filter p) ≤ total size xs := total_le_of_sublist List.filter_sublist
  rcases Nat.lt_or_ge cap (total size xs) with hover | hfit
  · obtain ⟨k, hk⟩ := exists_overflowAt hover
    obtain ⟨ws, hws, hlast⟩ := pushAll_overflow mark hk
    have hkpos := hk.pos hsize
    constructor
    · intro hmeets
      rcases Nat.lt_or_ge cap (total size (xs.filter p)) with hover' | hfit'
      · obtain ⟨j, hj⟩ := exists_overflowAt hover'
        have hjpos := hj.pos fun x hx => hsize x (List.mem_of_mem_filter hx)
        have heq := hmeets.overflow j hj
        rw [hws] at heq
        obtain ⟨htake, hnil⟩ := eq_of_append_none heq.symm
        have hlen := congrArg List.length htake
        have hjl := hj.1
        have hkl := hk.1
        rw [List.length_take, List.length_take] at hlen
        obtain rfl : j = k := by omega
        refine .inr ⟨j, hk, hj, ?_, hlast.mp hnil⟩
        rw [← htake]
        intro x hx
        exact (List.mem_filter.mp (List.mem_of_mem_take hx)).2
      · -- everything wanted fits, but the buffer holds a marker
        have heq := hmeets.fits hfit'
        have hnone : none ∈ (xs.filter p).map some := by
          rw [← heq, hws]
          simp
        simp at hnone
    · rintro (⟨hle, -⟩ | ⟨j, hj, hj', hown, hnone⟩)
      · omega
      · obtain rfl := hj.unique hk
        refine ⟨fun hle => absurd hj'.lt_total (by omega), fun i hi => ?_⟩
        obtain rfl := hi.unique hj'
        have hlen := hj.1
        rw [hws, hlast.mpr hnone, filter_take_eq (by omega) hown]
  · rw [pushAll_fits hfit]
    constructor
    · intro hmeets
      have heq := hmeets.fits (hsub.trans hfit)
      refine .inl ⟨hfit, ?_⟩
      have hmap : xs = xs.filter p := List.map_injective_iff.mpr (fun _ _ => Option.some.inj) heq
      exact List.filter_eq_self.mp hmap.symm
    · rintro (⟨-, hall⟩ | ⟨k, hk, -⟩)
      · rw [List.filter_eq_self.mpr hall]
        exact ⟨fun _ => rfl, fun k hk => absurd hk.lt_total (by omega)⟩
      · exact absurd hk.lt_total (by omega)

end RollbackBuffer
