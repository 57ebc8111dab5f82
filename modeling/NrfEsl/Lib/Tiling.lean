import Mathlib.Data.List.Basic

/-!
# Tilings by self-delimiting items

A stream of items whose first element declares the length of the item, as the TLVs of a binary
protocol do.  `declared x` is the length an item starting with `x` has, its first element
included.

* `Item declared` — a list exactly as long as its head declares.
* `IsCut` — the start of an item whose end is missing.
* `split` — reads items from the left as long as whole ones are there.

**Every list is items and a cut tail**: `flatten_split` and `isCut_split`.  The tail is empty
exactly when the items tile the list, and they do so in one way (`split_flatten`).

**A reader that overshoots.**  A program that trusts the declared length and only compares its
position with the end of the list reads one item too many when the tail is cut: `Visits`.
-/

namespace Tiling

variable {α : Type*} (declared : α → ℕ)

/-- The list is exactly as long as its head declares. -/
def IsItem : List α → Prop
  | [] => False
  | x :: xs => (x :: xs).length = declared x

/-- The list is shorter than its head declares. -/
def IsCut : List α → Prop
  | [] => False
  | x :: xs => (x :: xs).length < declared x

instance : DecidablePred (IsItem declared)
  | [] => inferInstanceAs (Decidable False)
  | x :: xs => inferInstanceAs (Decidable ((x :: xs).length = declared x))

instance : DecidablePred (IsCut declared)
  | [] => inferInstanceAs (Decidable False)
  | x :: xs => inferInstanceAs (Decidable ((x :: xs).length < declared x))

/-- A whole item. -/
structure Item where
  toList : List α
  isItem : IsItem declared toList

/-- The elements of a list of items, one after the other. -/
def flatten {declared : α → ℕ} (items : List (Item declared)) : List α := (items.map Item.toList).flatten

/-- Read items behind the unfinished item `cur`. -/
def splitFrom (cur : List α) : List α → List (Item declared) × List α
  | [] => ([], cur)
  | x :: xs =>
      if h : IsItem declared (cur ++ [x]) then
        let r := splitFrom [] xs
        (⟨cur ++ [x], h⟩ :: r.1, r.2)
      else splitFrom (cur ++ [x]) xs

/-- The items at the front of a list, and what is left behind the last whole one. -/
def split (xs : List α) : List (Item declared) × List α := splitFrom declared [] xs

variable {declared}

@[simp] lemma flatten_nil : flatten ([] : List (Item declared)) = [] := rfl

@[simp] lemma flatten_cons (t : Item declared) (ts : List (Item declared)) :
    flatten (t :: ts) = t.toList ++ flatten ts := by
  simp [flatten]

@[simp] lemma flatten_append (ts us : List (Item declared)) :
    flatten (ts ++ us) = flatten ts ++ flatten us := by
  simp [flatten]

lemma flatten_singleton (t : Item declared) : flatten [t] = t.toList := by
  rw [flatten_cons, flatten_nil, List.append_nil]

lemma flatten_concat (ts : List (Item declared)) (t : Item declared) :
    flatten (ts ++ [t]) = flatten ts ++ t.toList := by
  rw [flatten_append, flatten_singleton]

/-- An item has a head, and its head declares its length. -/
lemma Item.exists_head (t : Item declared) :
    ∃ x xs, t.toList = x :: xs ∧ t.toList.length = declared x := by
  obtain ⟨l, h⟩ := t
  cases l with
  | nil => exact h.elim
  | cons x xs => exact ⟨x, xs, rfl, h⟩

/-- A cut tail has a head that declares more than is there. -/
lemma IsCut.exists_head {l : List α} (h : IsCut declared l) :
    ∃ x xs, l = x :: xs ∧ l.length < declared x := by
  cases l with
  | nil => exact h.elim
  | cons x xs => exact ⟨x, xs, rfl, h⟩

lemma flatten_splitFrom (cur xs : List α) :
    flatten (splitFrom declared cur xs).1 ++ (splitFrom declared cur xs).2 = cur ++ xs := by
  induction xs generalizing cur with
  | nil => simp [splitFrom]
  | cons x xs ih =>
      simp only [splitFrom]
      split
      · rw [flatten_cons, List.append_assoc, ih]
        simp
      · rw [ih]
        simp

/-- An unfinished item stays unfinished or becomes whole when one element is added. -/
lemma isCut_concat {cur : List α} {x : α} (hpos : ∀ y, 0 < declared y)
    (hcur : cur = [] ∨ IsCut declared cur) (h : ¬ IsItem declared (cur ++ [x])) :
    IsCut declared (cur ++ [x]) := by
  cases cur with
  | nil =>
      have := hpos x
      simp only [List.nil_append, IsItem, IsCut, List.length_singleton] at h ⊢
      omega
  | cons y ys =>
      have hlt : (y :: ys).length < declared y := by simpa [IsCut] using hcur
      simp only [List.cons_append, IsItem, IsCut, List.length_cons, List.length_append,
        List.length_nil] at h hlt ⊢
      omega

lemma isCut_splitFrom (hpos : ∀ y, 0 < declared y) {cur : List α}
    (hcur : cur = [] ∨ IsCut declared cur) (xs : List α) :
    (splitFrom declared cur xs).2 = [] ∨ IsCut declared (splitFrom declared cur xs).2 := by
  induction xs generalizing cur with
  | nil => exact hcur
  | cons x xs ih =>
      simp only [splitFrom]
      split
      · exact ih (.inl rfl)
      · rename_i h
        exact ih (.inr (isCut_concat hpos hcur h))

/-- **Nothing is lost in a split.** -/
theorem flatten_split (xs : List α) :
    flatten (split declared xs).1 ++ (split declared xs).2 = xs :=
  flatten_splitFrom [] xs

/-- **A split stops only where no whole item is left.** -/
theorem isCut_split (hpos : ∀ y, 0 < declared y) (xs : List α) :
    (split declared xs).2 = [] ∨ IsCut declared (split declared xs).2 :=
  isCut_splitFrom hpos (.inl rfl) xs

/-! ## Splitting what is tiled -/

/-- An item that is read to its end. -/
lemma splitFrom_item {cur zs : List α} (hne : zs ≠ []) (h : IsItem declared (cur ++ zs))
    (xs : List α) : splitFrom declared cur (zs ++ xs)
      = (⟨cur ++ zs, h⟩ :: (split declared xs).1, (split declared xs).2) := by
  induction zs generalizing cur with
  | nil => exact absurd rfl hne
  | cons z zs ih =>
      rw [List.cons_append, splitFrom]
      cases zs with
      | nil =>
          rw [dif_pos h]
          rfl
      | cons z' zs =>
          -- the head declares more than has been read
          have hcut : ¬ IsItem declared (cur ++ [z]) := by
            cases cur with
            | nil =>
                simp only [List.nil_append, IsItem, List.length_cons, List.length_nil] at h ⊢
                omega
            | cons y ys =>
                simp only [List.cons_append, IsItem, List.length_cons, List.length_append,
                  List.length_nil] at h ⊢
                omega
          have h' : IsItem declared ((cur ++ [z]) ++ (z' :: zs)) := by
            rwa [List.append_assoc, List.singleton_append]
          rw [dif_neg hcut, ih (List.cons_ne_nil _ _) h']
          simp only [List.append_assoc, List.singleton_append]

/-- Items at the front are split off. -/
theorem split_flatten_append (ts : List (Item declared)) (xs : List α) :
    split declared (flatten ts ++ xs) = (ts ++ (split declared xs).1, (split declared xs).2) := by
  induction ts with
  | nil => rfl
  | cons t ts ih =>
      obtain ⟨x, ys, ht, -⟩ := t.exists_head
      have hne : t.toList ≠ [] := by
        rw [ht]
        exact List.cons_ne_nil _ _
      have h : IsItem declared ([] ++ t.toList) := t.isItem
      rw [flatten_cons, List.append_assoc, split, splitFrom_item hne h, ih]
      rfl

/-- **Items tile a list in one way only.** -/
theorem split_flatten (ts : List (Item declared)) :
    split declared (flatten ts) = (ts, []) := by
  have h := split_flatten_append ts []
  rwa [List.append_nil, show split declared ([] : List α) = ([], []) from rfl, List.append_nil] at h

/-- A cut list has no whole item. -/
lemma split_of_isCut {xs : List α} (h : IsCut declared xs) : split declared xs = ([], xs) := by
  have hcut : ∀ {cur ys : List α}, IsCut declared (cur ++ ys) →
      splitFrom declared cur ys = ([], cur ++ ys) := by
    intro cur ys
    induction ys generalizing cur with
    | nil =>
        intro _
        rw [splitFrom, List.append_nil]
    | cons y ys ih =>
        intro h
        have hno : ¬ IsItem declared (cur ++ [y]) := by
          cases cur with
          | nil =>
              simp only [List.nil_append, IsItem, IsCut, List.length_cons, List.length_nil] at h ⊢
              omega
          | cons z zs =>
              simp only [List.cons_append, IsItem, IsCut, List.length_cons, List.length_append,
                List.length_nil] at h ⊢
              omega
        have h' : IsCut declared ((cur ++ [y]) ++ ys) := by
          rwa [List.append_assoc, List.singleton_append]
        rw [splitFrom, dif_neg hno, ih h', List.append_assoc, List.singleton_append]
  exact hcut h

/-! ## Items that a reader comes to -/

/-- The items a reader comes to that does not look where the list ends: the whole items of the list,
and for a cut tail the item that the elements behind the list make of it. -/
def Visits (xs : List α) (ts : List (Item declared)) : Prop :=
  ((split declared xs).2 = [] ∧ ts = (split declared xs).1)
    ∨ ∃ t, (split declared xs).2 ≠ [] ∧ (split declared xs).2 <+: t.toList
        ∧ ts = (split declared xs).1 ++ [t]

/-- A list that is tiled is read item by item. -/
lemma visits_flatten (ts : List (Item declared)) : Visits (flatten ts) ts :=
  .inl (by rw [split_flatten]; exact ⟨rfl, rfl⟩)

/-- The items of a tiled list are the only ones a reader comes to. -/
lemma Visits.eq_of_flatten {ts us : List (Item declared)} (h : Visits (flatten ts) us) :
    us = ts := by
  rw [Visits, split_flatten] at h
  rcases h with ⟨-, h⟩ | ⟨t, hne, -⟩
  · exact h
  · exact absurd rfl hne

/-- A reader may be stopped behind any items of the list. -/
lemma exists_visits [Inhabited α] (hpos : ∀ y, 0 < declared y) (ts : List (Item declared))
    (xs : List α) : ∃ us, Visits (flatten ts ++ xs) us ∧ ts <+: us := by
  by_cases htail : (split declared xs).2 = []
  · refine ⟨ts ++ (split declared xs).1, .inl ?_, List.prefix_append _ _⟩
    rw [split_flatten_append]
    exact ⟨htail, rfl⟩
  · -- some elements behind the list complete the tail
    obtain ⟨y, ys, hy, hlt⟩ := ((isCut_split hpos xs).resolve_left htail).exists_head
    have hitem : IsItem declared
        (y :: (ys ++ List.replicate (declared y - (ys.length + 1)) default)) := by
      rw [hy, List.length_cons] at hlt
      simp only [IsItem, List.length_cons, List.length_append, List.length_replicate]
      omega
    refine ⟨ts ++ (split declared xs).1 ++ [⟨_, hitem⟩], .inr ⟨⟨_, hitem⟩, ?_, ?_, ?_⟩, ?_⟩
    · rw [split_flatten_append]
      exact htail
    · rw [split_flatten_append, hy]
      exact List.prefix_append (y :: ys) _
    · rw [split_flatten_append]
    · rw [List.append_assoc]
      exact List.prefix_append _ _

/-- The last item a reader comes to reaches behind the list. -/
lemma visits_overshoot {ts : List (Item declared)} {t : Item declared} {tail : List α}
    (hne : tail ≠ []) (hpre : tail <+: t.toList) (hlt : tail.length < t.toList.length) :
    Visits (flatten ts ++ tail) (ts ++ [t]) := by
  have hcut : IsCut declared tail := by
    obtain ⟨x, xs, ht, hlen⟩ := t.exists_head
    cases tail with
    | nil => exact absurd rfl hne
    | cons y ys =>
        rw [ht] at hpre
        obtain rfl := (List.cons_prefix_cons.mp hpre).1
        rw [hlen] at hlt
        exact hlt
  refine .inr ⟨t, ?_, ?_, ?_⟩
  · rw [split_flatten_append, split_of_isCut hcut]
    exact hne
  · rw [split_flatten_append, split_of_isCut hcut]
    exact hpre
  · rw [split_flatten_append, split_of_isCut hcut, List.append_nil]

end Tiling
