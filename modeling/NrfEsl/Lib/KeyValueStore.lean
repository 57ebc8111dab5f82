import Mathlib.Data.List.AList

/-!
# Key-value stores that are loaded entry by entry

A persistent store is a finite map; what a program keeps in it comes back by a **load**, which calls a
handler once for each entry.  The store chooses the order of these calls, so an `Enumeration` is any
way to list the entries of every store.

**The rules.**  A component of the loaded state that only the entry of one key changes depends on that
entry alone, whatever the order is and whatever else is in the store: `Enumeration.load_component`.  A
load can be carried out on an image of the state: `Enumeration.load_hom`.
-/

/-- A store: finitely many keys, each with one value. -/
abbrev KeyValueStore (κ ν : Type*) := AList fun _ : κ => ν

namespace KeyValueStore

variable {κ ν σ α : Type*}

/-- How a store lists its entries. -/
structure Enumeration (κ ν : Type*) where
  entries : KeyValueStore κ ν → List (Σ _ : κ, ν)
  perm : ∀ s, (entries s).Perm s.entries

/-- The enumeration in the order in which the entries are kept. -/
def Enumeration.stored (κ ν : Type*) : Enumeration κ ν where
  entries s := s.entries
  perm _ := .refl _

/-- Call a handler for every entry. -/
def Enumeration.load (E : Enumeration κ ν) (handler : σ → κ → ν → σ) (s : KeyValueStore κ ν)
    (x : σ) : σ :=
  (E.entries s).foldl (fun x entry => handler x entry.1 entry.2) x

/-- Loading through a map that the handlers respect. -/
theorem Enumeration.load_hom {τ : Type*} (E : Enumeration κ ν) {handler : σ → κ → ν → σ}
    {handler' : τ → κ → ν → τ} (φ : σ → τ)
    (h : ∀ x k v, handler' (φ x) k v = φ (handler x k v)) (s : KeyValueStore κ ν) (x : σ) :
    E.load handler' s (φ x) = φ (E.load handler s x) := by
  simp only [load]
  induction E.entries s generalizing x with
  | nil => rfl
  | cons entry l ih => rw [List.foldl_cons, h, ih, List.foldl_cons]

variable [DecidableEq κ] {handler : σ → κ → ν → σ} {f : σ → α} {k : κ} {g : ν → α → α}

/-- What no entry of a list changes, the list leaves alone. -/
lemma foldl_of_dlookup_eq_none (hother : ∀ x k' v, k' ≠ k → f (handler x k' v) = f x)
    {l : List (Σ _ : κ, ν)} (hl : l.dlookup k = none) (x : σ) :
    f (l.foldl (fun x entry => handler x entry.1 entry.2) x) = f x := by
  induction l generalizing x with
  | nil => rfl
  | cons entry l ih =>
      have hk : k ∉ List.keys (entry :: l) := List.dlookup_eq_none.mp hl
      rw [List.keys_cons, List.mem_cons, not_or] at hk
      rw [List.foldl_cons, ih (List.dlookup_eq_none.mpr hk.2), hother _ _ _ (Ne.symm hk.1)]

/-- One key in a list without duplicates. -/
lemma foldl_component (hother : ∀ x k' v, k' ≠ k → f (handler x k' v) = f x)
    (hself : ∀ x v, f (handler x k v) = g v (f x)) {l : List (Σ _ : κ, ν)} (hl : l.NodupKeys)
    (x : σ) :
    f (l.foldl (fun x entry => handler x entry.1 entry.2) x)
      = (l.dlookup k).elim (f x) fun v => g v (f x) := by
  induction l generalizing x with
  | nil => rfl
  | cons entry l ih =>
      obtain ⟨k', v⟩ := entry
      rw [List.foldl_cons]
      by_cases hk : k = k'
      · subst hk
        have hrest : l.dlookup k = none :=
          List.dlookup_eq_none.mpr (List.notMem_keys_of_nodupKeys_cons hl)
        rw [foldl_of_dlookup_eq_none hother hrest, hself, List.dlookup_cons_eq]
        rfl
      · have hskip : List.dlookup k (⟨k', v⟩ :: l : List (Σ _ : κ, ν)) = l.dlookup k :=
          List.dlookup_cons_ne l _ hk
        rw [ih (List.nodupKeys_of_nodupKeys_cons hl), hother _ _ _ (Ne.symm hk), hskip]

/-- **Loading one component.**  It depends on the entry of its key alone. -/
theorem Enumeration.load_component (E : Enumeration κ ν) (f : σ → α) (k : κ) (g : ν → α → α)
    (hother : ∀ x k' v, k' ≠ k → f (handler x k' v) = f x)
    (hself : ∀ x v, f (handler x k v) = g v (f x)) (s : KeyValueStore κ ν) (x : σ) :
    f (E.load handler s x) = (s.lookup k).elim (f x) fun v => g v (f x) := by
  have hnodup : (E.entries s).NodupKeys := (List.perm_nodupKeys (E.perm s)).mpr s.nodupKeys
  rw [Enumeration.load, foldl_component hother hself hnodup, AList.lookup,
    List.perm_dlookup k hnodup (E.perm s)]

end KeyValueStore
