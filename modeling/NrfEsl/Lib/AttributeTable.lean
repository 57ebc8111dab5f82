import Mathlib.Data.List.TakeWhile

/-!
# Tables of declarations and what belongs to them

A flat list of entries in which some *declare* something: what comes behind a declaration, up to the
next one, belongs to it.  A reader looks for an entry of a given type that belongs to what it wants
(`lookUp`).

**A look-up stays in its section.**  What is found is behind the first declaration of what is
wanted, with no other declaration in between: `lookUp_eq_some`.  A reader that takes two steps, to
the declaration and from there to the entry, finds the same: `lookUp_of_find?`.
-/

namespace AttributeTable

variable {α β τ : Type*} [DecidableEq τ] (declares : α → Option τ) (type : α → τ)

/-- The entries that belong to the declaration before the list. -/
def belonging (entries : List α) : List α := entries.takeWhile fun a => declares a = none

/-- The first entry of a type that belongs to the first declaration of `u`. -/
def lookUp (u d : τ) : List α → Option α
  | [] => none
  | a :: rest =>
      if declares a = some u then (belonging declares rest).find? fun b => type b = d
      else lookUp u d rest

variable {declares type} {u d : τ} {entries : List α} {a : α}

/-- Where nothing is declared, nothing is found. -/
lemma lookUp_of_find?_none (h : entries.find? (fun a => declares a = some u) = none) :
    lookUp declares type u d entries = none := by
  induction entries with
  | nil => rfl
  | cons a rest ih =>
      rw [List.find?_cons] at h
      by_cases ha : declares a = some u
      · simp [ha] at h
      · rw [lookUp, if_neg ha]
        simp only [ha, decide_false] at h
        exact ih h

/-- A declaration splits the list. -/
lemma exists_split (type : α → τ) (d : τ)
    (h : entries.find? (fun a => declares a = some u) = some a) :
    ∃ before behind, entries = before ++ a :: behind ∧ lookUp declares type u d entries
      = (belonging declares behind).find? fun b => type b = d := by
  induction entries with
  | nil => cases h
  | cons b rest ih =>
      rw [List.find?_cons] at h
      by_cases hb : declares b = some u
      · simp only [hb, decide_true, Option.some_inj] at h
        subst h
        exact ⟨[], rest, rfl, by rw [lookUp, if_pos hb]⟩
      · simp only [hb, decide_false] at h
        obtain ⟨before, behind, rfl, hlook⟩ := ih h
        exact ⟨b :: before, behind, rfl, by rw [lookUp, if_neg hb, hlook]⟩

/-- **Two steps find what one finds.** -/
theorem lookUp_of_find? {next : α → τ → Option α}
    (hnext : ∀ before a behind v, entries = before ++ a :: behind →
      next a v = (belonging declares behind).find? fun b => type b = v)
    (h : entries.find? (fun a => declares a = some u) = some a) :
    next a d = lookUp declares type u d entries := by
  obtain ⟨before, behind, heq, hlook⟩ := exists_split type d h
  rw [hlook, hnext before a behind d heq]

/-- **What is found belongs to what is wanted.** -/
theorem lookUp_eq_some (h : lookUp declares type u d entries = some a) :
    type a = d ∧ ∃ before decl between behind, entries = before ++ decl :: (between ++ a :: behind)
      ∧ declares decl = some u ∧ declares a = none ∧ ∀ b ∈ between, declares b = none := by
  induction entries with
  | nil => cases h
  | cons b rest ih =>
      by_cases hb : declares b = some u
      · rw [lookUp, if_pos hb] at h
        obtain ⟨htype, between, tail, hsection, -⟩ := List.find?_eq_some_iff_append.mp h
        obtain ⟨behind, hrest⟩ : belonging declares rest <+: rest := List.takeWhile_prefix _
        have hall : ∀ c ∈ between ++ a :: tail, declares c = none := by
          intro c hc
          rw [← hsection, belonging] at hc
          have hnone := List.mem_takeWhile_imp hc
          exact of_decide_eq_true hnone
        refine ⟨of_decide_eq_true htype, [], b, between, tail ++ behind, ?_, hb, ?_, ?_⟩
        · rw [← hrest, hsection]
          simp
        · exact hall a (by simp)
        · exact fun c hc => hall c (List.mem_append_left _ hc)
      · rw [lookUp, if_neg hb] at h
        obtain ⟨htype, before, decl, between, behind, rfl, hrest⟩ := ih h
        exact ⟨htype, b :: before, decl, between, behind, rfl, hrest⟩

end AttributeTable
