import Mathlib.Data.List.Basic
import Mathlib.Logic.Function.Basic
import NrfEsl.Lib.Device

/-!
# A file system used through one handle

Files are byte sequences under paths.  A program holds one file object, which is either not open or
stands at a position of a file; every call but the ones that name a path goes through it.

* `View` — what can be observed: the contents of the files and the file object.
* `ref` — the calls when they work.  Writing overwrites in place and never shortens a file
  (`overwrite`); a gap behind its end is filled with zeros.
* `Failed` — the frame of a failing call.  It changes no file but the one it is about, it opens
  nothing, and what a failing read delivers is some first part of what it would have delivered.

`contents_of_allowed` and `readyFor_of_allowed` are the frame rules: a call through the file object
changes at most the file that is open, and leaves the object open for that file or not at all.
-/

namespace FileSystem

/-- `-EBADF` -/
def ebadf : Int := -9
/-- `-EBUSY` -/
def ebusy : Int := -16
/-- `-EINVAL` -/
def einval : Int := -22
/-- `-ENOENT` -/
def enoent : Int := -2

/-- The files, and the file object with its position. -/
structure View (Path : Type) where
  contents : Path → Option (List UInt8)
  file : Option (Path × ℕ)

/-- The path the file object is open for. -/
def View.openPath {Path : Type} (v : View Path) : Option Path := v.file.map Prod.fst

/-- The calls; `mount` starts a program, with no file open. -/
inductive Call (Path : Type)
  | mount
  | fileInit
  | isOpen
  | openFile (p : Path)
  | close
  | sync
  | seek (off : Int)
  | write (data : List UInt8)
  | read (len : ℕ)
  | stat (p : Path)
  | unlink (p : Path)

/-- A status, with the bytes read or the size found where there are some. -/
@[reducible] def Call.Res {Path : Type} : Call Path → Type
  | fileInit => Unit
  | isOpen => Bool
  | read _ => Int × List UInt8
  | stat _ => Int × ℕ
  | _ => Int

/-- `old` with `data` written at `pos`. -/
def overwrite (old : List UInt8) (pos : ℕ) (data : List UInt8) : List UInt8 :=
  old.take pos ++ List.replicate (pos - old.length) 0 ++ data ++ old.drop (pos + data.length)

lemma length_overwrite (old : List UInt8) (pos : ℕ) (data : List UInt8) :
    (overwrite old pos data).length = max old.length (pos + data.length) := by
  simp only [overwrite, List.length_append, List.length_take, List.length_replicate,
    List.length_drop]
  omega

variable {Path : Type} [DecidableEq Path]

/-- The calls when they work. -/
def ref : (c : Call Path) → View Path → c.Res × View Path
  | .mount, v => (0, { v with file := none })
  | .fileInit, v => ((), { v with file := none })
  | .isOpen, v => (v.file.isSome, v)
  | .openFile p, v =>
      match v.file with
      | some _ => (ebusy, v)
      | none =>
          (0, ⟨Function.update v.contents p (some ((v.contents p).getD [])), some (p, 0)⟩)
  | .close, v => (0, { v with file := none })
  | .sync, v => (if v.file.isSome then 0 else ebadf, v)
  | .seek off, v =>
      match v.file with
      | none => (ebadf, v)
      | some (p, _) =>
          if off < 0 then (einval, v) else (0, { v with file := some (p, off.toNat) })
  | .write data, v =>
      match v.file with
      | none => (ebadf, v)
      | some (p, pos) =>
          (data.length,
            ⟨Function.update v.contents p (some (overwrite ((v.contents p).getD []) pos data)),
              some (p, pos + data.length)⟩)
  | .read len, v =>
      match v.file with
      | none => ((ebadf, []), v)
      | some (p, pos) =>
          let bytes := (((v.contents p).getD []).drop pos).take len
          ((bytes.length, bytes), { v with file := some (p, pos + bytes.length) })
  | .stat p, v =>
      match v.contents p with
      | none => ((enoent, 0), v)
      | some c => ((0, c.length), v)
  | .unlink p, v =>
      match v.contents p with
      | none => (enoent, v)
      | some _ => (0, { v with contents := Function.update v.contents p none })

/-- The file a call may change. -/
def target : Call Path → View Path → Option Path
  | .openFile p, _ | .unlink p, _ => some p
  | .close, v | .sync, v | .write _, v => v.openPath
  | _, _ => none

/-- The bytes a call delivers. -/
def delivered : (c : Call Path) → c.Res → List UInt8
  | .read _, r => r.2
  | _, _ => []

/-- What a call may do besides working. -/
structure Failed (c : Call Path) (v : View Path) (r : c.Res) (v' : View Path) : Prop where
  contents : ∀ p, target c v ≠ some p → v'.contents p = v.contents p
  file : v'.file = none ∨ v'.openPath = v.openPath
  isOpen : c ≠ .isOpen
  fileInit : c ≠ .fileInit
  delivered : delivered c r <+: delivered c (ref c v).1

/-- The file system as an interface. -/
def interface (Path : Type) [DecidableEq Path] : Interface where
  Call := Call Path
  Res := Call.Res
  View := View Path
  ref := ref
  Allowed c v r v' := ref c v = (r, v') ∨ Failed c v r v'
  ref_allowed _ _ := .inl rfl

/-! ## The frame of a call -/

section Frame

variable {c : Call Path} {v v' : View Path} {r : c.Res} {p : Path}

/-- The file object is closed or open for `p`. -/
def View.ReadyFor (v : View Path) (p : Path) : Prop := v.file = none ∨ v.openPath = some p

instance (v : View Path) (p : Path) : Decidable (v.ReadyFor p) :=
  inferInstanceAs (Decidable (v.file = none ∨ v.openPath = some p))

omit [DecidableEq Path] in
lemma View.ReadyFor.path_eq (h : v.ReadyFor p) {q : Path} (hq : v.openPath = some q) : q = p := by
  rcases h with hnone | hp
  · rw [View.openPath, hnone] at hq
    cases hq
  · exact Option.some.inj (hq.symm.trans hp)

/-- Only the target of a call changes when it works. -/
lemma ref_contents (h : target c v ≠ some p) : (ref c v).2.contents p = v.contents p := by
  cases c with
  | openFile q =>
      have hqp : p ≠ q := fun hpq => h (congrArg some hpq.symm)
      simp only [ref]
      cases v.file with
      | none => exact Function.update_of_ne hqp _ _
      | some _ => rfl
  | unlink q =>
      have hqp : p ≠ q := fun hpq => h (congrArg some hpq.symm)
      simp only [ref]
      cases v.contents q with
      | none => rfl
      | some _ => exact Function.update_of_ne hqp _ _
  | write data =>
      simp only [target, View.openPath] at h
      simp only [ref]
      cases hfile : v.file with
      | none => rfl
      | some f =>
          have hqp : p ≠ f.1 := by
            rintro rfl
            exact h (by rw [hfile]; rfl)
          exact Function.update_of_ne hqp _ _
  | seek off =>
      simp only [ref]
      cases v.file with
      | none => rfl
      | some f =>
          dsimp only
          split <;> rfl
  | read len =>
      simp only [ref]
      cases v.file with
      | none => rfl
      | some f => rfl
  | stat q =>
      simp only [ref]
      cases v.contents q with
      | none => rfl
      | some _ => rfl
  | mount | fileInit | isOpen | close | sync => rfl

/-- Only writing and deleting change what is read; a file that is opened is at most created. -/
lemma getD_ref_contents (hwrite : ∀ data, c ≠ .write data) (hunlink : ∀ q, c ≠ .unlink q) (p : Path) :
    ((ref c v).2.contents p).getD [] = (v.contents p).getD [] := by
  cases c with
  | openFile q =>
      simp only [ref]
      cases v.file with
      | none =>
          by_cases hpq : p = q
          · subst hpq
            simp only [Function.update_self, Option.getD_some]
          · simp only [Function.update_of_ne hpq]
      | some f => rfl
  | write data => exact absurd rfl (hwrite data)
  | unlink q => exact absurd rfl (hunlink q)
  | close => rfl
  | sync => rfl
  | mount | fileInit | isOpen | seek | read | stat => rw [ref_contents (by rintro ⟨⟩)]

/-- **The frame rule for files.**  A call changes at most the file it is about. -/
theorem contents_of_allowed (h : (interface Path).Allowed c v r v') (hp : target c v ≠ some p) :
    v'.contents p = v.contents p := by
  rcases h with href | hfailed
  · have hv : (ref c v).2 = v' := congrArg Prod.snd href
    rw [← hv]
    exact ref_contents hp
  · exact hfailed.contents p hp

lemma ref_readyFor (h : v.ReadyFor p) (hopen : ∀ q, c = .openFile q → q = p) :
    (ref c v).2.ReadyFor p := by
  cases c with
  | mount | fileInit | close => exact .inl rfl
  | isOpen | sync => exact h
  | openFile q =>
      simp only [ref]
      cases hfile : v.file with
      | none => exact .inr (congrArg some (hopen q rfl))
      | some f => exact h
  | seek off =>
      simp only [ref]
      cases hfile : v.file with
      | none => exact h
      | some f =>
          dsimp only
          split
          · exact h
          · refine .inr (congrArg some (h.path_eq ?_))
            rw [View.openPath, hfile]
            rfl
  | write data =>
      simp only [ref]
      cases hfile : v.file with
      | none => exact h
      | some f =>
          refine .inr (congrArg some (h.path_eq ?_))
          rw [View.openPath, hfile]
          rfl
  | read len =>
      simp only [ref]
      cases hfile : v.file with
      | none => exact h
      | some f =>
          refine .inr (congrArg some (h.path_eq ?_))
          rw [View.openPath, hfile]
          rfl
  | stat q =>
      simp only [ref]
      cases v.contents q with
      | none => exact h
      | some _ => exact h
  | unlink q =>
      simp only [ref]
      cases v.contents q with
      | none => exact h
      | some _ => exact h

/-- **The frame rule for the file object.**  It stays closed or open for `p` as long as no other
path is opened. -/
theorem readyFor_of_allowed (h : (interface Path).Allowed c v r v') (hp : v.ReadyFor p)
    (hopen : ∀ q, c = .openFile q → q = p) : v'.ReadyFor p := by
  rcases h with href | hfailed
  · have hv : (ref c v).2 = v' := congrArg Prod.snd href
    rw [← hv]
    exact ref_readyFor hp hopen
  · rcases hfailed.file with hnone | hsame
    · exact .inl hnone
    · rcases hp with hnone | hpath
      · refine .inl ?_
        rw [View.openPath, View.openPath, hnone] at hsame
        exact Option.map_eq_none_iff.mp hsame
      · exact .inr (hsame.trans hpath)

/-- What is delivered comes from the open file. -/
theorem delivered_of_allowed (h : (interface Path).Allowed c v r v') (hp : v.ReadyFor p) :
    ∃ pos len, delivered c r = (((v.contents p).getD []).drop pos).take len := by
  have href : ∃ pos len, delivered c (ref c v).1 = (((v.contents p).getD []).drop pos).take len := by
    cases c with
    | read len =>
        simp only [delivered, ref]
        cases hfile : v.file with
        | none => exact ⟨0, 0, rfl⟩
        | some f =>
            have hfp : f.1 = p := hp.path_eq (by rw [View.openPath, hfile]; rfl)
            exact ⟨f.2, len, by rw [← hfp]⟩
    | _ => exact ⟨0, 0, rfl⟩
  obtain ⟨pos, len, hslice⟩ := href
  rcases h with hr | hfailed
  · have hres : (ref c v).1 = r := congrArg Prod.fst hr
    exact ⟨pos, len, hres ▸ hslice⟩
  · have hprefix := hfailed.delivered
    rw [hslice] at hprefix
    refine ⟨pos, min (delivered c r).length len, ?_⟩
    rw [← List.take_take]
    exact List.prefix_iff_eq_take.mp hprefix

end Frame

end FileSystem
