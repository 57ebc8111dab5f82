import NrfEsl.Ap.ImageWorker
import NrfEsl.Lib.TransitionSystem

/-!
# Sync transfer after the images

When the worker has nothing left to do, every automatically configured tag should have its images and,
after them, a sync transfer; and none should be transferred to before its images.

**The target.**  The worker does not remember whose images it has sent: it always calls `esl_c_past(0)`.
It does so only with an empty queue, so never too early.  The tags are served along a run exactly when
the worker never comes to rest after a tag on another connection than 0 (`pastAfterImages_iff`).
-/

namespace NrfEsl

open TransitionSystem

/-- Sync is transferred to the connection, and after it no image and no configuration follows. -/
def Served (connIdx : UInt8) (log : List ImageAction) : Prop :=
  ∃ before after, log = before ++ .past connIdx :: after ∧ .configured connIdx ∉ after ∧
    ∀ data, .transferred data ∈ after → data.connIdx ≠ connIdx

namespace ImageWorker

/-- The images that are queued or being written. -/
def images (s : ImageWorker) : List ImageWorkerData := s.msgq ++ s.writing.toList

/-- The worker is neither queued nor running. -/
def Idle (s : ImageWorker) : Prop := s.scheduled = false ∧ s.writing = none

structure PastAfterImages (s : ImageWorker) : Prop where
  /-- The images have been sent, and sync after them, when the worker has come to rest. -/
  served : s.Idle → s.images = [] ∧ ∀ connIdx, .configured connIdx ∈ s.log → Served connIdx s.log
  /-- Where sync has just been transferred, no image is left. -/
  notEarly : ∀ connIdx, s.log.getLast? = some (.past connIdx) →
    ∀ data ∈ s.images, data.connIdx ≠ connIdx

/-- All tags configured so far are on connection 0. -/
def FirstOnly (s : ImageWorker) : Prop := ∀ connIdx, .configured connIdx ∈ s.log → connIdx = 0

/-- The worker comes to rest only while the tags are on connection 0. -/
def RestsOnFirst (s : ImageWorker) : ImageEvent → Prop
  | .configure _ _ => True
  | .work => s.msgq = [] → s.FirstOnly
  | .written => s.msgq = [] → s.scheduled = false → s.FirstOnly

structure Sound (s : ImageWorker) : Prop where
  done : s.PastAfterImages
  /-- Sync is never transferred anywhere else. -/
  past_first : ∀ connIdx, .past connIdx ∈ s.log → connIdx = 0

/-! ## What the log says -/

lemma served_append_past (connIdx : UInt8) (log : List ImageAction) :
    Served connIdx (log ++ [.past connIdx]) :=
  ⟨log, [], rfl, List.not_mem_nil, fun _ h => absurd h List.not_mem_nil⟩

lemma past_mem_of_served {connIdx : UInt8} {log : List ImageAction} (h : Served connIdx log) :
    .past connIdx ∈ log := by
  obtain ⟨before, after, rfl, -, -⟩ := h
  simp

variable {s s' : ImageWorker}

/-- A sync transfer at rest serves all tags exactly when they are on connection 0. -/
lemma served_past_iff {log : List ImageAction} (hpast : ∀ connIdx, .past connIdx ∈ log → connIdx = 0) :
    (∀ connIdx, .configured connIdx ∈ log ++ [.past 0] → Served connIdx (log ++ [.past 0])) ↔
      ∀ connIdx, .configured connIdx ∈ log → connIdx = 0 := by
  constructor
  · intro h connIdx hmem
    have hserved := h connIdx (List.mem_append_left _ hmem)
    rcases List.mem_append.mp (past_mem_of_served hserved) with hold | hnew
    · exact hpast connIdx hold
    · cases List.mem_singleton.mp hnew
      rfl
  · intro h connIdx hmem
    rcases List.mem_append.mp hmem with hold | hnew
    · rw [h connIdx hold]
      exact served_append_past 0 log
    · cases List.mem_singleton.mp hnew

/-! ## What the operations do -/

lemma frame_puts (connIdx : UInt8) (images : List (UInt8 × UInt8)) (s : ImageWorker) :
    (images.foldl (fun s image => s.kMsgqPut ⟨connIdx, image.2, image.1⟩) s).log = s.log := by
  induction images generalizing s with
  | nil => rfl
  | cons image images ih =>
      rw [List.foldl_cons, ih, kMsgqPut]
      split_ifs <;> rfl

lemma log_eslCAutoConfiguringTag (connIdx : UInt8) (pnpPid : UInt16) :
    (s.eslCAutoConfiguringTag connIdx pnpPid).log = s.log ++ [.configured connIdx] := by
  simp only [eslCAutoConfiguringTag, frame_puts]

/-- Sync to connection 0 with nothing queued. -/
lemma sound_past (hpast : ∀ connIdx, .past connIdx ∈ s.log → connIdx = 0) (hmsgq : s.msgq = [])
    (hwriting : s.writing = none) (h : s.scheduled = false → s.FirstOnly) : (s.eslCPast 0).Sound := by
  have himages : (s.eslCPast 0).images = [] := by
    rw [images, eslCPast, hmsgq, hwriting]
    rfl
  refine ⟨⟨?_, ?_⟩, ?_⟩
  · intro hidle
    exact ⟨himages, (served_past_iff hpast).mpr (h hidle.1)⟩
  · intro connIdx _ data hdata
    rw [himages] at hdata
    cases hdata
  · intro connIdx hmem
    rcases List.mem_append.mp hmem with hold | hnew
    · exact hpast connIdx hold
    · cases List.mem_singleton.mp hnew
      rfl

/-- At rest after a sync transfer, the tags are served only if they are on connection 0. -/
lemma firstOnly_of_past (hpast : ∀ connIdx, .past connIdx ∈ s.log → connIdx = 0)
    (hidle : s.Idle) (h : (s.eslCPast 0).PastAfterImages) : s.FirstOnly :=
  (served_past_iff hpast).mp (h.served hidle).2

lemma sound_configure (hs : s.Sound) (connIdx : UInt8) (pnpPid : UInt16) :
    (s.eslCAutoConfiguringTag connIdx pnpPid).Sound := by
  have hlog := log_eslCAutoConfiguringTag (s := s) connIdx pnpPid
  have hbusy : ¬(s.eslCAutoConfiguringTag connIdx pnpPid).Idle := fun hidle => by cases hidle.1
  refine ⟨⟨fun hidle => absurd hidle hbusy, ?_⟩, ?_⟩
  · intro connIdx' hlast
    rw [hlog, List.getLast?_concat] at hlast
    cases hlast
  · intro connIdx' hmem
    rw [hlog] at hmem
    rcases List.mem_append.mp hmem with hold | hnew
    · exact hs.past_first connIdx' hold
    · cases List.mem_singleton.mp hnew

lemma past_mem_append_transferred {connIdx : UInt8} {data : ImageWorkerData}
    {log : List ImageAction} :
    .past connIdx ∈ log ++ [.transferred data] ↔ .past connIdx ∈ log := by
  simp

lemma configured_mem_append_transferred {connIdx : UInt8} {data : ImageWorkerData}
    {log : List ImageAction} :
    .configured connIdx ∈ log ++ [.transferred data] ↔ .configured connIdx ∈ log := by
  simp

/-! ## Runs -/

lemma sound_step (hs : s.Sound) {e : ImageEvent} (h : s.RestsOnFirst e)
    (hstep : s.step e = some s') : s'.Sound := by
  cases e with
  | configure connIdx pnpPid =>
      cases hstep
      exact sound_configure hs connIdx pnpPid
  | work =>
      obtain ⟨⟨-, hwriting⟩, hs'⟩ := Option.ite_none_right_eq_some.mp hstep
      cases hs'
      cases hmsgq : s.msgq with
      | nil =>
          simp only [eslOtsWriteImgWorkFn]
          exact sound_past hs.past_first rfl hwriting fun _ => h hmsgq
      | cons data rest =>
          simp only [eslOtsWriteImgWorkFn]
          refine ⟨⟨fun hidle => (by cases hidle.2), ?_⟩, hs.past_first⟩
          intro connIdx hlast data' hdata
          refine hs.done.notEarly connIdx hlast data' ?_
          simp only [images, hmsgq, hwriting, Option.toList_some, Option.toList_none, List.mem_append,
            List.mem_cons, List.not_mem_nil, or_false] at hdata ⊢
          exact hdata.symm
  | written =>
      obtain ⟨data, -, rfl⟩ := Option.map_eq_some_iff.mp hstep
      cases hmsgq : s.msgq with
      | nil =>
          simp only [afterWrite, hmsgq]
          refine sound_past ?_ rfl rfl ?_
          · exact fun connIdx hmem => hs.past_first connIdx (past_mem_append_transferred.mp hmem)
          · intro hsched connIdx hmem
            exact h hmsgq hsched connIdx (configured_mem_append_transferred.mp hmem)
      | cons next rest =>
          simp only [afterWrite, hmsgq]
          refine ⟨⟨fun hidle => (by cases hidle.1), ?_⟩, ?_⟩
          · intro connIdx hlast
            rw [List.getLast?_concat] at hlast
            cases hlast
          · exact fun connIdx hmem => hs.past_first connIdx (past_mem_append_transferred.mp hmem)

lemma restsOnFirst_of_past (hs : s.Sound) {e : ImageEvent} (hstep : s.step e = some s')
    (h : s'.PastAfterImages) : s.RestsOnFirst e := by
  cases e with
  | configure connIdx pnpPid => trivial
  | work =>
      intro hmsgq
      obtain ⟨⟨-, hwriting⟩, hs'⟩ := Option.ite_none_right_eq_some.mp hstep
      cases hs'
      simp only [eslOtsWriteImgWorkFn, hmsgq] at h
      exact firstOnly_of_past (s := { s with msgq := [], scheduled := false }) hs.past_first
        ⟨rfl, hwriting⟩ h
  | written =>
      intro hmsgq hsched connIdx hmem
      obtain ⟨data, -, rfl⟩ := Option.map_eq_some_iff.mp hstep
      simp only [afterWrite, hmsgq] at h
      refine firstOnly_of_past
        (s := { s with msgq := [], writing := none, log := s.log ++ [.transferred data] }) ?_
        ⟨hsched, rfl⟩ h connIdx (configured_mem_append_transferred.mpr hmem)
      exact fun connIdx' hmem' => hs.past_first connIdx' (past_mem_append_transferred.mp hmem')

lemma sound_init : init.Sound where
  done := ⟨fun _ => ⟨rfl, fun _ h => absurd h List.not_mem_nil⟩, fun _ h => by cases h⟩
  past_first := fun _ h => absurd h List.not_mem_nil

/-- Sync follows the images of every tag along a run exactly when the worker never comes to rest
after a tag on another connection than 0. -/
theorem pastAfterImages_iff (es : List ImageEvent) :
    AlongRun step PastAfterImages init es ↔ StepsMeet step RestsOnFirst init es := by
  refine alongRun_iff_stepsMeet (I := Sound) (fun _ hs => hs.done) ?_ ?_ sound_init
  · intro s e s' hs h hstep
    exact sound_step hs h hstep
  · intro s e s' hs hstep h
    exact restsOnFirst_of_past hs hstep h

/-- A tag on connection 1, with one image or with none, is left without sync. -/
theorem not_pastAfterImages :
    ¬AlongRun step PastAfterImages init [.configure 1 0x5486, .work, .written]
      ∧ ¬AlongRun step PastAfterImages init [.configure 1 0x5479, .work] := by
  constructor
  · intro h
    have hserved := (h.last rfl).served ⟨rfl, rfl⟩
    have hpast := past_mem_of_served (hserved.2 1 (by decide))
    exact absurd hpast (by decide)
  · intro h
    have hserved := (h.last rfl).served ⟨rfl, rfl⟩
    have hpast := past_mem_of_served (hserved.2 1 (by decide))
    exact absurd hpast (by decide)

end ImageWorker

end NrfEsl
