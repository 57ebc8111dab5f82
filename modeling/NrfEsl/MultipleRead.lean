import NrfEsl.Ap.ReadMulti
import NrfEsl.Lib.TransitionSystem

/-!
# Multiple reads, one after the other

A read is in order when every value it delivers is stored in its own field, on its own connection, and
`read_chrc` is set at the end.  Three things stand against it.

* **An empty value** resets `chrc_read_offset`, so the values behind it are stored from the display
  field on (`stores_behind`).
* **An error** neither sets `read_chrc` nor resets `chrc_read_offset`, so the next read, of any connection,
  starts where this one ended.
* The lengths are not compared with the fields.

`multipleRead_iff` says that nothing else does: all reads are in order exactly when each of them by itself
is free of this.
-/

namespace NrfEsl

open TransitionSystem

namespace ReadProcedure

/-- What is delivered, each value with the field that is its own. -/
def delivered (p : ReadProcedure) : List (ReadField × List UInt8) :=
  if p.connected = true ∧ p.gattErr = 0 then ReadField.all.zip p.values else []

end ReadProcedure

/-- Values that are to be stored: all of them, or those that have a byte. -/
inductive StoreRule
  | all | nonempty

def StoreRule.keeps : StoreRule → ReadField × List UInt8 → Bool
  | .all, _ => true
  | .nonempty, x => !x.2.isEmpty

lemma keeps_of_ne_nil {field : ReadField} {data : List UInt8} (h : data ≠ []) :
    StoreRule.nonempty.keeps (field, data) = true := by
  cases data with
  | nil => exact absurd rfl h
  | cons b data => rfl

/-- The stores of some values. -/
def storesOf (connIdx : ℕ) (xs : List (ReadField × List UInt8)) : List ReadAction :=
  xs.map fun x => .store connIdx x.1 x.2

variable (cfg : ElementConfig)

/-- The fields of a device once the values are stored. -/
def storeAll : List (ReadField × List UInt8) → ElementInfo → ElementInfo
  | [], e => e
  | x :: xs, e => storeAll xs (storeField cfg x.1 x.2 (fun _ => 0) e).val.2

/-- What a read has done. -/
def MultiRead.actions (s s' : MultiRead) : List ReadAction := s'.log.drop s.log.length

/-- **A read in order**: no array is overrun, what is stored is every value that is kept, in its own field,
the fields of the connection are changed by that and those of the others not, and the last thing done
is to set the flag. -/
structure ReadInOrder (k : StoreRule) (s : MultiRead) (p : ReadProcedure) (x : Traced MultiRead) : Prop where
  safe : x.Safe
  stores : (s.actions x.val).filter ReadAction.isStore
    = storesOf p.connIdx (p.delivered.filter k.keeps)
  elements : x.val.elements = Function.update s.elements p.connIdx
    (storeAll cfg (p.delivered.filter k.keeps) (s.elements p.connIdx))
  flag : (s.actions x.val).getLast? = some .setFlag

/-! ## What is done with the values -/

section Actions

variable {cfg} {connIdx : ℕ}

/-- Where the next value is stored. -/
def nextOffset (o : ℕ) (data : List UInt8) : ℕ :=
  if data = [] then 0
  else
    match ReadField.all[o]? with
    | some _ => o + 1
    | none => o

def offsetAfter : ℕ → List (List UInt8) → ℕ
  | o, [] => o
  | o, data :: values => offsetAfter (nextOffset o data) values

lemma offsetAfter_append_nil (o : ℕ) (values : List (List UInt8)) :
    offsetAfter o (values ++ [[]]) = 0 := by
  induction values generalizing o with
  | nil => rfl
  | cons data values ih => exact ih (nextOffset o data)

/-- What a callback does. -/
def action (connIdx o : ℕ) (data : List UInt8) : ReadAction :=
  if data = [] then .setFlag
  else
    match ReadField.all[o]? with
    | some field => .store connIdx field data
    | none => .setFlag

def actionsFrom (connIdx : ℕ) : ℕ → List (List UInt8) → List ReadAction
  | _, [] => []
  | o, data :: values => action connIdx o data :: actionsFrom connIdx (nextOffset o data) values

lemma eslCReadMulti_of_err {err : UInt8} (h : err ≠ 0) (data : List UInt8) (s : MultiRead) :
    eslCReadMulti cfg connIdx err data s = pure s :=
  if_pos h

lemma eslCReadMulti_nil (s : MultiRead) :
    eslCReadMulti cfg connIdx 0 [] s = pure ({ s with chrcReadOffset := 0 } : MultiRead).setReadChrc :=
  rfl

/-- A value with bytes goes to the field whose turn it is. -/
lemma eslCReadMulti_of_ne_nil {data : List UInt8} (h : data ≠ []) (s : MultiRead) :
    eslCReadMulti cfg connIdx 0 data s =
      match ReadField.all[s.chrcReadOffset]? with
      | some field => do
          let r ← storeField cfg field data s.sensorTempBuf (s.elements connIdx)
          pure { s with
            chrcReadOffset := s.chrcReadOffset + 1
            sensorTempBuf := r.1
            elements := Function.update s.elements connIdx r.2
            log := s.log ++ [.store connIdx field data] }
      | none => pure s.setReadChrc := by
  have hlen : data.length ≠ 0 := mt List.length_eq_zero_iff.mp h
  exact (if_neg (not_not.mpr rfl)).trans (if_pos hlen)

variable (cfg connIdx) in
/-- **A callback** counts on or back, and does its one action. -/
lemma eslCReadMulti_spec (data : List UInt8) (s : MultiRead) :
    (eslCReadMulti cfg connIdx 0 data s).val.chrcReadOffset = nextOffset s.chrcReadOffset data
      ∧ (eslCReadMulti cfg connIdx 0 data s).val.log
        = s.log ++ [action connIdx s.chrcReadOffset data] := by
  by_cases hdata : data = []
  · subst hdata
    exact ⟨rfl, rfl⟩
  · rw [nextOffset, action, if_neg hdata, if_neg hdata, eslCReadMulti_of_ne_nil hdata]
    cases ReadField.all[s.chrcReadOffset]? with
    | some field => exact ⟨rfl, rfl⟩
    | none => exact ⟨rfl, rfl⟩

variable (cfg connIdx) in
lemma deliver_spec (values : List (List UInt8)) (s : MultiRead) :
    (deliver cfg connIdx values s).val.chrcReadOffset = offsetAfter s.chrcReadOffset values
      ∧ (deliver cfg connIdx values s).val.log
        = s.log ++ actionsFrom connIdx s.chrcReadOffset values := by
  induction values generalizing s with
  | nil => exact ⟨rfl, (List.append_nil _).symm⟩
  | cons data values ih =>
      obtain ⟨hoffset, hlog⟩ := eslCReadMulti_spec cfg connIdx data s
      obtain ⟨ihoffset, ihlog⟩ := ih (eslCReadMulti cfg connIdx 0 data s).val
      rw [hoffset] at ihoffset ihlog
      refine ⟨ihoffset, ihlog.trans ?_⟩
      rw [hlog, List.append_assoc]
      rfl

end Actions

/-! ## Stores in their places -/

section Stores

variable {connIdx : ℕ}

/-- The values that are stored where they should be: none has bytes behind one that has not. -/
def EmptiesLast : List (List UInt8) → Prop
  | [] => True
  | data :: values => if data = [] then ∀ d ∈ values, d = [] else EmptiesLast values

instance EmptiesLast.decidable : DecidablePred EmptiesLast
  | [] => isTrue trivial
  | data :: values =>
      have := EmptiesLast.decidable values
      inferInstanceAs (Decidable (if data = [] then ∀ d ∈ values, d = [] else EmptiesLast values))

/-- The fields from the one with number `i` on. -/
def pairsFrom (i : ℕ) (values : List (List UInt8)) : List (ReadField × List UInt8) :=
  (ReadField.all.drop i).zip values

lemma exists_field {i : ℕ} (h : i < 5) : ∃ field, ReadField.all[i]? = some field :=
  ⟨_, List.getElem?_eq_getElem h⟩

/-- No two fields are the same. -/
lemma field_ne {o i : ℕ} (hoi : o < i) {field field' : ReadField}
    (h : ReadField.all[o]? = some field) (h' : ReadField.all[i]? = some field') : field ≠ field' := by
  obtain ⟨ho, rfl⟩ := List.getElem?_eq_some_iff.mp h
  obtain ⟨hi, rfl⟩ := List.getElem?_eq_some_iff.mp h'
  have hnodup : ReadField.all.Nodup := by decide
  exact List.pairwise_iff_getElem.mp hnodup o i ho hi hoi

lemma pairsFrom_cons {i : ℕ} {field : ReadField} (h : ReadField.all[i]? = some field)
    (data : List UInt8) (values : List (List UInt8)) :
    pairsFrom i (data :: values) = (field, data) :: pairsFrom (i + 1) values := by
  obtain ⟨hi, rfl⟩ := List.getElem?_eq_some_iff.mp h
  rw [pairsFrom, List.drop_eq_getElem_cons hi]
  rfl

lemma pairsFrom_nil (i : ℕ) : pairsFrom i [] = [] := List.zip_nil_right

/-- The stores that are made. -/
def storesFrom (connIdx o : ℕ) (values : List (List UInt8)) : List ReadAction :=
  (actionsFrom connIdx o values).filter ReadAction.isStore

/-- The stores that there should be. -/
def storesDue (connIdx i : ℕ) (values : List (List UInt8)) : List ReadAction :=
  storesOf connIdx ((pairsFrom i values).filter StoreRule.nonempty.keeps)

lemma storesFrom_cons_nil (o : ℕ) (values : List (List UInt8)) :
    storesFrom connIdx o ([] :: values) = storesFrom connIdx 0 values := rfl

lemma storesFrom_cons {o : ℕ} {field : ReadField} (h : ReadField.all[o]? = some field)
    {data : List UInt8} (hdata : data ≠ []) (values : List (List UInt8)) :
    storesFrom connIdx o (data :: values)
      = .store connIdx field data :: storesFrom connIdx (o + 1) values := by
  rw [storesFrom, actionsFrom, action, nextOffset, if_neg hdata, if_neg hdata, h]
  rfl

lemma storesDue_cons_nil {i : ℕ} (hi : i < 5) (values : List (List UInt8)) :
    storesDue connIdx i ([] :: values) = storesDue connIdx (i + 1) values := by
  obtain ⟨field, hfield⟩ := exists_field hi
  rw [storesDue, pairsFrom_cons hfield]
  rfl

lemma storesDue_cons {i : ℕ} {field : ReadField} (h : ReadField.all[i]? = some field)
    {data : List UInt8} (hdata : data ≠ []) (values : List (List UInt8)) :
    storesDue connIdx i (data :: values)
      = .store connIdx field data :: storesDue connIdx (i + 1) values := by
  rw [storesDue, pairsFrom_cons h, List.filter_cons_of_pos (keeps_of_ne_nil hdata)]
  rfl

/-- **Values that are behind** their fields are stored in none of them. -/
lemma stores_behind {o i : ℕ} (hoi : o < i) {values : List (List UInt8)} (hi : i + values.length ≤ 5) :
    storesFrom connIdx o values = storesDue connIdx i values ↔ ∀ data ∈ values, data = [] := by
  induction values generalizing o i with
  | nil =>
      rw [storesDue, pairsFrom_nil]
      exact iff_of_true rfl fun data hdata => absurd hdata List.not_mem_nil
  | cons data values ih =>
      rw [List.length_cons] at hi
      rw [List.forall_mem_cons]
      by_cases hdata : data = []
      · subst hdata
        rw [storesFrom_cons_nil, storesDue_cons_nil (by omega), ih (by omega) (by omega),
          and_iff_right rfl]
      · obtain ⟨field, hfield⟩ := exists_field (show o < 5 by omega)
        obtain ⟨field', hfield'⟩ := exists_field (show i < 5 by omega)
        rw [storesFrom_cons hfield hdata, storesDue_cons hfield' hdata]
        refine iff_of_false (fun h => ?_) (fun h => hdata h.1)
        cases (List.cons.inj h).1
        exact field_ne hoi hfield hfield' rfl

/-- **From the right field on** the values are stored in theirs, up to the first without bytes. -/
lemma stores_iff {o : ℕ} {values : List (List UInt8)} (ho : o + values.length ≤ 5) :
    storesFrom connIdx o values = storesDue connIdx o values ↔ EmptiesLast values := by
  induction values generalizing o with
  | nil =>
      rw [storesDue, pairsFrom_nil]
      exact iff_of_true rfl trivial
  | cons data values ih =>
      rw [List.length_cons] at ho
      by_cases hdata : data = []
      · subst hdata
        rw [storesFrom_cons_nil, storesDue_cons_nil (by omega), stores_behind (by omega) (by omega),
          EmptiesLast, if_pos rfl]
      · obtain ⟨field, hfield⟩ := exists_field (show o < 5 by omega)
        rw [storesFrom_cons hfield hdata, storesDue_cons hfield hdata, List.cons_inj_right,
          ih (by omega), EmptiesLast, if_neg hdata]

/-- Nothing without bytes is ever stored. -/
lemma ne_nil_of_mem_storesFrom {o : ℕ} {values : List (List UInt8)} {field : ReadField}
    {data : List UInt8} (h : ReadAction.store connIdx field data ∈ storesFrom connIdx o values) :
    data ≠ [] := by
  have hmem := List.mem_of_mem_filter h
  clear h
  induction values generalizing o with
  | nil => cases hmem
  | cons data' values ih =>
      cases List.mem_cons.mp hmem with
      | inl heq =>
          rw [action] at heq
          split at heq
          · cases heq
          · rename_i hdata
            split at heq
            · cases heq
              exact hdata
            · cases heq
      | inr htail => exact ih htail

/-- **All values** are stored exactly when none is without bytes. -/
lemma stores_all_iff {o : ℕ} {values : List (List UInt8)} (ho : o + values.length ≤ 5) :
    storesFrom connIdx o values = storesOf connIdx (pairsFrom o values)
      ↔ ∀ data ∈ values, data ≠ [] := by
  induction values generalizing o with
  | nil =>
      rw [pairsFrom_nil]
      exact iff_of_true rfl fun data hdata => absurd hdata List.not_mem_nil
  | cons data values ih =>
      rw [List.length_cons] at ho
      obtain ⟨field, hfield⟩ := exists_field (show o < 5 by omega)
      rw [pairsFrom_cons hfield, List.forall_mem_cons]
      by_cases hdata : data = []
      · subst hdata
        refine iff_of_false (fun h => ?_) (fun h => h.1 rfl)
        have hstore : ReadAction.store connIdx field [] ∈ storesFrom connIdx o ([] :: values) := by
          rw [h]
          exact List.mem_cons_self
        exact ne_nil_of_mem_storesFrom hstore rfl
      · rw [storesFrom_cons hfield hdata, and_iff_right hdata,
          ← ih (show o + 1 + values.length ≤ 5 by omega)]
        exact List.cons_inj_right _

lemma nextOffset_le (o : ℕ) (data : List UInt8) : nextOffset o data ≤ o + 1 := by
  rw [nextOffset]
  split
  · exact Nat.zero_le _
  · split
    · exact Nat.le_refl _
    · exact Nat.le_succ _

/-- **The last callback** has set the flag only for a value without bytes. -/
lemma getLast?_actionsFrom {o : ℕ} {values : List (List UInt8)} (ho : o + values.length ≤ 5) :
    (actionsFrom connIdx o values).getLast? = some .setFlag ↔ values.getLast? = some [] := by
  induction values generalizing o with
  | nil => exact iff_of_false (Option.some_ne_none _).symm (Option.some_ne_none _).symm
  | cons data values ih =>
      rw [List.length_cons] at ho
      cases values with
      | nil =>
          obtain ⟨field, hfield⟩ := exists_field (show o < 5 by omega)
          show some (action connIdx o data) = some .setFlag ↔ some data = some []
          rw [Option.some_inj, Option.some_inj, action, hfield]
          split
          · exact iff_of_true rfl ‹_›
          · exact iff_of_false ReadAction.noConfusion ‹_›
      | cons data' values =>
          have hnext := nextOffset_le o data
          have hlast := ih (o := nextOffset o data) (by omega)
          rw [List.getLast?_cons_cons, ← hlast]
          exact Iff.of_eq (congrArg (· = _) List.getLast?_cons_cons)

end Stores

/-! ## Values that fit -/

/-- A value is not longer than its field, and what is taken out of it is there. -/
def Fits : ReadField → List UInt8 → Prop
  | .display, data => data.length ≤ cfg.displayMax * dispInfSize
  | .image, data => data.length ≤ 1
  | .sensor, data => ∃ p, sensorLayout data = some p ∧ p.1 ≤ cfg.sensorMax ∧ p.2 ≤ btAttMaxAttributeLen
  | .led, data => data.length ≤ cfg.ledMax
  | .pnpId, data => 5 ≤ data.length

/-- The values with bytes fit their fields. -/
def AllFit (xs : List (ReadField × List UInt8)) : Prop :=
  ∀ x ∈ xs.filter StoreRule.nonempty.keeps, Fits cfg x.1 x.2

section Fit

variable {cfg} {connIdx : ℕ}

lemma safe_write_zero {size len : ℕ} : (Access.write size 0 len).Safe ↔ len ≤ size := by
  show 0 + len ≤ size ↔ len ≤ size
  rw [Nat.zero_add]

/-- A value is stored within the bounds exactly when it fits. -/
lemma safe_storeField {field : ReadField} {data : List UInt8} {buf : Mem} {e : ElementInfo} :
    (storeField cfg field data buf e).Safe ↔ Fits cfg field data := by
  cases field with
  | display | image | led =>
      simp only [storeField, Traced.safe_bind, Traced.safe_access, Traced.safe_pure, and_true,
        safe_write_zero, Fits]
  | sensor =>
      have hraw : ∀ i (h : i < data.length), buf.write 0 data i = data[i] := by
        intro i hi
        have hmem : buf.write 0 data (0 + i) = data[i] := Mem.write_of_mem hi
        rw [Nat.zero_add] at hmem
        exact hmem
      simp only [storeField, Traced.safe_bind, Traced.safe_access, Traced.safe_pure, and_true,
        safe_write_zero, safe_parseSensorInfoFromRaw_zero hraw, Fits]
      refine and_iff_right_of_imp ?_
      rintro ⟨p, hp, -, hlen⟩
      exact Nat.le_trans (length_le_of_sensorLayout hp) hlen
  | pnpId =>
      simp only [storeField, Traced.safe_bind, Traced.safe_access, Traced.safe_pure, and_true, Fits]
      rfl

/-- Only the sensor information goes through `sensor_temp_buf`. -/
lemma storeField_of_ne {field : ReadField} (h : field ≠ .sensor) (data : List UInt8) (buf : Mem)
    (e : ElementInfo) :
    (storeField cfg field data buf e).val
      = (buf, (storeField cfg field data (fun _ => 0) e).val.2) := by
  cases field with
  | sensor => exact absurd rfl h
  | display | image | led | pnpId => rfl

lemma eq_sensor_iff {o : ℕ} {field : ReadField} (h : ReadField.all[o]? = some field) :
    field = .sensor ↔ o = 2 := by
  match o with
  | 0 | 1 | 3 | 4 =>
      cases h
      decide
  | 2 =>
      cases h
      decide
  | o + 5 => cases h

/-- `sensor_temp_buf` is zero until it is the turn of the sensor information. -/
def Fresh (s : MultiRead) : Prop := s.chrcReadOffset ≤ 2 → s.sensorTempBuf = fun _ => 0

variable (cfg connIdx) in
/-- **A value with bytes** whose turn it is. -/
lemma callback_of_ne_nil {data : List UInt8} (hdata : data ≠ []) {s : MultiRead} {field : ReadField}
    (hfield : ReadField.all[s.chrcReadOffset]? = some field) (hfresh : Fresh s) :
    ((eslCReadMulti cfg connIdx 0 data s).Safe ↔ Fits cfg field data)
      ∧ (eslCReadMulti cfg connIdx 0 data s).val.elements = Function.update s.elements connIdx
        (storeField cfg field data (fun _ => 0) (s.elements connIdx)).val.2
      ∧ Fresh (eslCReadMulti cfg connIdx 0 data s).val := by
  have hcallback : eslCReadMulti cfg connIdx 0 data s = _ := eslCReadMulti_of_ne_nil hdata s
  rw [hfield] at hcallback
  dsimp only at hcallback
  rw [hcallback]
  have hstored : (storeField cfg field data s.sensorTempBuf (s.elements connIdx)).val.2
      = (storeField cfg field data (fun _ => 0) (s.elements connIdx)).val.2 := by
    by_cases hsensor : field = .sensor
    · rw [hfresh (Nat.le_of_eq ((eq_sensor_iff hfield).mp hsensor))]
    · rw [storeField_of_ne hsensor]
  refine ⟨?_, congrArg (Function.update s.elements connIdx) hstored, fun hoffset => ?_⟩
  · simp only [Traced.safe_bind, Traced.safe_pure, and_true, safe_storeField]
  · have hlt : s.chrcReadOffset + 1 ≤ 2 := hoffset
    have hsensor : field ≠ .sensor := fun h => by
      have htwo := (eq_sensor_iff hfield).mp h
      omega
    show (storeField cfg field data s.sensorTempBuf (s.elements connIdx)).val.1 = _
    rw [storeField_of_ne hsensor]
    exact hfresh (by omega)

variable (cfg connIdx) in
/-- Values without bytes change no field. -/
lemma deliver_of_empty {values : List (List UInt8)} (h : ∀ data ∈ values, data = []) (s : MultiRead) :
    (deliver cfg connIdx values s).Safe ∧ (deliver cfg connIdx values s).val.elements = s.elements := by
  induction values generalizing s with
  | nil => exact ⟨Traced.safe_pure _, rfl⟩
  | cons data values ih =>
      obtain ⟨rfl, hrest⟩ := List.forall_mem_cons.mp h
      rw [deliver, eslCReadMulti_nil, Traced.safe_bind, Traced.val_bind]
      obtain ⟨hsafe, helements⟩ := ih hrest ({ s with chrcReadOffset := 0 } : MultiRead).setReadChrc
      exact ⟨⟨Traced.safe_pure _, hsafe⟩, helements⟩

lemma filter_pairsFrom_of_empty {i : ℕ} {values : List (List UInt8)}
    (h : ∀ data ∈ values, data = []) :
    (pairsFrom i values).filter StoreRule.nonempty.keeps = [] := by
  refine List.filter_eq_nil_iff.mpr fun x hx => ?_
  rw [StoreRule.keeps, h x.2 (List.of_mem_zip hx).2]
  decide

variable (cfg connIdx) in
/-- **Values in their places** are stored within the bounds exactly when they fit, and the fields of the
connection are then what they should be. -/
lemma deliver_in_place {values : List (List UInt8)} (hempties : EmptiesLast values) {s : MultiRead}
    (hfresh : Fresh s) (ho : s.chrcReadOffset + values.length ≤ 5) :
    ((deliver cfg connIdx values s).Safe ↔ AllFit cfg (pairsFrom s.chrcReadOffset values))
      ∧ (deliver cfg connIdx values s).val.elements = Function.update s.elements connIdx
        (storeAll cfg ((pairsFrom s.chrcReadOffset values).filter StoreRule.nonempty.keeps)
          (s.elements connIdx)) := by
  induction values generalizing s with
  | nil =>
      rw [AllFit, pairsFrom_nil]
      refine ⟨iff_of_true (Traced.safe_pure _) fun x hx => absurd hx List.not_mem_nil, ?_⟩
      exact (Function.update_eq_self connIdx s.elements).symm
  | cons data values ih =>
      rw [List.length_cons] at ho
      obtain ⟨field, hfield⟩ := exists_field (show s.chrcReadOffset < 5 by omega)
      by_cases hdata : data = []
      · rw [EmptiesLast, if_pos hdata] at hempties
        have hall : ∀ d ∈ data :: values, d = [] := List.forall_mem_cons.mpr ⟨hdata, hempties⟩
        obtain ⟨hsafe, helements⟩ := deliver_of_empty cfg connIdx hall s
        rw [AllFit, filter_pairsFrom_of_empty hall, helements]
        refine ⟨iff_of_true hsafe fun x hx => absurd hx List.not_mem_nil, ?_⟩
        exact (Function.update_eq_self connIdx s.elements).symm
      · rw [EmptiesLast, if_neg hdata] at hempties
        obtain ⟨hsafe, helements, hfresh'⟩ := callback_of_ne_nil cfg connIdx hdata hfield hfresh
        have hoffset : (eslCReadMulti cfg connIdx 0 data s).val.chrcReadOffset
            = s.chrcReadOffset + 1 := by
          rw [(eslCReadMulti_spec cfg connIdx data s).1, nextOffset, if_neg hdata, hfield]
        obtain ⟨ihsafe, ihelements⟩ := ih hempties hfresh' (by rw [hoffset]; omega)
        rw [hoffset] at ihsafe ihelements
        rw [deliver, Traced.safe_bind, Traced.val_bind, hsafe, ihsafe, ihelements, helements, AllFit,
          AllFit, pairsFrom_cons hfield, List.filter_cons_of_pos (keeps_of_ne_nil hdata), List.forall_mem_cons,
          Function.update_self, Function.update_idem]
        exact ⟨Iff.rfl, rfl⟩

end Fit

/-! ## Reads in order -/

namespace ReadProcedure

/-- No value is in the way of another one, and the flag is set by an empty value or the end. -/
def InPlace : StoreRule → ReadProcedure → Prop
  | .all, p => p.err = 0 ∧ ∀ data ∈ p.values, data ≠ []
  | .nonempty, p => (p.err = 0 ∨ p.values.getLast? = some []) ∧ EmptiesLast p.values

/-- There is a connection, and what is delivered is in place and fits. -/
def Meets (k : StoreRule) (p : ReadProcedure) : Prop :=
  p.connected = true ∧ (p.gattErr = 0 → p.InPlace k ∧ AllFit cfg (ReadField.all.zip p.values))

end ReadProcedure

section Order

variable {cfg} {k : StoreRule} {p : ReadProcedure} {s : MultiRead}

/-- Both readings of what is to be stored. -/
lemma inPlace_iff :
    p.InPlace k ↔ (p.err = 0 ∨ p.values.getLast? = some []) ∧
      storesFrom p.connIdx 0 p.values = storesOf p.connIdx ((pairsFrom 0 p.values).filter k.keeps) := by
  have hlen : 0 + p.values.length ≤ 5 := (Nat.zero_add _).trans_le p.length_values_le
  cases k with
  | all =>
      have hfilter : (pairsFrom 0 p.values).filter StoreRule.all.keeps = pairsFrom 0 p.values :=
        List.filter_eq_self.mpr fun x _ => rfl
      rw [hfilter, stores_all_iff hlen, ReadProcedure.InPlace]
      refine and_congr_left fun hbytes => (or_iff_left fun hlast => ?_).symm
      exact hbytes [] (List.mem_of_getLast? hlast) rfl
  | nonempty => exact and_congr_right fun _ => (stores_iff hlen).symm

lemma emptiesLast_of_ne_nil {values : List (List UInt8)} (h : ∀ data ∈ values, data ≠ []) :
    EmptiesLast values := by
  induction values with
  | nil => trivial
  | cons data values ih =>
      obtain ⟨hdata, hrest⟩ := List.forall_mem_cons.mp h
      rw [EmptiesLast, if_neg hdata]
      exact ih hrest

/-- In place, the two readings are about the same values. -/
lemma ReadProcedure.InPlace.filter_eq (h : p.InPlace k) :
    EmptiesLast p.values
      ∧ (pairsFrom 0 p.values).filter k.keeps = (pairsFrom 0 p.values).filter StoreRule.nonempty.keeps := by
  cases k with
  | all =>
      refine ⟨emptiesLast_of_ne_nil h.2, List.filter_congr fun x hx => ?_⟩
      have hkeeps : StoreRule.nonempty.keeps (x.1, x.2) = true :=
        keeps_of_ne_nil (h.2 x.2 (List.of_mem_zip hx).2)
      exact hkeeps.symm
  | nonempty => exact ⟨h.2, rfl⟩

/-- What the callback at the end does. -/
def endActions (err : UInt8) : List ReadAction := if err = 0 then [.setFlag] else []

variable (cfg) in
lemma end_spec (connIdx : ℕ) (err : UInt8) (s : MultiRead) :
    (eslCReadMulti cfg connIdx err [] s).Safe
      ∧ (eslCReadMulti cfg connIdx err [] s).val.elements = s.elements
      ∧ (eslCReadMulti cfg connIdx err [] s).val.log = s.log ++ endActions err
      ∧ (eslCReadMulti cfg connIdx err [] s).val.chrcReadOffset
        = if err = 0 then 0 else s.chrcReadOffset := by
  by_cases herr : err = 0
  · subst herr
    exact ⟨Traced.safe_pure _, rfl, rfl, rfl⟩
  · rw [eslCReadMulti_of_err herr, endActions, if_neg herr, if_neg herr, List.append_nil]
    exact ⟨Traced.safe_pure _, rfl, rfl, rfl⟩

/-- A read that is started. -/
lemma btEslCReadChrcMulti_of_started (hconn : p.connected = true) (hgatt : p.gattErr = 0) :
    btEslCReadChrcMulti cfg p s = (do
      let s ← deliver cfg p.connIdx p.values { s with sensorTempBuf := fun _ => 0 }
      eslCReadMulti cfg p.connIdx p.err [] s) := by
  have hnot : p.connected ≠ false := by
    rw [hconn]
    exact Bool.true_eq_false.mp
  rw [btEslCReadChrcMulti, if_neg hnot]
  exact if_neg (not_not.mpr hgatt)

lemma filter_endActions (err : UInt8) : (endActions err).filter ReadAction.isStore = [] := by
  rw [endActions]
  split <;> rfl

/-- The flag is set last by an empty value, if not by the end. -/
lemma getLast?_actions :
    (actionsFrom p.connIdx 0 p.values ++ endActions p.err).getLast? = some .setFlag
      ↔ p.err = 0 ∨ p.values.getLast? = some [] := by
  have hlen : 0 + p.values.length ≤ 5 := (Nat.zero_add _).trans_le p.length_values_le
  rw [endActions]
  by_cases herr : p.err = 0
  · rw [if_pos herr, List.getLast?_concat]
    exact iff_of_true rfl (.inl herr)
  · rw [if_neg herr, List.append_nil, getLast?_actionsFrom hlen, or_iff_right herr]

/-- **A read that is started** from the first field on is in order exactly when its values are in place
and fit. -/
lemma readInOrder_of_started (hconn : p.connected = true) (hgatt : p.gattErr = 0)
    (hs : s.chrcReadOffset = 0) :
    ReadInOrder cfg k s p (btEslCReadChrcMulti cfg p s)
      ↔ p.InPlace k ∧ AllFit cfg (ReadField.all.zip p.values) := by
  have hlen : 0 + p.values.length ≤ 5 := (Nat.zero_add _).trans_le p.length_values_le
  have hdelivered : p.delivered = pairsFrom 0 p.values := if_pos ⟨hconn, hgatt⟩
  obtain ⟨s₀, hs₀⟩ : ∃ s₀ : MultiRead, s₀ = { s with sensorTempBuf := fun _ => 0 } := ⟨_, rfl⟩
  have hoffset : s₀.chrcReadOffset = 0 := by rw [hs₀, hs]
  have hfresh : Fresh s₀ := fun _ => by rw [hs₀]
  have hlen₀ : s₀.chrcReadOffset + p.values.length ≤ 5 := by rw [hoffset]; exact hlen
  rw [btEslCReadChrcMulti_of_started hconn hgatt, ← hs₀]
  obtain ⟨-, hlog⟩ := deliver_spec cfg p.connIdx p.values s₀
  obtain ⟨hend, hendElements, hendLog, -⟩ :=
    end_spec cfg p.connIdx p.err (deliver cfg p.connIdx p.values s₀).val
  have hactions : s.actions (eslCReadMulti cfg p.connIdx p.err []
      (deliver cfg p.connIdx p.values s₀).val).val
        = actionsFrom p.connIdx 0 p.values ++ endActions p.err := by
    have hsame : s₀.log = s.log := by rw [hs₀]
    rw [MultiRead.actions, hendLog, hlog, hoffset, hsame, List.append_assoc, List.drop_left]
  have hstores : (actionsFrom p.connIdx 0 p.values ++ endActions p.err).filter ReadAction.isStore
      = storesFrom p.connIdx 0 p.values := by
    rw [List.filter_append, filter_endActions, List.append_nil, storesFrom]
  have hfit : p.InPlace k → ((deliver cfg p.connIdx p.values s₀).Safe
      ↔ AllFit cfg (ReadField.all.zip p.values)) := fun hplace => by
    have hdeliver := (deliver_in_place cfg p.connIdx hplace.filter_eq.1 hfresh hlen₀).1
    rw [hoffset] at hdeliver
    exact hdeliver
  constructor
  · rintro ⟨hsafe, hst, -, hflag⟩
    rw [Traced.val_bind, hactions] at hst hflag
    rw [hstores, hdelivered] at hst
    have hplace : p.InPlace k := inPlace_iff.mpr ⟨getLast?_actions.mp hflag, hst⟩
    exact ⟨hplace, (hfit hplace).mp ((Traced.safe_bind _ _).mp hsafe).1⟩
  · rintro ⟨hplace, hall⟩
    obtain ⟨hflag, hst⟩ := inPlace_iff.mp hplace
    obtain ⟨hempties, hfilter⟩ := hplace.filter_eq
    refine ⟨(Traced.safe_bind _ _).mpr ⟨(hfit hplace).mpr hall, hend⟩, ?_, ?_, ?_⟩
    · rw [Traced.val_bind, hactions, hstores, hst, hdelivered]
    · have helements := (deliver_in_place cfg p.connIdx hempties hfresh hlen₀).2
      rw [hoffset] at helements
      have hsame : s₀.elements = s.elements := by rw [hs₀]
      rw [Traced.val_bind, hendElements, helements, hdelivered, hfilter, hsame]
    · rw [Traced.val_bind, hactions]
      exact getLast?_actions.mpr hflag

/-- **A read** from the first field on is in order exactly when it meets the condition. -/
lemma readInOrder_iff (hs : s.chrcReadOffset = 0) :
    ReadInOrder cfg k s p (btEslCReadChrcMulti cfg p s) ↔ p.Meets cfg k := by
  by_cases hconn : p.connected = false
  · have hnothing : s.actions s = [] := List.drop_length
    rw [btEslCReadChrcMulti, if_pos hconn]
    refine iff_of_false (fun h => ?_) (fun h => absurd (hconn.symm.trans h.1) Bool.false_ne_true)
    have hflag := h.flag
    rw [Traced.val_pure, hnothing] at hflag
    cases hflag
  · have htrue : p.connected = true := eq_true_of_ne_false hconn
    by_cases hgatt : p.gattErr = 0
    · rw [readInOrder_of_started htrue hgatt hs, ReadProcedure.Meets, and_iff_right htrue,
        forall_prop_of_true hgatt]
    · have hdelivered : p.delivered = [] := if_neg fun h => hgatt h.2
      rw [btEslCReadChrcMulti, if_neg hconn]
      refine iff_of_true ?_ ⟨htrue, fun h => absurd h hgatt⟩
      dsimp only
      rw [if_pos hgatt]
      have hflag : s.actions ({ s with sensorTempBuf := fun _ => 0 } : MultiRead).setReadChrc
          = [.setFlag] := List.drop_left
      refine ⟨Traced.safe_pure _, ?_, ?_, ?_⟩
      · rw [Traced.val_pure, hflag, hdelivered]
        rfl
      · rw [hdelivered]
        exact (Function.update_eq_self p.connIdx s.elements).symm
      · rw [Traced.val_pure, hflag]
        rfl

/-- A read that meets the condition leaves the position at the first field. -/
lemma chrcReadOffset_of_meets (hs : s.chrcReadOffset = 0) (h : p.Meets cfg k) :
    (btEslCReadChrcMulti cfg p s).val.chrcReadOffset = 0 := by
  obtain ⟨hconn, hmeets⟩ := h
  have hnot : p.connected ≠ false := by
    rw [hconn]
    exact Bool.true_eq_false.mp
  by_cases hgatt : p.gattErr = 0
  · obtain ⟨hplace, -⟩ := hmeets hgatt
    rw [btEslCReadChrcMulti_of_started hconn hgatt, Traced.val_bind, (end_spec cfg _ _ _).2.2.2]
    by_cases herr : p.err = 0
    · exact if_pos herr
    -- an early end behind an empty value, which has reset the position
    · rw [if_neg herr, (deliver_spec cfg p.connIdx p.values _).1]
      obtain ⟨values, hvalues⟩ : ∃ values, p.values = values ++ [[]] :=
        List.getLast?_eq_some_iff.mp ((inPlace_iff.mp hplace).1.resolve_left herr)
      rw [hvalues]
      exact offsetAfter_append_nil _ _
  · rw [btEslCReadChrcMulti, if_neg hnot]
    dsimp only
    rw [if_pos hgatt]
    exact hs

end Order

/-- The variables before the first read. -/
def MultiRead.init (elements : ℕ → ElementInfo) : MultiRead where
  chrcReadOffset := 0
  readChrc := false
  sensorTempBuf := fun _ => 0
  elements := elements
  log := []

/-- Reads follow each other, whatever becomes of them. -/
def readStep (s : MultiRead) (p : ReadProcedure) : Option MultiRead :=
  some (btEslCReadChrcMulti cfg p s).val

/-- **All reads are in order** exactly when each of them meets the condition: there is a connection, no
value has bytes behind one that has not (or no value is empty at all, if empty values are to be stored
too), all of them fit, and it does not end early but behind an empty value. -/
theorem multipleRead_iff (cfg : ElementConfig) (elements : ℕ → ElementInfo) (k : StoreRule)
    (ps : List ReadProcedure) :
    StepsMeet (readStep cfg) (fun s p => ReadInOrder cfg k s p (btEslCReadChrcMulti cfg p s))
        (.init elements) ps
      ↔ ∀ p ∈ ps, p.Meets cfg k := by
  have henabled : ∀ (s : MultiRead) p, s.chrcReadOffset = 0 → ∃ s', readStep cfg s p = some s' :=
    fun s p _ => ⟨_, rfl⟩
  have hstep : PreservedUnder (readStep cfg) (fun _ p => p.Meets cfg k)
      (fun s => s.chrcReadOffset = 0) := by
    intro s p s' hs hp hstep
    cases hstep
    exact chrcReadOffset_of_meets hs hp
  have horder : ∀ (s : MultiRead) (p : ReadProcedure), s.chrcReadOffset = 0 →
      (ReadInOrder cfg k s p (btEslCReadChrcMulti cfg p s) ↔ p.Meets cfg k) :=
    fun s p hs => readInOrder_iff hs
  exact stepsMeet_iff_forall henabled horder hstep rfl

/-- A read that ends in an error behind the display information. -/
def brokenRead : ReadProcedure where
  connIdx := 0
  connected := true
  gattErr := 0
  values := [[1, 0, 1, 0, 1]]
  err := 0x0E
  length_values_le := by decide
  length_values := fun h => absurd h (by decide)

/-- A read of a tag without displays: its image information goes to the displays. -/
def noDisplayRead : ReadProcedure where
  connIdx := 0
  connected := true
  gattErr := 0
  values := [[], [3], [], [], [1, 0x59, 0, 0, 0, 0, 0]]
  err := 0
  length_values_le := by decide
  length_values := fun _ => rfl

/-- Room for one of each. -/
def ElementConfig.ones : ElementConfig where
  displayMax := 1
  sensorMax := 1
  ledMax := 1
  sensorMax_le := Nat.succ_pos 254

/-- Records that have not been used. -/
def ElementInfo.zero : ElementInfo := ⟨0, fun _ => 0, 0, fun _ => ⟨0, 0, 0⟩, 0, fun _ => 0, 0, 0, 0⟩

/-- The read `p` alone is in order. -/
def InOrderAlone (k : StoreRule) (p : ReadProcedure) : Prop :=
  StepsMeet (readStep .ones)
    (fun s p => ReadInOrder .ones k s p (btEslCReadChrcMulti .ones p s)) (.init fun _ => .zero) [p]

lemma InOrderAlone.meets {k : StoreRule} {p : ReadProcedure} (h : InOrderAlone k p) :
    p.Meets .ones k :=
  (readInOrder_iff rfl).mp (h _ rfl).1

/-- Neither read is in order, whether empty values are to be stored or not. -/
theorem not_multipleRead :
    ¬ InOrderAlone .all brokenRead ∧ ¬ InOrderAlone .nonempty brokenRead
      ∧ ¬ InOrderAlone .all noDisplayRead ∧ ¬ InOrderAlone .nonempty noDisplayRead := by
  refine ⟨fun h => ?_, fun h => ?_, fun h => ?_, fun h => ?_⟩
  · exact absurd (h.meets.2 rfl).1.1 (by decide)
  · exact absurd (h.meets.2 rfl).1.1 (by decide)
  · exact absurd ((h.meets.2 rfl).1.2 [] (by decide)) (by decide)
  · exact absurd (h.meets.2 rfl).1.2 (by decide)

end NrfEsl
