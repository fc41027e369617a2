/-! Tables of rows under keys. The rows stand in the order in which their keys first came, and no
two rows have the same key. -/

namespace BoxOffice

namespace Table

variable {κ ν : Type} [DecidableEq κ]

def lookupRow (k : κ) : List (κ × ν) → Option ν
  | [] => none
  | (k', v) :: rest => if k' = k then some v else lookupRow k rest

def setRow (k : κ) (v : ν) : List (κ × ν) → List (κ × ν)
  | [] => [(k, v)]
  | (k', v') :: rest => if k' = k then (k, v) :: rest else (k', v') :: setRow k v rest

theorem mem_keys_setRow {k k' : κ} {v : ν} {rows : List (κ × ν)}
    (h : k' ∈ (setRow k v rows).map (·.1)) : k' = k ∨ k' ∈ rows.map (·.1) := by
  induction rows with
  | nil => simpa [setRow] using h
  | cons r rest ih =>
    obtain ⟨a, b⟩ := r
    by_cases hak : a = k
    · subst hak
      simpa [setRow] using h
    · simp only [setRow, hak, if_false, List.map_cons, List.mem_cons] at h ⊢
      rcases h with h | h
      · exact .inr (.inl h)
      · exact (ih h).imp_right .inr

theorem nodup_setRow (k : κ) (v : ν) {rows : List (κ × ν)} (h : (rows.map (·.1)).Nodup) :
    ((setRow k v rows).map (·.1)).Nodup := by
  induction rows with
  | nil => simp [setRow]
  | cons r rest ih =>
    obtain ⟨a, b⟩ := r
    obtain ⟨hnot, hrest⟩ := List.nodup_cons.1 h
    by_cases hak : a = k
    · subst hak
      simpa [setRow] using h
    · simp only [setRow, hak, if_false, List.map_cons, List.nodup_cons]
      refine ⟨fun hm => ?_, ih hrest⟩
      rcases mem_keys_setRow hm with ha | ha
      · exact hak ha
      · exact hnot ha

theorem lookupRow_of_mem {k : κ} {v : ν} {rows : List (κ × ν)} (h : (rows.map (·.1)).Nodup)
    (hm : (k, v) ∈ rows) : lookupRow k rows = some v := by
  induction rows with
  | nil => cases hm
  | cons r rest ih =>
    obtain ⟨a, b⟩ := r
    obtain ⟨hnot, hrest⟩ := List.nodup_cons.1 h
    rcases List.mem_cons.1 hm with he | hm
    · simp [lookupRow, (Prod.mk.inj he).1, (Prod.mk.inj he).2]
    · have hak : a ≠ k := fun e => hnot (e ▸ List.mem_map.2 ⟨(k, v), hm, rfl⟩)
      simpa [lookupRow, hak] using ih hrest hm

theorem mem_of_lookupRow {k : κ} {v : ν} {rows : List (κ × ν)} (h : lookupRow k rows = some v) :
    (k, v) ∈ rows := by
  induction rows with
  | nil => cases h
  | cons r rest ih =>
    obtain ⟨a, b⟩ := r
    by_cases hak : a = k
    · subst hak
      simp only [lookupRow, if_true, Option.some.injEq] at h
      simp [h]
    · simp only [lookupRow, hak, if_false] at h
      exact .tail _ (ih h)

end Table

structure Table (κ ν : Type) where
  rows : List (κ × ν)
  nodup : (rows.map (·.1)).Nodup

namespace Table

variable {κ ν : Type}

def empty : Table κ ν := ⟨[], List.nodup_nil⟩

instance : Inhabited (Table κ ν) := ⟨empty⟩

def values (t : Table κ ν) : List ν := t.rows.map (·.2)

@[simp] theorem values_empty : (empty : Table κ ν).values = [] := rfl

variable [DecidableEq κ]

def find? (t : Table κ ν) (k : κ) : Option ν := lookupRow k t.rows

/-- Insert a row, or replace the one under the key. -/
def set (t : Table κ ν) (k : κ) (v : ν) : Table κ ν := ⟨setRow k v t.rows, nodup_setRow k v t.nodup⟩

/-- Change the row under a key, if there is one. -/
def modify (t : Table κ ν) (k : κ) (f : ν → ν) : Table κ ν :=
  match t.find? k with
  | some v => t.set k (f v)
  | none => t

@[simp] theorem find?_empty (k : κ) : (empty : Table κ ν).find? k = none := rfl

theorem find?_set (t : Table κ ν) (k k' : κ) (v : ν) :
    (t.set k v).find? k' = if k = k' then some v else t.find? k' := by
  simp only [find?, set]
  induction t.rows with
  | nil => simp [setRow, lookupRow]
  | cons r rest ih =>
    obtain ⟨a, b⟩ := r
    by_cases hak : a = k
    · subst hak
      by_cases hk : a = k' <;> simp [setRow, lookupRow, hk]
    · by_cases hk : a = k'
      · subst hk
        simp [setRow, lookupRow, hak, Ne.symm hak]
      · simp [setRow, lookupRow, hak, hk, ih]

theorem mem_values {t : Table κ ν} {v : ν} : v ∈ t.values ↔ ∃ k, t.find? k = some v := by
  simp only [values, List.mem_map]
  constructor
  · rintro ⟨⟨k, v⟩, hm, rfl⟩
    exact ⟨k, lookupRow_of_mem t.nodup hm⟩
  · rintro ⟨k, hk⟩
    exact ⟨(k, v), mem_of_lookupRow hk, rfl⟩

/-- A row that is set is counted in place of the one before it. -/
theorem countP_set (t : Table κ ν) (k : κ) (v : ν) (p : ν → Bool) :
    (t.set k v).values.countP p + ((t.find? k).any p).toNat =
      t.values.countP p + (p v).toNat := by
  simp only [find?, set, values]
  induction t.rows with
  | nil => cases hv : p v <;> simp [setRow, lookupRow, hv]
  | cons r rest ih =>
    obtain ⟨a, b⟩ := r
    by_cases hak : a = k
    · subst hak
      cases hb : p b <;> cases hv : p v <;> simp [setRow, lookupRow, hb, hv]
    · simp only [setRow, lookupRow, hak, if_false, List.map_cons, List.countP_cons]
      omega

end Table

end BoxOffice
