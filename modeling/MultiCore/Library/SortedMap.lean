import Mathlib.Data.List.Basic
import Mathlib.Tactic.Common

/-!
# Maps in key order

A map that iterates in key order, as the list of its fields. An insertion
removes the field of the same key before it places the new one, so a key has
one value, and every other field stays as it was.
-/

namespace SortedMap

variable {κ α : Type*} [DecidableEq κ]

/-- The value of a key. -/
def get (key : κ) (fields : List (κ × α)) : Option α :=
  (fields.find? fun field => field.1 == key).map Prod.snd

/-- The fields under another key. -/
def remove (key : κ) (fields : List (κ × α)) : List (κ × α) :=
  fields.filter fun field => field.1 != key

theorem mem_of_get {key : κ} {value : α} {fields : List (κ × α)}
    (h : get key fields = some value) : (key, value) ∈ fields := by
  unfold get at h
  obtain ⟨field, hfind, hvalue⟩ := Option.map_eq_some_iff.1 h
  have hkey : field.1 = key := by simpa using List.find?_some hfind
  rw [← hkey, ← hvalue]
  exact List.mem_of_find?_eq_some hfind

theorem get_isSome_of_mem {key : κ} {value : α} {fields : List (κ × α)}
    (h : (key, value) ∈ fields) : (get key fields).isSome := by
  have hfind : (fields.find? fun field => field.1 == key).isSome :=
    List.find?_isSome.2 ⟨_, h, by simp⟩
  simpa [get] using hfind

@[simp] theorem mem_remove {key : κ} {field : κ × α} {fields : List (κ × α)} :
    field ∈ remove key fields ↔ field ∈ fields ∧ field.1 ≠ key := by
  simp [remove]

variable [LT κ] [DecidableLT κ]

/-- Puts a field before the first one with a greater key. -/
def place (key : κ) (value : α) : List (κ × α) → List (κ × α)
  | [] => [(key, value)]
  | field :: fields =>
    if key < field.1 then (key, value) :: field :: fields else field :: place key value fields

/-- Sets the value of a key. -/
def insert (key : κ) (value : α) (fields : List (κ × α)) : List (κ × α) :=
  place key value (remove key fields)

@[simp] theorem mem_place {key : κ} {value : α} {field : κ × α} {fields : List (κ × α)} :
    field ∈ place key value fields ↔ field = (key, value) ∨ field ∈ fields := by
  induction fields with
  | nil => simp [place]
  | cons head tail ih =>
    unfold place
    by_cases hlt : key < head.1
    · rw [if_pos hlt, List.mem_cons]
    · rw [if_neg hlt, List.mem_cons, ih, List.mem_cons]
      tauto

/-- An insertion adds its field and keeps those of every other key. -/
@[simp] theorem mem_insert {key : κ} {value : α} {field : κ × α} {fields : List (κ × α)} :
    field ∈ insert key value fields ↔
      field = (key, value) ∨ field ∈ fields ∧ field.1 ≠ key := by
  rw [insert, mem_place, mem_remove]

theorem get_place_of_ne {key other : κ} {value : α} {fields : List (κ × α)} (h : other ≠ key) :
    get other (place key value fields) = get other fields := by
  induction fields with
  | nil => simp [place, get, Ne.symm h]
  | cons head tail ih =>
    unfold place
    by_cases hlt : key < head.1
    · rw [if_pos hlt]
      simp [get, Ne.symm h]
    · rw [if_neg hlt]
      by_cases hhead : head.1 = other
      · simp [get, hhead]
      · simpa [get, hhead] using ih

theorem get_place_self {key : κ} {value : α} {fields : List (κ × α)}
    (h : ∀ field ∈ fields, field.1 ≠ key) : get key (place key value fields) = some value := by
  induction fields with
  | nil => simp [place, get]
  | cons head tail ih =>
    unfold place
    by_cases hlt : key < head.1
    · simp [if_pos hlt, get]
    · have hhead := h head List.mem_cons_self
      have htail := ih fun field hfield => h field (List.mem_cons_of_mem _ hfield)
      rw [if_neg hlt]
      simpa [get, hhead] using htail

@[simp] theorem get_insert_self {key : κ} {value : α} {fields : List (κ × α)} :
    get key (insert key value fields) = some value :=
  get_place_self fun _ hfield => (mem_remove.1 hfield).2

theorem get_insert_of_ne {key other : κ} {value : α} {fields : List (κ × α)} (h : other ≠ key) :
    get other (insert key value fields) = get other fields := by
  rw [insert, get_place_of_ne h]
  have hboth : (fun field : κ × α => decide ((field.1 != key) = true ∧ (field.1 == other) = true)) =
      fun field => field.1 == other := by
    funext field
    by_cases hfield : field.1 = other
    · simp [hfield, h]
    · simp [hfield]
  unfold get remove
  rw [List.find?_filter, hboth]

omit [DecidableEq κ] in
theorem length_place (key : κ) (value : α) (fields : List (κ × α)) :
    (place key value fields).length = fields.length + 1 := by
  induction fields with
  | nil => rfl
  | cons head tail ih =>
    unfold place
    by_cases hlt : key < head.1
    · rw [if_pos hlt]
      rfl
    · rw [if_neg hlt, List.length_cons, ih, List.length_cons]

/-- A new key makes a map one longer at most. -/
theorem length_insert_le (key : κ) (value : α) (fields : List (κ × α)) :
    (insert key value fields).length ≤ fields.length + 1 := by
  rw [insert, length_place]
  exact Nat.add_le_add_right (List.length_filter_le _ _) 1

/-- A key that is there already makes no map longer. -/
theorem length_insert_of_get {key : κ} {fields : List (κ × α)} (value : α)
    (h : (get key fields).isSome = true) : (insert key value fields).length ≤ fields.length := by
  obtain ⟨old, hold⟩ := Option.isSome_iff_exists.1 h
  have hmem := mem_of_get hold
  rw [insert, length_place]
  apply List.length_filter_lt_length_iff_exists.2
  exact ⟨_, hmem, by simp⟩

omit [DecidableEq κ] in
theorem place_perm (key : κ) (value : α) (fields : List (κ × α)) :
    (place key value fields).Perm ((key, value) :: fields) := by
  induction fields with
  | nil => exact List.Perm.refl _
  | cons head tail ih =>
    unfold place
    by_cases hlt : key < head.1
    · rw [if_pos hlt]
    · rw [if_neg hlt]
      exact (ih.cons head).trans (List.Perm.swap _ _ _)

theorem nodup_insert {key : κ} {value : α} {fields : List (κ × α)}
    (h : (fields.map Prod.fst).Nodup) : ((insert key value fields).map Prod.fst).Nodup := by
  have hplace := (place_perm key value (remove key fields)).map Prod.fst
  rw [insert, hplace.nodup_iff, List.map_cons, List.nodup_cons]
  constructor
  · intro hmem
    obtain ⟨field, hfield, hkey⟩ := List.mem_map.1 hmem
    exact (mem_remove.1 hfield).2 hkey
  · exact h.sublist (List.filter_sublist.map Prod.fst)

omit [LT κ] [DecidableLT κ] in
/-- Of the fields that are kept a key has its own. -/
theorem get_filter {key : κ} {p : κ × α → Bool} {fields : List (κ × α)}
    (h : (fields.map Prod.fst).Nodup) :
    get key (fields.filter p) = (get key fields).filter fun value => p (key, value) := by
  induction fields with
  | nil => rfl
  | cons head tail ih =>
    rw [List.map_cons, List.nodup_cons] at h
    have htail := ih h.2
    by_cases hhead : head.1 = key
    · have hgone : get key (tail.filter p) = none := by
        rw [get, Option.map_eq_none_iff, List.find?_eq_none]
        intro field hfield hkey
        have hsame : field.1 = head.1 := (beq_iff_eq.1 hkey).trans hhead.symm
        exact h.1 (hsame ▸ List.mem_map_of_mem (List.mem_of_mem_filter hfield))
      have hget : get key (head :: tail) = some head.2 := by
        simp [get, hhead]
      have hpair : (key, head.2) = head := by
        rw [← hhead]
      rw [hget, List.filter_cons, Option.filter_some, hpair]
      by_cases hp : p head = true
      · rw [if_pos hp, if_pos hp]
        simp [get, hhead]
      · rw [if_neg hp, if_neg hp, hgone]
    · have hother : get key (head :: tail) = get key tail := by
        simp [get, hhead]
      rw [hother, ← htail, List.filter_cons]
      by_cases hp : p head = true
      · rw [if_pos hp]
        simp [get, hhead]
      · rw [if_neg hp]

omit [LT κ] [DecidableLT κ] in
theorem remove_of_new {key : κ} {fields : List (κ × α)}
    (h : ∀ field ∈ fields, field.1 ≠ key) : remove key fields = fields := by
  rw [remove, List.filter_eq_self]
  intro field hfield
  exact bne_iff_ne.2 (h field hfield)

section Keyed

variable {β : Type*} [LE κ] [Std.IsLinearOrder κ] [Std.LawfulOrderLT κ]

omit [DecidableEq κ] in
theorem ordered_place {key : κ} {value : α} {fields : List (κ × α)}
    (hnew : ∀ field ∈ fields, field.1 ≠ key)
    (h : fields.Pairwise fun field other => field.1 < other.1) :
    (place key value fields).Pairwise fun field other => field.1 < other.1 := by
  induction fields with
  | nil => exact List.pairwise_singleton _ _
  | cons head tail ih =>
    rw [List.pairwise_cons] at h
    unfold place
    by_cases hlt : key < head.1
    · rw [if_pos hlt, List.pairwise_cons, List.pairwise_cons]
      refine ⟨fun field hfield => ?_, h⟩
      rcases List.mem_cons.1 hfield with rfl | hfield
      · exact hlt
      · exact Std.lt_trans hlt (h.1 field hfield)
    · rw [if_neg hlt, List.pairwise_cons]
      have htail := ih (fun field hfield => hnew field (List.mem_cons_of_mem _ hfield)) h.2
      refine ⟨fun field hfield => ?_, htail⟩
      rcases (place_perm key value tail).mem_iff.1 hfield with _ | ⟨_, hfield⟩
      · exact Std.lt_of_le_of_ne (Std.not_lt.1 hlt) (hnew head List.mem_cons_self)
      · exact h.1 field hfield

omit [DecidableEq κ] in
/-- A key above all others goes last. -/
theorem place_above {key : κ} {value : α} {fields : List (κ × α)}
    (h : ∀ field ∈ fields, field.1 < key) :
    place key value fields = fields ++ [(key, value)] := by
  induction fields with
  | nil => rfl
  | cons head tail ih =>
    have hhead := h head List.mem_cons_self
    have htail := ih fun field hfield => h field (List.mem_cons_of_mem _ hfield)
    rw [place, if_neg (Std.not_lt.2 (Std.le_of_lt hhead)), htail, List.cons_append]

/-- A map with its fields in key order. -/
@[ext] structure Keyed (κ α : Type*) [LT κ] where
  fields : List (κ × α)
  ordered : fields.Pairwise fun field other => field.1 < other.1

namespace Keyed

omit [DecidableLT κ] [LE κ] [Std.IsLinearOrder κ] [Std.LawfulOrderLT κ] in
instance [DecidableEq α] : DecidableEq (Keyed κ α) := fun m m' =>
  decidable_of_iff (m.fields = m'.fields) Keyed.ext_iff.symm

/-- The map with no fields. -/
def empty : Keyed κ α := ⟨[], List.Pairwise.nil⟩

/-- Sets the value of a key. -/
def insert (key : κ) (value : α) (m : Keyed κ α) : Keyed κ α where
  fields := SortedMap.insert key value m.fields
  ordered := ordered_place (fun _ hfield => (mem_remove.1 hfield).2)
    (m.ordered.sublist List.filter_sublist)

theorem fields_insert (key : κ) (value : α) (m : Keyed κ α) :
    (m.insert key value).fields = place key value (remove key m.fields) := rfl

/-- The map of some fields, the last one of each key. -/
def ofList (l : List (κ × α)) : Keyed κ α :=
  l.foldl (fun m field => m.insert field.1 field.2) empty

/-- The map with other values. -/
def mapValues (f : α → β) (m : Keyed κ α) : Keyed κ β where
  fields := m.fields.map fun field => (field.1, f field.2)
  ordered := List.pairwise_map.2 m.ordered

omit [DecidableLT κ] [DecidableEq κ] [Std.IsLinearOrder κ] in
theorem nodup_keys (m : Keyed κ α) : (m.fields.map Prod.fst).Nodup := by
  refine List.pairwise_map.2 (m.ordered.imp ?_)
  intro field other hlt heq
  rw [heq] at hlt
  exact Std.lt_irrefl hlt

omit [DecidableLT κ] [DecidableEq κ] [Std.IsLinearOrder κ] in
theorem nodup_fields (m : Keyed κ α) : m.fields.Nodup :=
  (List.pairwise_map.1 m.nodup_keys).imp fun hne heq => hne (congrArg Prod.fst heq)

theorem foldl_insert_perm {l : List (κ × α)} (m : Keyed κ α)
    (h : (m.fields.map Prod.fst ++ l.map Prod.fst).Nodup) :
    (l.foldl (fun m field => m.insert field.1 field.2) m).fields.Perm (m.fields ++ l) := by
  induction l generalizing m with
  | nil =>
    rw [List.append_nil]
    exact List.Perm.refl _
  | cons field l ih =>
    have hnew : ∀ other ∈ m.fields, other.1 ≠ field.1 := fun other hother heq =>
      (List.nodup_append.1 h).2.2 other.1 (List.mem_map_of_mem hother) field.1
        List.mem_cons_self heq
    have hfields : (m.insert field.1 field.2).fields.Perm (field :: m.fields) := by
      rw [fields_insert, remove_of_new hnew]
      exact place_perm _ _ _
    have hkeys : ((m.insert field.1 field.2).fields.map Prod.fst ++ l.map Prod.fst).Nodup :=
      (((hfields.map Prod.fst).append_right _).trans
        List.perm_middle.symm).nodup_iff.2 h
    exact (ih _ hkeys).trans ((hfields.append_right l).trans List.perm_middle.symm)

/-- The map of fields of different keys has just these. -/
theorem ofList_perm {l : List (κ × α)} (h : (l.map Prod.fst).Nodup) :
    (ofList l).fields.Perm l :=
  foldl_insert_perm empty h

theorem mem_foldl_insert {l : List (κ × α)} {m : Keyed κ α} {field : κ × α}
    (h : field ∈ (l.foldl (fun m field => m.insert field.1 field.2) m).fields) :
    field ∈ l ∨ field ∈ m.fields := by
  induction l generalizing m with
  | nil => exact .inr h
  | cons head l ih =>
    rcases ih h with hlater | hinsert
    · exact .inl (List.mem_cons_of_mem _ hlater)
    · rcases SortedMap.mem_insert.1 hinsert with rfl | ⟨hold, -⟩
      · exact .inl List.mem_cons_self
      · exact .inr hold

theorem foldl_insert_ordered {l : List (κ × α)} (m : Keyed κ α)
    (h : (m.fields ++ l).Pairwise fun field other => field.1 < other.1) :
    (l.foldl (fun m field => m.insert field.1 field.2) m).fields = m.fields ++ l := by
  induction l generalizing m with
  | nil => rw [List.append_nil]; rfl
  | cons field l ih =>
    -- what is added in key order goes last
    have hbelow : ∀ other ∈ m.fields, other.1 < field.1 := fun other hother =>
      (List.pairwise_append.1 h).2.2 other hother field List.mem_cons_self
    have hfields : (m.insert field.1 field.2).fields = m.fields ++ [field] := by
      have hnew : ∀ other ∈ m.fields, other.1 ≠ field.1 := by
        intro other hother heq
        have hlt := hbelow other hother
        rw [heq] at hlt
        exact Std.lt_irrefl hlt
      rw [fields_insert, remove_of_new hnew, place_above hbelow]
    rw [List.foldl_cons, ih _ (by rw [hfields, List.append_assoc]; exact h), hfields,
      List.append_assoc]
    rfl

/-- The map of fields in key order has them as they are. -/
theorem fields_ofList {l : List (κ × α)}
    (h : l.Pairwise fun field other => field.1 < other.1) : (ofList l).fields = l :=
  foldl_insert_ordered empty h

theorem ofList_fields (m : Keyed κ α) : ofList m.fields = m :=
  Keyed.ext (fields_ofList m.ordered)

end Keyed

end Keyed

end SortedMap
