import Mathlib.Tactic.Common

/-!
# YAML values

A document as a parser hands it on: scalars, sequences, mappings in the order
they were written, and tagged values. Reading a value looks through its tags;
a mapping is asked for a text key, of which it has one at most.
-/

namespace Yaml

/-- A YAML document, its numbers as they are spelled. -/
inductive Value where
  | null
  | bool (value : Bool)
  | number (text : String)
  | string (text : String)
  | sequence (items : List Value)
  | mapping (fields : List (Value × Value))
  | tagged (tag : String) (value : Value)

/-- The fields of a mapping, in order. -/
abbrev Mapping : Type := List (Value × Value)

namespace Value

/-- A value without its tags. -/
def untag : Value → Value
  | tagged _ value => value.untag
  | value => value

/-- The text, if the value is one. -/
def asStr (v : Value) : Option String :=
  match v.untag with
  | string text => some text
  | _ => none

/-- The truth value, if the value is one. -/
def asBool (v : Value) : Option Bool :=
  match v.untag with
  | bool value => some value
  | _ => none

/-- The items, if the value is a sequence. -/
def asSequence (v : Value) : Option (List Value) :=
  match v.untag with
  | sequence items => some items
  | _ => none

/-- The fields, if the value is a mapping. -/
def asMapping (v : Value) : Option Mapping :=
  match v.untag with
  | mapping fields => some fields
  | _ => none

/-- Whether the value is `null`. -/
def isNull (v : Value) : Bool :=
  match v.untag with
  | null => true
  | _ => false

/-- Whether a key is this text. -/
def isKey (name : String) : Value → Bool
  | string text => text = name
  | _ => false

/-- Changes the items of a sequence, behind its tags. -/
def mapSequence (f : List Value → List Value) : Value → Value
  | sequence items => sequence (f items)
  | tagged tag value => tagged tag (value.mapSequence f)
  | value => value

theorem asSequence_tagged (tag : String) (v : Value) :
    (tagged tag v).asSequence = v.asSequence := rfl

theorem mapSequence_asSequence (f : List Value → List Value) (v : Value) :
    (v.mapSequence f).asSequence = v.asSequence.map f := by
  fun_induction mapSequence f v with
  | case1 items => rfl
  | case2 tag value ih => rw [asSequence_tagged, asSequence_tagged, ih]
  | case3 value hsequence htagged =>
    cases value with
    | sequence items => exact absurd rfl (hsequence items)
    | tagged tag value => exact absurd rfl (htagged tag value)
    | _ => rfl

theorem isNull_tagged (tag : String) (v : Value) : (tagged tag v).isNull = v.isNull := rfl

theorem mapSequence_isNull (f : List Value → List Value) (v : Value) :
    (v.mapSequence f).isNull = v.isNull := by
  fun_induction mapSequence f v with
  | case1 items => rfl
  | case2 tag value ih => rw [isNull_tagged, isNull_tagged, ih]
  | case3 value hsequence htagged => rfl

end Value

/-- The value of a text key. -/
def get (name : String) (m : Mapping) : Option Value :=
  (m.find? fun field => field.1.isKey name).map Prod.snd

/-- Changes the value of a text key, if the mapping has it. -/
def update (name : String) (f : Value → Value) (m : Mapping) : Mapping :=
  m.map fun field => if field.1.isKey name then (field.1, f field.2) else field

/-- Sets the value of a text key, in its place or at the end. -/
def insert (name : String) (value : Value) (m : Mapping) : Mapping :=
  if m.any fun field => field.1.isKey name then update name (fun _ => value) m
  else m ++ [(.string name, value)]

/-- Takes a text key out; the last entry takes its place. -/
def swapRemove (name : String) (m : Mapping) : Mapping :=
  match m.findIdx? fun field => field.1.isKey name, m.getLast? with
  | some i, some last => (m.set i last).dropLast
  | _, _ => m

/-- The value of a text key of a value that is a mapping. -/
def Value.get (name : String) (v : Value) : Option Value := v.asMapping.bind (Yaml.get name)

@[simp] theorem isKey_string (name : String) : Value.isKey name (.string name) = true := by
  simp [Value.isKey]

theorem isKey_ne {name other : String} {key : Value} (h : Value.isKey name key = true)
    (hne : name ≠ other) : Value.isKey other key = false := by
  cases key with
  | string text =>
    have htext : text = name := by simpa [Value.isKey] using h
    simpa [Value.isKey, htext] using hne
  | _ => rfl

theorem get_cons (name : String) (field : Value × Value) (m : Mapping) :
    get name (field :: m) = if field.1.isKey name then some field.2 else get name m := by
  cases h : field.1.isKey name <;> simp [get, h]

theorem get_update (name : String) (f : Value → Value) (m : Mapping) :
    get name (update name f m) = (get name m).map f := by
  induction m with
  | nil => rfl
  | cons field m ih =>
    rw [update, List.map_cons, ← update, get_cons, get_cons, ih]
    cases h : field.1.isKey name with
    | true => simp [h]
    | false => simp [h]

/-- Another key keeps its value. -/
theorem get_update_ne {name other : String} (h : name ≠ other) (f : Value → Value) (m : Mapping) :
    get other (update name f m) = get other m := by
  induction m with
  | nil => rfl
  | cons field m ih =>
    rw [update, List.map_cons, ← update, get_cons, get_cons, ih]
    by_cases hkey : field.1.isKey name = true
    · rw [if_pos hkey, isKey_ne hkey h]
      rfl
    · rw [if_neg hkey]

theorem get_append (name : String) (m n : Mapping) :
    get name (m ++ n) = (get name m).or (get name n) := by
  induction m with
  | nil => rfl
  | cons field m ih =>
    rw [List.cons_append, get_cons, get_cons, ih]
    cases h : field.1.isKey name <;> simp

theorem get_eq_none {name : String} {m : Mapping} :
    get name m = none ↔ m.any (fun field => field.1.isKey name) = false := by
  simp [get]

theorem get_insert (name : String) (value : Value) (m : Mapping) :
    get name (insert name value m) = some value := by
  unfold insert
  by_cases hany : (m.any fun field => field.1.isKey name) = true
  · rw [if_pos hany, get_update]
    cases hget : get name m with
    | some v => rfl
    | none =>
      rw [get_eq_none.1 hget] at hany
      exact nomatch hany
  · rw [if_neg hany, get_append, get_eq_none.2 (by simpa using hany)]
    simp [get]

theorem get_insert_ne {name other : String} (h : name ≠ other) (value : Value) (m : Mapping) :
    get other (insert name value m) = get other m := by
  unfold insert
  by_cases hany : (m.any fun field => field.1.isKey name) = true
  · rw [if_pos hany, get_update_ne h]
  · have hkey : Value.isKey other (.string name) = false := isKey_ne (isKey_string name) h
    rw [if_neg hany, get_append, get_cons, hkey]
    simp [get]

end Yaml
