import Mathlib.Tactic.Common

/-!
# JSON values

A document as a parser hands it on. The keys of an object are different.
-/

namespace Json

/-- A JSON document, its numbers as they are spelled. -/
inductive Value where
  | null
  | bool (value : Bool)
  | number (text : String)
  | string (text : String)
  | array (items : List Value)
  | object (fields : List (String × Value))

namespace Value

/-- The text, if the value is one. -/
def asStr : Value → Option String
  | string text => some text
  | _ => none

/-- The items, if the value is an array. -/
def asArray : Value → Option (List Value)
  | array items => some items
  | _ => none

/-- The fields, if the value is an object. -/
def asObject : Value → Option (List (String × Value))
  | object fields => some fields
  | _ => none

end Value

/-- The value of a key of an object. -/
def get (key : String) (fields : List (String × Value)) : Option Value :=
  (fields.find? fun field => field.1 = key).map Prod.snd

/-- The value of a key of a value that is an object. -/
def Value.get (key : String) (v : Value) : Option Value := v.asObject.bind (Json.get key)

namespace Value

@[simp] theorem asStr_eq_some {v : Value} {text : String} :
    v.asStr = some text ↔ v = .string text := by
  cases v <;> simp [asStr]

@[simp] theorem asArray_eq_some {v : Value} {items : List Value} :
    v.asArray = some items ↔ v = .array items := by
  cases v <;> simp [asArray]

@[simp] theorem asObject_eq_some {v : Value} {fields : List (String × Value)} :
    v.asObject = some fields ↔ v = .object fields := by
  cases v <;> simp [asObject]

@[simp] theorem asObject_eq_none {v : Value} :
    v.asObject = none ↔ ∀ fields, v ≠ .object fields := by
  cases v <;> simp [asObject]

/-- Only an object has keys. -/
theorem eq_object_of_get {v w : Value} {key : String} (h : v.get key = some w) :
    ∃ fields, v = .object fields := by
  obtain ⟨fields, hfields, -⟩ := Option.bind_eq_some_iff.1 h
  exact ⟨fields, asObject_eq_some.1 hfields⟩

end Value

end Json
