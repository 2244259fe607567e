import Mathlib.Data.List.Basic

/-!
# Parsed JSON values

What `JSON.parse` hands a request handler.  An object is the list of its own
keys with their values, in the order `Object.keys` yields them.
-/

namespace Btcr2Aggregation

/-- A JSON value. -/
inductive JsValue where
  | null
  | bool (value : Bool)
  | number (value : Int)
  | string (value : String)
  | array (items : List JsValue)
  | object (fields : List (String × JsValue))

namespace JsValue

/-- `isPlainObject`: an object that is neither null nor an array. -/
def asObject? : JsValue → Option (List (String × JsValue))
  | .object fields => some fields
  | _ => none

/-- `typeof value === 'string'`. -/
def asString? : JsValue → Option String
  | .string value => some value
  | _ => none

/-- `object[key]`, `none` being `undefined`. -/
def field? (fields : List (String × JsValue)) (key : String) :
    Option JsValue :=
  fields.lookup key

/-- A field read as a string. -/
def stringField? (fields : List (String × JsValue)) (key : String) :
    Option String :=
  (field? fields key).bind asString?

variable {fields : List (String × JsValue)} {key : String}

theorem mem_of_field? {value : JsValue} (found : field? fields key = some value) :
    (key, value) ∈ fields := by
  obtain ⟨before, after, split, -⟩ := List.lookup_eq_some_iff.mp found
  rw [split]
  exact List.mem_append_right before List.mem_cons_self

theorem mem_keys_of_field?
    {value : JsValue} (found : field? fields key = some value) :
    key ∈ fields.map Prod.fst :=
  List.mem_map.mpr ⟨(key, value), mem_of_field? found, rfl⟩

theorem exists_field?_of_mem (present : key ∈ fields.map Prod.fst) :
    ∃ value, field? fields key = some value := by
  cases found : field? fields key with
  | some value => exact ⟨value, rfl⟩
  | none =>
      obtain ⟨entry, member, rfl⟩ := List.mem_map.mp present
      have absent := List.lookup_eq_none_iff.mp found entry member
      rw [bne_self_eq_false] at absent
      cases absent

theorem asString?_eq_some {value : JsValue} {text : String} :
    value.asString? = some text ↔ value = .string text := by
  cases value with
  | string same => simp [asString?]
  | _ => simp [asString?]

theorem stringField?_eq_some {text : String} :
    stringField? fields key = some text ↔
      field? fields key = some (.string text) := by
  rw [stringField?, Option.bind_eq_some_iff]
  constructor
  · rintro ⟨value, found, asString⟩
    rw [found, asString?_eq_some.mp asString]
  · intro found
    exact ⟨.string text, found, rfl⟩

end JsValue

end Btcr2Aggregation
