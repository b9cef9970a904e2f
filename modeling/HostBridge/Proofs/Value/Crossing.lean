import HostBridge.Proofs.Number.Whole
import HostBridge.Value.Json

set_option autoImplicit false

namespace HostBridge

namespace Json

mutual

-- Every number of the document is an integer of size at most `maxSafe`, or it is finite and either
-- not whole or of a larger size.
def Carried : Json → Prop
  | .null => True
  | .bool _ => True
  | .int i => i.natAbs ≤ Binary64.maxSafe
  | .float x => x.isFinite = true ∧
      (x.isIntegral = false ∨ Binary64.maxSafe * Binary64.grainsPerOne < x.magnitude)
  | .string _ => True
  | .array items => CarriedItems items
  | .object fields => CarriedFields fields

def CarriedItems : List Json → Prop
  | [] => True
  | item :: rest => Carried item ∧ CarriedItems rest

def CarriedFields : List (String × Json) → Prop
  | [] => True
  | (_, value) :: rest => Carried value ∧ CarriedFields rest

end

theorem carried_float (x : Binary64) :
    (Json.float x).Carried ↔ x.isFinite = true ∧ x.safeInteger? = none := by
  rw [Carried]
  exact and_congr_right fun finite => (x.safe_none_iff finite).symm

theorem CarriedItems.member {items : List Json} {item : Json} (carried : CarriedItems items)
    (member : item ∈ items) : item.Carried := by
  induction items with
  | nil => cases member
  | cons first rest ih =>
    cases member with
    | head => exact carried.1
    | tail _ later => exact ih carried.2 later

theorem CarriedFields.lookup {fields : KeyMap Json} {name : String} {value : Json}
    (carried : CarriedFields fields) (found : fields.lookup name = some value) :
    value.Carried := by
  induction fields with
  | nil => cases found
  | cons entry rest ih =>
    obtain ⟨other, held⟩ := entry
    rw [List.lookup_cons] at found
    cases same : name == other with
    | true =>
      simp only [same] at found
      cases found
      exact carried.1
    | false =>
      simp only [same] at found
      exact ih carried.2 found

def crossed (j : Json) : Json := (Value.ofJson j).toJson

def crossedFields (fields : KeyMap Json) : KeyMap Json :=
  fields.map fun entry => (entry.1, entry.2.crossed)

theorem of_json_defined (j : Json) : (Value.ofJson j).isUndefined = false := by
  cases j <;> rfl

theorem crossed_int {i : Int} (safe : i.natAbs ≤ Binary64.maxSafe) :
    (Json.int i).crossed = .int i := by
  change (Binary64.ofInt i).toJson = .int i
  rw [Binary64.toJson, Binary64.safe_of_int i safe]

@[simp] theorem crossed_float (x : Binary64) : (Json.float x).crossed = x.toJson := rfl

theorem items_crossed (items : List Json) :
    Value.itemsToJson (Value.itemsOfJson items) = items.map crossed := by
  induction items with
  | nil => rfl
  | cons item rest ih =>
    rw [Value.itemsOfJson, Value.itemsToJson, ih, List.map_cons, crossed]

theorem fields_crossed (fields : List (String × Json)) :
    Value.fieldsToJson (Value.fieldsOfJson fields) = crossedFields fields := by
  induction fields with
  | nil => rfl
  | cons entry rest ih =>
    obtain ⟨name, value⟩ := entry
    rw [Value.fieldsOfJson, Value.fieldsToJson, of_json_defined, if_neg Bool.false_ne_true, ih,
      crossedFields, crossedFields, List.map_cons, crossed]

@[simp] theorem crossed_array (items : List Json) :
    (Json.array items).crossed = .array (items.map crossed) :=
  congrArg Json.array (items_crossed items)

@[simp] theorem crossed_object (fields : List (String × Json)) :
    (Json.object fields).crossed = .object (crossedFields fields) :=
  congrArg Json.object (fields_crossed fields)

mutual

theorem crossed_carried (j : Json) (carried : j.Carried) : j.crossed = j := by
  cases j with
  | null => rfl
  | bool b => rfl
  | int i => exact crossed_int carried
  | float x =>
    obtain ⟨finite, other⟩ := (carried_float x).1 carried
    rw [crossed_float, Binary64.toJson, other]
    exact if_pos finite
  | string s => rfl
  | array items => rw [crossed_array, items_carried items carried]
  | object fields => rw [crossed_object, fields_carried fields carried]

theorem items_carried (items : List Json) (carried : CarriedItems items) :
    items.map crossed = items := by
  cases items with
  | nil => rfl
  | cons item rest =>
    rw [List.map_cons, crossed_carried item carried.1, items_carried rest carried.2]

theorem fields_carried (fields : List (String × Json)) (carried : CarriedFields fields) :
    crossedFields fields = fields := by
  cases fields with
  | nil => rfl
  | cons entry rest =>
    obtain ⟨name, value⟩ := entry
    have later := fields_carried rest carried.2
    rw [crossedFields, List.map_cons, crossed_carried value carried.1, ← crossedFields, later]

end

theorem lookup_crossed (fields : KeyMap Json) (name : String) :
    (crossedFields fields).lookup name = (fields.lookup name).map crossed :=
  KeyMap.lookup_map (fun _ => crossed) fields name

end Json

theorem Binary64.to_json_carried (x : Binary64) : x.toJson.Carried := by
  cases safe : x.safeInteger? with
  | some i =>
    rw [Binary64.toJson, safe]
    exact ((x.safe_integer_iff i).1 safe).2.2.1
  | none =>
    cases finite : x.isFinite with
    | true =>
      simp only [Binary64.toJson, safe, finite]
      exact (Json.carried_float x).2 ⟨finite, safe⟩
    | false =>
      simp only [Binary64.toJson, safe, finite]
      trivial

namespace Value

mutual

theorem to_json_carried (v : Value) : v.toJson.Carried := by
  cases v with
  | undefined => trivial
  | null => trivial
  | bool b => trivial
  | number x => exact x.to_json_carried
  | string s => trivial
  | array items => exact items_carried items
  | object fields => exact fields_carried fields

theorem items_carried (items : List Value) : Json.CarriedItems (itemsToJson items) := by
  cases items with
  | nil => trivial
  | cons item rest => exact ⟨to_json_carried item, items_carried rest⟩

theorem fields_carried (fields : List (String × Value)) :
    Json.CarriedFields (fieldsToJson fields) := by
  cases fields with
  | nil => trivial
  | cons entry rest =>
    obtain ⟨name, value⟩ := entry
    rw [fieldsToJson]
    split
    · exact fields_carried rest
    · exact ⟨to_json_carried value, fields_carried rest⟩

end

end Value

end HostBridge
