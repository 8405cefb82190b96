import Levaware.Lib.Bytes

set_option autoImplicit false

/-! # cJSON trees

The trees `cJSON_ParseWithLength` returns and the queries the decoder makes on them. A C pointer
that may be `NULL` is an `Option`: every query answers on `none` as cJSON does on `NULL`. -/

namespace Levaware

/-- A parsed JSON value. A number keeps its `valueint` (cJSON's saturating conversion to `int`);
    nothing here reads `valuedouble`. -/
inductive CJson where
  | null
  | bool (b : Bool)
  | number (valueint : Int32)
  | string (valuestring : CString)
  | array (items : List CJson)
  | object (members : List (String × CJson))

namespace CJson

/-- `cJSON_GetObjectItemCaseSensitive`: the first member of that name. The items of an array carry
    no name, so nothing is found in one. -/
def getObjectItem : Option CJson → String → Option CJson
  | some (.object members), name => members.lookup name
  | _, _ => none

/-- `cJSON_IsObject`. -/
def isObject : Option CJson → Bool
  | some (.object _) => true
  | _ => false

/-- `item->valueint` where `cJSON_IsNumber(item)`. -/
def number? : Option CJson → Option Int32
  | some (.number v) => some v
  | _ => none

/-- `item->valuestring` where `cJSON_IsString(item)`. -/
def string? : Option CJson → Option CString
  | some (.string s) => some s
  | _ => none

@[simp] theorem isObject_none : isObject none = false := rfl

/-- An item found anywhere was found in an object. -/
theorem isObject_of_getObjectItem {j : Option CJson} {name : String} {item : CJson}
    (h : getObjectItem j name = some item) : isObject j = true := by
  unfold getObjectItem at h
  split at h
  · rfl
  · exact absurd h (by simp)

theorem isObject_of_isObject_item {j : Option CJson} {name : String}
    (h : isObject (getObjectItem j name)) : isObject j := by
  cases hitem : getObjectItem j name with
  | none => simp [hitem] at h
  | some item => exact isObject_of_getObjectItem hitem

/-- Among members of distinct names the order does not matter. -/
theorem getObjectItem_perm {members members' : List (String × CJson)}
    (hperm : members.Perm members') (hnodup : (members.map Prod.fst).Nodup) (name : String) :
    getObjectItem (some (.object members)) name = getObjectItem (some (.object members')) name := by
  show members.lookup name = members'.lookup name
  induction hperm with
  | nil => rfl
  | cons m _ ih => rw [List.lookup_cons, List.lookup_cons, ih (List.nodup_cons.1 hnodup).2]
  | swap m m' rest =>
      have hne : m'.1 ≠ m.1 := by
        intro h
        simp [h] at hnodup
      rw [List.lookup_cons, List.lookup_cons, List.lookup_cons, List.lookup_cons]
      by_cases hm : name = m.1
      · rw [hm, beq_self_eq_true, beq_false_of_ne hne.symm]
      · rw [beq_false_of_ne hm]
  | trans hperm _ ih ih' => exact (ih hnodup).trans (ih' ((hperm.map Prod.fst).nodup_iff.1 hnodup))

end CJson

end Levaware
