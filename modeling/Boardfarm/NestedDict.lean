import Mathlib.Data.List.Basic

/-!
# Looking a key up in nested dictionaries

`get_value_from_dict` scans a dictionary's entries in iteration order and returns the value of
the first entry whose key is the one asked for, searching each dictionary value on the way. It uses
`None` both as a stored value and as its answer for "not found", so a match below the top level
whose value is `None` is passed over, and with it the rest of the dictionary it sits in
(`getValueFromDict_skips_nested_none`), while a top-level match whose value is `None` is returned.
Only where no occurrence of the key below the top level holds `None` is the answer the value at the
key's first occurrence in depth-first pre-order (`getValueFromDict_eq_firstValue`).
-/

namespace Boardfarm

/-- A value in a nested dictionary: `None`, a dictionary (its entries in iteration order), or
anything else. -/
inductive DictValue (κ β : Type) where
  | none
  | leaf (b : β)
  | dict (entries : List (κ × DictValue κ β))

namespace DictValue

variable {κ β : Type}

/-- The entries of a dictionary value; nothing for any other value. -/
def children : DictValue κ β → List (κ × DictValue κ β)
  | dict es => es
  | _ => []

end DictValue

section Lookup

variable {κ β : Type} [BEq κ]

/-- `get_value_from_dict(key, dictionary)`. -/
def getValueFromDict (key : κ) : List (κ × DictValue κ β) → DictValue κ β
  | [] => .none
  | (name, value) :: rest =>
    if name == key then value
    else
      match value with
      | .dict es =>
        match getValueFromDict key es with
        | .none => getValueFromDict key rest
        | r => r
      | _ => getValueFromDict key rest

variable {key name : κ} {value : DictValue κ β} {rest : List (κ × DictValue κ β)}

theorem getValueFromDict_cons_of_eq (h : (name == key) = true) :
    getValueFromDict key ((name, value) :: rest) = value := by
  cases value <;> simp [getValueFromDict, h]

theorem getValueFromDict_cons_dict (h : (name == key) = false) (es : List (κ × DictValue κ β)) :
    getValueFromDict key ((name, .dict es) :: rest) =
      match getValueFromDict key es with
      | .none => getValueFromDict key rest
      | r => r := by
  simp [getValueFromDict, h]

theorem getValueFromDict_cons_of_children (h : (name == key) = false) (hv : value.children = []) :
    getValueFromDict key ((name, value) :: rest) = getValueFromDict key rest := by
  cases value with
  | dict es =>
    cases hv
    rw [getValueFromDict_cons_dict h]
    simp [getValueFromDict]
  | _ => simp [getValueFromDict, h]

end Lookup

section Preorder

variable {κ β : Type}

/-- The entries of a dictionary and of the dictionaries inside it, in depth-first pre-order: each
entry, then those inside its value. -/
def preorder : List (κ × DictValue κ β) → List (κ × DictValue κ β)
  | [] => []
  | (name, .dict es) :: rest => (name, .dict es) :: (preorder es ++ preorder rest)
  | e :: rest => e :: preorder rest

@[simp]
theorem preorder_nil : preorder ([] : List (κ × DictValue κ β)) = [] := by
  simp [preorder]

@[simp]
theorem preorder_cons (name : κ) (value : DictValue κ β) (rest : List (κ × DictValue κ β)) :
    preorder ((name, value) :: rest) =
      (name, value) :: (preorder value.children ++ preorder rest) := by
  cases value <;> simp [preorder, DictValue.children]

/-- The entries inside the dictionaries that are values of the top level. -/
def nestedEntries (d : List (κ × DictValue κ β)) : List (κ × DictValue κ β) :=
  d.flatMap fun e => preorder e.2.children

@[simp]
theorem nestedEntries_cons (name : κ) (value : DictValue κ β) (rest : List (κ × DictValue κ β)) :
    nestedEntries ((name, value) :: rest) = preorder value.children ++ nestedEntries rest := by
  simp [nestedEntries]

theorem mem_preorder_of_mem_nestedEntries {e : κ × DictValue κ β} :
    ∀ {es : List (κ × DictValue κ β)}, e ∈ nestedEntries es → e ∈ preorder es
  | [], he => by simp [nestedEntries] at he
  | (name, value) :: rest, he => by
    simp only [nestedEntries_cons, List.mem_append] at he
    simp only [preorder_cons, List.mem_cons, List.mem_append]
    exact .inr (he.imp id mem_preorder_of_mem_nestedEntries)

variable [BEq κ]

/-- The value at the first occurrence of `key` in pre-order, `None` when there is none. -/
def firstValue (key : κ) (d : List (κ × DictValue κ β)) : DictValue κ β :=
  ((preorder d).find? (·.1 == key)).elim .none (·.2)

end Preorder

variable {κ β : Type} [BEq κ]

/-- Where no occurrence of `key` below the top level holds `None`, `get_value_from_dict` returns
the value at the first occurrence of `key` in pre-order, and `None` when `key` occurs nowhere. -/
theorem getValueFromDict_eq_firstValue (key : κ) (d : List (κ × DictValue κ β))
    (hnone : ∀ e ∈ nestedEntries d, e.1 == key → e.2 ≠ .none) :
    getValueFromDict key d = firstValue key d := by
  induction d using getValueFromDict.induct key with
  | case1 => simp [getValueFromDict, firstValue]
  | case2 name value rest hk => simp [getValueFromDict_cons_of_eq hk, firstValue, hk]
  | case3 name rest hk es hes ihes ihrest =>
    simp only [nestedEntries_cons, DictValue.children, List.mem_append] at hnone
    have hes' : firstValue key es = .none :=
      (ihes fun e he hk' => hnone e (.inl (mem_preorder_of_mem_nestedEntries he)) hk') ▸ hes
    have hfind : (preorder es).find? (·.1 == key) = Option.none := by
      cases h : (preorder es).find? (·.1 == key) with
      | none => rfl
      | some e =>
        have hk' : (e.1 == key) = true := by simpa using List.find?_some h
        simp only [firstValue, h, Option.elim_some] at hes'
        exact absurd hes' (hnone e (.inl (List.mem_of_find?_eq_some h)) hk')
    rw [getValueFromDict_cons_dict (by simpa using hk), hes]
    simp [ihrest fun e he => hnone e (.inr he), firstValue, hk, List.find?_append, hfind,
      DictValue.children]
  | case4 name rest hk es hes ihes =>
    simp only [nestedEntries_cons, DictValue.children, List.mem_append] at hnone
    have hes' := ihes fun e he hk' => hnone e (.inl (mem_preorder_of_mem_nestedEntries he)) hk'
    rw [getValueFromDict_cons_dict (by simpa using hk)]
    cases h : (preorder es).find? (·.1 == key) with
    | none => exact absurd (hes'.trans (by simp [firstValue, h])) hes
    | some e =>
      split
      · rename_i hnil; exact absurd hnil hes
      · rw [hes']
        simp [firstValue, hk, List.find?_append, h, DictValue.children]
  | case5 name value rest hk hnd ih =>
    have hv : value.children = [] := by cases value <;> simp_all [DictValue.children]
    simp only [nestedEntries_cons, hv, preorder_nil, List.nil_append] at hnone
    rw [getValueFromDict_cons_of_children (by simpa using hk) hv, ih hnone]
    simp [firstValue, hv, hk]

/-- In `{'a': {'x': None, 'b': {'x': 3}}, 'x': 5}` the first occurrence of `'x'` in pre-order
holds `None`, one level down: the lookup passes it over, and with it the rest of `a`'s dictionary
and the `3` there, and returns the later top-level value `5`. -/
theorem getValueFromDict_skips_nested_none :
    getValueFromDict "x" [("a", .dict [("x", .none), ("b", .dict [("x", .leaf 3)])]),
        ("x", (.leaf 5 : DictValue String Nat))] = .leaf 5 ∧
      firstValue "x" [("a", .dict [("x", .none), ("b", .dict [("x", .leaf 3)])]),
        ("x", (.leaf 5 : DictValue String Nat))] = .none := by
  simp [getValueFromDict, firstValue, DictValue.children]

end Boardfarm
