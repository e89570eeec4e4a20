import PackageInstall.Documents

namespace PackageInstall

namespace DecodeError

def later (documents : Nat) : DecodeError → DecodeError
  | yaml document => yaml (document + documents)
  | json document fault => json (document + documents) fault
  | object document error => object (document + documents) error

def unplaced : DecodeError → DecodeError
  | yaml document => yaml document
  | json document fault => json document { fault with place := .start }
  | object document error => object document error

end DecodeError

def SyntaxFault.unplaced : SyntaxFault → SyntaxFault
  | yaml => yaml
  | json fault => json { fault with place := .start }

namespace Documents

namespace Item

def later (documents : Nat) (item : Item) : Item := item.mapError (·.later documents)

def unplaced (item : Item) : Item := item.mapError (·.unplaced)

@[simp] theorem isOk_later (documents : Nat) (item : Item) :
    (later documents item).isOk = item.isOk := by cases item <;> rfl

@[simp] theorem isOk_unplaced (item : Item) : (unplaced item).isOk = item.isOk := by
  cases item <;> rfl

end Item

theorem itemOf_ok {value : Json} (solid : value ≠ .null) (n : Nat) :
    itemOf n (.ok value) = ((Object.ofJson value).map some).mapError (.object n) := by
  cases value with
  | null => exact absurd rfl solid
  | _ => rfl

theorem itemOf_of_read {value : Json} {o : Object} (solid : value ≠ .null)
    (reads : Object.ofJson value = .ok o) (n : Nat) : itemOf n (.ok value) = .ok (some o) := by
  rw [itemOf_ok solid, reads]
  rfl

theorem itemOf_of_refused {value : Json} {e : ConversionError} (solid : value ≠ .null)
    (refused : Object.ofJson value = .error e) (n : Nat) :
    itemOf n (.ok value) = .error (.object n e) := by
  rw [itemOf_ok solid, refused]
  rfl

theorem itemOf_of_not_object {value : Json} (other : Object.isObject value = false) (n : Nat) :
    itemOf n (.ok value) =
      if value = .null then .ok none else .error (.object n .notAnObject) := by
  by_cases null : value = .null
  · rw [if_pos null, null]
    rfl
  · have refused : Object.ofJson value = .error .notAnObject := by
      simp only [Object.ofJson, other, if_true]
      rfl
    rw [if_neg null, itemOf_of_refused null refused]

theorem itemOf_later (n k : Nat) (value : Except SyntaxFault Json) :
    itemOf (n + k) value = (itemOf n value).later k := by
  cases value with
  | error fault => cases fault <;> rfl
  | ok value =>
    by_cases null : value = .null
    · rw [null]
      rfl
    · rw [itemOf_ok null, itemOf_ok null]
      cases Object.ofJson value <;> rfl

theorem itemOf_unplaced (n : Nat) (value : Except SyntaxFault Json) :
    itemOf n (value.mapError (·.unplaced)) = (itemOf n value).unplaced := by
  cases value with
  | error fault => cases fault <;> rfl
  | ok value =>
    have kept : (Except.ok value : Except SyntaxFault Json).mapError (·.unplaced) = .ok value := rfl
    by_cases null : value = .null
    · rw [null]
      rfl
    · rw [kept, itemOf_ok null]
      cases Object.ofJson value <;> rfl

def itemsFrom (n : Nat) : List (Except SyntaxFault Json) → List Item
  | [] => []
  | value :: rest => itemOf n value :: if (itemOf n value).isOk then itemsFrom (n + 1) rest else []

theorem length_itemsFrom_le (n : Nat) (parsed : List (Except SyntaxFault Json)) :
    (itemsFrom n parsed).length ≤ parsed.length := by
  induction parsed generalizing n with
  | nil => exact Nat.le_refl 0
  | cons value rest ih =>
    rw [itemsFrom, List.length_cons, List.length_cons]
    split
    · exact Nat.succ_le_succ (ih (n + 1))
    · exact Nat.succ_le_succ (Nat.zero_le _)

theorem length_itemsFrom_of_ok {n : Nat} {parsed : List (Except SyntaxFault Json)}
    (ok : ∀ item ∈ itemsFrom n parsed, item.isOk = true) :
    (itemsFrom n parsed).length = parsed.length := by
  induction parsed generalizing n with
  | nil => rfl
  | cons value rest ih =>
    rw [itemsFrom, List.forall_mem_cons] at ok
    rw [if_pos ok.1] at ok
    rw [itemsFrom, if_pos ok.1, List.length_cons, List.length_cons, ih ok.2]

theorem itemsFrom_append (n : Nat) (front back : List (Except SyntaxFault Json)) :
    itemsFrom n (front ++ back) = itemsFrom n front ++
      if (itemsFrom n front).all Except.isOk then itemsFrom (n + front.length) back else [] := by
  induction front generalizing n with
  | nil => rfl
  | cons value rest ih =>
    rw [List.cons_append, itemsFrom, itemsFrom, List.cons_append, List.all_cons]
    by_cases ok : (itemOf n value).isOk = true
    · rw [if_pos ok, if_pos ok, ok, Bool.true_and, ih, List.length_cons, Nat.succ_add_eq_add_succ]
    · rw [if_neg ok, if_neg ok, eq_false_of_ne_true ok]
      rfl

theorem ok_of_append {n : Nat} {front back : List (Except SyntaxFault Json)}
    (ok : ∀ item ∈ itemsFrom n (front ++ back), item.isOk = true) :
    (∀ item ∈ itemsFrom n front, item.isOk = true) ∧
      ∀ item ∈ itemsFrom (n + front.length) back, item.isOk = true := by
  rw [itemsFrom_append] at ok
  have first : ∀ item ∈ itemsFrom n front, item.isOk = true :=
    fun item member => ok item (List.mem_append_left _ member)
  rw [if_pos (List.all_eq_true.2 first)] at ok
  exact ⟨first, fun item member => ok item (List.mem_append_right _ member)⟩

theorem itemsFrom_later (n k : Nat) (parsed : List (Except SyntaxFault Json)) :
    itemsFrom (n + k) parsed = (itemsFrom n parsed).map (Item.later k) := by
  induction parsed generalizing n with
  | nil => rfl
  | cons value rest ih =>
    have next : n + k + 1 = n + 1 + k := Nat.add_right_comm n k 1
    rw [itemsFrom, itemsFrom, itemOf_later, Item.isOk_later, next, ih, List.map_cons]
    split <;> rfl

theorem itemsFrom_unplaced (n : Nat) (parsed : List (Except SyntaxFault Json)) :
    itemsFrom n (parsed.map (·.mapError (·.unplaced))) = (itemsFrom n parsed).map Item.unplaced := by
  induction parsed generalizing n with
  | nil => rfl
  | cons value rest ih =>
    rw [List.map_cons, itemsFrom, itemsFrom, itemOf_unplaced, Item.isOk_unplaced, ih, List.map_cons]
    split <;> rfl

namespace Decoder

theorem drain_exhausted (left : Nat) {d : Decoder} (done : d.exhausted = true) :
    (drain left d).1 = [] := by
  cases left with
  | zero => rfl
  | succ left => simp only [drain, next, done, if_true]

theorem drain_eq (left n : Nat) (parsed : List (Except SyntaxFault Json)) :
    (drain left ⟨parsed, n, false⟩).1 = (itemsFrom n parsed).take left := by
  induction left generalizing n parsed with
  | zero => rfl
  | succ left ih =>
    cases parsed with
    | nil => rfl
    | cons value rest =>
      have drawn : (drain (left + 1) ⟨value :: rest, n, false⟩).1 =
          itemOf n value :: (drain left ⟨rest, n + 1, !(itemOf n value).isOk⟩).1 := rfl
      rw [drawn, itemsFrom, List.take_succ_cons]
      by_cases ok : (itemOf n value).isOk = true
      · rw [if_pos ok, ok, ← ih (n + 1) rest]
        rfl
      · rw [if_neg ok, eq_false_of_ne_true ok, List.take_nil]
        exact congrArg _ (drain_exhausted left rfl)

end Decoder

theorem decode_eq (bytes : List UInt8) : decode bytes = itemsFrom 0 (parse bytes) := by
  have drawn := Decoder.drain_eq ((parse bytes).length + 1) 0 (parse bytes)
  rwa [List.take_of_length_le (Nat.le_succ_of_le (length_itemsFrom_le 0 (parse bytes)))] at drawn

theorem isJson_append {front : List UInt8} (json : isJson front = true) (back : List UInt8) :
    isJson (front ++ back) = true := by
  rw [isJson, decide_eq_true_eq] at json ⊢
  rw [List.find?_append, json]
  rfl

theorem parse_of_isJson {bytes : List UInt8} (json : isJson bytes = true) :
    parse bytes = (Json.readAll bytes).1.map .ok ++
      ((Json.readAll bytes).2.map fun f => .error (.json f)).toList := if_pos json

end Documents

end PackageInstall
