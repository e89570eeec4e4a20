import PackageInstall.Decimal.Notation
import PackageInstall.Text.Quoted
import PackageInstall.KeyMap

namespace PackageInstall

inductive Json where
  | null
  | bool (value : Bool)
  | int (value : Int)
  | float (value : Binary64)
  | text (value : String)
  | array (items : List Json)
  | object (fields : List (String × Json))
  deriving Inhabited

namespace Json

mutual

def same : Json → Json → Bool
  | null, null => true
  | bool a, bool b => a == b
  | int a, int b => a == b
  | float a, float b => decide (a = b)
  | text a, text b => a == b
  | array as, array bs => sameItems as bs
  | object as, object bs => sameFields as bs
  | _, _ => false

def sameItems : List Json → List Json → Bool
  | [], [] => true
  | a :: as, b :: bs => same a b && sameItems as bs
  | _, _ => false

def sameFields : List (String × Json) → List (String × Json) → Bool
  | [], [] => true
  | (k, a) :: as, (l, b) :: bs => k == l && same a b && sameFields as bs
  | _, _ => false

end

mutual

theorem same_self (a : Json) : same a a = true := by
  cases a <;> simp [same, sameItems_self, sameFields_self]

theorem sameItems_self (as : List Json) : sameItems as as = true := by
  cases as with
  | nil => rfl
  | cons a as => simp [sameItems, same_self a, sameItems_self as]

theorem sameFields_self (as : List (String × Json)) : sameFields as as = true := by
  cases as with
  | nil => rfl
  | cons e as => simp [sameFields, same_self e.2, sameFields_self as]

end

mutual

theorem eq_of_same {a b : Json} (h : same a b = true) : a = b := by
  cases a <;> cases b <;> simp_all [same]
  · exact eq_of_sameItems h
  · exact eq_of_sameFields h

theorem eq_of_sameItems {as bs : List Json} (h : sameItems as bs = true) : as = bs := by
  cases as <;> cases bs <;> simp_all [sameItems]
  exact ⟨eq_of_same h.1, eq_of_sameItems h.2⟩

theorem eq_of_sameFields {as bs : List (String × Json)} (h : sameFields as bs = true) :
    as = bs := by
  cases as <;> cases bs <;> simp_all [sameFields]
  exact ⟨Prod.ext h.1.1 (eq_of_same h.1.2), eq_of_sameFields h.2⟩

end

instance : DecidableEq Json := fun a b =>
  decidable_of_iff (same a b = true) ⟨eq_of_same, fun h => h ▸ same_self a⟩

/-- An object of some fields, of which the last of each key stands. -/
def ofFields (fields : List (String × Json)) : Json := object (KeyMap.ofList fields).entries

def ofMap (fields : KeyMap Json) : Json := object fields.entries

def describe : Json → String
  | null => "null"
  | bool value => "boolean `" ++ (if value then "true" else "false") ++ "`"
  | int value => "integer `" ++ toString value ++ "`"
  | float value => "floating point `" ++ value.compact ++ "`"
  | text value => "string " ++ Text.quoted value
  | array _ => "sequence"
  | object _ => "map"

end Json

end PackageInstall
