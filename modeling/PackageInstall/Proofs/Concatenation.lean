import PackageInstall.Proofs.Documents
import PackageInstall.Proofs.Stream

namespace PackageInstall.Documents

def OpensObject (bytes : List UInt8) : Prop :=
  bytes.find? (fun b => !Json.Phase.isBlank b) = some 0x7B

instance (bytes : List UInt8) : Decidable (OpensObject bytes) := inferInstanceAs (Decidable (_ = _))

theorem isBlank_of_json {b : UInt8} (blank : Json.Phase.isBlank b = true) : isBlank b = true := by
  grind [Json.Phase.isBlank, isBlank]

theorem OpensObject.next {b : UInt8} {rest : List UInt8} (opens : OpensObject (b :: rest)) :
    Json.Phase.isBlank b = true ∨ b = 0x7B := by
  cases blank : Json.Phase.isBlank b with
  | true => exact .inl rfl
  | false =>
    rw [OpensObject, List.find?_cons_of_pos (by simp [blank])] at opens
    exact .inr (Option.some.inj opens)

theorem OpensObject.isJson {bytes : List UInt8} (opens : OpensObject bytes) :
    isJson bytes = true := by
  induction bytes with
  | nil => cases opens
  | cons b rest ih =>
    cases blank : Json.Phase.isBlank b with
    | true =>
      rw [OpensObject, List.find?_cons_of_neg (by simp [blank])] at opens
      have skipped := ih opens
      rw [Documents.isJson, List.find?_cons_of_neg (by simp [isBlank_of_json blank])]
      exact skipped
    | false =>
      have brace := opens.next.resolve_left (by simp [blank])
      rw [brace]
      rfl

theorem resting_of_decode {bytes : List UInt8} (json : isJson bytes = true)
    (sound : ∀ item ∈ decode bytes, item.isOk = true) :
    (Json.readAll bytes).2 = none ∧ (Json.Reader.read bytes).phase.Resting := by
  rw [decode_eq, parse_of_isJson json] at sound
  obtain ⟨values, faults⟩ := ok_of_append sound
  have faultless : (Json.readAll bytes).2 = none := by
    cases fault : (Json.readAll bytes).2 with
    | none => rfl
    | some f =>
      rw [fault] at faults
      cases faults _ List.mem_cons_self
  -- A last value that still waits for a delimiter is no object, so its item is in order only as null.
  refine ⟨faultless, Json.Reader.resting_of_ending faultless fun value last => ?_⟩
  have read : (Json.readAll bytes).1 = (Json.Reader.read bytes).documents.reverse ++ [value] := by
    simp only [Json.readAll, Json.Reader.outcome, last, Option.toList]
  rw [read, List.map_append] at values
  have here := (ok_of_append values).2 _ List.mem_cons_self
  rw [itemOf_of_not_object (Json.Reader.isObject_ending (Json.Reader.bare_read bytes) last)] at here
  by_cases null : value = .null
  · exact null
  · rw [if_neg null] at here
    cases here

theorem map_unplaced_parse {bytes : List UInt8} (json : isJson bytes = true) :
    (parse bytes).map (·.mapError (·.unplaced)) = (Json.readAll bytes).1.map .ok ++
      (((Json.readAll bytes).2.map (·.fault)).map fun f => .error (.json ⟨f, .start⟩)).toList := by
  rw [parse_of_isJson json, List.map_append, List.map_map]
  cases (Json.readAll bytes).2 <;> rfl

/-- The items of an output in JSON that follows another, whose items are all in order, are its own,
counted on from those of the other. Where a text is at fault is told of the whole. -/
theorem decode_append {front back : List UInt8} (first : OpensObject front)
    (second : OpensObject back) (sound : ∀ item ∈ decode front, item.isOk = true) :
    (decode (front ++ back)).map Item.unplaced =
      (decode front ++ (decode back).map (Item.later (decode front).length)).map Item.unplaced := by
  obtain ⟨faultless, resting⟩ := resting_of_decode first.isJson sound
  -- Faults of the second text lie further on in the whole, so the documents agree only without places.
  have parsed : (parse (front ++ back)).map (·.mapError (·.unplaced)) =
      (parse front ++ parse back).map (·.mapError (·.unplaced)) := by
    cases back with
    | nil => cases second
    | cons b rest =>
      obtain ⟨values, fault⟩ := Json.readAll_append resting second.next rest
      rw [List.map_append, map_unplaced_parse (isJson_append first.isJson _),
        map_unplaced_parse first.isJson, map_unplaced_parse second.isJson, values, fault,
        faultless, List.map_append]
      simp only [Option.map_none, Option.toList_none, List.append_nil, List.append_assoc]
  have length : (decode front).length = (parse front).length := by
    rw [decode_eq] at sound ⊢
    exact length_itemsFrom_of_ok sound
  have counted : itemsFrom (0 + (parse front).length) (parse back) =
      (decode back).map (Item.later (decode front).length) := by
    rw [itemsFrom_later, length, decode_eq back]
  rw [decode_eq (front ++ back), ← itemsFrom_unplaced, parsed, itemsFrom_unplaced, itemsFrom_append,
    ← decode_eq front, if_pos (List.all_eq_true.2 sound), counted]

def frontSample : List UInt8 :=
  Utf8.encode "\x7b\"apiVersion\": \"v1\", \"kind\": \"A\"\x7dnull".toList

def backSample : List UInt8 :=
  Utf8.encode "\x7b\"apiVersion\": \"v1\", \"kind\": \"B\"\x7d\n]".toList

/-- A null stands between two objects, and the text ends at fault. -/
theorem decode_append_sample :
    OpensObject frontSample ∧ OpensObject backSample ∧
      (∀ item ∈ decode frontSample, item.isOk = true) ∧ (decode frontSample).length = 2 ∧
      (decode backSample).map (·.isOk) = [true, false] ∧
      (decode (frontSample ++ backSample)).map Item.unplaced =
        (decode frontSample ++ (decode backSample).map (Item.later 2)).map Item.unplaced := by
  have first : OpensObject frontSample := by decide +kernel
  have second : OpensObject backSample := by decide +kernel
  have sound : ∀ item ∈ decode frontSample, item.isOk = true := by decide +kernel
  have length : (decode frontSample).length = 2 := by decide +kernel
  refine ⟨first, second, sound, length, by decide +kernel, ?_⟩
  rw [decode_append first second sound, length]

end PackageInstall.Documents
