import PackageInstall.Coordinates

namespace PackageInstall.Coordinates

theorem splitSlash_eq_some {cs before after : List Char}
    (cut : splitSlash cs = some (before, after)) : cs = before ++ '/' :: after := by
  induction cs generalizing before after with
  | nil => cases cut
  | cons c rest ih =>
    unfold splitSlash at cut
    split at cut
    · rename_i slash
      cases cut
      rw [slash]
      rfl
    · obtain ⟨⟨a, b⟩, later, same⟩ := Option.map_eq_some_iff.1 cut
      cases same
      rw [ih later]
      rfl

theorem splitSlash_append {before : List Char} (free : '/' ∉ before) (after : List Char) :
    splitSlash (before ++ '/' :: after) = some (before, after) := by
  induction before with
  | nil => simp [splitSlash]
  | cons c rest ih =>
    obtain ⟨other, free⟩ := not_or.1 (mt List.mem_cons.2 free)
    simp [splitSlash, Ne.symm other, ih free]

theorem splitSlash_eq_none {cs : List Char} (free : '/' ∉ cs) : splitSlash cs = none := by
  induction cs with
  | nil => rfl
  | cons c rest ih =>
    obtain ⟨other, free⟩ := not_or.1 (mt List.mem_cons.2 free)
    simp [splitSlash, Ne.symm other, ih free]

theorem kind_ofApiVersion (apiVersion kind : String) :
    (ofApiVersion apiVersion kind).kind = kind := by
  unfold ofApiVersion
  split <;> rfl

theorem apiVersion_ofApiVersion {apiVersion kind : String}
    (grouped : (ofApiVersion apiVersion kind).group ≠ "") :
    (ofApiVersion apiVersion kind).apiVersion = apiVersion := by
  unfold ofApiVersion at grouped ⊢
  cases cut : splitSlash apiVersion.toList with
  | none => simp [cut] at grouped
  | some parts =>
    obtain ⟨group, version⟩ := parts
    simp only [cut] at grouped ⊢
    have whole : apiVersion.toList = group ++ '/' :: version := splitSlash_eq_some cut
    rw [Coordinates.apiVersion, if_neg grouped]
    apply String.toList_inj.1
    simp [whole]

end PackageInstall.Coordinates
