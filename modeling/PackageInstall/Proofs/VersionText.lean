import PackageInstall.Proofs.Coordinates
import PackageInstall.Proofs.Store

namespace PackageInstall.Coordinates

theorem ofApiVersion_of_free {s : String} (free : '/' ∉ s.toList) (kind : String) :
    ofApiVersion s kind = ⟨"", s, kind⟩ := by
  rw [ofApiVersion, splitSlash_eq_none free]

theorem ofApiVersion_joined {group : String} (free : '/' ∉ group.toList) (version kind : String) :
    ofApiVersion (group ++ "/" ++ version) kind = ⟨group, version, kind⟩ := by
  have parts : (group ++ "/" ++ version).toList = group.toList ++ '/' :: version.toList := by simp
  rw [ofApiVersion, parts, splitSlash_append free]
  simp

theorem free_or_joined (s : String) :
    '/' ∉ s.toList ∨ ∃ group version, '/' ∉ group.toList ∧ s = group ++ "/" ++ version := by
  by_cases slash : '/' ∈ s.toList
  · obtain ⟨before, after, whole, free⟩ := List.eq_append_cons_of_mem slash
    refine .inr ⟨String.ofList before, String.ofList after, by simpa using free, ?_⟩
    apply String.toList_inj.1
    simp [whole]
  · exact .inl slash

theorem slash_mem_joined (group version : String) : '/' ∈ (group ++ "/" ++ version).toList := by
  simp

def Told (c : Coordinates) : Prop :=
  (c.group ≠ "" ∧ '/' ∉ c.group.toList) ∨ (c.group = "" ∧ '/' ∉ c.version.toList)

theorem ofApiVersion_apiVersion_iff (c : Coordinates) :
    ofApiVersion c.apiVersion c.kind = c ↔ c.Told := by
  obtain ⟨group, version, kind⟩ := c
  by_cases core : group = ""
  · subst core
    rcases free_or_joined version with free | ⟨before, after, free, rfl⟩
    · simp [Told, apiVersion, ofApiVersion_of_free free, free]
    · -- what comes after the slash is shorter than the whole
      have shorter : after ≠ before ++ "/" ++ after := by
        intro same
        have length := congrArg String.length same
        simp at length
      simp [Told, apiVersion, ofApiVersion_joined free, shorter]
  · simp only [Told, apiVersion, core, if_false, false_and, or_false, ne_eq, not_false_eq_true,
      true_and]
    constructor
    · intro back
      rcases free_or_joined (group ++ "/" ++ version) with free | ⟨before, after, free, whole⟩
      · exact absurd (slash_mem_joined group version) free
      · rw [whole, ofApiVersion_joined free] at back
        obtain ⟨rfl, -⟩ := Coordinates.mk.inj back
        exact free
    · exact fun free => ofApiVersion_joined free version kind

theorem apiVersion_ofApiVersion_iff (s kind : String) :
    (ofApiVersion s kind).apiVersion = s ↔ s.toList.head? ≠ some '/' := by
  rcases free_or_joined s with free | ⟨group, version, free, rfl⟩
  · rw [ofApiVersion_of_free free, apiVersion, if_pos rfl]
    exact ⟨fun _ first => free (List.mem_of_mem_head? first), fun _ => rfl⟩
  · rw [ofApiVersion_joined free, apiVersion]
    cases letters : group.toList with
    | nil =>
      obtain rfl : group = "" := String.toList_eq_nil_iff.1 letters
      have longer : version ≠ "" ++ "/" ++ version := by
        intro same
        have length := congrArg String.length same
        simp at length
      simpa using longer
    | cons c rest =>
      have other : c ≠ '/' := by
        rintro rfl
        exact free (letters ▸ List.mem_cons_self)
      have core : group ≠ "" := by
        rintro rfl
        cases letters
      simp [core, letters, other]

/-- The second version string is the first with a slash in front of it, and no other. -/
def Slashed (s t : String) : Prop := '/' ∉ s.toList ∧ t = "/" ++ s

theorem ofApiVersion_inj (s t kind : String) :
    ofApiVersion s kind = ofApiVersion t kind ↔ s = t ∨ Slashed s t ∨ Slashed t s := by
  constructor
  · intro same
    rcases free_or_joined s with free | ⟨group, version, free, rfl⟩ <;>
      rcases free_or_joined t with free' | ⟨group', version', free', rfl⟩
    · rw [ofApiVersion_of_free free, ofApiVersion_of_free free'] at same
      exact .inl (Coordinates.mk.inj same).2.1
    · rw [ofApiVersion_of_free free, ofApiVersion_joined free'] at same
      obtain ⟨rfl, rfl, -⟩ := Coordinates.mk.inj same
      exact .inr (.inl ⟨free, by simp⟩)
    · rw [ofApiVersion_joined free, ofApiVersion_of_free free'] at same
      obtain ⟨rfl, rfl, -⟩ := Coordinates.mk.inj same
      exact .inr (.inr ⟨free', by simp⟩)
    · rw [ofApiVersion_joined free, ofApiVersion_joined free'] at same
      obtain ⟨rfl, rfl, -⟩ := Coordinates.mk.inj same
      exact .inl rfl
  · have slashed : ∀ {a b : String}, Slashed a b → ofApiVersion b kind = ofApiVersion a kind := by
      rintro a b ⟨free, rfl⟩
      have unslashed : '/' ∉ "".toList := by simp
      have joined := ofApiVersion_joined unslashed a kind
      rwa [String.empty_append, ← ofApiVersion_of_free free kind] at joined
    rintro (rfl | leads | leads)
    · rfl
    · exact (slashed leads).symm
    · exact slashed leads

/-- Coordinates come back from their version string where they are told in full by it, a version
string comes back from its coordinates where no slash stands in front, and two version strings lead
objects of one kind, namespace and name to one place only if they differ by a slash in front. -/
theorem apiVersion_round_trips :
    (∀ c : Coordinates, ofApiVersion c.apiVersion c.kind = c ↔
      (c.group ≠ "" ∧ '/' ∉ c.group.toList) ∨ (c.group = "" ∧ '/' ∉ c.version.toList)) ∧
    (∀ s kind : String, (ofApiVersion s kind).apiVersion = s ↔ s.toList.head? ≠ some '/') ∧
    ∀ (o : Object) (s t : String),
      ({ o with apiVersion := s }).place = ({ o with apiVersion := t }).place ↔
        s = t ∨ Slashed s t ∨ Slashed t s := by
  refine ⟨ofApiVersion_apiVersion_iff, apiVersion_ofApiVersion_iff, fun o s t => ?_⟩
  have key : ObjectKey.ofObject { o with apiVersion := s } =
    ObjectKey.ofObject { o with apiVersion := t } := rfl
  rw [Object.place, Object.place, key, Prod.mk.injEq, Object.coordinates, Object.coordinates,
    ofApiVersion_inj]
  simp

example : ofApiVersion "/v1" "Pod" = ofApiVersion "v1" "Pod" := by decide

end PackageInstall.Coordinates
