namespace PackageInstall

structure KeyMap (α : Type) where
  entries : List (String × α)
  ordered : entries.Pairwise fun a b => a.1 < b.1

namespace KeyMap

variable {α : Type}

instance [DecidableEq α] : DecidableEq (KeyMap α) := fun a b =>
  decidable_of_iff (a.entries = b.entries) (by cases a; cases b; simp)

def empty : KeyMap α := ⟨[], .nil⟩

instance : Inhabited (KeyMap α) := ⟨empty⟩

instance : EmptyCollection (KeyMap α) := ⟨empty⟩

def isEmpty (m : KeyMap α) : Bool := m.entries.isEmpty

def keys (m : KeyMap α) : List String := m.entries.map (·.1)

def lookup (k : String) : List (String × α) → Option α
  | [] => none
  | (k', v) :: rest => if k = k' then some v else lookup k rest

def get? (m : KeyMap α) (k : String) : Option α := lookup k m.entries

def contains (m : KeyMap α) (k : String) : Bool := (m.get? k).isSome

def place (k : String) (v : α) : List (String × α) → List (String × α)
  | [] => [(k, v)]
  | (k', v') :: rest =>
    if k < k' then (k, v) :: (k', v') :: rest
    else if k = k' then (k, v) :: rest
    else (k', v') :: place k v rest

theorem mem_place {k : String} {v : α} {l : List (String × α)} {e : String × α}
    (h : e ∈ place k v l) : e = (k, v) ∨ e ∈ l := by
  induction l with
  | nil => simp_all [place]
  | cons e' rest ih =>
    unfold place at h
    split at h
    · simpa using h
    · split at h <;> grind

theorem ordered_place {k : String} {v : α} {l : List (String × α)}
    (h : l.Pairwise fun a b => a.1 < b.1) :
    (place k v l).Pairwise fun a b => a.1 < b.1 := by
  induction l with
  | nil => simp [place]
  | cons e rest ih =>
    obtain ⟨head, tail⟩ := List.pairwise_cons.1 h
    unfold place
    split
    · rename_i less
      refine List.pairwise_cons.2 ⟨fun a ha => ?_, h⟩
      cases List.mem_cons.1 ha with
      | inl same => exact same ▸ less
      | inr later => exact String.lt_trans less (head a later)
    · rename_i notLess
      split
      · rename_i same
        exact List.pairwise_cons.2 ⟨fun a ha => same ▸ head a ha, tail⟩
      · rename_i differ
        refine List.pairwise_cons.2 ⟨fun a ha => ?_, ih tail⟩
        cases mem_place ha with
        | inl new =>
          subst new
          exact Decidable.byContradiction fun not =>
            differ (String.le_antisymm (String.not_lt.1 not) (String.not_lt.1 notLess))
        | inr old => exact head a old

def insert (m : KeyMap α) (k : String) (v : α) : KeyMap α :=
  ⟨place k v m.entries, ordered_place m.ordered⟩

/-- Inserts pairs from left to right, so a later one wins over an earlier one of the same key. -/
def insertAll (m : KeyMap α) (pairs : List (String × α)) : KeyMap α :=
  pairs.foldl (fun m e => m.insert e.1 e.2) m

def ofList (pairs : List (String × α)) : KeyMap α := empty.insertAll pairs

def union (m upper : KeyMap α) : KeyMap α := m.insertAll upper.entries

def filterKeys (m : KeyMap α) (p : String → Bool) : KeyMap α :=
  ⟨m.entries.filter fun e => p e.1, m.ordered.filter _⟩

theorem lookup_place (k k' : String) (v : α) (l : List (String × α))
    (h : l.Pairwise fun a b => a.1 < b.1) :
    lookup k' (place k v l) = if k' = k then some v else lookup k' l := by
  induction l with
  | nil => simp [place, lookup]
  | cons e rest ih =>
    obtain ⟨head, tail⟩ := List.pairwise_cons.1 h
    unfold place
    split
    · simp [lookup]
    · split
      · rename_i same
        subst same
        by_cases here : k' = e.1 <;> simp [lookup, here]
      · rename_i differ
        by_cases here : k' = e.1
        · subst here
          simp [lookup, Ne.symm differ]
        · simp [lookup, here, ih tail]

@[simp] theorem get?_insert (m : KeyMap α) (k k' : String) (v : α) :
    (m.insert k v).get? k' = if k' = k then some v else m.get? k' :=
  lookup_place k k' v m.entries m.ordered

@[simp] theorem get?_empty (k : String) : (empty : KeyMap α).get? k = none := rfl

theorem lookup_eq_none {k : String} {l : List (String × α)} (h : ∀ e ∈ l, k ≠ e.1) :
    lookup k l = none := by
  induction l with
  | nil => rfl
  | cons e rest ih => simp_all [lookup]

theorem lookup_eq_some {k : String} {v : α} {l : List (String × α)}
    (h : l.Pairwise fun a b => a.1 < b.1) : lookup k l = some v ↔ (k, v) ∈ l := by
  induction l with
  | nil => simp [lookup]
  | cons e rest ih =>
    obtain ⟨head, tail⟩ := List.pairwise_cons.1 h
    obtain ⟨k', v'⟩ := e
    by_cases same : k = k'
    · subst same
      simp only [lookup, if_true, Option.some.injEq, List.mem_cons, Prod.mk.injEq, true_and]
      constructor
      · exact fun h => .inl h.symm
      · rintro (h | h)
        · exact h.symm
        · exact absurd (head _ h) (String.lt_irrefl _)
    · simp [lookup, same, ih tail]

theorem get?_eq_some {m : KeyMap α} {k : String} {v : α} :
    m.get? k = some v ↔ (k, v) ∈ m.entries :=
  lookup_eq_some m.ordered

theorem entries_eq_of_lookup {l₁ l₂ : List (String × α)}
    (h₁ : l₁.Pairwise fun a b => a.1 < b.1) (h₂ : l₂.Pairwise fun a b => a.1 < b.1)
    (same : ∀ k, lookup k l₁ = lookup k l₂) : l₁ = l₂ := by
  induction l₁ generalizing l₂ with
  | nil =>
    cases l₂ with
    | nil => rfl
    | cons e rest => simpa [lookup] using same e.1
  | cons e₁ r₁ ih =>
    cases l₂ with
    | nil => simpa [lookup] using same e₁.1
    | cons e₂ r₂ =>
      obtain ⟨k₁, v₁⟩ := e₁
      obtain ⟨k₂, v₂⟩ := e₂
      obtain ⟨head₁, tail₁⟩ := List.pairwise_cons.1 h₁
      obtain ⟨head₂, tail₂⟩ := List.pairwise_cons.1 h₂
      have mem₁ : (k₁, v₁) ∈ (k₂, v₂) :: r₂ :=
        (lookup_eq_some h₂).1 (same k₁ ▸ by simp [lookup])
      have mem₂ : (k₂, v₂) ∈ (k₁, v₁) :: r₁ :=
        (lookup_eq_some h₁).1 ((same k₂).symm ▸ by simp [lookup])
      have heads : (k₁, v₁) = (k₂, v₂) := by
        rcases List.mem_cons.1 mem₁ with eq | in₂
        · exact eq
        · rcases List.mem_cons.1 mem₂ with eq | in₁
          · exact eq.symm
          · exact absurd (String.lt_trans (head₁ _ in₁) (head₂ _ in₂)) (String.lt_irrefl _)
      obtain ⟨rfl, rfl⟩ := Prod.mk.inj heads
      have tails : r₁ = r₂ := by
        refine ih tail₁ tail₂ fun k => ?_
        by_cases here : k = k₁
        · have none₁ : lookup k r₁ = none :=
            lookup_eq_none fun e he eq =>
              String.lt_irrefl k₁ (by simpa [← eq, here] using head₁ e he)
          have none₂ : lookup k r₂ = none :=
            lookup_eq_none fun e he eq =>
              String.lt_irrefl k₁ (by simpa [← eq, here] using head₂ e he)
          rw [none₁, none₂]
        · simpa [lookup, here] using same k
      rw [tails]

theorem ext_get? {m₁ m₂ : KeyMap α} (same : ∀ k, m₁.get? k = m₂.get? k) : m₁ = m₂ := by
  cases m₁ with | mk e₁ o₁ =>
  cases m₂ with | mk e₂ o₂ =>
  cases entries_eq_of_lookup o₁ o₂ same
  rfl

end KeyMap

end PackageInstall
