import PackageInstall.Persona
import PackageInstall.Proofs.Resource
import PackageInstall.Store

namespace PackageInstall

theorem Metadata.Apart.of_rest {m : Metadata} (h : m.rest = .empty) : m.Apart := by
  intro k _
  rw [h]
  rfl

namespace Persona

theorem role_rest (p : Persona) (request : InstallRequest) (rolePrefix : String) :
    (p.role request rolePrefix).metadata.rest = .empty := rfl

theorem role_name (p : Persona) (request : InstallRequest) (rolePrefix : String) :
    (p.role request rolePrefix).name = p.roleName rolePrefix request.namespaceName := rfl

theorem role_name_ne (p : Persona) (request : InstallRequest) (rolePrefix : String) :
    (p.role request rolePrefix).name ≠ "" := by
  intro empty
  have length := congrArg String.length empty
  simp [role_name, roleName, roleNameOf] at length

theorem separator_notMem_name (p : Persona) : ':' ∉ p.name.toList := by
  cases p <;> decide

theorem name_inj {p q : Persona} : p.name = q.name ↔ p = q := by
  cases p <;> cases q <;> decide

theorem append_separator_inj {before before' after after' : List Char} (last : ':' ∉ after)
    (last' : ':' ∉ after') :
    before ++ ':' :: after = before' ++ ':' :: after' ↔ before = before' ∧ after = after' := by
  constructor
  · intro same
    rcases List.append_eq_append_iff.1 same with ⟨more, rfl, tail⟩ | ⟨more, rfl, tail⟩
    all_goals
      cases more with
      | nil => simp_all
      | cons c rest =>
        obtain ⟨-, tail⟩ := List.cons.inj tail
        simp [tail] at last last'
  · rintro ⟨rfl, rfl⟩
    rfl

/-- The namespace may hold separators itself, so a name is parted at its last one. -/
theorem roleName_inj {p q : Persona} {rolePrefix a b : String} :
    p.roleName rolePrefix a = q.roleName rolePrefix b ↔ a = b ∧ p = q := by
  have parted : ∀ (p : Persona) (namespaceName : String),
      (p.roleName rolePrefix namespaceName).toList =
        (rolePrefix.toList ++ ":ns:".toList ++ namespaceName.toList) ++ ':' :: p.name.toList := by
    intro p namespaceName
    simp [roleName, roleNameOf]
  rw [← String.toList_inj, parted, parted,
    append_separator_inj p.separator_notMem_name q.separator_notMem_name,
    List.append_cancel_left_eq, String.toList_inj, String.toList_inj, name_inj]

def roleObjects (request : InstallRequest) (rolePrefix : String) : List Object :=
  if request.kind = .stackInstall then
    [admin, edit, view].map fun p => Resource.object (p.role request rolePrefix)
  else []

theorem roleObjects_eq (request : InstallRequest) (rolePrefix : String) :
    roleObjects request rolePrefix = (roles request rolePrefix).map Resource.object := by
  unfold roleObjects roles InstallRequest.scope
  cases request.kind <;> rfl

theorem not_isStackRecord_of_mem {request : InstallRequest} {rolePrefix : String} {o : Object}
    (member : o ∈ roleObjects request rolePrefix) : ¬o.IsStackRecord := by
  have other : ¬(Coordinates.ofApiVersion ClusterRole.coordinates.apiVersion
      ClusterRole.coordinates.kind).IsStackRecord := by decide
  unfold roleObjects at member
  split at member
  · obtain ⟨p, -, rfl⟩ := List.mem_map.1 member
    exact other
  · cases member

theorem name_ne_of_mem {request : InstallRequest} {rolePrefix : String} {o : Object}
    (member : o ∈ roleObjects request rolePrefix) : o.name ≠ "" := by
  unfold roleObjects at member
  split at member
  · obtain ⟨p, -, rfl⟩ := List.mem_map.1 member
    exact p.role_name_ne request rolePrefix
  · cases member

theorem exists_of_mem_roles {request : InstallRequest} {rolePrefix : String} {r : ClusterRole}
    (member : r ∈ roles request rolePrefix) : ∃ p : Persona, r = p.role request rolePrefix := by
  unfold roles at member
  split at member
  · obtain ⟨p, -, rfl⟩ := List.mem_map.1 member
    exact ⟨p, rfl⟩
  · cases member

theorem toObject_role (p : Persona) (request : InstallRequest) (rolePrefix : String) :
    Resource.toObject (p.role request rolePrefix) =
      .ok (Resource.object (p.role request rolePrefix)) :=
  ClusterRole.toObject_eq (.of_rest (role_rest p request rolePrefix))

theorem toResource_role (p : Persona) (request : InstallRequest) (rolePrefix : String)
    (i : Identity) :
    ∃ r, (Store.identified (Resource.object (p.role request rolePrefix)) i).toResource
      ClusterRole = .ok r :=
  ⟨_, ClusterRole.toResource_object _ (.of_rest (role_rest p request rolePrefix))⟩

end Persona

end PackageInstall
