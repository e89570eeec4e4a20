import PackageInstall.Proofs.Blank
import PackageInstall.Proofs.Record
import PackageInstall.Proofs.Stream

namespace PackageInstall

namespace Documents

theorem isJson_take {bytes : List UInt8} (json : isJson bytes = true) (n : Nat) :
    isJson (bytes.take n) = true ∨ ∀ b ∈ bytes.take n, isBlank b = true := by
  cases found : (bytes.take n).find? (fun b => !isBlank b) with
  | none =>
    refine .inr fun b member => ?_
    simpa using List.find?_eq_none.1 found b member
  | some b =>
    have whole : bytes.find? (fun b => !isBlank b) = some b := by
      rw [← List.take_append_drop n bytes, List.find?_append, found, Option.some_or]
    rw [isJson, decide_eq_true_eq, whole] at json
    rw [isJson, decide_eq_true_eq, found]
    exact .inl json

end Documents

namespace Completion

open Cluster Documents

theorem documentsOf_append (front back : List Item) :
    documentsOf (front ++ back) = documentsOf front ++ documentsOf back := List.filterMap_append

theorem documentsOf_itemsFrom_prefix (n : Nat) (front back : List (Except SyntaxFault Json)) :
    documentsOf (itemsFrom n front) <+: documentsOf (itemsFrom n (front ++ back)) := by
  rw [itemsFrom_append, documentsOf_append]
  exact List.prefix_append _ _

theorem documentsOf_itemsFrom_bare {parsed : List (Except SyntaxFault Json)}
    (bare : ∀ value, .ok value ∈ parsed → Object.isObject value = false) (n : Nat) :
    documentsOf (itemsFrom n parsed) = [] := by
  induction parsed generalizing n with
  | nil => rfl
  | cons value rest ih =>
    have later := ih (fun value member => bare value (List.mem_cons_of_mem _ member)) (n + 1)
    cases value with
    | error fault => rfl
    | ok value =>
      rw [itemsFrom, itemOf_of_not_object (bare value List.mem_cons_self)]
      by_cases null : value = .null
      · rw [if_pos null]
        exact later
      · rw [if_neg null]
        rfl

theorem documentsOf_itemsFrom_append_bare {front back : List (Except SyntaxFault Json)}
    (bare : ∀ value, .ok value ∈ back → Object.isObject value = false) (n : Nat) :
    documentsOf (itemsFrom n (front ++ back)) = documentsOf (itemsFrom n front) := by
  rw [itemsFrom_append, documentsOf_append]
  split
  · rw [documentsOf_itemsFrom_bare bare, List.append_nil]
  · exact List.append_nil _

theorem documentsOf_decode {bytes : List UInt8} (json : isJson bytes = true) :
    documentsOf (decode bytes) =
      documentsOf (itemsFrom 0 ((Json.Reader.read bytes).documents.reverse.map .ok)) := by
  have parsed : parse bytes = (Json.Reader.read bytes).documents.reverse.map .ok ++
      ((Json.Reader.read bytes).ending.1.toList.map .ok ++
        ((Json.readAll bytes).2.map fun f => .error (.json f)).toList) := by
    rw [parse_of_isJson json, ← List.append_assoc, ← List.map_append]
    rfl
  rw [decode_eq, parsed]
  -- What the end itself brings is a value of another kind, or a fault.
  refine documentsOf_itemsFrom_append_bare (fun value member => ?_) 0
  have last : (Json.Reader.read bytes).ending.1 = some value := by simpa using member
  exact Json.Reader.isObject_ending (Json.Reader.bare_read bytes) last

theorem documentsOf_decode_take {bytes : List UInt8} (json : isJson bytes = true) (n : Nat) :
    documentsOf (decode (bytes.take n)) <+: documentsOf (decode bytes) := by
  rcases isJson_take json n with cut | blanks
  · have found := Json.Reader.documents_suffix (Json.Reader.read (bytes.take n)) (bytes.drop n)
    rw [← Json.Reader.read_append, List.take_append_drop] at found
    obtain ⟨more, grown⟩ := List.reverse_prefix.2 found
    rw [documentsOf_decode cut, documentsOf_decode json, ← grown, List.map_append]
    exact documentsOf_itemsFrom_prefix _ _ _
  · -- Only blanks have come, so what is left is read in the other format.
    have nothing : documentsOf (decode (bytes.take n)) = [] := by
      rcases decode_of_blank blanks with items | items <;> rw [items] <;> rfl
    rw [nothing]
    exact List.nil_prefix

theorem Origin.mono {rolePrefix : String} {request : InstallRequest} {items items' : List Item}
    (told : ∀ document ∈ documentsOf items, document ∈ documentsOf items') {o : Object}
    (origin : Origin rolePrefix request items o) : Origin rolePrefix request items' o := by
  cases origin with
  | role i member schema isRole =>
    exact .role i (mem_documentsOf.1 (told _ (mem_documentsOf.2 member))) schema isRole
  | document member made =>
    exact .document (mem_documentsOf.1 (told _ (mem_documentsOf.2 member))) made

/-- The documents of an output in JSON that was cut off are the first of those of the whole output,
so whatever calls fail, a completion that reads it creates only what the whole output tells of. -/
theorem cut_output_adds_nothing {bytes : List UInt8} (json : isJson bytes = true) (n : Nat) :
    documentsOf (decode (bytes.take n)) <+: documentsOf (decode bytes) ∧
      ∀ (c : Cluster) (rolePrefix : String) (request : InstallRequest) (job : Job),
        (∀ pod, podsOf c.store job = [pod] →
          c.logs.body ⟨job.metadata.namespaceName, pod.name⟩ = .ok (bytes.take n)) →
        ∃ new, (c.run (complete rolePrefix request job)).2.store.entries = c.store.entries ++ new ∧
          ∀ e ∈ new, Origin rolePrefix request (decode bytes) e.object := by
  have first := documentsOf_decode_take json n
  refine ⟨first, fun c rolePrefix request job written => ?_⟩
  obtain ⟨new, grown, created⟩ := created_of_complete c rolePrefix request job
  refine ⟨new, grown, fun e member => ?_⟩
  obtain ⟨pod, output, o, told, one, read, act, same⟩ := created e member
  obtain rfl : bytes.take n = output := Except.ok.inj ((written pod one).symm.trans read)
  rw [same]
  exact (origin_of_mem_agenda act _).mono fun document there => first.subset there

-- An output of two documents, which is cut off inside the second.

def wholeOutput : List UInt8 :=
  Utf8.encode ("\n\x7b\"apiVersion\": \"stacks.crossplane.io/v1alpha1\", \"kind\": \"Stack\"\x7d" ++
    "\x7b\"apiVersion\": \"v1\", \"kind\": \"A\", \"metadata\": \x7b\"name\": \"a\"\x7d\x7d").toList

def cutCluster : Cluster :=
  .calm sampleStore (LogBook.empty.insert ⟨"a", "p"⟩ (wholeOutput.take 100)) sampleIdentities

theorem cut_output_adds_nothing_sample :
    isJson wholeOutput = true ∧ (documentsOf (decode (wholeOutput.take 100))).length = 1 ∧
      (documentsOf (decode wholeOutput)).length = 2 ∧
      documentsOf (decode (wholeOutput.take 100)) <+: documentsOf (decode wholeOutput) ∧
      let left := (cutCluster.run (complete "x" sampleRequest sampleJob)).2.store
      left.entries.length = 2 ∧ ∃ new, left.entries = sampleStore.entries ++ new ∧
        ∀ e ∈ new, Origin "x" sampleRequest (decode wholeOutput) e.object := by
  have json : isJson wholeOutput = true := by decide +kernel
  have written : ∀ pod, podsOf cutCluster.store sampleJob = [pod] →
      cutCluster.logs.body ⟨"a", pod.name⟩ = .ok (wholeOutput.take 100) := by
    intro pod one
    have same : Store.identified samplePod (sampleIdentities 0) = pod :=
      List.singleton_inj.1 (sample_pods.symm.trans one)
    rw [← same]
    rfl
  have ran : (documentsOf (decode (wholeOutput.take 100))).length = 1 ∧
      (documentsOf (decode wholeOutput)).length = 2 ∧
      (cutCluster.run (complete "x" sampleRequest sampleJob)).2.store.entries.length = 2 := by
    decide +kernel
  obtain ⟨first, second, left⟩ := ran
  obtain ⟨initial, creates⟩ := cut_output_adds_nothing json 100
  exact ⟨json, first, second, initial, left,
    creates cutCluster "x" sampleRequest sampleJob written⟩

end Completion

end PackageInstall
