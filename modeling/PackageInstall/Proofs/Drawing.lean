import PackageInstall.Proofs.Documents

namespace PackageInstall

def DecodeError.document : DecodeError → Nat
  | yaml document => document
  | json document _ => document
  | object document _ => document

namespace Documents

structure Item.Conveys (n : Nat) (delivered : Except SyntaxFault Json) (item : Item) : Prop where
  empty : item = .ok none ↔ delivered = .ok .null
  object : ∀ o, item = .ok (some o) ↔ ∃ value, delivered = .ok value ∧ Object.ofJson value = .ok o
  refused : ∀ e, item = .error (.object n e) ↔
    ∃ value, delivered = .ok value ∧ value ≠ .null ∧ Object.ofJson value = .error e
  yaml : item = .error (.yaml n) ↔ delivered = .error .yaml
  json : ∀ fault, item = .error (.json n fault) ↔ delivered = .error (.json fault)
  document : ∀ e, item = .error e → e.document = n

theorem conveys_itemOf (n : Nat) (delivered : Except SyntaxFault Json) :
    Item.Conveys n delivered (itemOf n delivered) := by
  cases delivered with
  | error fault =>
    cases fault <;> constructor <;> simp [itemOf, DecodeError.ofSyntax, DecodeError.document]
  | ok value =>
    by_cases null : value = .null
    · have refuses : Object.ofJson .null = .error .notAnObject := rfl
      rw [null]
      constructor <;> simp [itemOf, refuses]
    · cases reads : Object.ofJson value with
      | error e =>
        rw [itemOf_of_refused null reads]
        constructor <;> simp [DecodeError.document, null, reads]
      | ok o =>
        rw [itemOf_of_read null reads]
        constructor <;> simp [null, reads]

def InOrder (parsed : List (Except SyntaxFault Json)) (n : Nat) : Prop :=
  ∀ k < n, ∀ delivered, parsed[k]? = some delivered → ∃ o, itemOf k delivered = .ok o

variable {parsed : List (Except SyntaxFault Json)} {n : Nat}

theorem inOrder_zero : InOrder parsed 0 := fun _ none => absurd none (Nat.not_lt_zero _)

theorem InOrder.mono {m : Nat} (inOrder : InOrder parsed m) (least : n ≤ m) : InOrder parsed n :=
  fun k less => inOrder k (Nat.lt_of_lt_of_le less least)

theorem InOrder.succ {delivered : Except SyntaxFault Json} (inOrder : InOrder parsed n)
    (there : parsed[n]? = some delivered) {o : Option Object} (ok : itemOf n delivered = .ok o) :
    InOrder parsed (n + 1) := by
  intro k less other found
  rcases Nat.lt_succ_iff_lt_or_eq.1 less with less | rfl
  · exact inOrder k less other found
  · obtain rfl := Option.some.inj (found.symm.trans there)
    exact ⟨o, ok⟩

theorem exists_first_error (disorder : ¬InOrder parsed n) : ∃ k < n, InOrder parsed k ∧
    ∃ delivered e, parsed[k]? = some delivered ∧ itemOf k delivered = .error e := by
  induction n with
  | zero => exact absurd inOrder_zero disorder
  | succ n ih =>
    by_cases before : InOrder parsed n
    · cases there : parsed[n]? with
      | none =>
        refine absurd (fun k less delivered found => ?_) disorder
        rcases Nat.lt_succ_iff_lt_or_eq.1 less with less | rfl
        · exact before k less delivered found
        · rw [there] at found
          cases found
      | some delivered =>
        cases item : itemOf n delivered with
        | ok o => exact absurd (before.succ there item) disorder
        | error e => exact ⟨n, Nat.lt_succ_self n, before, delivered, e, there, item⟩
    · obtain ⟨k, less, first⟩ := ih before
      exact ⟨k, Nat.lt_succ_of_lt less, first⟩

namespace Decoder

theorem next_cons (value : Except SyntaxFault Json) (rest : List (Except SyntaxFault Json))
    (n : Nat) : next ⟨value :: rest, n, false⟩ =
      (some (itemOf n value), ⟨rest, n + 1, !(itemOf n value).isOk⟩) := rfl

theorem next_of_exhausted {d : Decoder} (done : d.exhausted = true) : d.next = (none, d) :=
  if_pos done

theorem exhausted_of_next {d : Decoder} (nothing : d.next.1 = none) :
    d.next.2.exhausted = true := by
  unfold next at nothing ⊢
  split
  · assumption
  · split
    · rfl
    · simp_all

def after : Nat → Decoder → Decoder
  | 0, d => d
  | draws + 1, d => (after draws d).next.2

def answer (draws : Nat) (d : Decoder) : Option Item := (d.after draws).next.1

theorem after_next (draws : Nat) (d : Decoder) : d.next.2.after draws = d.after (draws + 1) := by
  induction draws with
  | zero => rfl
  | succ draws ih =>
    rw [after, ih]
    rfl

theorem answer_next (draws : Nat) (d : Decoder) : d.next.2.answer draws = d.answer (draws + 1) := by
  rw [answer, after_next, answer]

theorem answer_of_exhausted {d : Decoder} (done : d.exhausted = true) (draws : Nat) :
    d.answer draws = none := by
  have still : d.after draws = d := by
    induction draws with
    | zero => rfl
    | succ draws ih => rw [after, ih, next_of_exhausted done]
  rw [answer, still, next_of_exhausted done]

/-- The state of a decoder after some draws: the document with that number is the next one, or
the decoder is exhausted for a reason. -/
inductive Drawn (parsed : List (Except SyntaxFault Json)) (n : Nat) : Decoder → Prop where
  | running : InOrder parsed n → n ≤ parsed.length → Drawn parsed n ⟨parsed.drop n, n, false⟩
  | done {d : Decoder} : d.exhausted = true → parsed.length < n ∨ ¬InOrder parsed n →
    Drawn parsed n d

theorem Drawn.next {d : Decoder} (drawn : Drawn parsed n d) : Drawn parsed (n + 1) d.next.2 := by
  cases drawn with
  | running inOrder least =>
    rcases Nat.lt_or_eq_of_le least with less | rfl
    · have there : parsed[n]? = some parsed[n] := List.getElem?_eq_getElem less
      rw [List.drop_eq_getElem_cons less, next_cons]
      cases item : itemOf n parsed[n] with
      | ok o => exact .running (inOrder.succ there item) less
      | error e =>
        refine .done rfl (.inr fun after => ?_)
        obtain ⟨o, ok⟩ := after n (Nat.lt_succ_self n) _ there
        rw [item] at ok
        cases ok
    · rw [List.drop_length]
      exact .done rfl (.inl (Nat.lt_succ_self _))
  | done exhausted reason =>
    rw [next_of_exhausted exhausted]
    refine .done exhausted (reason.imp Nat.lt_succ_of_lt fun disorder inOrder => ?_)
    exact disorder (inOrder.mono (Nat.le_succ n))

theorem Drawn.answer_eq_some_iff {d : Decoder} (drawn : Drawn parsed n d) {item : Item} :
    d.next.1 = some item ↔
      InOrder parsed n ∧ ∃ delivered, parsed[n]? = some delivered ∧ itemOf n delivered = item := by
  cases drawn with
  | running inOrder least =>
    rcases Nat.lt_or_eq_of_le least with less | rfl
    · rw [List.drop_eq_getElem_cons less, List.getElem?_eq_getElem less]
      simp [Decoder.next, inOrder]
    · rw [List.drop_length]
      simp [Decoder.next]
  | done exhausted reason =>
    rw [next_of_exhausted exhausted]
    rcases reason with past | disorder
    · simp [List.getElem?_eq_none (Nat.le_of_lt past)]
    · simp [disorder]

theorem drawn_after (parsed : List (Except SyntaxFault Json)) (n : Nat) :
    Drawn parsed n ((ofParsed parsed).after n) := by
  induction n with
  | zero => exact .running inOrder_zero (Nat.zero_le _)
  | succ n ih => exact ih.next

theorem answer_eq_some_iff {item : Item} : (ofParsed parsed).answer n = some item ↔
    InOrder parsed n ∧ ∃ delivered, parsed[n]? = some delivered ∧ itemOf n delivered = item :=
  (drawn_after parsed n).answer_eq_some_iff

theorem answer_eq_none_iff : (ofParsed parsed).answer n = none ↔
    parsed.length ≤ n ∨ ∃ k < n, ∃ e, (ofParsed parsed).answer k = some (.error e) := by
  rw [← Option.not_isSome_iff_eq_none, Option.isSome_iff_exists]
  constructor
  · intro nothing
    by_cases inOrder : InOrder parsed n
    · refine .inl (Nat.not_lt.1 fun less => nothing ⟨itemOf n parsed[n], ?_⟩)
      exact answer_eq_some_iff.2 ⟨inOrder, _, List.getElem?_eq_getElem less, rfl⟩
    · obtain ⟨k, less, before, delivered, e, there, fails⟩ := exists_first_error inOrder
      exact .inr ⟨k, less, e, answer_eq_some_iff.2 ⟨before, delivered, there, fails⟩⟩
  · rintro reason ⟨item, answered⟩
    obtain ⟨inOrder, delivered, there, -⟩ := answer_eq_some_iff.1 answered
    rcases reason with past | ⟨k, less, e, failed⟩
    · rw [List.getElem?_eq_none past] at there
      cases there
    · obtain ⟨-, delivered', there', fails⟩ := answer_eq_some_iff.1 failed
      obtain ⟨o, ok⟩ := inOrder k less delivered' there'
      rw [fails] at ok
      cases ok

theorem getElem?_drain (left : Nat) (d : Decoder) (n : Nat) :
    (drain left d).1[n]? = if n < left then d.answer n else none := by
  induction left generalizing d n with
  | zero => simp [drain]
  | succ left ih =>
    cases drawn : d.next with
    | mk item after =>
      have state : d.next.2 = after := congrArg Prod.snd drawn
      cases item with
      | none =>
        have done : after.exhausted = true := by
          rw [← state]
          exact exhausted_of_next (congrArg Prod.fst drawn)
        have nothing : d.answer n = none := by
          cases n with
          | zero => exact congrArg Prod.fst drawn
          | succ n => rw [← answer_next, state, answer_of_exhausted done]
        simp [drain, drawn, nothing]
      | some item =>
        cases n with
        | zero =>
          have first : d.answer 0 = some item := congrArg Prod.fst drawn
          simp [drain, drawn, first]
        | succ n =>
          have rest : d.answer (n + 1) = after.answer n := by rw [← answer_next, state]
          simp [drain, drawn, ih, rest]

/-- How the draws from a decoder answer for the documents that its parser delivers. -/
structure Disciplined (parsed : List (Except SyntaxFault Json)) (d : Decoder) : Prop where
  collected : ∀ n, d.collect.1[n]? = d.answer n
  length : d.collect.1.length ≤ parsed.length
  conveys : ∀ n item, d.answer n = some item →
    ∃ delivered, parsed[n]? = some delivered ∧ item.Conveys n delivered
  before : ∀ n k item, n < k → d.answer k = some item → ∃ o, d.answer n = some (.ok o)
  nothing : ∀ n, d.answer n = none ↔
    parsed.length ≤ n ∨ ∃ k < n, ∃ e, d.answer k = some (.error e)
  afterwards : ∀ n k, n < k → (d.answer n = none ∨ ∃ e, d.answer n = some (.error e)) →
    d.answer k = none

theorem disciplined (parsed : List (Except SyntaxFault Json)) :
    Disciplined parsed (ofParsed parsed) := by
  have past : ∀ k, parsed.length ≤ k → (ofParsed parsed).answer k = none :=
    fun _ past => answer_eq_none_iff.2 (.inl past)
  have collected : ∀ n, (ofParsed parsed).collect.1[n]? = (ofParsed parsed).answer n := by
    intro n
    have drained := getElem?_drain (parsed.length + 1) (ofParsed parsed) n
    by_cases less : n < parsed.length + 1
    · rwa [if_pos less] at drained
    · rw [if_neg less] at drained
      rw [past n (by omega)]
      exact drained
  refine ⟨collected, ?_, ?_, ?_, fun _ => answer_eq_none_iff, ?_⟩
  · rw [← List.getElem?_eq_none_iff, collected]
    exact past _ (Nat.le_refl _)
  · intro n item answered
    obtain ⟨-, delivered, there, rfl⟩ := answer_eq_some_iff.1 answered
    exact ⟨delivered, there, conveys_itemOf n delivered⟩
  · intro n k item less answered
    obtain ⟨inOrder, delivered, there, -⟩ := answer_eq_some_iff.1 answered
    have before : n < parsed.length := Nat.lt_trans less (List.getElem?_eq_some_iff.1 there).1
    have found : parsed[n]? = some parsed[n] := List.getElem?_eq_getElem before
    obtain ⟨o, ok⟩ := inOrder n less _ found
    exact ⟨o, answer_eq_some_iff.2 ⟨inOrder.mono (Nat.le_of_lt less), _, found, ok⟩⟩
  · rintro n k less (nothing | ⟨e, failed⟩)
    · rcases answer_eq_none_iff.1 nothing with past | ⟨j, before, e, failed⟩
      · exact answer_eq_none_iff.2 (.inl (Nat.le_trans past (Nat.le_of_lt less)))
      · exact answer_eq_none_iff.2 (.inr ⟨j, Nat.lt_trans before less, e, failed⟩)
    · exact answer_eq_none_iff.2 (.inr ⟨n, less, e, failed⟩)

end Decoder

theorem isJson_of_fault {bytes : List UInt8} {fault : SyntaxFault}
    (member : Except.error fault ∈ parse bytes) : isJson bytes = true ↔ fault ≠ .yaml := by
  unfold parse at member
  split at member
  · rename_i json
    simp only [List.mem_append, List.mem_map, Option.mem_toList, Option.map_eq_some_iff] at member
    rcases member with ⟨value, -, same⟩ | ⟨f, -, same⟩
    · cases same
    · cases same
      simp [json]
  · rename_i other
    obtain ⟨value, -, same⟩ := List.mem_map.1 member
    cases value with
    | some value => cases same
    | none =>
      cases same
      simp [other]

def Decoder.ToldIn (json : Bool) (d : Decoder) : Prop :=
  ∀ n document, (d.answer n = some (.error (.yaml document)) → json = false) ∧
    ∀ fault, d.answer n = some (.error (.json document fault)) → json = true

theorem toldIn_isJson (bytes : List UInt8) : (Decoder.ofBytes bytes).ToldIn (isJson bytes) := by
  have disciplined := Decoder.disciplined (parse bytes)
  intro n document
  constructor
  · intro answered
    obtain ⟨delivered, there, conveys⟩ := disciplined.conveys n _ answered
    obtain rfl : document = n := conveys.document _ rfl
    rw [conveys.yaml.1 rfl] at there
    simpa using isJson_of_fault (List.mem_of_getElem? there)
  · intro fault answered
    obtain ⟨delivered, there, conveys⟩ := disciplined.conveys n _ answered
    obtain rfl : document = n := conveys.document _ rfl
    rw [(conveys.json fault).1 rfl] at there
    simpa using isJson_of_fault (List.mem_of_getElem? there)

/-- In both formats, and whatever a parser delivers, the draws from a decoder are disciplined. -/
theorem draws_disciplined : (∀ parsed, Decoder.Disciplined parsed (.ofParsed parsed)) ∧
    ∀ bytes, Decoder.Disciplined (parse bytes) (.ofBytes bytes) ∧
      (Decoder.ofBytes bytes).ToldIn (isJson bytes) :=
  ⟨Decoder.disciplined, fun bytes => ⟨Decoder.disciplined _, toldIn_isJson bytes⟩⟩

def sampleParsed : List (Except SyntaxFault Json) :=
  [.ok .null, .ok (.object [("apiVersion", .text "v1"), ("kind", .text "Pod")]), .error .yaml,
    .ok .null]

theorem draws_disciplined_sample :
    let d := Decoder.ofParsed sampleParsed
    d.answer 0 = some (.ok none) ∧ d.answer 1 = some (.ok (some ⟨"v1", "Pod", .empty, .empty⟩)) ∧
      d.answer 2 = some (.error (.yaml 2)) ∧ d.collect.1.length = 3 ∧
      ∀ n, 2 < n → d.answer n = none := by
  intro d
  have disciplined := draws_disciplined.1 sampleParsed
  have failed : d.answer 2 = some (.error (.yaml 2)) := rfl
  exact ⟨rfl, rfl, failed, rfl, fun n later => disciplined.afterwards 2 n later (.inr ⟨_, failed⟩)⟩

end Documents

end PackageInstall
