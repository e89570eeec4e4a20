import PackageInstall.Json.Reader
import PackageInstall.Object

namespace PackageInstall.Json

def isNumber : Json → Bool
  | .int _ | .float _ => true
  | _ => false

theorem isObject_of_isNumber {value : Json} (number : value.isNumber = true) :
    Object.isObject value = false := by
  cases value <;> first | rfl | cases number

namespace Numeral

theorem isNumber_ofWhole (negative : Bool) (digits : Nat) :
    (ofWhole negative digits).isNumber = true := by
  unfold ofWhole
  split
  · rfl
  · split <;> rfl

theorem isNumber_of_scaled {negative : Bool} {digits : Nat} {power : Int} {value : Json}
    (read : scaled negative digits power = .ok value) : value.isNumber = true := by
  unfold scaled at read
  dsimp only at read
  repeat' split at read
  all_goals cases read <;> rfl

theorem isNumber_of_value {numeral : Numeral} {value : Json} (read : numeral.value = .ok value) :
    value.isNumber = true := by
  cases numeral <;> simp only [Numeral.value, reduceCtorEq, Except.ok.injEq] at read
  case zero | whole => exact read ▸ isNumber_ofWhole _ _
  case vanished => exact read ▸ rfl
  case long | fraction | longFraction | exponent => exact isNumber_of_scaled read

end Numeral

namespace Phase

/-- Whether no object is held back: what waits for the byte after it, or is being spelt out, is a
value of another kind. -/
def Bare : Phase → Prop
  | scalar value => Object.isObject value = false
  | inside _ (.word _ value) => Object.isObject value = false
  | _ => True

theorem bare_deliver (frames : List Frame) {value : Json} {selfDelimited : Bool}
    (other : selfDelimited = true ∨ Object.isObject value = false) :
    (deliver frames value selfDelimited).next.Bare := by
  unfold deliver
  split
  · split
    · trivial
    · exact other.resolve_left ‹_›
  · trivial
  · trivial
  · trivial

theorem bare_stepValue (frames : List Frame) (waiting : Phase) (bare : waiting.Bare) (b : UInt8) :
    (stepValue frames waiting b).next.Bare := by
  unfold stepValue
  repeat' refine iteInduction (motive := fun s : Step => s.next.Bare) (fun _ => ?_) fun _ => ?_
  all_goals first | exact bare | trivial

theorem bare_close (frames : List Frame) : (close frames).next.Bare := by
  unfold close
  split
  · exact bare_deliver _ (.inl rfl)
  · exact bare_deliver _ (.inl rfl)
  · exact bare_deliver _ (.inl rfl)
  · trivial

theorem bare_named (frames : List Frame) (key : String) : (named frames key).next.Bare := by
  unfold named
  split <;> trivial

theorem bare_stepAfter (phase : Phase) (bare : phase.Bare) (b : UInt8) :
    (stepAfter phase b).next.Bare := by
  unfold stepAfter
  split
  · repeat' split
    all_goals first | exact bare_close _ | trivial
  · repeat' split
    all_goals first | exact bare_close _ | trivial
  · split
    · exact bare_stepValue [] between trivial b
    · trivial
  · exact bare

theorem bare_stepEnded (frames : List Frame) (numeral : Numeral) (b : UInt8) :
    (stepEnded frames numeral b).next.Bare := by
  unfold stepEnded
  split
  · rename_i value read
    have other := isObject_of_isNumber (Numeral.isNumber_of_value read)
    exact bare_stepAfter _ (bare_deliver frames (.inr other)) b
  · trivial

theorem bare_stepInside (frames : List Frame) (spot : Spot) (bare : (inside frames spot).Bare)
    (b : UInt8) : (stepInside frames spot b).next.Bare := by
  cases spot with
  | value => exact bare_stepValue frames _ bare b
  | firstItem =>
    simp only [stepInside]
    split
    · exact bare_close frames
    · exact bare_stepValue frames _ bare b
  | nextItem =>
    simp only [stepInside]
    split
    · trivial
    · exact bare_stepValue frames _ bare b
  | itemEnd => exact bare_stepAfter _ bare b
  | fieldEnd => exact bare_stepAfter _ bare b
  | firstKey =>
    simp only [stepInside]
    repeat' split
    all_goals first | exact bare_close frames | trivial
  | nextKey =>
    simp only [stepInside]
    repeat' split
    all_goals trivial
  | colon =>
    simp only [stepInside]
    repeat' split
    all_goals trivial
  | word left value =>
    cases left with
    | nil => exact bare_deliver frames (.inr bare)
    | cons expected left =>
      simp only [stepInside]
      repeat' split
      · trivial
      · exact bare_deliver frames (.inr bare)
      · exact bare
  | numeral numeral =>
    simp only [stepInside]
    split
    · trivial
    · exact bare_stepEnded frames numeral b
    · trivial
  | string letters =>
    simp only [stepInside]
    split
    · trivial
    · exact bare_deliver frames (.inl rfl)
    · trivial
  | key letters =>
    simp only [stepInside]
    split
    · trivial
    · exact bare_named frames _
    · trivial

theorem bare_step (phase : Phase) (bare : phase.Bare) (b : UInt8) :
    (phase.step b).next.Bare := by
  cases phase with
  | between => exact bare_stepValue [] between bare b
  | scalar value => exact bare_stepAfter (scalar value) bare b
  | inside frames spot => exact bare_stepInside frames spot bare b
  | failed fault mark => trivial

theorem stepValue_document (frames : List Frame) (waiting : Phase) (b : UInt8) :
    (stepValue frames waiting b).document = none := by
  unfold stepValue
  repeat' refine iteInduction (motive := fun s : Step => s.document = none) (fun _ => ?_) fun _ => ?_
  all_goals rfl

/-- The phases in which a stream may end: nothing is begun, or a null waits for what follows it. -/
def Resting (phase : Phase) : Prop := phase = between ∨ phase = scalar .null

end Phase

namespace Reader

variable {r r' : Reader}

theorem phase_feed (r : Reader) (b : UInt8) : (r.feed b).phase = (r.phase.step b).next := by
  obtain ⟨documents, phase, place⟩ := r
  cases phase <;> rfl

theorem documents_feed (r : Reader) (b : UInt8) :
    (r.feed b).documents = (r.phase.step b).document.toList ++ r.documents := by
  obtain ⟨documents, phase, place⟩ := r
  cases phase <;> rfl

theorem read_append (front back : List UInt8) :
    read (front ++ back) = back.foldl feed (read front) := List.foldl_append

theorem documents_suffix (r : Reader) (bytes : List UInt8) :
    r.documents <:+ (bytes.foldl feed r).documents := by
  induction bytes generalizing r with
  | nil => exact List.suffix_rfl
  | cons b rest ih =>
    have here : r.documents <:+ (r.feed b).documents := by
      rw [documents_feed]
      exact List.suffix_append _ _
    exact here.trans (ih (r.feed b))

theorem bare_foldl (bare : r.phase.Bare) (bytes : List UInt8) :
    (bytes.foldl feed r).phase.Bare := by
  induction bytes generalizing r with
  | nil => exact bare
  | cons b rest ih =>
    refine ih ?_
    rw [phase_feed]
    exact Phase.bare_step _ bare b

theorem bare_read (bytes : List UInt8) : (read bytes).phase.Bare :=
  bare_foldl (r := start) trivial bytes

theorem ending_inside {frames : List Frame} {spot : Spot} (phase : r.phase = .inside frames spot) :
    r.ending.1 = none ∧ r.ending.2 ≠ none ∨
      ∃ value, value.isNumber = true ∧ r.ending = (some value, none) := by
  cases spot with
  | numeral numeral =>
    simp only [ending, phase]
    cases read : numeral.value with
    | error fault => exact .inl ⟨rfl, nofun⟩
    | ok value =>
      cases frames with
      | nil => exact .inr ⟨value, Numeral.isNumber_of_value read, rfl⟩
      | cons frame rest => cases frame <;> exact .inl ⟨rfl, nofun⟩
  | _ => exact .inl (by simp [ending, phase])

theorem isObject_ending (bare : r.phase.Bare) {value : Json} (last : r.ending.1 = some value) :
    Object.isObject value = false := by
  cases phase : r.phase with
  | between => simp [ending, phase] at last
  | failed fault mark => simp [ending, phase] at last
  | scalar waiting =>
    simp only [ending, phase, Option.some.injEq] at last
    rw [phase] at bare
    exact last ▸ bare
  | inside frames spot =>
    rcases ending_inside phase with ⟨nothing, -⟩ | ⟨number, isNumber, ends⟩
    · rw [nothing] at last
      cases last
    · rw [ends] at last
      cases last
      exact isObject_of_isNumber isNumber

theorem resting_of_ending (faultless : r.ending.2 = none)
    (last : ∀ value, r.ending.1 = some value → value = .null) : r.phase.Resting := by
  cases phase : r.phase with
  | between => exact .inl rfl
  | failed fault mark => simp [ending, phase] at faultless
  | scalar waiting =>
    have null := last waiting (by simp [ending, phase])
    exact .inr (congrArg _ null)
  | inside frames spot =>
    rcases ending_inside phase with ⟨-, fault⟩ | ⟨number, isNumber, ends⟩
    · exact absurd faultless fault
    · rw [last number (congrArg Prod.fst ends)] at isNumber
      cases isNumber

/-- How a reader stands to one that has read the same bytes behind others: it is in the same phase
and has found the same documents but for the earlier ones. Places differ. -/
structure Behind (earlier : List Json) (r r' : Reader) : Prop where
  phase : r'.phase = r.phase
  documents : r'.documents = r.documents ++ earlier

namespace Behind

variable {earlier : List Json}

theorem feed (behind : Behind earlier r r') (b : UInt8) : Behind earlier (r.feed b) (r'.feed b) where
  phase := by rw [phase_feed, phase_feed, behind.phase]
  documents := by
    rw [documents_feed, documents_feed, behind.phase, behind.documents, List.append_assoc]

theorem foldl (behind : Behind earlier r r') (bytes : List UInt8) :
    Behind earlier (bytes.foldl Reader.feed r) (bytes.foldl Reader.feed r') := by
  induction bytes generalizing r r' with
  | nil => exact behind
  | cons b rest ih => exact ih (behind.feed b)

theorem ending (behind : Behind earlier r r') :
    r'.ending.1 = r.ending.1 ∧ r'.ending.2.map (·.fault) = r.ending.2.map (·.fault) := by
  unfold Reader.ending
  rw [behind.phase]
  repeat' split
  all_goals exact ⟨rfl, rfl⟩

theorem outcome (behind : Behind earlier r r') :
    r'.outcome.1 = earlier.reverse ++ r.outcome.1 ∧
      r'.outcome.2.map (·.fault) = r.outcome.2.map (·.fault) := by
  obtain ⟨last, fault⟩ := behind.ending
  refine ⟨?_, fault⟩
  simp only [Reader.outcome, behind.documents, last, List.reverse_append, List.append_assoc]

theorem of_resting (resting : r.phase.Resting) {b : UInt8}
    (next : Phase.isBlank b = true ∨ b = 0x7B) :
    Behind (r.ending.1.toList ++ r.documents) (start.feed b) (r.feed b) := by
  rcases resting with phase | phase
  · have ends : r.ending = (none, none) := by simp only [Reader.ending, phase]
    constructor
    · rw [phase_feed, phase_feed, phase]
      rfl
    · rw [documents_feed, documents_feed, phase, ends]
      simp [start]
  · -- The null that waits is found with this byte, which a reader at the start never sees.
    have ends : r.ending = (some .null, none) := by simp only [Reader.ending, phase]
    have delimits : Phase.isDelimiter b = true := by
      rcases next with blank | rfl
      · simp [Phase.isDelimiter, blank]
      · rfl
    have step : (Phase.scalar .null).step b =
        ⟨some .null, (Phase.stepValue [] .between b).next⟩ := if_pos delimits
    constructor
    · rw [phase_feed, phase_feed, phase, step]
      rfl
    · have nothing : (start.phase.step b).document = none := Phase.stepValue_document [] _ b
      rw [documents_feed, documents_feed, phase, step, ends, nothing]
      rfl

end Behind

end Reader

theorem readAll_append {front : List UInt8} (resting : (Reader.read front).phase.Resting)
    {b : UInt8} (next : Phase.isBlank b = true ∨ b = 0x7B) (rest : List UInt8) :
    (readAll (front ++ b :: rest)).1 = (readAll front).1 ++ (readAll (b :: rest)).1 ∧
      (readAll (front ++ b :: rest)).2.map (·.fault) = (readAll (b :: rest)).2.map (·.fault) := by
  have behind := (Reader.Behind.of_resting resting next).foldl rest
  have found : (readAll front).1 =
      ((Reader.read front).ending.1.toList ++ (Reader.read front).documents).reverse := by
    cases last : (Reader.read front).ending.1 <;> simp [readAll, Reader.outcome, last]
  have read : readAll (front ++ b :: rest) =
      (rest.foldl Reader.feed ((Reader.read front).feed b)).outcome := by
    rw [readAll, Reader.read_append, List.foldl_cons]
  rw [read, found]
  exact behind.outcome

end PackageInstall.Json
