import PackageInstall.Proofs.Documents

namespace PackageInstall

namespace Yaml

def IsBlank (c : Char) : Prop := c = ' ' ∨ c = '\t' ∨ c = '\n' ∨ c = '\r'

namespace Source

theorem blank_of_byte {b : UInt8} (blank : Documents.isBlank b = true) :
    width b = 1 ∧ Utf8.decode? [b] = some [Char.ofNat b.toNat] ∧
      (isAllowed (Char.ofNat b.toNat) = true → IsBlank (Char.ofNat b.toNat)) := by
  simp only [Documents.isBlank, decide_eq_true_eq] at blank
  rcases blank with rfl | rfl | rfl | rfl | rfl
  · exact ⟨rfl, rfl, fun _ => .inl rfl⟩
  · exact ⟨rfl, rfl, fun _ => .inr (.inl rfl)⟩
  · exact ⟨rfl, rfl, fun _ => .inr (.inr (.inl rfl))⟩
  · exact ⟨rfl, rfl, fun allowed => absurd allowed (by decide)⟩
  · exact ⟨rfl, rfl, fun _ => .inr (.inr (.inr rfl))⟩

theorem blank_of_readWindow {done out : List Char} {left : Nat} {bytes cut : List UInt8}
    (blanks : ∀ b ∈ bytes, Documents.isBlank b = true) (before : ∀ c ∈ done, IsBlank c)
    (read : readWindow done left bytes = some (out, cut)) :
    (∀ c ∈ out, IsBlank c) ∧ ∀ b ∈ cut, Documents.isBlank b = true := by
  induction left generalizing done bytes with
  | zero =>
    cases bytes with
    | nil => cases read; exact ⟨before, blanks⟩
    | cons lead rest => cases read; exact ⟨before, blanks⟩
  | succ left ih =>
    cases bytes with
    | nil => cases read; exact ⟨before, blanks⟩
    | cons lead rest =>
      rw [List.forall_mem_cons] at blanks
      obtain ⟨one, char, blank⟩ := blank_of_byte blanks.1
      have first : (lead :: rest).take 1 = [lead] := rfl
      have later : (lead :: rest).drop 1 = rest := rfl
      simp only [readWindow, one, first, later, char, List.length_singleton, Nat.lt_irrefl,
        Nat.one_ne_zero, if_false] at read
      split at read
      · rename_i allowed
        exact ih blanks.2 (List.forall_mem_cons.2 ⟨blank allowed, before⟩) read
      · cases read

theorem blank_of_readWindows {done : List Char} {cut : List UInt8} {left : Nat} {rest : List UInt8}
    (blanks : ∀ b ∈ rest, Documents.isBlank b = true)
    (cutBlanks : ∀ b ∈ cut, Documents.isBlank b = true) (before : ∀ c ∈ done, IsBlank c) :
    ∀ c ∈ (readWindows done cut left rest).chars, IsBlank c := by
  have found : ∀ {cs : List Char}, (∀ c ∈ cs, IsBlank c) → ∀ c ∈ cs.reverse, IsBlank c :=
    fun all c member => all c (List.mem_reverse.1 member)
  induction left generalizing done cut rest with
  | zero => exact found before
  | succ left ih =>
    have window : ∀ b ∈ cut ++ rest.take (window - cut.length), Documents.isBlank b = true := by
      intro b member
      rcases List.mem_append.1 member with old | new
      · exact cutBlanks b old
      · exact blanks b (List.mem_of_mem_take new)
    unfold readWindows
    split
    · exact found before
    · dsimp only
      split
      · exact found before
      · rename_i out cut' read
        obtain ⟨chars, left⟩ := blank_of_readWindow window before read
        exact ih (fun b member => blanks b (List.mem_of_mem_drop member)) left chars

theorem blank_of_ofBytes {bytes : List UInt8}
    (blanks : ∀ b ∈ bytes, Documents.isBlank b = true) : ∀ c ∈ (ofBytes bytes).chars, IsBlank c :=
  blank_of_readWindows blanks nofun nofun

end Source

namespace Cursor

theorem rest_skip_suffix (c : Cursor) (n : Nat) : (c.skip n).rest <:+ c.rest :=
  List.drop_suffix n c.rest

theorem rest_takeBreak_suffix (c : Cursor) : c.takeBreak.2.rest <:+ c.rest := by
  unfold takeBreak
  split
  · rename_i rest same
    rw [same]
    exact (List.suffix_cons _ _).trans (List.suffix_cons _ _)
  · rename_i x rest other same
    split
    · rw [same]
      exact List.suffix_cons _ _
    · exact List.suffix_rfl
  · exact List.suffix_rfl

def passed (tabs : Bool) (c : Cursor) : Cursor :=
  let c := if c.column = 0 ∧ c.peek = some '\ufeff' then c.skip 1 else c
  let c := c.skipWhile fun x => x = ' ' || (tabs && x = '\t')
  if c.peek = some '#' then c.line?.2 else c

theorem rest_passed_suffix (tabs : Bool) (c : Cursor) : (c.passed tabs).rest <:+ c.rest := by
  have mark : (if c.column = 0 ∧ c.peek = some '\ufeff' then c.skip 1 else c).rest <:+ c.rest := by
    split
    · exact rest_skip_suffix c 1
    · exact List.suffix_rfl
  have comment : ∀ c : Cursor, (if c.peek = some '#' then c.line?.2 else c).rest <:+ c.rest := by
    intro c
    split
    · exact rest_skip_suffix c _
    · exact List.suffix_rfl
  exact (comment _).trans ((rest_skip_suffix _ _).trans mark)

end Cursor

namespace Lexer

theorem passBlanks_succ (left : Nat) (l : Lexer) :
    passBlanks (left + 1) l =
      let c := l.cursor.passed (l.inFlow || !l.keyAllowed)
      if c.rest ≠ [] ∧ c.breaksAt 0 then
        passBlanks left ((l.moveTo c.takeBreak.2).allowKey (l.keyAllowed || !l.inFlow))
      else l.moveTo c := rfl

structure Idle (l : Lexer) : Prop where
  tokens : l.tokens = []
  candidates : l.candidates = [none]
  indents : l.indents = []
  blank : ∀ c ∈ l.cursor.rest, IsBlank c

namespace Idle

variable {l : Lexer}

theorem start {s : Source} (blank : ∀ c ∈ s.chars, IsBlank c) : (start s).Idle where
  tokens := rfl
  candidates := rfl
  indents := rfl
  blank := blank

theorem moveTo (idle : l.Idle) {c : Cursor} (ahead : c.rest <:+ l.cursor.rest) :
    (l.moveTo c).Idle where
  tokens := idle.tokens
  candidates := idle.candidates
  indents := idle.indents
  blank x member := idle.blank x (ahead.subset member)

theorem allowKey (idle : l.Idle) (allowed : Bool) : (l.allowKey allowed).Idle where
  tokens := idle.tokens
  candidates := idle.candidates
  indents := idle.indents
  blank := idle.blank

theorem passBlanks (idle : l.Idle) (left : Nat) : (passBlanks left l).Idle := by
  induction left generalizing l with
  | zero => exact idle
  | succ left ih =>
    have passed := l.cursor.rest_passed_suffix (l.inFlow || !l.keyAllowed)
    rw [passBlanks_succ]
    dsimp only
    split
    · exact ih ((idle.moveTo ((Cursor.rest_takeBreak_suffix _).trans passed)).allowKey _)
    · exact idle.moveTo passed

theorem dropStale (idle : l.Idle) : l.dropStale = some l := by
  obtain ⟨cursor, broken, tokens, count, indents, keyAllowed, candidates⟩ := l
  cases idle.candidates
  rfl

theorem unroll (idle : l.Idle) (column : Int) : l.unroll column = l := by
  obtain ⟨cursor, broken, tokens, count, indents, keyAllowed, candidates⟩ := l
  cases idle.candidates
  cases idle.indents
  rfl

theorem streamEnd (idle : l.Idle) : ∃ l', l.streamEnd = some l' ∧ l'.tokens = [.streamEnd] := by
  have dropped : l.dropCandidate = some (l.setCandidate none) := by
    unfold dropCandidate candidate
    rw [idle.candidates]
    rfl
  have tokens : (l.setCandidate none).tokens = [] := idle.tokens
  refine ⟨((l.setCandidate none).push .streamEnd).allowKey false, ?_, congrArg (_ :: ·) tokens⟩
  unfold Lexer.streamEnd
  rw [idle.unroll, dropped]
  rfl

theorem token {x : Char} (blank : IsBlank x) (here : l.cursor.peek = some x) : l.token x = none := by
  obtain ⟨rest, ahead⟩ : ∃ rest, l.cursor.rest = x :: rest := by
    cases ahead : l.cursor.rest with
    | nil => simp [Cursor.peek, ahead] at here
    | cons y rest => exact ⟨rest, by simpa [Cursor.peek, ahead] using here⟩
  have dash : l.cursor.isIndicator '-' = false := by
    rcases blank with rfl | rfl | rfl | rfl <;> simp [Cursor.isIndicator, ahead]
  have dot : l.cursor.isIndicator '.' = false := by
    rcases blank with rfl | rfl | rfl | rfl <;> simp [Cursor.isIndicator, ahead]
  have plain : l.startsPlain = false := by
    unfold startsPlain Cursor.blankAt Cursor.ahead
    rcases blank with rfl | rfl | rfl | rfl <;>
      simp [here, ahead, isSpace, isBreak]
  unfold Lexer.token
  rcases blank with rfl | rfl | rfl | rfl <;> simp [dash, dot, plain]

theorem next (idle : l.Idle) :
    l.next = none ∨ ∃ l', l.next = some l' ∧ l'.tokens = [.streamEnd] := by
  -- A tab that may be indentation is not passed, but no token begins with it either.
  have passed := idle.passBlanks (l.cursor.rest.length + 1)
  unfold Lexer.next
  rw [passed.dropStale]
  dsimp only [Option.bind_eq_bind, Option.bind_some]
  rw [passed.unroll]
  generalize Lexer.passBlanks (l.cursor.rest.length + 1) l = l' at *
  split
  · exact .inl rfl
  · split
    · exact .inr passed.streamEnd
    · rename_i x here
      have blank := passed.blank x (List.mem_of_mem_head? here)
      exact .inl (token blank here)

theorem run (idle : l.Idle) (left : Nat) : run left l = [] ∨ run left l = [.streamEnd] := by
  have standing : l.standing = [] := by
    rw [Lexer.standing, idle.tokens]
    exact List.take_nil
  cases left with
  | zero => exact .inl standing
  | succ left =>
    unfold Lexer.run
    rcases idle.next with stuck | ⟨l', ends, tokens⟩
    · rw [stuck]
      exact .inl standing
    · have ended : l'.ended = true := by
        rw [Lexer.ended, tokens]
        rfl
      rw [ends]
      simp only [ended, if_true, tokens]
      exact .inr rfl

end Idle

end Lexer

/-- A text of nothing but blanks has no document, or its only document is at fault. -/
theorem readAll_of_blank {bytes : List UInt8}
    (blanks : ∀ b ∈ bytes, Documents.isBlank b = true) :
    readAll bytes = [some .null] ∨ readAll bytes = [none] := by
  have idle := Lexer.Idle.start (Source.blank_of_ofBytes blanks)
  have tokens : Token.ofSource (Source.ofBytes bytes) = [] ∨
      Token.ofSource (Source.ofBytes bytes) = [.streamEnd] := idle.run _
  unfold readAll
  rcases tokens with tokens | tokens
  · rw [tokens]
    exact .inr rfl
  · rw [tokens]
    exact .inl rfl

end Yaml

namespace Documents

theorem isJson_of_blank {bytes : List UInt8} (blanks : ∀ b ∈ bytes, isBlank b = true) :
    isJson bytes = false := by
  have nothing : bytes.find? (fun b => !isBlank b) = none :=
    List.find?_eq_none.2 fun b member => by simp [blanks b member]
  simp [isJson, nothing]

theorem decode_of_blank {bytes : List UInt8} (blanks : ∀ b ∈ bytes, isBlank b = true) :
    decode bytes = [.ok none] ∨ decode bytes = [.error (.yaml 0)] := by
  rw [decode_eq, parse, if_neg (by rw [isJson_of_blank blanks]; nofun)]
  rcases Yaml.readAll_of_blank blanks with read | read
  · rw [read]
    exact .inl rfl
  · rw [read]
    exact .inr rfl

end Documents

end PackageInstall
