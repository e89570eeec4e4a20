import PackageInstall.Decimal.Numeral
import PackageInstall.Level
import PackageInstall.Text.Blank
import PackageInstall.Text.Letter
import PackageInstall.Text.Pattern

namespace PackageInstall

structure Directive where
  target : Option String
  forParts : Bool
  field : Option String
  level : Option Level
  deriving DecidableEq

namespace Directive

def numbered : List (Option Level) := none :: Level.all.map some

def levelOf (cs : List Char) : Option (Option Level) :=
  let digits := match cs with
    | '+' :: rest => rest
    | _ => cs
  match (Numeral.nat 10 digits).bind (numbered[·]?) with
  | some level => some level
  | none =>
    let word := String.ofList (cs.map Char.toLower)
    if word = "off" then some none
    else (Level.all.find? (·.name = word)).map some

inductive Stage where
  | start
  | word (first : Nat)
  | part (first : Nat)
  | field (first : Nat)
  | fieldsEnded
  | partEnded
  | level (first : Nat)

structure Draft where
  stage : Stage
  target : Option (List Char)
  forParts : Bool
  field : Option String

def isValue (cs : List Char) : Bool := (Numeral.float cs).isSome || Text.Pattern.isPattern cs

def Draft.withField (d : Draft) (cs : List Char) : Option Draft :=
  let name := String.ofList (cs.takeWhile (· ≠ '='))
  match cs.dropWhile (· ≠ '=') with
  | [] => if cs.isEmpty then none else some { d with field := some name }
  | _ :: rest =>
    if isValue (rest.takeWhile (· ≠ '=')) then some { d with field := some name, forParts := true }
    else none

def startsWord (c : Char) : Bool := c = '-' ∨ c = ':' ∨ c = '_' ∨ Text.isLetter c

/-- What the character at a place does. Places are counted in the text without the blanks at its
ends, and stand for places in the whole text. -/
def step (whole : List Char) (d : Draft) (place : Nat) (c : Char) : Option Draft :=
  match d.stage, c with
  | .start, '[' => some { d with stage := .part (place + 1) }
  | .start, _ => if startsWord c then some { d with stage := .word place } else none
  | .word first, '=' =>
    some { d with stage := .level (place + 1), target := some (whole.extract first place) }
  | .word first, '[' =>
    some { d with stage := .part (place + 1), target := some (whole.extract first place) }
  | .word first, _ => some { d with stage := .word first }
  | .part _, ']' => some { d with stage := .partEnded, forParts := true }
  | .part first, '\x7b' =>
    some { d with stage := .field (place + 1), forParts := first < place }
  | .part first, _ => some { d with stage := .part first }
  | .field first, '\x7d' =>
    { d with stage := .fieldsEnded }.withField (whole.extract first place)
  | .field first, _ => some { d with stage := .field first }
  | .fieldsEnded, ']' => some { d with stage := .partEnded }
  | .partEnded, '=' => some { d with stage := .level (place + 1) }
  | .level first, _ => some { d with stage := .level first }
  | _, _ => none

def steps (whole : List Char) (d : Draft) (place : Nat) : List Char → Option Draft
  | [] => some d
  | c :: rest => do steps whole (← step whole d place c) (place + 1) rest

def ofWord (cs : List Char) : Directive :=
  match levelOf cs with
  | some level => ⟨none, false, none, level⟩
  | none => ⟨some (String.ofList cs), false, none, some .trace⟩

def Draft.finish (whole : List Char) (d : Draft) : Option Directive :=
  let target := d.target.map String.ofList
  match d.stage with
  | .word first => some (ofWord (whole.drop first))
  | .partEnded => some ⟨target, d.forParts, d.field, some .trace⟩
  | .level first =>
    let cs := whole.drop first
    if cs.isEmpty then some ⟨target, d.forParts, d.field, some .trace⟩
    else (levelOf cs).map fun level => ⟨target, d.forParts, d.field, level⟩
  | _ => none

def ofText (s : String) : Option Directive := do
  let whole := s.toList
  (← steps whole ⟨.start, none, false, none⟩ 0 (Text.trim whole)).finish whole

def isFor (d : Directive) (target : String) : Bool :=
  !d.forParts && d.target.all fun start => start.toList.isPrefixOf target.toList

def detail (d : Directive) : Nat := (d.target.map (·.length + 1)).getD 0

/-- Whether a directive gives way to another for the same note: one with less of the target, or
with as much and no field or an earlier field. -/
def yields (d e : Directive) : Bool :=
  d.detail < e.detail ||
    (d.detail == e.detail &&
      match d.field, e.field with
      | none, _ => true
      | some _, none => false
      | some a, some b => a ≤ b)

end Directive

structure LogFilter where
  directives : List Directive
  deriving DecidableEq

namespace LogFilter

def read (s : String) : List (Option Directive) :=
  ((s.splitOn ",").filter (· ≠ "")).map Directive.ofText

def strict (s : String) : Option LogFilter := ((read s).mapM id).map LogFilter.mk

/-- The filter of the directives that can be read. Without one, only errors are shown. -/
def lenient (s : String) : LogFilter :=
  match (read s).filterMap id with
  | [] => ⟨[⟨none, false, none, some .error⟩]⟩
  | directives => ⟨directives⟩

def directiveFor (f : LogFilter) (target : String) : Option Directive :=
  (f.directives.filter (·.isFor target)).foldl (fun best d =>
    match best with
    | none => some d
    | some b => if b.yields d then some d else some b) none

def shows (f : LogFilter) (target : String) (level : Level) : Bool :=
  ((f.directiveFor target).bind (·.level)).any fun least => level.rank ≤ least.rank

end LogFilter

end PackageInstall
