import PackageInstall.Metadata

namespace PackageInstall

open Reading

structure Selector where
  matchLabels : Labels
  deriving DecidableEq, Inhabited

namespace Selector

def everything : Selector := ⟨.empty⟩

def ofLabels (labels : List (String × String)) : Selector := ⟨.ofList labels⟩

def admits (s : Selector) (labels : Labels) : Bool :=
  s.matchLabels.entries.all fun e => labels.get? e.1 == some e.2

def display (s : Selector) : String :=
  ",".intercalate (s.matchLabels.entries.map fun e => e.1 ++ "=" ++ e.2)

def record : Record Selector :=
  Record.make Selector.mk
  |>.field (.withDefault "matchLabels" (map text) .empty)

def read : Json → Except ReadFault Selector := record.read "LabelSelector"

def write (s : Selector) : Json := .ofFields (labelsField "matchLabels" s.matchLabels)

end Selector

end PackageInstall
