import PackageInstall.LogFilter
import PackageInstall.Note
import PackageInstall.Settings

namespace PackageInstall

/-- The filter that settings ask for. A filter of the environment comes first, if it can be read as
a whole. -/
def Logging.filter (l : Logging) (environment : Option String) : LogFilter :=
  (environment.bind LogFilter.strict).getD (.lenient l.level)

structure LogSink where
  filter : Option LogFilter
  notes : List Note

namespace LogSink

def empty : LogSink := ⟨none, []⟩

def isInstalled (s : LogSink) : Bool := s.filter.isSome

def install (s : LogSink) (l : Logging) (environment : Option String) : LogSink :=
  match s.filter with
  | some _ => { s with notes := s.notes ++ [.alreadyInstalled] }
  | none => { s with filter := some (l.filter environment) }

def shows (s : LogSink) (target : String) (level : Level) : Bool :=
  s.filter.any (·.shows target level)

end LogSink

end PackageInstall
