import PackageInstall.Store

namespace PackageInstall

inductive LogError where
  | noLogs (key : ObjectKey)
  | interrupted
  | failed (reason : String)
  deriving DecidableEq

def LogError.message : LogError → String
  | noLogs key => "no logs for pod " ++ key.display
  | interrupted => "log stream interrupted"
  | failed reason => reason

structure LogBook where
  bodies : List (ObjectKey × List UInt8)
  interruptAfter : Option Nat
  opened : Nat
  closed : Nat
  deriving DecidableEq

namespace LogBook

def empty : LogBook := ⟨[], none, 0, 0⟩

instance : Inhabited LogBook := ⟨empty⟩

def insert (b : LogBook) (key : ObjectKey) (body : List UInt8) : LogBook :=
  { b with bodies := (key, body) :: b.bodies }

def body (b : LogBook) (key : ObjectKey) : Except LogError (List UInt8) :=
  match b.bodies.lookup key with
  | some body => .ok body
  | none => .error (.noLogs key)

/-- What a stream delivers before it ends or breaks off, and how it breaks off. A body that is
shorter than the limit is read to its end. -/
def deliver (b : LogBook) (body : List UInt8) : List UInt8 × Option LogError :=
  match b.interruptAfter with
  | none => (body, none)
  | some limit =>
    if body.length < limit then (body, none) else (body.take limit, some .interrupted)

end LogBook

end PackageInstall
