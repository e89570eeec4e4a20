namespace PackageInstall.Text

def inRunsFrom (runs : Array (Nat × Nat)) (code low high : Nat) : Nat → Bool
  | 0 => false
  | fuel + 1 =>
    if low < high then
      let middle := (low + high) / 2
      match runs[middle]? with
      | none => false
      | some (start, stop) =>
        if code < start then inRunsFrom runs code low middle fuel
        else if stop < code then inRunsFrom runs code (middle + 1) high fuel
        else true
    else false

/-- Whether a character lies in one of some runs, which stand in order. Each run has its first and
its last code point. -/
def inRuns (runs : Array (Nat × Nat)) (c : Char) : Bool :=
  inRunsFrom runs c.toNat 0 runs.size runs.size

end PackageInstall.Text
