namespace PackageInstall

def twoTo (n : Nat) : Nat := Nat.pow 2 n

def tenTo (n : Nat) : Nat := Nat.pow 10 n

def fitsSigned (n : Nat) (value : Int) : Bool := -(twoTo n : Int) ≤ value ∧ value < twoTo n

def isInt64 (value : Int) : Bool := fitsSigned 63 value

end PackageInstall
