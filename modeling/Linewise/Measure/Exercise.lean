import Linewise.Program

/-!
Exercises: programs of the language whose size is a parameter, to be run as workloads.
-/

namespace Linewise.Measure.Exercise

def countingLoop (limit : Nat) : Text :=
  Text.join ['\n']
    ["CREATE INT i 0".toList,
     "CREATE INT total 0".toList,
     "WHILE @i < ".toList ++ Text.ofNat limit ++ " DO".toList,
     "INCREMENT i".toList,
     "CHANGE total \x7btotal + i\x7d".toList,
     "ENDO".toList]

def machineAfter (program : Text) (draws : List Nat) : Machine :=
  (Program.run Console.host program .empty (.start [] draws)).2.1

end Linewise.Measure.Exercise
