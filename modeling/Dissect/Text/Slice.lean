namespace Dissect.Text

/-- The position in a text of `n` characters that an index means: a negative index counts from the
end, and none leads outside. -/
def position (n : Nat) (i : Int) : Nat := if i < 0 then (i + n).toNat else min i.toNat n

def between (text : Array Char) (start stop : Int) : List Char :=
  (text.extract (position text.size start) (position text.size stop)).toList

def front (text : String) (stop : Int) : String :=
  String.ofList (text.toList.take (position text.length stop))

end Dissect.Text
