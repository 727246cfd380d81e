namespace Dissect.Partition

def isStemChar (c : Char) : Bool := c.isAlphanum || c == '_'

def collapse (cs : List Char) : List Char :=
  cs.foldr (fun c rest => if c == '_' && rest.head? == some '_' then rest else c :: rest) []

def stripUnderscores (cs : List Char) : List Char :=
  ((cs.dropWhile (· == '_')).reverse.dropWhile (· == '_')).reverse

/-- The stem for a name: every other character becomes an underscore, runs of underscores are
shortened, those at the ends dropped, and an empty stem is `unnamed`. -/
def fileStem (name : String) : String :=
  let replaced := name.toList.map fun c => if isStemChar c then c else '_'
  match stripUnderscores (collapse replaced) with
  | [] => "unnamed"
  | cs => String.ofList cs

end Dissect.Partition
