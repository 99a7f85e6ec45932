/-!
Lists of entries with distinct keys, in the order in which the keys were first put. Putting a key
again changes its value and keeps its place.
-/

namespace Multifiling

/-- Keys with their values, in order of first insertion. -/
abbrev Entries (κ ν : Type) := List (κ × ν)

namespace Entries

variable {κ ν : Type} [BEq κ]

def get? (entries : Entries κ ν) (key : κ) : Option ν := List.lookup key entries

/-- Sets the value of a key, in its place or at the end. -/
def put (entries : Entries κ ν) (key : κ) (value : ν) : Entries κ ν :=
  match entries with
  | [] => [(key, value)]
  | (k, v) :: rest => if k == key then (k, value) :: rest else (k, v) :: put rest key value

/-- Sets the value of a key that has none yet. -/
def putNew (entries : Entries κ ν) (key : κ) (value : ν) : Entries κ ν :=
  if (entries.get? key).isSome then entries else entries ++ [(key, value)]

/-- Puts the pairs of a list one after the other. -/
def putAll (entries : Entries κ ν) (pairs : List (κ × ν)) : Entries κ ν :=
  pairs.foldl (fun acc (key, value) => acc.put key value) entries

end Entries

end Multifiling
