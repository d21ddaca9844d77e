/-!
Associations in order of insertion. A key keeps the place where it first stood
and takes the value that was put there last.
-/
namespace ValuePath.Entries

variable {κ α β : Type} [DecidableEq κ]

/-- The value under a key. -/
def find? (key : κ) : List (κ × α) → Option α
  | [] => none
  | (other, value) :: rest => if other = key then some value else find? key rest

/-- Whether the key is present. -/
def contains (key : κ) (entries : List (κ × α)) : Bool := (find? key entries).isSome

/-- Puts a value under a key: in place if the key is present, else at the end. -/
def insert (key : κ) (value : α) : List (κ × α) → List (κ × α)
  | [] => [(key, value)]
  | (other, held) :: rest =>
    if other = key then (other, value) :: rest else (other, held) :: insert key value rest

/-- Changes the value under a key, starting from `initial` where there is none. -/
def update (key : κ) (initial : α) (change : α → α) : List (κ × α) → List (κ × α)
  | [] => [(key, change initial)]
  | (other, held) :: rest =>
    if other = key then (other, change held) :: rest
    else (other, held) :: update key initial change rest

/-- The association that results from putting all pairs in order. -/
def ofPairs (pairs : List (κ × α)) : List (κ × α) :=
  pairs.foldl (fun entries (key, value) => insert key value entries) []

/-- The keys in order. -/
def keys (entries : List (κ × α)) : List κ := entries.map Prod.fst

/-- The values in the order of their keys. -/
def values (entries : List (κ × α)) : List α := entries.map Prod.snd

/-- No key stands twice. -/
def Distinct (entries : List (κ × α)) : Prop := (keys entries).Nodup

end ValuePath.Entries
