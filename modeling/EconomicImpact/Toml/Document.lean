import EconomicImpact.Json.Value

/-!
The tables of a TOML text as its lines build them up. No key may be defined twice, and a table may be
defined once: by its header, by dotted keys or as an inline value.
-/

set_option autoImplicit false

namespace EconomicImpact.Toml

inductive Origin
  | header
  | passing
  | dotted
  deriving DecidableEq, Repr

inductive Item
  | value (value : Json)
  | table (origin : Origin) (members : List (String × Item))
  | tables (latest : List (String × Item)) (earlier : List (List (String × Item)))

abbrev Members := List (String × Item)

def Members.get? (members : Members) (key : String) : Option Item :=
  (members.find? (·.1 == key)).map (·.2)

def Members.set (members : Members) (key : String) (item : Item) : Members :=
  match members with
  | [] => [(key, item)]
  | (k, i) :: rest => if k = key then (k, item) :: rest else (k, i) :: Members.set rest key item

def alongHeader (change : Members → Option Members) : List String → Members → Option Members
  | [], members => change members
  | key :: path, members =>
    match members.get? key with
    | none => do
      let inner ← alongHeader change path []
      return members.set key (.table .passing inner)
    | some (.table origin inner) => do
      let inner ← alongHeader change path inner
      return members.set key (.table origin inner)
    | some (.tables latest earlier) => do
      let latest ← alongHeader change path latest
      return members.set key (.tables latest earlier)
    | some (.value _) => none

def assign (value : Json) : List String → String → Members → Option Members
  | [], key, members =>
    match members.get? key with
    | none => some (members.set key (.value value))
    | some _ => none
  | first :: path, key, members =>
    match members.get? first with
    | none => do
      let inner ← assign value path key []
      return members.set first (.table .dotted inner)
    | some (.table .dotted inner) => do
      let inner ← assign value path key inner
      return members.set first (.table .dotted inner)
    | some _ => none

def openTable (key : String) (members : Members) : Option Members :=
  match members.get? key with
  | none => some (members.set key (.table .header []))
  | some (.table .passing inner) => some (members.set key (.table .header inner))
  | some _ => none

def openFurther (key : String) (members : Members) : Option Members :=
  match members.get? key with
  | none => some (members.set key (.tables [] []))
  | some (.tables latest earlier) => some (members.set key (.tables [] (latest :: earlier)))
  | some _ => none

inductive Line
  | header (path : List String) (key : String)
  | further (path : List String) (key : String)
  | assignment (path : List String) (key : String) (value : Json)

structure Document where
  members : Members
  current : List String

def Document.empty : Document := ⟨[], []⟩

def Document.add (d : Document) : Line → Option Document
  | .header path key =>
    (alongHeader (openTable key) path d.members).map fun members => ⟨members, path ++ [key]⟩
  | .further path key =>
    (alongHeader (openFurther key) path d.members).map fun members => ⟨members, path ++ [key]⟩
  | .assignment path key value =>
    (alongHeader (assign value path key) d.current d.members).map fun members =>
      { d with members }

mutual

def Item.toJson : Item → Json
  | .value value => value
  | .table _ members => .obj (membersToJson members)
  | .tables latest earlier => .arr (tablesToJson earlier ++ [.obj (membersToJson latest)])

def membersToJson : List (String × Item) → List (String × Json)
  | [] => []
  | (key, item) :: rest => (key, item.toJson) :: membersToJson rest

def tablesToJson : List (List (String × Item)) → List Json
  | [] => []
  | members :: rest => tablesToJson rest ++ [.obj (membersToJson members)]

end

def Document.toJson (d : Document) : Json := .obj (membersToJson d.members)

end EconomicImpact.Toml
