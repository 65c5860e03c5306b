import RequestPipeline.Json.Basic

/-!
# Tables under construction

A document of tables is put together line by line. A table comes into being because a header or a
key passes through it, or because a header declares it, and each of these may happen to it only in
certain orders; a key gets a value only once.
-/

namespace RequestPipeline.Toml

/-- How a table came into being. -/
inductive Origin where
  /-- A header passed through it. -/
  | implied
  /-- A key with points passed through it. -/
  | dotted
  /-- A header declared it, or it is the document itself. -/
  | declared
  deriving DecidableEq

/-- What a key of a table holds. -/
inductive Entry where
  | value (v : Json)
  | table (origin : Origin) (members : List (String × Entry))
  /-- Tables of one header, in order. -/
  | tables (elements : List (List (String × Entry)))

/-- The members of a table. -/
abbrev Members := List (String × Entry)

/-- The members with the entry of a key replaced. -/
def Members.replace (key : String) (e : Entry) : Members → Members
  | [] => []
  | (k, v) :: rest => if k = key then (k, e) :: rest else (k, v) :: replace key e rest

/-- Changes the members at the end of a path. Tables on the way come into being as needed; a key may
not pass through a declared table, and nothing passes through a value. -/
def revise (dotted : Bool) (change : Origin → Members → Option Members) :
    List String → Origin → Members → Option Members
  | [], origin, ms => change origin ms
  | k :: ks, _, ms =>
    match ms.lookup k with
    | none =>
      let origin := if dotted then .dotted else .implied
      (revise dotted change ks origin []).map fun inner => ms ++ [(k, .table origin inner)]
    | some (.value _) => none
    | some (.table origin inner) =>
      if dotted && origin == .declared then none
      else
        (revise dotted change ks origin inner).map fun inner =>
          Members.replace k (.table origin inner) ms
    | some (.tables elements) =>
      match elements.getLast? with
      | none => none
      | some last =>
        (revise dotted change ks .declared last).map fun inner =>
          Members.replace k (.tables (elements.dropLast ++ [inner])) ms

/-- Gives a key with points a value in a table. -/
def assign (path : List String) (v : Json) (ms : Members) : Option Members :=
  match path.getLast? with
  | none => none
  | some key =>
    revise true
      (fun origin ms =>
        if (origin == .dotted) == path.dropLast.isEmpty then none
        else if (ms.lookup key).isSome then none
        else some (ms ++ [(key, .value v)]))
      path.dropLast .declared ms

/-- Declares the table of a header. -/
def declareTable (path : List String) (ms : Members) : Option Members :=
  match path.getLast? with
  | none => none
  | some key =>
    revise false
      (fun _ ms =>
        match ms.lookup key with
        | none => some (ms ++ [(key, .table .declared [])])
        | some (.table .implied inner) =>
          some (Members.replace key (.table .declared inner) ms)
        | some _ => none)
      path.dropLast .declared ms

/-- Declares one more table of a header with double brackets. -/
def declareElement (path : List String) (ms : Members) : Option Members :=
  match path.getLast? with
  | none => none
  | some key =>
    revise false
      (fun _ ms =>
        match ms.lookup key with
        | none => some (ms ++ [(key, .tables [[]])])
        | some (.tables elements) =>
          some (Members.replace key (.tables (elements ++ [[]])) ms)
        | some _ => none)
      path.dropLast .declared ms

/-- Gives a key a value in the table that was declared last. -/
def assignIn (current path : List String) (v : Json) (ms : Members) : Option Members :=
  revise false (fun _ inner => assign path v inner) current .declared ms

mutual

/-- An entry as data. -/
def Entry.toJson : Entry → Json
  | .value v => v
  | .table _ members => .obj (membersToJson members)
  | .tables elements => .arr (elementsToJson elements)

/-- Members as data. -/
def membersToJson : List (String × Entry) → List (String × Json)
  | [] => []
  | (k, e) :: rest => (k, e.toJson) :: membersToJson rest

/-- Tables of one header as data. -/
def elementsToJson : List (List (String × Entry)) → List Json
  | [] => []
  | ms :: rest => .obj (membersToJson ms) :: elementsToJson rest

end

end RequestPipeline.Toml
