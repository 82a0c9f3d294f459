import ScriptHost.Binary64

/-!
# TOML values and tables

A document is a table of values. Tables come about in four ways, and which one decides whether
more may be added to them later: written in place they are complete, named by a header they can
be reached through a longer header but not by a dotted key, made on the way to a longer header
they may still get a header of their own, and made by a dotted key they may grow by further dotted
keys only. `Table.update` goes down a path and enforces this.
-/

namespace ScriptHost.Toml

/-- How a table came about. -/
inductive Origin where
  /-- Written in place, between braces. -/
  | inline
  /-- Named by a header of its own; the root table counts as one. -/
  | header
  /-- Made on the way to the table of a longer header. -/
  | implied
  /-- Made by a dotted key. -/
  | dotted
  deriving DecidableEq, Repr

inductive Value where
  | text (s : String)
  | integer (n : Int)
  | float (x : Binary64)
  | boolean (b : Bool)
  /-- A date, a time of day or both. -/
  | moment (s : String)
  | array (items : List Value)
  /-- The tables of headers in double brackets. -/
  | tables (elements : List (List (String × Value)))
  | table (origin : Origin) (entries : List (String × Value))

/-- The entries of a table in the order of their making; no key occurs twice. -/
abbrev Table := List (String × Value)

namespace Table

/-- Sets a key, in its old place if it has one. -/
def set (t : Table) (key : String) (v : Value) : Table :=
  match t with
  | [] => [(key, v)]
  | (k, w) :: rest => if k = key then (k, v) :: rest else (k, w) :: set rest key v

/-- Changes the table that `path` leads to, tables on the way being made if they are missing.
`dotted` tells whether the path is that of a dotted key; `origin` is that of the table itself. -/
def update (dotted : Bool) (f : Origin → Table → Option Table) :
    List String → Origin → Table → Option Table
  | [], origin, t => f origin t
  | k :: path, _, t =>
    let new := if dotted then Origin.dotted else .implied
    match t.lookup k with
    | none => (update dotted f path new []).map fun u => t.set k (.table new u)
    | some (.table origin u) =>
      if origin = .inline ∨ (dotted ∧ origin = .header) then none
      else (update dotted f path origin u).map fun u => t.set k (.table origin u)
    | some (.tables us) =>
      (update dotted f path .header (us.getLastD [])).map fun u =>
        t.set k (.tables (us.dropLast ++ [u]))
    | some _ => none

/-- Adds a value under a dotted key to the table of a header or a pair of braces. A table that
dotted keys have made takes no plain key, and any other table no dotted one. -/
def assign (origin : Origin) (t : Table) (path : List String) (key : String) (v : Value) :
    Option Table :=
  update true (fun origin u =>
    if origin = .dotted ↔ path = [] then none
    else if (u.lookup key).isSome then none
    else some (u ++ [(key, v)])) path origin t

def assignAll (origin : Origin) (t : Table) (pairs : List (List String × String × Value)) :
    Option Table :=
  pairs.foldlM (fun t p => assign origin t p.1 p.2.1 p.2.2) t

end Table

/-- A header and the values below it. -/
structure Section where
  /-- Whether the header stands in double brackets. -/
  repeats : Bool
  path : List String
  key : String
  pairs : List (List String × String × Value)

/-- Adds a section to a document. A table gets a header at most once. -/
def Table.addSection (t : Table) (s : Section) : Option Table :=
  update false (fun _ u =>
    if s.repeats then
      match u.lookup s.key with
      | none => do
        let e ← assignAll .header [] s.pairs
        some (u.set s.key (.tables [e]))
      | some (.tables es) => do
        let e ← assignAll .header [] s.pairs
        some (u.set s.key (.tables (es ++ [e])))
      | some _ => none
    else
      match u.lookup s.key with
      | none => do
        let e ← assignAll .header [] s.pairs
        some (u.set s.key (.table .header e))
      | some (.table .implied e) => do
        let e ← assignAll .header e s.pairs
        some (u.set s.key (.table .header e))
      | some _ => none) s.path .header t

/-- The table of a document: the values in front of the first header, then the sections. -/
def Table.ofSections (top : List (List String × String × Value)) (sections : List Section) :
    Option Table := do
  let t ← assignAll .header [] top
  sections.foldlM addSection t

end ScriptHost.Toml
