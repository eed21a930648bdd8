/-
Building a TOML document.

A document grows by three kinds of statements: a header opens a table, a double header
opens a new item of an array of tables, and an assignment sets a field of the open
table.  Nothing that is there is overwritten.  A table is declared by one header only,
tables that dotted keys made cannot be declared or extended once their section is over,
and what was written inline never grows.
-/
import PatchReview.Toml.Basic

namespace PatchReview

/-- The names that lead to a value. -/
abbrev TomlKey := List Text

/-- A document while it is read. -/
structure TomlDocument where
  root : Toml.Fields := []
  /-- The table that is open. -/
  header : TomlKey := []
  /-- Tables that no header may declare any more. -/
  declared : List TomlKey := []
  /-- Tables that dotted keys of the open section went through. -/
  touched : List TomlKey := []
  /-- Values that were written inline. -/
  inlined : List TomlKey := []

namespace Toml

/-- Changes the fields at a key.  Missing tables on the way are made, and of an array of tables the
last one is entered; any other value is in the way. -/
def updateAt (change : Fields → Option Fields) : TomlKey → Fields → Option Fields
  | [], fields => change fields
  | name :: rest, fields =>
    match fields.get? name with
    | none => (updateAt change rest []).map fun t => fields.set name (.table t)
    | some (.table t) => (updateAt change rest t).map fun t => fields.set name (.table t)
    | some (.array items) =>
      match items.getLast? with
      | some (.table t) =>
        (updateAt change rest t).map fun t =>
          fields.set name (.array (items.dropLast ++ [.table t]))
      | _ => none
    | some _ => none

/-- Adds a field that is not there yet. -/
def addField (name : Text) (value : Toml) (fields : Fields) : Option Fields :=
  match fields.get? name with
  | some _ => none
  | none => some (fields.set name value)

/-- Adds an empty table to an array of tables, which may be made for it. -/
def addItem (name : Text) (fields : Fields) : Option Fields :=
  match fields.get? name with
  | none => some (fields.set name (.array [.table []]))
  | some (.array items) => some (fields.set name (.array (items ++ [.table []])))
  | some _ => none

end Toml

namespace TomlDocument

/-- Whether a key lies in something that was written inline. -/
def isInlined (doc : TomlDocument) (key : TomlKey) : Bool :=
  doc.inlined.any fun k => k.isPrefixOf key

/-- Ends the open section. -/
def closeSection (doc : TomlDocument) : TomlDocument :=
  { doc with declared := doc.touched ++ doc.declared, touched := [] }

/-- Opens a table. -/
def openTable (doc : TomlDocument) (key : TomlKey) : Option TomlDocument :=
  let doc := doc.closeSection
  if doc.declared.contains key || doc.isInlined key then none
  else
    (Toml.updateAt some key doc.root).map fun root =>
      { doc with root, header := key, declared := key :: doc.declared }

/-- Forgets what is known about a key and everything below it. -/
def forget (doc : TomlDocument) (key : TomlKey) : TomlDocument :=
  { doc with
    declared := doc.declared.filter fun k => !key.isPrefixOf k
    inlined := doc.inlined.filter fun k => !key.isPrefixOf k }

/-- Opens a new item of an array of tables. -/
def openItem (doc : TomlDocument) (key : TomlKey) : Option TomlDocument :=
  let doc := doc.closeSection
  match key.getLast? with
  | none => none
  | some name =>
    if doc.isInlined key then none
    else
      let doc := doc.forget key
      (Toml.updateAt (Toml.addItem name) key.dropLast doc.root).map fun root =>
        { doc with root, header := key, declared := key :: doc.declared }

/-- The tables that a dotted key goes through, seen from the root. -/
def through (doc : TomlDocument) (key : TomlKey) : List TomlKey :=
  (List.range (key.length - 1)).map fun i => doc.header ++ key.take (i + 1)

/-- Sets a field of the open table. -/
def assign (doc : TomlDocument) (key : TomlKey) (value : Toml) : Option TomlDocument :=
  match key.getLast? with
  | none => none
  | some name =>
    let through := doc.through key
    let folder := doc.header ++ key.dropLast
    if through.any doc.declared.contains || doc.isInlined folder then none
    else
      (Toml.updateAt (Toml.addField name value) folder doc.root).map fun root =>
        { doc with
          root
          touched := through ++ doc.touched
          inlined := if value.isContainer then (doc.header ++ key) :: doc.inlined else doc.inlined }

end TomlDocument

end PatchReview
