/-
Boundaries.

A boundary rule forbids files under one glob to import what is under another, unless
the import goes through one of the globs that are allowed.  Layers name parts of the
tree; of several layers that hold a path the one with the longest path is meant.
-/
import PatchReview.Boundary.Specifier
import PatchReview.Glob.Match
import PatchReview.Json.Basic

namespace PatchReview

/-- A named part of the tree. -/
structure Layer where
  name : Text
  path : Text
  /-- Its place in the order of layers. -/
  index : Int
deriving DecidableEq, Repr

/-- A forbidden import. -/
structure BoundaryRule where
  name : Text
  /-- The importing files. -/
  source : Text
  /-- The imported modules. -/
  target : Text
  /-- What may be imported all the same. -/
  allowVia : List Text := []
  /-- Why the import is forbidden. -/
  explanation : Option Text := none
deriving DecidableEq, Repr

/-- A boundaries document. -/
structure Boundaries where
  forbidden : List BoundaryRule := []
  layers : List Layer := []
deriving DecidableEq, Repr

namespace BoundaryRule

/-- A rule as it is written; what it leaves out is not written. -/
def toJson (rule : BoundaryRule) : Json :=
  let glob (pattern : Text) : Json := .object [("glob", .string pattern)]
  let allowed : Json.Fields :=
    if rule.allowVia.isEmpty then [] else [("allowVia", Json.strings rule.allowVia)]
  let explained : Json.Fields :=
    match rule.explanation with
    | none => []
    | some t => [("explain", .string t)]
  let required : Json.Fields :=
    [("rule", .string rule.name), ("from", glob rule.source), ("to", glob rule.target)]
  .object (required ++ allowed ++ explained)

/-- Whether a file may not import what a specifier names. -/
def forbids (rule : BoundaryRule) (file specifier : Text) : Bool :=
  let target := Text.normalSpecifier specifier
  Glob.isMatch rule.source file && !Glob.matchesAny target rule.allowVia
    && Glob.isMatch rule.target target

end BoundaryRule

namespace Layer

/-- The folder of a layer. -/
def root (layer : Layer) : Text := Text.dropEndWhile (· == '/') layer.path

/-- Whether a path with single slashes lies in a layer, or matches the layer's path as a glob. -/
def holds (layer : Layer) (path : Text) : Bool :=
  Glob.isMatch layer.path path || path == layer.root || path.startsWith (layer.root ++ "/")

/-- A layer as it is written. -/
def toJson (layer : Layer) : Json :=
  .object
    [("name", .string layer.name), ("path", .string layer.path), ("index", .int layer.index)]

end Layer

namespace Boundaries

/-- The rules that an import breaks, in order. -/
def broken (boundaries : Boundaries) (file specifier : Text) : List BoundaryRule :=
  boundaries.forbidden.filter fun rule => rule.forbids file specifier

/-- The first of the layers with the longest path. -/
def longest (best : Option Layer) : List Layer → Option Layer
  | [] => best
  | layer :: rest =>
    match best with
    | none => longest (some layer) rest
    | some b =>
      if b.path.length < layer.path.length then longest (some layer) rest
      else longest best rest

/-- The layer of a path. -/
def layerOf (boundaries : Boundaries) (path : Text) : Option Layer :=
  let path := Text.slashed path
  longest none (boundaries.layers.filter fun layer => layer.holds path)

/-- The layers by index; layers of one index keep their order. -/
def orderedLayers (boundaries : Boundaries) : List Layer :=
  boundaries.layers.mergeSort fun a b => a.index ≤ b.index

end Boundaries

end PatchReview
