import MarkdownTree.Node.Basic
import MarkdownTree.Validation.Scalar

/-!
# Reading nodes

A node is read from an object. Its fields are checked in the order in which `Node` declares them,
and the reasons of all fields that are refused are reported together. Members of other names are
kept as extras.
-/

namespace MarkdownTree.Node

/-- The names under which the fields of a node are written. -/
def fieldNames : List String :=
  ["type", "children", "value", "depth", "ordered", "start", "identifier", "label", "title",
    "href", "src", "link", "alt", "lang", "align", "checked", "data", "position"]

/-- The members that are not fields of a node. -/
def extrasOf (fields : Fields) : Fields := fields.filter fun m => !fieldNames.contains m.1

/-- An alignment: a list of texts and nulls, or a text. If neither fits, the reasons of both are
reported. -/
def readAlignment (v : Value) : Check Alignment :=
  let asColumns := (Check.listOf (Check.nullable Check.text) v).within "list[nullable[str]]"
  let asSingle := (Check.text v).within "str"
  match asColumns, asSingle with
  | .accept entries, _ => .accept (.columns entries)
  | _, .accept name => .accept (.single name)
  | .refuse rs, .refuse rs' => .refuse (rs ++ rs')

/-- The node with the given fields, whose children are checked already. -/
def assemble (fields : Fields) (children : Check (Option (List Node))) : Check Node :=
  Node.mk <$> Check.required fields "type" Check.text
    <*> children
    <*> Check.optional fields "value" Check.text
    <*> Check.optional fields "depth" Check.integer
    <*> Check.optional fields "ordered" Check.boolean
    <*> Check.optional fields "start" Check.integer
    <*> Check.optional fields "identifier" Check.text
    <*> Check.optional fields "label" Check.text
    <*> Check.optional fields "title" Check.text
    <*> Check.optional fields "href" Check.text
    <*> Check.optional fields "src" Check.text
    <*> Check.optional fields "link" Check.text
    <*> Check.optional fields "alt" Check.text
    <*> Check.optional fields "lang" Check.text
    <*> Check.optional fields "align" readAlignment
    <*> Check.optional fields "checked" Check.boolean
    <*> Check.optional fields "data" Check.mapping
    <*> Check.optional fields "position" Check.mapping
    <*> .accept (extrasOf fields)

mutual

/-- Reads a node. -/
def ofValue : Value → Check Node
  | .object fields => assemble fields (readChildren fields)
  | _ => .fail .notRecord

/-- Reads the member `children` of an object. -/
def readChildren : List (String × Value) → Check (Option (List Node))
  | [] => .accept none
  | (name, v) :: fields =>
    if name = "children" then (readChildList v).within "children" else readChildren fields

/-- Reads a list of nodes; null stands for no list. -/
def readChildList : Value → Check (Option (List Node))
  | .null => .accept none
  | .list vs => (readItems 0 vs).map some
  | _ => .fail .notList

/-- Reads nodes, the first of which stands at position `i`. -/
def readItems : Nat → List Value → Check (List Node)
  | _, [] => .accept []
  | i, v :: vs =>
    Check.seq (((ofValue v).within (toString i)).map List.cons) fun _ => readItems (i + 1) vs

end

end MarkdownTree.Node
