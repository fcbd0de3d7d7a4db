import MarkdownTree.Markup.Html
import MarkdownTree.Markup.Reading
import MarkdownTree.Node.Basic

/-!
# Definitions and overrides

A definition is what a reference points at. An override changes how nodes of one kind are
rendered: it can give another tag, further props, and props computed from the node. Functions
come from outside the library; `Functions` says which values stand for them.
-/

namespace MarkdownTree

/-- The target of references. -/
structure Definition where
  title : Option String := none
  link : Option String := none
  deriving DecidableEq, Inhabited

/-- Reads a definition; members of other names are ignored. -/
def Definition.ofValue : Value → Check Definition
  | .object fields =>
    Definition.mk <$> Check.optional fields "title" Check.text
      <*> Check.optional fields "link" Check.text
  | _ => .fail .notRecord

/-- Props computed from a node; the computation can fail with a message. -/
abbrev DynamicProps := Node → Except String Fields

/-- The functions that values can stand for. -/
structure Functions where
  /-- The name of the function that a value stands for. -/
  nameOf? : Value → Option String
  component? : String → Option Markup.Component
  dynamicProps? : String → Option DynamicProps

/-- How nodes of one kind are rendered. -/
structure Override where
  component : Option Tag := none
  props : Fields := []
  dynamicProps : Option DynamicProps := none
  deriving Inhabited

/-- Overrides by the kind of node. -/
abbrev Overrides := Entries String Override

namespace Override

/-- The tag that an override asks for; an empty name asks for none. -/
def tag? (o : Override) : Option Tag :=
  match o.component with
  | some (.name "") => none
  | component => component

/-- A value that stands for a function of nodes. -/
def readDynamicProps (functions : Functions) (v : Value) : Check DynamicProps :=
  match (functions.nameOf? v).bind functions.dynamicProps? with
  | some f => .accept f
  | none => .fail .notFunction

/-- The member for computed props, which has two spellings; the first one is preferred and is the
one that is reported. -/
def dynamicPropsMember (fields : Fields) : Value :=
  ((Entries.get? fields "dynamicProps").or (Entries.get? fields "dynamic_props")).getD .null

/-- Reads an override; members of other names are ignored. -/
def ofValue (functions : Functions) : Value → Check Override
  | .object fields =>
    Override.mk <$> Check.optional fields "component" (Markup.readTag functions.nameOf?)
      <*> Check.defaulting fields "props" [] Check.mapping
      <*> (Check.nullable (readDynamicProps functions) (dynamicPropsMember fields)).within
        "dynamicProps"
  | _ => .fail .notRecord

end Override

/-- Reads the entries of a table one after the other; the first one that is refused ends it, and
its reasons are given without its key. -/
def Entries.readEach (check : Value → Check α) : List (String × Value) → Check (Entries String α)
  | [] => .accept []
  | (k, v) :: rest => (check v).bind fun a => (Entries.readEach check rest).map fun t => (k, a) :: t

end MarkdownTree
