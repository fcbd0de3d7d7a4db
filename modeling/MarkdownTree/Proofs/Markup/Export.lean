import MarkdownTree.Markup.Dump
import MarkdownTree.Proofs.Json.Layout

/-!
# Exported markup

The JSON export of a tree says all that the tree holds as data: it can be read back, its indent is
nothing but layout, and trees that differ as data have different exports. The props may hold every
value but floating-point numbers; their dates come back as texts, and a component comes back as its
name.
-/

namespace MarkdownTree.Markup

/-- The props of all elements of the tree are plain, dates among them. -/
inductive PlainProps : Markup → Prop
  | text (s : String) : PlainProps (.text s)
  | element (tag : Tag) {props : Fields} {children : List Markup}
      (values : ∀ p ∈ props, p.2.Plain True) (each : ∀ c ∈ children, PlainProps c) :
      PlainProps (.element tag props children)

attribute [simp] PlainProps.text

@[simp] theorem plainProps_element {tag : Tag} {props : Fields} {children : List Markup} :
    (element tag props children).PlainProps ↔
      (∀ p ∈ props, p.2.Plain True) ∧ ∀ c ∈ children, c.PlainProps :=
  ⟨fun | .element _ values each => ⟨values, each⟩, fun h => .element tag h.1 h.2⟩

theorem valuesOfAll_eq_map (ms : List Markup) : valuesOfAll ms = ms.map toValue := by
  induction ms with
  | nil => rfl
  | cons m ms ih => rw [valuesOfAll, ih, List.map_cons]

theorem PlainProps.toValue {m : Markup} (plain : m.PlainProps) : m.toValue.Plain True := by
  induction plain with
  | text s => exact .string s
  | element tag values _ ih =>
    simp only [Markup.toValue, valuesOfAll_eq_map, Value.Plain.object_iff, List.forall_mem_cons,
      Value.Plain.list_iff, List.forall_mem_map]
    exact ⟨.string _, values, ih, by simp⟩

theorem plain_dump {m : Option Markup} (plain : ∀ t ∈ m, t.PlainProps) : (dump m).Plain True := by
  cases m with
  | none => exact .null
  | some t => exact (plain t rfl).toValue

/-- The export of a tree is read as the data of the tree with its dates spelled. So an indent
changes only white space that does not count, and trees whose data differ never have the same
export. -/
theorem json_lossless (indent : Option Nat) (m : Option Markup) (plain : ∀ t ∈ m, t.PlainProps) :
    Json.parse? (json indent m) = some ((dump m).spelled Timestamp.plainText) ∧
      (∀ indent' : Option Nat,
        Json.significant (json indent' m) = Json.significant (json indent m)) ∧
      ∀ (indent' : Option Nat) (m' : Option Markup), (∀ t ∈ m', t.PlainProps) →
        json indent' m' = json indent m →
        (dump m').spelled Timestamp.plainText = (dump m).spelled Timestamp.plainText := by
  have read : ∀ (indent : Option Nat) (m : Option Markup), (∀ t ∈ m, t.PlainProps) →
      Json.parse? (json indent m) = some ((dump m).spelled Timestamp.plainText) := by
    intro indent m plain
    exact Json.parse?_print (Json.Style.ofExport indent) (plain_dump plain)
  refine ⟨read indent m plain, ?_, ?_⟩
  · intro indent'
    have clock : (Json.Style.ofExport indent').timestamp = (Json.Style.ofExport indent).timestamp :=
      rfl
    exact Json.significant_print clock (plain_dump plain)
  · intro indent' m' plain' same
    have other := read indent' m' plain'
    rw [same, read indent m plain] at other
    exact (Option.some.inj other).symm

/-- A tree with a quote, a backslash, a control character, a date, empty containers and a component
in it. -/
def tricky : Markup :=
  .element (.component "Box")
    [("title", .string "\"a\\\u0001é\n "), ("none", .null), ("empty", .list []),
      ("nested", .object [("on", .date ⟨2024, 1, 2⟩), ("deep", .list [.object [], .int (-7)])])]
    [.text "{ x }", .element (.name "br") [] []]

theorem tricky_lossless : (∀ t ∈ some tricky, t.PlainProps) ∧
    Json.parse? (json (some 2) (some tricky)) =
      some (.object [("tag", .string "Box"),
        ("props", .object [("title", .string "\"a\\\u0001é\n "), ("none", .null),
          ("empty", .list []),
          ("nested", .object [("on", .string "2024-01-02"),
            ("deep", .list [.object [], .int (-7)])])]),
        ("children", .list [.string "{ x }",
          .object [("tag", .string "br"), ("props", .object []), ("children", .list [])]])]) := by
  have plain : ∀ t ∈ some tricky, t.PlainProps := by
    simp [tricky]
  exact ⟨plain, (json_lossless (some 2) (some tricky) plain).1⟩

end MarkdownTree.Markup
