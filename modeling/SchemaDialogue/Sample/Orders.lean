import SchemaDialogue.Describe.Host
import SchemaDialogue.Json.Print
import SchemaDialogue.Read.Choice

/-!
# Sample types: orders of a coffee shop

Host types that describe themselves, as a user of the library writes them: orders with their items,
a tree of categories, pages of anything, and a record that uses every kind of type expression.
-/

namespace SchemaDialogue.Sample

open Read

/-- What can be ordered. -/
inductive Product where
  | coffee (size : String)
  | muffin (warmed : Bool)

/-- A product and how many of it. -/
structure LineItem where
  product : Product
  quantity : Nat

/-- A customer's order. -/
structure Order where
  items : List LineItem
  note : Option String
  favorite : Option Product

/-! ## Descriptions -/

/-- A literal type of texts. -/
def texts (choices : List String) : TypeExpr := .literal (choices.map .string)

def product : HostType := .described <| Registry.register "Product" do
  let coffee ← Registry.insert "Coffee" <| .record {
    name := "Coffee"
    fields := [
      { name := "type", type := texts ["Coffee"] },
      { name := "size", type := texts ["small", "large"] }] }
  let warmed ← HostType.truth.describe
  let muffin ← Registry.insert "Muffin" <| .record {
    name := "Muffin"
    fields := [
      { name := "type", type := texts ["Muffin"] },
      { name := "warmed", type := warmed }] }
  pure (.aliased { name := "Product", target := .union [coffee, muffin] })

def lineItem : HostType := .described <| Registry.register "LineItem" do
  let item ← product.describe
  let quantity ← HostType.integer.describe
  pure <| .record {
    name := "LineItem"
    fields := [
      { name := "product", type := item },
      { name := "quantity", type := quantity }] }

def order : HostType := .described <| Registry.register "Order" do
  let items ← (HostType.sequence lineItem).describe
  let note ← (HostType.optional .text).describe
  let favorite ← (HostType.optional product).describe
  pure <| .record {
    name := "Order"
    doc := some "A customer order."
    fields := [
      { name := "items", type := items },
      { name := "note", type := note, optional := true,
        doc := some "Anything the barista should know" },
      { name := "favorite", type := favorite }] }

/-- The type of pages of a type. -/
def page (item : HostType) : HostType := .described do
  let _ ← Registry.register "Page" <| pure <| .record {
    name := "Page"
    typeParams := ["T"]
    fields := [
      { name := "items", type := .list (some (.var "T")) },
      { name := "total", type := .integer }] }
  let argument ← item.describe
  pure (.named "Page" [argument])

def search : HostType := .described <| Registry.register "Search" do
  let orders ← (page order).describe
  let lines ← (page lineItem).describe
  pure <| .record {
    name := "Search"
    fields := [
      { name := "orders", type := orders },
      { name := "lines", type := lines }] }

/-- The type of categories, which mentions itself: its key is reserved while it is built. -/
def category : HostType := .described <| Registry.register "Category" do
  let name ← HostType.text.describe
  pure <| .record {
    name := "Category"
    fields := [
      { name := "name", type := name },
      { name := "subcategories", type := .list (some (.reference "Category")) }] }

/-- The integer literal of a value. -/
def integerLiteral (n : Int) : Literal := .number ((Number.ofInt? n).getD .zero)

/-- A type with a base, open members, literals of every kind and all wrappers. -/
def kitchen : HostType := .described <| Registry.register "Kitchen" do
  let level ← Registry.insert "Level" <| .aliased {
    name := "Level"
    doc := some "How hot."
    target := .literal [integerLiteral 1, integerLiteral (-2), .bool true, .string "x"] }
  let _ ← Registry.insert "Pair" <| .aliased {
    name := "Pair"
    typeParams := ["A", "B"]
    target := .tuple [.var "A", .var "B"] }
  pure <| .record {
    name := "Kitchen"
    bases := [.reference "Missing"]
    fields := [
      { name := "level", type := .documented "inner doc" (.required level), optional := true },
      { name := "pair",
        type := .named "Pair" [.string, .nullable (.reference "Kitchen")] },
      { name := "map", type := .notRequired (.map (some .integer) (some .self)) }]
    extra := some .any }

/-! ## Reading and writing -/

namespace Product

def read : Reader Product :=
  tagged "Product" "type" ["Coffee", "Muffin"] fun kind =>
    match kind with
    | "Coffee" => record {
        expected := .variantRecord "Product::Coffee"
        fields := [field "size" .required Read.text fun v _ => coffee v]
        blank := coffee "" }
    | _ => record {
        expected := .variantRecord "Product::Muffin"
        fields := [field "warmed" .required boolean fun v _ => muffin v]
        blank := muffin false }

def toJson : Product → Json
  | coffee size => .object [("type", .string "Coffee"), ("size", .string size)]
  | muffin warmed => .object [("type", .string "Muffin"), ("warmed", .bool warmed)]

end Product

namespace LineItem

def read : Reader LineItem :=
  record {
    expected := .record "LineItem"
    fields := [
      field "product" .required Product.read fun v i => { i with product := v },
      field "quantity" .required (fun r d => (integer "u32" 0 (2 ^ 32 - 1) r d).map Int.toNat)
        fun v i => { i with quantity := v }]
    blank := ⟨.muffin false, 0⟩ }

def toJson (i : LineItem) : Json :=
  .object [("product", i.product.toJson), ("quantity", .ofNat i.quantity)]

end LineItem

namespace Order

def read : Reader Order :=
  record {
    expected := .record "Order"
    fields := [
      field "items" .required (sequence LineItem.read) fun v o => { o with items := v },
      field "note" .defaulted (Read.optional Read.text) fun v o => { o with note := v },
      field "favorite" .nullable (Read.optional Product.read) fun v o => { o with favorite := v }]
    blank := ⟨[], none, none⟩ }

def toJson (o : Order) : Json :=
  .object [("items", .array (o.items.map LineItem.toJson)),
    ("note", (o.note.map Json.string).getD .null),
    ("favorite", (o.favorite.map Product.toJson).getD .null)]

end Order

end SchemaDialogue.Sample
