/-
Module: DocQuery.Proofs.Bindings
Purpose: The tables that a query is given, by the names under which it refers to them.
Main exports: Binding, Bindings, Bindings.tables, WellNamed, Bindings.wellNamed, Sample.bindings,
  Sample.plan
-/
import DocQuery.Proofs.Entries
import DocQuery.Query.Run

namespace DocQuery

/-! ### What a query is given -/

/-- Rows under an alias, perhaps with the name of the table they come from.  No row has two fields
of one name. -/
structure Binding where
  aliasName : String
  rows : List (Dict Value)
  name : Option String

/-- The table of a binding. -/
def Binding.table (b : Binding) : Table :=
  ⟨b.aliasName, b.rows.map Dict.entries, b.name⟩

/-- What an alias may stand for: a binding, or rows alone. -/
inductive Bindable where
  | binding (b : Binding)
  | rows (given : List (Dict Value))

/-- The table that an alias stands for; a binding under another alias is renamed. -/
def Bindable.table (aliasName : String) : Bindable → Table
  | .binding b => { b.table with aliasName := aliasName }
  | .rows given => ⟨aliasName, given.map Dict.entries, none⟩

/-- The tables at hand, as a caller gives them: one after the other, or by their aliases. -/
inductive Bindings where
  | listed (bindings : List Binding)
  | named (bindings : Dict Bindable)

/-- The tables by their aliases.  Of several bindings under one alias the last one counts. -/
def Bindings.tables : Bindings → Plan.Tables
  | .listed bindings => Keyed.ofList (bindings.map fun b => (b.aliasName, b.table))
  | .named bindings => bindings.entries.map fun (aliasName, b) => (aliasName, b.table aliasName)

/-! ### What every run can rely on

However rows are given, each table ends up under its own alias, and no row has a field twice.  Later
proofs ask for nothing else about the tables at hand. -/

/-- Every table is found under its own alias, and none of its rows has two fields of one name. -/
structure WellNamed (tables : Plan.Tables) : Prop where
  aliasName {key : String} {t : Table} : Keyed.get? key tables = some t → t.aliasName = key
  rows {key : String} {t : Table} : Keyed.get? key tables = some t →
    ∀ row ∈ t.rows, (Keyed.keys row).Nodup

theorem nodup_of_mem_entries {rows : List (Dict Value)} {row : Row}
    (h : row ∈ rows.map Dict.entries) : (Keyed.keys row).Nodup := by
  obtain ⟨d, _, rfl⟩ := List.mem_map.1 h
  exact d.distinct

theorem Bindable.nodup_of_mem_rows {aliasName : String} {b : Bindable} {row : Row}
    (h : row ∈ (b.table aliasName).rows) : (Keyed.keys row).Nodup := by
  cases b with
  | binding b => exact nodup_of_mem_entries h
  | rows given => exact nodup_of_mem_entries h

/-- However tables are given, a run finds them under their own aliases. -/
theorem Bindings.wellNamed (b : Bindings) : WellNamed b.tables := by
  cases b with
  | listed bindings =>
      have found {key : String} {t : Table}
          (h : Keyed.get? key (Bindings.listed bindings).tables = some t) :
          ∃ b : Binding, b.aliasName = key ∧ b.table = t := by
        obtain ⟨b, _, same⟩ := List.mem_map.1 (Keyed.mem_of_mem_ofList (Keyed.mem_of_get? h))
        exact ⟨b, Prod.mk.inj same⟩
      refine ⟨fun h => ?_, fun h row hrow => ?_⟩
      · obtain ⟨b, rfl, rfl⟩ := found h
        rfl
      · obtain ⟨b, rfl, rfl⟩ := found h
        exact nodup_of_mem_entries hrow
  | named bindings =>
      have found {key : String} {t : Table}
          (h : Keyed.get? key (Bindings.named bindings).tables = some t) :
          ∃ b : Bindable, b.table key = t := by
        obtain ⟨entry, _, same⟩ := List.mem_map.1 (Keyed.mem_of_get? h)
        obtain ⟨rfl, rfl⟩ := Prod.mk.inj same
        exact ⟨entry.2, rfl⟩
      refine ⟨fun h => ?_, fun h row hrow => ?_⟩
      · obtain ⟨b, rfl⟩ := found h
        cases b <;> rfl
      · obtain ⟨b, rfl⟩ := found h
        exact b.nodup_of_mem_rows hrow

/-! ### A small shop, for instances of general statements -/

namespace Sample

/-- Two orders of one product, one of another, and a note that is no order. -/
def orders : Binding :=
  ⟨"o", [.ofList [("item", .int 2)], .ofList [("item", .int 1)], .ofList [("item", .int 2)],
    .ofList [("note", .null)]], some "orders"⟩

/-- The products. -/
def products : Binding :=
  ⟨"p", [.ofList [("id", .int 1), ("name", .string "W")],
    .ofList [("id", .int 2), ("name", .string "G")]], some "products"⟩

/-- The tables of the shop. -/
def bindings : Bindings :=
  .listed [orders, products]

/-- The name of the product of each order. -/
def plan : Plan where
  table := ⟨"orders", some "o"⟩
  unnests := []
  joins := [⟨⟨"products", some "p"⟩, .left, .compare (.field "p.id") .eq (.field "o.item")⟩]
  condition := some (.compare (.field "o.item") .ge (.literal (.int 1)))
  select := [⟨"p.name", some "label"⟩, ⟨"item", none⟩]
  orderBy := []
  limit := none

/-- What the plan answers. -/
def answer : List Record :=
  [⟨[("label", .string "G"), ("item", .int 2)], none⟩,
   ⟨[("label", .string "W"), ("item", .int 1)], none⟩,
   ⟨[("label", .string "G"), ("item", .int 2)], none⟩]

end Sample

end DocQuery
