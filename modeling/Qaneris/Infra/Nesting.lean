import Qaneris.Infra.Json

/-!
# The values inside a JSON value

Everything inside a document stands under a name: the value of a field under the name of the field, an
item of a list under the name of the list. What a document says at any depth is a statement about the
values in it and the names they stand under.
-/

namespace Infra.Json

/-- `value` stands under `name` in the document, which itself stands under `key`. -/
inductive At : (key : String) → (document : Json) → (name : String) → (value : Json) → Prop
  | self (key : String) (document : Json) : At key document key document
  | field {key name n : String} {fields : List (String × Json)} {child v : Json} :
      (name, child) ∈ fields → At name child n v → At key (.obj fields) n v
  | item {key n : String} {items : List Json} {child v : Json} :
      child ∈ items → At key child n v → At key (.arr items) n v

/-- Every value of the document has the property, under the name where it stands. -/
def Everywhere (P : String → Json → Prop) (key : String) (document : Json) : Prop :=
  ∀ name value, At key document name value → P name value

variable {P Q : String → Json → Prop} {key : String}

theorem Everywhere.mono {document : Json} (h : Everywhere P key document)
    (himp : ∀ name value, P name value → Q name value) : Everywhere Q key document :=
  fun name value hat => himp name value (h name value hat)

theorem everywhere_and {document : Json} :
    Everywhere (fun name value => P name value ∧ Q name value) key document ↔
      Everywhere P key document ∧ Everywhere Q key document :=
  ⟨fun h => ⟨h.mono fun _ _ hp => hp.1, h.mono fun _ _ hp => hp.2⟩,
    fun h name value hat => ⟨h.1 name value hat, h.2 name value hat⟩⟩

theorem everywhere_obj {fields : List (String × Json)} :
    Everywhere P key (.obj fields) ↔
      P key (.obj fields) ∧ ∀ field ∈ fields, Everywhere P field.1 field.2 := by
  constructor
  · intro h
    exact ⟨h _ _ (.self _ _), fun field hmem name value hat => h name value (.field hmem hat)⟩
  · rintro ⟨hself, hfields⟩ name value hat
    cases hat with
    | self => exact hself
    | field hmem hat => exact hfields _ hmem name value hat

theorem everywhere_arr {items : List Json} :
    Everywhere P key (.arr items) ↔ P key (.arr items) ∧ ∀ item ∈ items, Everywhere P key item := by
  constructor
  · intro h
    exact ⟨h _ _ (.self _ _), fun item hmem name value hat => h name value (.item hmem hat)⟩
  · rintro ⟨hself, hitems⟩ name value hat
    cases hat with
    | self => exact hself
    | item hmem hat => exact hitems _ hmem name value hat

/-- There is nothing inside a scalar. -/
def isScalar : Json → Bool
  | .null | .bool _ | .int _ | .real _ | .str _ => true
  | .arr _ | .obj _ => false

theorem everywhere_scalar {document : Json} (h : document.isScalar = true) :
    Everywhere P key document ↔ P key document := by
  constructor
  · intro hall
    exact hall _ _ (.self _ _)
  · intro hself name value hat
    cases hat with
    | self => exact hself
    | field => cases h
    | item => cases h

end Infra.Json
