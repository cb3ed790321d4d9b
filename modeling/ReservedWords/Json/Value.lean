/-!
JSON values. Objects keep their members in order and may in principle repeat a name; `Json.Reader`
never produces a repetition.
-/

namespace ReservedWords.Json

/-- A JSON value with texts of type `τ`. A number is an integer or a decimal kept as written; the
three words for numbers without digits are decimals. -/
inductive Value (τ : Type) where
  | null
  | bool (value : Bool)
  | integer (value : Int)
  | decimal (text : String)
  | string (text : τ)
  | array (items : List (Value τ))
  | object (members : List (τ × Value τ))
  deriving Inhabited

namespace Value

variable {τ σ : Type}

/-- The member of an object with the given name; nothing for any other value. -/
def member? [BEq τ] (name : τ) : Value τ → Option (Value τ)
  | object members => members.lookup name
  | _ => none

/-- An array of texts. -/
def strings (texts : List τ) : Value τ :=
  array (texts.map string)

mutual

/-- A value with other texts. -/
def map (f : τ → σ) : Value τ → Value σ
  | null => null
  | bool value => bool value
  | integer value => integer value
  | decimal text => decimal text
  | string text => string (f text)
  | array items => array (mapItems f items)
  | object members => object (mapMembers f members)

/-- The items of an array with other texts. -/
def mapItems (f : τ → σ) : List (Value τ) → List (Value σ)
  | [] => []
  | item :: items => map f item :: mapItems f items

/-- The members of an object with other texts. -/
def mapMembers (f : τ → σ) : List (τ × Value τ) → List (σ × Value σ)
  | [] => []
  | (name, value) :: members => (f name, map f value) :: mapMembers f members

end

section

variable {f : τ → σ} {g : σ → τ}

mutual

/-- A value whose texts are replaced and then put back is as it was. -/
theorem map_map_cancel (back : ∀ text, g (f text) = text) (value : Value τ)
    : (value.map f).map g = value := by
  cases value with
  | null | bool | integer | decimal => rfl
  | string text => rw [map, map, back]
  | array items => rw [map, map, mapItems_mapItems_cancel back]
  | object members => rw [map, map, mapMembers_mapMembers_cancel back]

theorem mapItems_mapItems_cancel (back : ∀ text, g (f text) = text) (items : List (Value τ))
    : mapItems g (mapItems f items) = items := by
  cases items with
  | nil => rfl
  | cons item items => rw [mapItems, mapItems, map_map_cancel back, mapItems_mapItems_cancel back]

theorem mapMembers_mapMembers_cancel (back : ∀ text, g (f text) = text)
    (members : List (τ × Value τ))
    : mapMembers g (mapMembers f members) = members := by
  cases members with
  | nil => rfl
  | cons member members =>
    obtain ⟨name, value⟩ := member
    rw [mapMembers, mapMembers, back, map_map_cancel back, mapMembers_mapMembers_cancel back]

end

end

end Value

end ReservedWords.Json
