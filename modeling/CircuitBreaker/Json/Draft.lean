/-
JSON text as far as it makes sense. A draft has the shape of a JSON value, with two additions:
places where the text stops being JSON, and strings and numbers in good form that stand for no
value. What a reader of the text meets first stands first in the draft.
-/
import CircuitBreaker.Json.Value

namespace CircuitBreaker

/-- What can be read of a JSON text. -/
inductive Draft
  | null
  | bool (value : Bool)
  | number (value : Json.Number)
  | string (value : String)
  /-- The items of an array; if the text goes wrong among them, the last one is malformed. -/
  | array (items : List Draft)
  /-- The entries of an object. There is no key where its string stands for no text; where something
  other than a string stands in its place, the value is malformed. -/
  | object (entries : List (Option String × Draft))
  /-- A string with half of a surrogate pair, or a number that is too large. -/
  | unreadable
  /-- The text is not JSON from here on. -/
  | malformed
deriving Repr, Inhabited

namespace Draft

/-- The text of a string. -/
def string? : Draft → Option String
  | .string s => some s
  | _ => none

mutual

/-- The JSON value, if all of it can be read. -/
def json? : Draft → Option Json
  | .null => some .null
  | .bool b => some (.bool b)
  | .number n => some (.number n)
  | .string s => some (.string s)
  | .array items => (itemsJson? items).map .array
  | .object entries => (entriesJson? entries).map .object
  | .unreadable => none
  | .malformed => none

/-- The values of all items, if they can be read. -/
def itemsJson? : List Draft → Option (List Json)
  | [] => some []
  | item :: items =>
    match item.json?, itemsJson? items with
    | some j, some js => some (j :: js)
    | _, _ => none

/-- The keys and values of all entries, if they can be read. -/
def entriesJson? : List (Option String × Draft) → Option (List (String × Json))
  | [] => some []
  | (key, value) :: entries =>
    match key, value.json?, entriesJson? entries with
    | some k, some j, some js => some ((k, j) :: js)
    | _, _, _ => none

end

mutual

/-- The text is JSON to its end, whether or not its strings and numbers stand for values. -/
def wellFormed : Draft → Bool
  | .array items => itemsWellFormed items
  | .object entries => entriesWellFormed entries
  | .malformed => false
  | .null => true
  | .bool _ => true
  | .number _ => true
  | .string _ => true
  | .unreadable => true

/-- All items are well formed. -/
def itemsWellFormed : List Draft → Bool
  | [] => true
  | item :: items => item.wellFormed && itemsWellFormed items

/-- All entries are well formed. -/
def entriesWellFormed : List (Option String × Draft) → Bool
  | [] => true
  | (_, value) :: entries => value.wellFormed && entriesWellFormed entries

end

end Draft

namespace Json

mutual

/-- A value as a draft that leaves nothing open. -/
def draft : Json → Draft
  | .null => .null
  | .bool b => .bool b
  | .number n => .number n
  | .string s => .string s
  | .array items => .array (draftItems items)
  | .object entries => .object (draftEntries entries)

/-- The drafts of all items. -/
def draftItems : List Json → List Draft
  | [] => []
  | item :: items => draft item :: draftItems items

/-- The drafts of all entries. -/
def draftEntries : List (String × Json) → List (Option String × Draft)
  | [] => []
  | (key, value) :: entries => (some key, draft value) :: draftEntries entries

end

mutual

/-- Nothing is lost in a draft of a value. -/
theorem json?_draft : (j : Json) → j.draft.json? = some j
  | .null => rfl
  | .bool _ => rfl
  | .number _ => rfl
  | .string _ => rfl
  | .array items => by simp [draft, Draft.json?, json?_draftItems items]
  | .object entries => by simp [draft, Draft.json?, json?_draftEntries entries]

theorem json?_draftItems : (items : List Json) → Draft.itemsJson? (draftItems items) = some items
  | [] => rfl
  | item :: items => by
    simp [draftItems, Draft.itemsJson?, json?_draft item, json?_draftItems items]

theorem json?_draftEntries :
    (entries : List (String × Json)) → Draft.entriesJson? (draftEntries entries) = some entries
  | [] => rfl
  | (key, value) :: entries => by
    simp [draftEntries, Draft.entriesJson?, json?_draft value, json?_draftEntries entries]

end

mutual

/-- A draft of a value is well formed. -/
theorem wellFormed_draft : (j : Json) → j.draft.wellFormed = true
  | .null => rfl
  | .bool _ => rfl
  | .number _ => rfl
  | .string _ => rfl
  | .array items => by simp [draft, Draft.wellFormed, wellFormed_draftItems items]
  | .object entries => by simp [draft, Draft.wellFormed, wellFormed_draftEntries entries]

theorem wellFormed_draftItems :
    (items : List Json) → Draft.itemsWellFormed (draftItems items) = true
  | [] => rfl
  | item :: items => by
    simp [draftItems, Draft.itemsWellFormed, wellFormed_draft item, wellFormed_draftItems items]

theorem wellFormed_draftEntries :
    (entries : List (String × Json)) → Draft.entriesWellFormed (draftEntries entries) = true
  | [] => rfl
  | (key, value) :: entries => by
    simp [draftEntries, Draft.entriesWellFormed, wellFormed_draft value,
      wellFormed_draftEntries entries]

end

end Json

end CircuitBreaker
