/-
Records decode by their fields. A record takes up the entries of an object one by one, yet what it takes
depends only on the values that each field is given: none, or a single one that decodes. So the order of the
entries does not matter, and entries of other names are passed over.
-/
import CircuitBreaker.Proofs.Codecs
import CircuitBreaker.Proofs.JsonText
import Mathlib.Data.List.Nodup
import Mathlib.Data.List.Perm.Basic

namespace CircuitBreaker

namespace Draft

variable {α β : Type}

/-! ## Values of a field -/

/-- The values of all entries with this key, in order. -/
def valuesOf (key : String) (entries : List (Option String × Draft)) : List Draft :=
  (entries.filter (·.1 = some key)).map (·.2)

theorem valuesOf_cons_self (key : String) (value : Draft) (entries : List (Option String × Draft)) :
    valuesOf key ((some key, value) :: entries) = value :: valuesOf key entries := by
  simp [valuesOf]

theorem valuesOf_cons_of_ne {key other : String} (h : other ≠ key) (value : Draft)
    (entries : List (Option String × Draft)) :
    valuesOf key ((some other, value) :: entries) = valuesOf key entries := by
  simp [valuesOf, h]

/-- What becomes of a slot that values are given to: it stays as it is if there are none, and a single one fills
it if it is empty. -/
inductive Fills (decode : Decoder α) (slot : Option α) : List Draft → Option α → Prop
  | stays : Fills decode slot [] slot
  | filled {value : Draft} {a : α} (empty : slot = none) (decoded : decode value = .ok a) :
      Fills decode slot [value] (some a)

variable {decode : Decoder α} {slot filled : Option α} {value : Draft} {values : List Draft}

theorem fills_nil : Fills decode slot [] filled ↔ filled = slot := by
  constructor
  · rintro ⟨⟩
    rfl
  · rintro rfl
    exact .stays

theorem fills_cons : Fills decode slot (value :: values) filled ↔
    slot = none ∧ ∃ a, decode value = .ok a ∧ Fills decode (some a) values filled := by
  constructor
  · rintro (_ | ⟨hempty, hdecoded⟩)
    exact ⟨hempty, _, hdecoded, .stays⟩
  · rintro ⟨hempty, a, hdecoded, h⟩
    cases h with
    | stays => exact .filled hempty hdecoded
    | filled hfull => cases hfull

theorem decodeOnce_eq_ok_iff {field : String} :
    decodeOnce field slot decode value = .ok filled ↔ slot = none ∧ ∃ a, decode value = .ok a ∧ filled = some a := by
  unfold decodeOnce
  cases slot with
  | some a => simp
  | none => cases decode value <;> simp [Except.map, eq_comm]

theorem required_eq_ok_iff {field : String} {a : α} : required field slot = .ok a ↔ slot = some a := by
  cases slot with
  | none => exact iff_of_false nofun nofun
  | some b => simp [required]

/-! ## Items of an array -/

theorem noneLeft_eq_ok_iff {origin : Origin} {count : Nat} {items : List Draft} :
    noneLeft origin count items = .ok () ↔ items.length ≤ count := by
  unfold noneLeft
  split_ifs with h
  · exact iff_of_true rfl h
  · refine iff_of_false ?_ h
    cases origin <;> nofun

/-- An array stands for a record if its items do, and none is left behind them. -/
theorem bind_noneLeft_eq_ok_iff {result : Except Mismatch α} {origin : Origin} {count : Nat} {items : List Draft}
    {a : α} :
    (do let a ← result; noneLeft origin count items; return a) = .ok a ↔ result = .ok a ∧ items.length ≤ count := by
  rw [bind_eq_ok_iff]
  constructor
  · rintro ⟨_, hresult, h⟩
    obtain ⟨_, hleft, ⟨⟩⟩ := bind_eq_ok_iff.1 h
    exact ⟨hresult, noneLeft_eq_ok_iff.1 hleft⟩
  · rintro ⟨hresult, hleft⟩
    exact ⟨_, hresult, bind_eq_ok_iff.2 ⟨(), noneLeft_eq_ok_iff.2 hleft, rfl⟩⟩

end Draft

/-! ## Tables of fields -/

/-- A field of a record: its name, how its value is decoded, and the slot in which it is kept until the record
is whole. -/
structure Field (β : Type) where
  {Value : Type}
  name : String
  decode : Decoder Value
  slot : β → Option Value
  put : β → Option Value → β

namespace Field

variable {β : Type}

/-- Takes up the value of this field. -/
def take (field : Field β) (fields : β) (value : Draft) : Except Mismatch β := do
  return field.put fields (← Draft.decodeOnce field.name (field.slot fields) field.decode value)

/-- Takes up an entry: the value of the field with this name, and nothing if there is no such field. -/
def takeAmong : List (Field β) → β → String → Decoder β
  | [], fields, _, value => do
    value.skip
    return fields
  | field :: table, fields, key, value =>
    if key = field.name then field.take fields value else takeAmong table fields key value

/-- The fields of a table have names and slots of their own, and are all there is in a record. -/
structure Lawful (table : List (Field β)) : Prop where
  nodup : (table.map Field.name).Nodup
  slot_put : ∀ field ∈ table, ∀ fields value, field.slot (field.put fields value) = value
  slot_put_of_ne : ∀ field ∈ table, ∀ other ∈ table, field.name ≠ other.name →
    ∀ fields value, other.slot (field.put fields value) = other.slot fields
  ext : ∀ fields fields', (∀ field ∈ table, field.slot fields' = field.slot fields) → fields' = fields

variable {table : List (Field β)} {field other : Field β} {fields fields' : β} {value : Draft}
  {entries : List (Option String × Draft)}

theorem Lawful.eq_of_name (h : Lawful table) (hf : field ∈ table) (ho : other ∈ table)
    (hname : field.name = other.name) : field = other :=
  List.inj_on_of_nodup_map h.nodup hf ho hname

theorem takeAmong_of_mem (hn : (table.map Field.name).Nodup) (hf : field ∈ table) :
    takeAmong table fields field.name value = field.take fields value := by
  induction table with
  | nil => cases hf
  | cons first table ih =>
    rw [List.map_cons, List.nodup_cons] at hn
    unfold takeAmong
    rcases List.mem_cons.1 hf with rfl | hf
    · rw [if_pos rfl]
    · rw [if_neg, ih hn.2 hf]
      intro hname
      exact hn.1 (hname ▸ List.mem_map_of_mem hf)

theorem takeAmong_of_notMem {key : String} (h : key ∉ table.map Field.name) :
    takeAmong table fields key value = (do value.skip; return fields) := by
  induction table with
  | nil => rfl
  | cons first table ih =>
    rw [List.map_cons, List.mem_cons, not_or] at h
    unfold takeAmong
    rw [if_neg h.1, ih h.2]

theorem take_eq_ok_iff : field.take fields value = .ok fields' ↔
    field.slot fields = none ∧ ∃ a, field.decode value = .ok a ∧ fields' = field.put fields (some a) := by
  unfold take
  rw [Draft.bind_eq_ok_iff]
  constructor
  · rintro ⟨filled, h, ⟨⟩⟩
    obtain ⟨hempty, a, hdecoded, rfl⟩ := Draft.decodeOnce_eq_ok_iff.1 h
    exact ⟨hempty, a, hdecoded, rfl⟩
  · rintro ⟨hempty, a, hdecoded, rfl⟩
    exact ⟨some a, Draft.decodeOnce_eq_ok_iff.2 ⟨hempty, a, hdecoded, rfl⟩, rfl⟩

/-- The entry can be taken up: it has a key, and if no field has this name, its value is well formed. -/
def Passes (table : List (Field β)) (entry : Option String × Draft) : Prop :=
  ∃ key, entry.1 = some key ∧ (key ∈ table.map Field.name ∨ entry.2.wellFormed = true)

/-- Every field is filled by its values among the entries, and all other entries are passed over. -/
structure TakesUp (table : List (Field β)) (fields : β) (entries : List (Option String × Draft))
    (fields' : β) : Prop where
  passes : ∀ entry ∈ entries, Passes table entry
  fills : ∀ field ∈ table,
    Draft.Fills field.decode (field.slot fields) (Draft.valuesOf field.name entries) (field.slot fields')

/-- If the first entry has the name of a field, it is taken up by this field. -/
theorem takesUp_cons_of_mem (h : Lawful table) (hf : field ∈ table) :
    TakesUp table fields ((some field.name, value) :: entries) fields' ↔
      ∃ next, field.take fields value = .ok next ∧ TakesUp table next entries fields' := by
  constructor
  · rintro ⟨hpasses, hfills⟩
    have hself := hfills field hf
    rw [Draft.valuesOf_cons_self, Draft.fills_cons] at hself
    obtain ⟨hempty, a, hdecoded, hself⟩ := hself
    refine ⟨field.put fields (some a), take_eq_ok_iff.2 ⟨hempty, a, hdecoded, rfl⟩,
      fun entry hentry => hpasses entry (List.mem_cons_of_mem _ hentry), fun other ho => ?_⟩
    by_cases hname : field.name = other.name
    · obtain rfl := h.eq_of_name hf ho hname
      rwa [h.slot_put field hf]
    · rw [h.slot_put_of_ne field hf other ho hname, ← Draft.valuesOf_cons_of_ne hname value entries]
      exact hfills other ho
  · rintro ⟨next, htake, hpasses, hfills⟩
    obtain ⟨hempty, a, hdecoded, rfl⟩ := take_eq_ok_iff.1 htake
    constructor
    · intro entry hentry
      rcases List.mem_cons.1 hentry with rfl | hentry
      · exact ⟨field.name, rfl, Or.inl (List.mem_map_of_mem hf)⟩
      · exact hpasses entry hentry
    · intro other ho
      have hother := hfills other ho
      by_cases hname : field.name = other.name
      · obtain rfl := h.eq_of_name hf ho hname
        rw [h.slot_put field hf] at hother
        rw [Draft.valuesOf_cons_self, Draft.fills_cons]
        exact ⟨hempty, a, hdecoded, hother⟩
      · rw [h.slot_put_of_ne field hf other ho hname] at hother
        rwa [Draft.valuesOf_cons_of_ne hname]

/-- If the first entry has another name, it is passed over. -/
theorem takesUp_cons_of_notMem {key : String} (h : key ∉ table.map Field.name) :
    TakesUp table fields ((some key, value) :: entries) fields' ↔
      value.wellFormed = true ∧ TakesUp table fields entries fields' := by
  have hne : ∀ field ∈ table, key ≠ field.name := by
    rintro field hf rfl
    exact h (List.mem_map_of_mem hf)
  constructor
  · rintro ⟨hpasses, hfills⟩
    obtain ⟨_, ⟨⟩, hkey | hformed⟩ := hpasses _ List.mem_cons_self
    · exact absurd hkey h
    · refine ⟨hformed, fun entry hentry => hpasses entry (List.mem_cons_of_mem _ hentry), fun field hf => ?_⟩
      rw [← Draft.valuesOf_cons_of_ne (hne field hf) value entries]
      exact hfills field hf
  · rintro ⟨hformed, hpasses, hfills⟩
    constructor
    · intro entry hentry
      rcases List.mem_cons.1 hentry with rfl | hentry
      · exact ⟨key, rfl, Or.inr hformed⟩
      · exact hpasses entry hentry
    · intro field hf
      rw [Draft.valuesOf_cons_of_ne (hne field hf)]
      exact hfills field hf

/-- A record is made of entries exactly if they give its fields their values. -/
theorem foldEntries_eq_ok_iff (h : Lawful table) (fields fields' : β) (entries : List (Option String × Draft)) :
    Draft.foldEntries (takeAmong table) fields entries = .ok fields' ↔ TakesUp table fields entries fields' := by
  -- for any slots at the start, as the first entry may fill one for the entries behind it
  induction entries generalizing fields with
  | nil =>
    constructor
    · rintro ⟨⟩
      exact ⟨nofun, fun field _ => .stays⟩
    · rintro ⟨-, hfills⟩
      refine congrArg Except.ok (h.ext fields' fields fun field hf => ?_)
      exact (Draft.fills_nil.1 (hfills field hf)).symm
  | cons entry entries ih =>
    obtain ⟨key, value⟩ := entry
    cases key with
    | none =>
      constructor
      · rintro ⟨⟩
      · rintro ⟨hpasses, -⟩
        obtain ⟨_, ⟨⟩, -⟩ := hpasses _ List.mem_cons_self
    | some key =>
      unfold Draft.foldEntries
      rw [Draft.bind_eq_ok_iff]
      by_cases hkey : key ∈ table.map Field.name
      · obtain ⟨field, hf, rfl⟩ := List.mem_map.1 hkey
        rw [takesUp_cons_of_mem h hf, takeAmong_of_mem h.nodup hf]
        simp only [ih]
      · rw [takesUp_cons_of_notMem hkey, takeAmong_of_notMem hkey, ← ih]
        unfold Draft.skip
        by_cases hformed : value.wellFormed = true
        · simp [hformed, bind, Except.bind, pure, Except.pure]
        · simp [hformed, bind, Except.bind]

end Field

/-! ## Objects -/

namespace Json

/-- The values of all entries with this key, in order. -/
def valuesOf (key : String) (entries : List (String × Json)) : List Json :=
  (entries.filter (·.1 = key)).map (·.2)

theorem valuesOf_perm {entries entries' : List (String × Json)} (h : entries.Perm entries') (key : String) :
    (valuesOf key entries).Perm (valuesOf key entries') :=
  (h.filter _).map _

theorem valuesOf_cons (key : String) (entry : String × Json) (entries : List (String × Json)) :
    valuesOf key (entry :: entries) =
      if entry.1 = key then entry.2 :: valuesOf key entries else valuesOf key entries := by
  simp only [valuesOf, List.filter_cons, decide_eq_true_eq]
  split_ifs <;> rfl

theorem valuesOf_of_notMem {entries : List (String × Json)} {key : String} (h : key ∉ entries.map (·.1)) :
    valuesOf key entries = [] := by
  induction entries with
  | nil => rfl
  | cons entry entries ih =>
    rw [List.map_cons, List.mem_cons, not_or] at h
    rw [valuesOf_cons, if_neg (Ne.symm h.1), ih h.2]

/-- Where no key occurs twice, the value of an entry is the only one with its key. -/
theorem valuesOf_of_mem {entries : List (String × Json)} {key : String} {value : Json}
    (hkeys : (entries.map (·.1)).Nodup) (hmem : (key, value) ∈ entries) : valuesOf key entries = [value] := by
  induction entries with
  | nil => cases hmem
  | cons entry entries ih =>
    rw [List.map_cons, List.nodup_cons] at hkeys
    rw [valuesOf_cons]
    rcases List.mem_cons.1 hmem with rfl | hmem
    · rw [if_pos rfl, valuesOf_of_notMem hkeys.1]
    · have hne : entry.1 ≠ key := fun hkey => hkeys.1 (List.mem_map.2 ⟨_, hmem, hkey.symm⟩)
      rw [if_neg hne, ih hkeys.2 hmem]

theorem draftItems_eq_map (items : List Json) : draftItems items = items.map draft := by
  induction items with
  | nil => rfl
  | cons item items ih => simp [draftItems, ih]

theorem length_draftItems (items : List Json) : (draftItems items).length = items.length := by
  rw [draftItems_eq_map, List.length_map]

theorem draftEntries_eq_map (entries : List (String × Json)) :
    draftEntries entries = entries.map fun entry => (some entry.1, entry.2.draft) := by
  induction entries with
  | nil => rfl
  | cons entry entries ih => simp [draftEntries, ih]

theorem valuesOf_draftEntries (key : String) (entries : List (String × Json)) :
    Draft.valuesOf key (draftEntries entries) = (valuesOf key entries).map draft := by
  rw [draftEntries_eq_map]
  simp [Draft.valuesOf, valuesOf, List.filter_map, Function.comp_def]

/-- The values that are given for a field make it this: there is a single one, and it decodes to this. -/
def GivesOne {α : Type} (decode : Decoder α) (values : List Json) (a : α) : Prop :=
  ∃ j, values = [j] ∧ decode j.draft = .ok a

/-- The values that are given for a field that may be left out make it this: it is absent if there are none. -/
def GivesAtMostOne {α : Type} (decode : Decoder (Option α)) (values : List Json) (a : Option α) : Prop :=
  values = [] ∧ a = none ∨ GivesOne decode values a

section

variable {α : Type} {decode : Decoder α} {encode : α → Json} {values values' items : List Json} {a : α}

theorem GivesOne.perm (h : GivesOne decode values a) (hp : values.Perm values') : GivesOne decode values' a := by
  obtain ⟨j, rfl, hdecoded⟩ := h
  exact ⟨j, List.perm_singleton.1 hp.symm, hdecoded⟩

theorem GivesAtMostOne.perm {decode : Decoder (Option α)} {a : Option α} (h : GivesAtMostOne decode values a)
    (hp : values.Perm values') : GivesAtMostOne decode values' a := by
  rcases h with ⟨rfl, rfl⟩ | hone
  · exact Or.inl ⟨List.nil_perm.1 hp, rfl⟩
  · exact Or.inr (hone.perm hp)

/-- If no key occurs twice, an entry with what has been encoded gives its field that one value. -/
theorem givesOne_of_mem {entries : List (String × Json)} {key : String} (hkeys : (entries.map (·.1)).Nodup)
    (h : Draft.Inverts decode encode) (hmem : (key, encode a) ∈ entries) :
    GivesOne decode (valuesOf key entries) a :=
  ⟨encode a, valuesOf_of_mem hkeys hmem, h a⟩

theorem givesOne_iff (h : Draft.Exact decode encode) : GivesOne decode values a ↔ values = [encode a] := by
  constructor
  · rintro ⟨j, rfl, hdecoded⟩
    rw [draft_injective ((h _ a).1 hdecoded)]
  · rintro rfl
    exact ⟨_, rfl, h.inverts a⟩

/-- A slot that ends up full has been given one value. -/
theorem fills_draft_iff : Draft.Fills decode none (values.map draft) (some a) ↔ GivesOne decode values a := by
  constructor
  · intro hfills
    generalize hdrafts : values.map draft = drafts at hfills
    cases hfills with
    | filled hempty hdecoded =>
      obtain ⟨j, rfl, rfl⟩ := List.map_eq_singleton_iff.1 hdrafts
      exact ⟨j, rfl, hdecoded⟩
  · rintro ⟨j, rfl, hdecoded⟩
    exact .filled rfl hdecoded

/-- A slot that may stay empty has been given one value at most. -/
theorem fills_draft_getD_iff {decode : Decoder (Option α)} {a : Option α} :
    (∃ slot, Draft.Fills decode none (values.map draft) slot ∧ slot.getD none = a) ↔
      GivesAtMostOne decode values a := by
  constructor
  · rintro ⟨slot, hfills, rfl⟩
    cases slot with
    | some a => exact Or.inr (fills_draft_iff.1 hfills)
    | none =>
      generalize hdrafts : values.map draft = drafts at hfills
      cases hfills
      exact Or.inl ⟨List.map_eq_nil_iff.1 hdrafts, rfl⟩
  · rintro (⟨rfl, rfl⟩ | hone)
    · exact ⟨none, .stays, rfl⟩
    · exact ⟨some a, fills_draft_iff.2 hone, rfl⟩

/-- An item of an array gives its field one value. -/
theorem decodeItem_draft_iff {record : String} {count i : Nat} :
    Draft.decodeItem record count (items.map draft) i decode = .ok a ↔ GivesOne decode items[i]?.toList a := by
  unfold Draft.decodeItem
  rw [List.getElem?_map]
  cases items[i]? with
  | none => exact iff_of_false nofun (by rintro ⟨_, ⟨⟩, -⟩)
  | some j =>
    constructor
    · exact fun hdecoded => ⟨j, rfl, hdecoded⟩
    · rintro ⟨_, ⟨⟩, hdecoded⟩
      exact hdecoded

end

/-- Nothing in the value of an object keeps a record from passing over what is not its own. -/
theorem passes_draftEntries {β : Type} (table : List (Field β)) (entries : List (String × Json)) :
    ∀ entry ∈ draftEntries entries, Field.Passes table entry := by
  rw [draftEntries_eq_map]
  intro entry hentry
  obtain ⟨⟨key, value⟩, -, rfl⟩ := List.mem_map.1 hentry
  exact ⟨key, rfl, Or.inr (wellFormed_draft value)⟩

/-- A record is decoded from an object by what its fields are given there. -/
theorem foldEntries_bind_eq_ok_iff {α β : Type} {table : List (Field β)} (h : Field.Lawful table) (fields : β)
    (finish : β → Except Mismatch α) (entries : List (String × Json)) (a : α) :
    (Draft.foldEntries (Field.takeAmong table) fields (draftEntries entries) >>= finish) = .ok a ↔
      ∃ fields', (∀ field ∈ table, Draft.Fills field.decode (field.slot fields)
        ((valuesOf field.name entries).map draft) (field.slot fields')) ∧ finish fields' = .ok a := by
  rw [Draft.bind_eq_ok_iff]
  simp only [Field.foldEntries_eq_ok_iff h, ← valuesOf_draftEntries]
  constructor
  · rintro ⟨fields', ⟨-, hfills⟩, hfinish⟩
    exact ⟨fields', hfills, hfinish⟩
  · rintro ⟨fields', hfills, hfinish⟩
    exact ⟨fields', ⟨passes_draftEntries table entries, hfills⟩, hfinish⟩

/-! ### Objects in the order of their keys -/

theorem insertSorted_perm {key : String} {entries : List (String × Json)} (value : Json)
    (h : key ∉ entries.map (·.1)) : (insertSorted key value entries).Perm ((key, value) :: entries) := by
  induction entries with
  | nil => exact .refl _
  | cons entry entries ih =>
    rw [List.map_cons, List.mem_cons, not_or] at h
    unfold insertSorted
    rw [if_neg h.1]
    split_ifs
    · exact .refl _
    · exact ((ih h.2).cons entry).trans (.swap _ _ _)

/-- Where no key occurs twice, sorting an object only changes the order of its entries. -/
theorem sortedEntries_perm {ordered entries : List (String × Json)} (h : ((ordered ++ entries).map (·.1)).Nodup) :
    (sortedEntries ordered entries).Perm (ordered ++ entries.map fun entry => (entry.1, entry.2.sorted)) := by
  induction entries generalizing ordered with
  | nil => simp [sortedEntries]
  | cons entry entries ih =>
    obtain ⟨key, value⟩ := entry
    have hmiddle : ((ordered ++ (key, value) :: entries).map (·.1)).Perm (key :: (ordered ++ entries).map (·.1)) :=
      List.perm_middle.map _
    have hnodup := hmiddle.nodup_iff.1 h
    have hkey : key ∉ ordered.map (·.1) := by
      intro hmem
      rw [List.map_append, List.nodup_cons, List.mem_append] at hnodup
      exact hnodup.1 (Or.inl hmem)
    have hinsert := insertSorted_perm value.sorted hkey
    have hkeys := (hinsert.append_right entries).map (·.1)
    refine (ih (hkeys.nodup_iff.2 hnodup)).trans ?_
    exact (hinsert.append_right _).trans List.perm_middle.symm

theorem sorted_nat (n : Nat) : (nat n).sorted = nat n := rfl

theorem sorted_optional {α : Type} (encode : α → Json) (h : ∀ a, (encode a).sorted = encode a) (value : Option α) :
    (optional encode value).sorted = optional encode value := by
  cases value with
  | none => rfl
  | some a => exact h a

/-- A record of scalars that is sorted has the same entries in another order. -/
theorem sorted_object {entries : List (String × Json)} (hkeys : (entries.map (·.1)).Nodup)
    (hvalues : ∀ entry ∈ entries, entry.2.sorted = entry.2) :
    ∃ entries', (Json.object entries).sorted = .object entries' ∧ entries.Perm entries' := by
  have hsame : (entries.map fun entry => (entry.1, entry.2.sorted)) = entries := by
    refine (List.map_congr_left fun entry hentry => ?_).trans (List.map_id entries)
    rw [hvalues entry hentry]
    rfl
  have hperm : (sortedEntries [] entries).Perm _ := sortedEntries_perm hkeys
  rw [hsame] at hperm
  exact ⟨_, rfl, hperm.symm⟩

end Json

/-! ## There and back -/

/-- What has been encoded decodes to itself: as a value from either origin, as a text, and as a value whose
objects are sorted. -/
structure Survives {α : Type} (decode : Origin → Decoder α) (encode : α → Json) (a : α) : Prop where
  value : ∀ origin, decode origin (encode a).draft = .ok a
  text : Draft.decodeText decode (encode a).text = .ok a
  sorted : Json.decodeSorted decode (encode a) = .ok a

/-- A record of scalars survives if it is decoded from its entries in any order. -/
theorem survives_of_perm {α : Type} {decode : Origin → Decoder α} {encode : α → Json} {a : α}
    {entries : List (String × Json)} (hencode : encode a = .object entries) (hkeys : (entries.map (·.1)).Nodup)
    (hvalues : ∀ entry ∈ entries, entry.2.sorted = entry.2) (hfits : (encode a).Fits)
    (hdecode : ∀ origin entries', entries.Perm entries' → decode origin (Json.object entries').draft = .ok a) :
    Survives decode encode a where
  value := fun origin => by
    rw [hencode]
    exact hdecode origin entries (.refl _)
  text := by
    rw [Json.decodeText_of_parse? (Json.parse?_text hfits), hencode]
    exact hdecode .text entries (.refl _)
  sorted := by
    obtain ⟨entries', hsorted, hperm⟩ := Json.sorted_object hkeys hvalues
    unfold Json.decodeSorted
    rw [hencode, hsorted]
    exact hdecode .value entries' hperm

end CircuitBreaker
