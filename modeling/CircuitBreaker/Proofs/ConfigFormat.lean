/-
Which JSON is a configuration. It is an object that gives the threshold and the cooldown once and the name at
most once, in any order and among any other entries, or an array of the three, with numbers that fit. What is
decoded holds these values, and the JSON of a configuration is that configuration.
-/
import CircuitBreaker.Config.Codec
import CircuitBreaker.Proofs.Records

namespace CircuitBreaker

/-! ## The form -/

/-- An integer from 0 up to `limit`, which is excluded. -/
def Json.IsBelow (limit : Nat) (j : Json) : Prop := ∃ n : Int, j = .int n ∧ 0 ≤ n ∧ n < limit

/-- A string, or `null` for none. -/
def Json.IsName (j : Json) : Prop := j = .null ∨ ∃ s, j = .string s

namespace Config

/-- The JSON has the form of a configuration. Entries of other names may have any values. -/
inductive InForm : Json → Prop
  | object {entries : List (String × Json)}
      (threshold : ∃ j, Json.valuesOf "threshold" entries = [j] ∧ j.IsBelow UInt32.size)
      (cooldown : ∃ j, Json.valuesOf "cooldown_ms" entries = [j] ∧ j.IsBelow UInt64.size)
      (name : Json.valuesOf "name" entries = [] ∨ ∃ j, Json.valuesOf "name" entries = [j] ∧ j.IsName) :
      InForm (.object entries)
  | array {name threshold cooldown : Json} (hname : name.IsName) (hthreshold : threshold.IsBelow UInt32.size)
      (hcooldown : cooldown.IsBelow UInt64.size) : InForm (.array [name, threshold, cooldown])

/-- The JSON gives the values of this configuration. A name that is not given is absent. -/
inductive Gives : Json → Config → Prop
  | object {entries : List (String × Json)} {config : Config}
      (threshold : Json.valuesOf "threshold" entries = [.nat config.threshold.toNat])
      (cooldown : Json.valuesOf "cooldown_ms" entries = [.nat config.cooldownMillis.toNat])
      (name : Json.valuesOf "name" entries = [] ∧ config.name = none ∨
        Json.valuesOf "name" entries = [.optional .string config.name]) :
      Gives (.object entries) config
  | array (config : Config) :
      Gives (.array [.optional .string config.name, .nat config.threshold.toNat,
        .nat config.cooldownMillis.toNat]) config

theorem isBelow_iff {α : Type} {limit : Nat} {ofNat : Nat → α} {toNat : α → Nat} (hlt : ∀ a, toNat a < limit)
    (hto : ∀ n < limit, toNat (ofNat n) = n) {j : Json} : j.IsBelow limit ↔ ∃ a, j = .nat (toNat a) := by
  constructor
  · rintro ⟨n, rfl, hlow, hhigh⟩
    refine ⟨ofNat n.toNat, ?_⟩
    rw [hto n.toNat (by omega), Json.nat, Int.toNat_of_nonneg hlow]
  · rintro ⟨a, rfl⟩
    exact ⟨toNat a, rfl, Int.natCast_nonneg _, Int.ofNat_lt.2 (hlt a)⟩

theorem isBelow32_iff {j : Json} : j.IsBelow UInt32.size ↔ ∃ n : UInt32, j = .nat n.toNat :=
  isBelow_iff UInt32.toNat_lt fun _ h => UInt32.toNat_ofNat_of_lt' h

theorem isBelow64_iff {j : Json} : j.IsBelow UInt64.size ↔ ∃ n : UInt64, j = .nat n.toNat :=
  isBelow_iff UInt64.toNat_lt fun _ h => UInt64.toNat_ofNat_of_lt' h

theorem isName_iff {j : Json} : j.IsName ↔ ∃ name : Option String, j = .optional .string name := by
  constructor
  · rintro (rfl | ⟨s, rfl⟩)
    · exact ⟨none, rfl⟩
    · exact ⟨some s, rfl⟩
  · rintro ⟨_ | s, rfl⟩
    · exact Or.inl rfl
    · exact Or.inr ⟨s, rfl⟩

/-- JSON in the form of a configuration gives one, and other JSON gives none. -/
theorem inForm_iff {j : Json} : InForm j ↔ ∃ config, Gives j config := by
  constructor
  · rintro (⟨⟨_, hthreshold, hbelow⟩, ⟨_, hcooldown, hbelow'⟩, hname⟩ | ⟨hname, hbelow, hbelow'⟩)
    · obtain ⟨threshold, rfl⟩ := isBelow32_iff.1 hbelow
      obtain ⟨cooldown, rfl⟩ := isBelow64_iff.1 hbelow'
      rcases hname with hname | ⟨_, hname, hisName⟩
      · exact ⟨⟨none, threshold, cooldown⟩, .object hthreshold hcooldown (Or.inl ⟨hname, rfl⟩)⟩
      · obtain ⟨name, rfl⟩ := isName_iff.1 hisName
        exact ⟨⟨name, threshold, cooldown⟩, .object hthreshold hcooldown (Or.inr hname)⟩
    · obtain ⟨name, rfl⟩ := isName_iff.1 hname
      obtain ⟨threshold, rfl⟩ := isBelow32_iff.1 hbelow
      obtain ⟨cooldown, rfl⟩ := isBelow64_iff.1 hbelow'
      exact ⟨_, .array ⟨name, threshold, cooldown⟩⟩
  · rintro ⟨config, ⟨hthreshold, hcooldown, hname⟩ | _⟩
    · refine .object ⟨_, hthreshold, isBelow32_iff.2 ⟨_, rfl⟩⟩ ⟨_, hcooldown, isBelow64_iff.2 ⟨_, rfl⟩⟩ ?_
      exact hname.imp And.left fun h => ⟨_, h, isName_iff.2 ⟨_, rfl⟩⟩
    · exact .array (isName_iff.2 ⟨_, rfl⟩) (isBelow32_iff.2 ⟨_, rfl⟩) (isBelow64_iff.2 ⟨_, rfl⟩)

/-! ## Decoding objects -/

/-- The fields of a configuration. -/
def Partial.table : List (Field Partial) := [
  ⟨"name", Draft.decodeOptional Draft.decodeString, Partial.name, fun fields name => { fields with name }⟩,
  ⟨"threshold", Draft.decodeUInt32, Partial.threshold, fun fields threshold => { fields with threshold }⟩,
  ⟨"cooldown_ms", Draft.decodeUInt64, Partial.cooldownMillis,
    fun fields cooldownMillis => { fields with cooldownMillis }⟩]

theorem Partial.take_eq : Partial.take = Field.takeAmong Partial.table := rfl

theorem Partial.lawful : Field.Lawful Partial.table where
  nodup := by decide
  slot_put := by simp [table]
  slot_put_of_ne := by simp [table]
  ext := by
    rintro ⟨⟩ ⟨⟩ h
    simpa [table] using h

theorem Partial.finish_eq_ok_iff {fields : Partial} {config : Config} : fields.finish = .ok config ↔
    fields.name.getD none = config.name ∧ fields.threshold = some config.threshold ∧
      fields.cooldownMillis = some config.cooldownMillis := by
  obtain ⟨name, threshold, cooldownMillis⟩ := fields
  obtain ⟨name', threshold', cooldownMillis'⟩ := config
  unfold finish
  cases threshold <;> cases cooldownMillis <;> simp [Draft.required, bind, Except.bind, pure, Except.pure]

theorem exact_name : Draft.Exact (Draft.decodeOptional Draft.decodeString) (.optional .string) :=
  Draft.exact_string.optional nofun

/-- An object decodes to the configuration whose values it gives. -/
theorem decode_object_eq_ok_iff (origin : Origin) (entries : List (String × Json)) (config : Config) :
    decode origin (Json.object entries).draft = .ok config ↔ Gives (.object entries) config := by
  have hgives : decode origin (Json.object entries).draft = .ok config ↔
      Json.GivesAtMostOne (Draft.decodeOptional Draft.decodeString) (Json.valuesOf "name" entries) config.name ∧
      Json.GivesOne Draft.decodeUInt32 (Json.valuesOf "threshold" entries) config.threshold ∧
      Json.GivesOne Draft.decodeUInt64 (Json.valuesOf "cooldown_ms" entries) config.cooldownMillis := by
    refine (Json.foldEntries_bind_eq_ok_iff Partial.lawful .empty Partial.finish entries config).trans ?_
    simp only [Partial.table, Partial.empty, List.forall_mem_cons, Partial.finish_eq_ok_iff, ← Json.fills_draft_iff,
      ← Json.fills_draft_getD_iff]
    constructor
    · rintro ⟨⟨name, threshold, cooldown⟩, ⟨hname, hthreshold, hcooldown, -⟩, hgiven, rfl, rfl⟩
      exact ⟨⟨name, hname, hgiven⟩, hthreshold, hcooldown⟩
    · rintro ⟨⟨name, hname, hgiven⟩, hthreshold, hcooldown⟩
      exact ⟨⟨name, some _, some _⟩, ⟨hname, hthreshold, hcooldown, nofun⟩, hgiven, rfl, rfl⟩
  rw [hgives, Json.givesOne_iff Draft.exact_uint32, Json.givesOne_iff Draft.exact_uint64]
  unfold Json.GivesAtMostOne
  rw [Json.givesOne_iff exact_name]
  constructor
  · rintro ⟨hname, hthreshold, hcooldown⟩
    exact .object hthreshold hcooldown hname
  · rintro ⟨hthreshold, hcooldown, hname⟩
    exact ⟨hname, hthreshold, hcooldown⟩

/-! ## Decoding arrays -/

theorem ofItems_eq_ok_iff {items : List Json} {config : Config} : ofItems (items.map Json.draft) = .ok config ↔
    items[0]? = some (.optional .string config.name) ∧ items[1]? = some (.nat config.threshold.toNat) ∧
      items[2]? = some (.nat config.cooldownMillis.toNat) := by
  cases items with
  -- without a name there is no threshold either
  | nil => exact iff_of_false nofun nofun
  | cons name items =>
    have hitems : ofItems ((name :: items).map Json.draft) = (do
        let first ← Draft.decodeItem expected 3 ((name :: items).map Json.draft) 0
          (Draft.decodeOptional Draft.decodeString)
        let threshold ← Draft.decodeItem expected 3 ((name :: items).map Json.draft) 1 Draft.decodeUInt32
        let cooldownMillis ← Draft.decodeItem expected 3 ((name :: items).map Json.draft) 2 Draft.decodeUInt64
        return ⟨first, threshold, cooldownMillis⟩) := rfl
    rw [hitems]
    simp only [Draft.bind_eq_ok_iff, Json.decodeItem_draft_iff, Json.givesOne_iff exact_name,
      Json.givesOne_iff Draft.exact_uint32, Json.givesOne_iff Draft.exact_uint64, Option.toList_eq_singleton_iff]
    constructor
    · rintro ⟨_, hname, _, hthreshold, _, hcooldown, ⟨⟩⟩
      exact ⟨hname, hthreshold, hcooldown⟩
    · rintro ⟨hname, hthreshold, hcooldown⟩
      exact ⟨_, hname, _, hthreshold, _, hcooldown, rfl⟩

/-- An array decodes to the configuration whose values it gives. -/
theorem decode_array_eq_ok_iff (origin : Origin) (items : List Json) (config : Config) :
    decode origin (Json.array items).draft = .ok config ↔ Gives (.array items) config := by
  have hdecode : decode origin (Json.array items).draft = .ok config ↔
      ofItems (items.map Json.draft) = .ok config ∧ items.length ≤ 3 := by
    rw [← Json.draftItems_eq_map, ← Json.length_draftItems items]
    exact Draft.bind_noneLeft_eq_ok_iff
  rw [hdecode, ofItems_eq_ok_iff]
  constructor
  · rintro ⟨⟨hname, hthreshold, hcooldown⟩, hleft⟩
    match items with
    | [] | [_] | [_, _] => cases hcooldown
    | [_, _, _] =>
      cases hname
      cases hthreshold
      cases hcooldown
      exact .array config
    | _ :: _ :: _ :: _ :: _ =>
      simp only [List.length_cons] at hleft
      omega
  · rintro ⟨⟩
    exact ⟨⟨rfl, rfl, rfl⟩, Nat.le_refl 3⟩

/-- JSON decodes to the configuration whose values it gives. -/
theorem decode_eq_ok_iff (origin : Origin) (j : Json) (config : Config) :
    decode origin j.draft = .ok config ↔ Gives j config := by
  cases j with
  | object entries => exact decode_object_eq_ok_iff origin entries config
  | array items => exact decode_array_eq_ok_iff origin items config
  | null | bool | number | string => exact iff_of_false nofun nofun

/-! ## Encoding -/

/-- The order of the entries does not matter. -/
theorem Gives.perm {entries entries' : List (String × Json)} {config : Config} (h : Gives (.object entries) config)
    (hp : entries.Perm entries') : Gives (.object entries') config := by
  have hone : ∀ {key : String} {j : Json}, Json.valuesOf key entries = [j] → Json.valuesOf key entries' = [j] :=
    fun hkey => List.perm_singleton.1 (hkey ▸ (Json.valuesOf_perm hp _).symm)
  have hnone : ∀ {key : String}, Json.valuesOf key entries = [] → Json.valuesOf key entries' = [] :=
    fun hkey => List.perm_nil.1 (hkey ▸ (Json.valuesOf_perm hp _).symm)
  obtain ⟨hthreshold, hcooldown, hname⟩ := h
  exact .object (hone hthreshold) (hone hcooldown) (hname.imp (And.imp_left hnone) hone)

theorem gives_encode (config : Config) : Gives config.encode config := .object rfl rfl (Or.inr rfl)

theorem fits_encode (config : Config) : config.encode.Fits :=
  ⟨Json.fits_optional .string (fun _ => trivial) config.name, Json.fits_uint32 config.threshold,
    Json.fits_uint64 config.cooldownMillis, trivial⟩

/-- The JSON of a configuration is that configuration, whatever its values. -/
theorem survives (config : Config) : Survives decode encode config := by
  have hkeys : ["name", "threshold", "cooldown_ms"].Nodup := by decide
  have hname := Json.sorted_optional .string (fun _ => rfl) config.name
  refine survives_of_perm rfl hkeys ?_ config.fits_encode fun origin entries' hp => ?_
  · simp [hname, Json.sorted_nat]
  · exact (decode_eq_ok_iff origin _ config).2 (config.gives_encode.perm hp)

/-! ## The format -/

/-- What decoding makes of JSON: a configuration exactly if the JSON has the form of one, and then the
configuration whose values it gives. -/
structure Decodes (j : Json) (result : Except Mismatch Config) : Prop where
  accepted : (∃ config, result = .ok config) ↔ InForm j
  gives : ∀ config, result = .ok config ↔ Gives j config

theorem decodes (origin : Origin) (j : Json) : Decodes j (decode origin j.draft) where
  accepted := by simp only [decode_eq_ok_iff, inForm_iff]
  gives := decode_eq_ok_iff origin j

/-- Decoding accepts exactly the form of a configuration, be the JSON a value or a text: an object that gives the
threshold and the cooldown once and the name at most once, whatever else it holds, or an array of the three. The
configuration has the values that are given, for any order of the entries. And the JSON of a configuration, in
the range of a circuit breaker or not, decodes to that configuration. -/
theorem decoding_accepts_its_format :
    (∀ origin j, Decodes j (decode origin j.draft)) ∧
    (∀ text j, Json.parse? text = some j → Decodes j (Draft.decodeText decode text)) ∧
    (∀ origin (entries entries' : List (String × Json)), entries.Perm entries' → ∀ config,
      decode origin (Json.object entries).draft = .ok config ↔
        decode origin (Json.object entries').draft = .ok config) ∧
    ∀ config, Survives decode encode config := by
  refine ⟨decodes, fun text j htext => ?_, fun origin entries entries' hp config => ?_, survives⟩
  · rw [Json.decodeText_of_parse? htext]
    exact decodes .text j
  · rw [decode_eq_ok_iff, decode_eq_ok_iff]
    exact ⟨fun h => h.perm hp, fun h => h.perm hp.symm⟩

/-- An object in an order of its own, with an entry that is passed over and without a name, is a configuration
also as a text, even one out of range; with the threshold given twice it is none. -/
theorem decoding_accepts_its_format_lenient :
    let entries : List (String × Json) :=
      [("cooldown_ms", .nat 18446744073709551615), ("note", .object [("threshold", .nat 7)]), ("threshold", .nat 0)]
    (∃ text, Json.parse? text = some (.object entries) ∧
      Draft.decodeText decode text = .ok ⟨none, 0, 18446744073709551615⟩) ∧
    entries.Perm entries.reverse ∧
    decode .value (Json.object entries.reverse).draft = .ok ⟨none, 0, 18446744073709551615⟩ ∧
    ¬ ∃ config, decode .text (Json.object (("threshold", .nat 0) :: entries)).draft = .ok config := by
  intro entries
  obtain ⟨hvalue, htext, hperm, -⟩ := decoding_accepts_its_format
  have hfits : (Json.object entries).Fits :=
    ⟨Json.fits_nat (by decide), ⟨Json.fits_nat (by decide), trivial⟩, Json.fits_nat (by decide), trivial⟩
  have hparse := Json.parse?_text hfits
  have hgives : Gives (.object entries) ⟨none, 0, 18446744073709551615⟩ := .object rfl rfl (Or.inl ⟨rfl, rfl⟩)
  have hreverse : entries.Perm entries.reverse := (List.reverse_perm entries).symm
  refine ⟨⟨_, hparse, ((htext _ _ hparse).gives _).2 hgives⟩, hreverse, ?_, ?_⟩
  · exact (hperm .value _ _ hreverse _).1 (((hvalue .value _).gives _).2 hgives)
  · rw [(hvalue .text _).accepted]
    rintro ⟨⟨_, ⟨⟩, -⟩, -, -⟩

end Config

end CircuitBreaker
