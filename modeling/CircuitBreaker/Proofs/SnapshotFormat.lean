/-
Snapshots survive as JSON. A snapshot decodes from its JSON, as a value or as a text, and there is one text for
it: whatever JSON it has been decoded from, with times in other offsets, with the fields in any order, among others
or as an array, what is written for it is read as the same snapshot, for which the same is written.
-/
import CircuitBreaker.Proofs.Records
import CircuitBreaker.Snapshot.Codec

namespace CircuitBreaker.Snapshot

/-! ## Decoding objects -/

/-- The names of the fields of a snapshot, in the order in which they are written. -/
def keys : List String := [
  "name", "state", "failure_count", "threshold", "cooldown_ms", "opened_at", "cooldown_remaining_ms",
  "has_last_failure", "captured_at"]

theorem nodup_keys : keys.Nodup := by decide

/-- The fields of a snapshot. -/
def Partial.table (origin : Origin) : List (Field Partial) := [
  ⟨"name", Draft.decodeOptional Draft.decodeString, Partial.name, fun fields name => { fields with name }⟩,
  ⟨"state", Kind.decode origin, Partial.kind, fun fields kind => { fields with kind }⟩,
  ⟨"failure_count", Draft.decodeUInt32, Partial.failures, fun fields failures => { fields with failures }⟩,
  ⟨"threshold", Draft.decodeUInt32, Partial.threshold, fun fields threshold => { fields with threshold }⟩,
  ⟨"cooldown_ms", Draft.decodeUInt64, Partial.cooldownMillis,
    fun fields cooldownMillis => { fields with cooldownMillis }⟩,
  ⟨"opened_at", Draft.decodeOptional Draft.decodeTimestamp, Partial.openedAt,
    fun fields openedAt => { fields with openedAt }⟩,
  ⟨"cooldown_remaining_ms", Draft.decodeOptional Draft.decodeUInt64, Partial.remainingMillis,
    fun fields remainingMillis => { fields with remainingMillis }⟩,
  ⟨"has_last_failure", Draft.decodeBool, Partial.hasLastFailure,
    fun fields hasLastFailure => { fields with hasLastFailure }⟩,
  ⟨"captured_at", Draft.decodeTimestamp, Partial.capturedAt, fun fields capturedAt => { fields with capturedAt }⟩]

theorem Partial.take_eq (origin : Origin) : Partial.take origin = Field.takeAmong (Partial.table origin) := by
  funext fields key value
  unfold take
  simp only [table, Field.takeAmong]
  -- both ask for the same names in the same order
  split_ifs <;> subst_vars <;> rfl

theorem Partial.lawful (origin : Origin) : Field.Lawful (Partial.table origin) where
  nodup := nodup_keys
  slot_put := by simp [table]
  slot_put_of_ne := by simp [table]
  ext := by
    rintro ⟨⟩ ⟨⟩ h
    simpa [table] using h

theorem Partial.finish_eq_ok_iff {fields : Partial} {snapshot : Snapshot} : fields.finish = .ok snapshot ↔
    fields.name.getD none = snapshot.name ∧ fields.kind = some snapshot.kind ∧
      fields.failures = some snapshot.failures ∧ fields.threshold = some snapshot.threshold ∧
      fields.cooldownMillis = some snapshot.cooldownMillis ∧ fields.openedAt.getD none = snapshot.openedAt ∧
      fields.remainingMillis.getD none = snapshot.remainingMillis ∧
      fields.hasLastFailure = some snapshot.hasLastFailure ∧ fields.capturedAt = some snapshot.capturedAt := by
  unfold finish
  simp only [Draft.bind_eq_ok_iff, Draft.required_eq_ok_iff]
  constructor
  · rintro ⟨_, hkind, _, hfailures, _, hthreshold, _, hcooldown, _, hlast, _, hcaptured, ⟨⟩⟩
    exact ⟨rfl, hkind, hfailures, hthreshold, hcooldown, rfl, rfl, hlast, hcaptured⟩
  · rintro ⟨hname, hkind, hfailures, hthreshold, hcooldown, hopened, hremaining, hlast, hcaptured⟩
    refine ⟨_, hkind, _, hfailures, _, hthreshold, _, hcooldown, _, hlast, _, hcaptured, ?_⟩
    rw [hname, hopened, hremaining]
    rfl

/-- The JSON gives the values of this snapshot. In an object they may stand in any order and among other entries,
and what is not given for a field that may be left out is absent. An array gives all of them in order. -/
inductive Gives (origin : Origin) : Json → Snapshot → Prop
  | object {entries : List (String × Json)} {snapshot : Snapshot}
      (name : Json.GivesAtMostOne (Draft.decodeOptional Draft.decodeString)
        (Json.valuesOf "name" entries) snapshot.name)
      (kind : Json.GivesOne (Kind.decode origin) (Json.valuesOf "state" entries) snapshot.kind)
      (failures : Json.GivesOne Draft.decodeUInt32 (Json.valuesOf "failure_count" entries) snapshot.failures)
      (threshold : Json.GivesOne Draft.decodeUInt32 (Json.valuesOf "threshold" entries) snapshot.threshold)
      (cooldown : Json.GivesOne Draft.decodeUInt64 (Json.valuesOf "cooldown_ms" entries) snapshot.cooldownMillis)
      (openedAt : Json.GivesAtMostOne (Draft.decodeOptional Draft.decodeTimestamp)
        (Json.valuesOf "opened_at" entries) snapshot.openedAt)
      (remaining : Json.GivesAtMostOne (Draft.decodeOptional Draft.decodeUInt64)
        (Json.valuesOf "cooldown_remaining_ms" entries) snapshot.remainingMillis)
      (hasLastFailure : Json.GivesOne Draft.decodeBool (Json.valuesOf "has_last_failure" entries)
        snapshot.hasLastFailure)
      (capturedAt : Json.GivesOne Draft.decodeTimestamp (Json.valuesOf "captured_at" entries) snapshot.capturedAt) :
      Gives origin (.object entries) snapshot
  | array {items : List Json} {snapshot : Snapshot} (length : items.length = keys.length)
      (named : Gives origin (.object (keys.zip items)) snapshot) : Gives origin (.array items) snapshot

/-- An object decodes to the snapshot whose values it gives. -/
theorem decode_object_eq_ok_iff (origin : Origin) (entries : List (String × Json)) (snapshot : Snapshot) :
    decode origin (Json.object entries).draft = .ok snapshot ↔ Gives origin (.object entries) snapshot := by
  have hdecode : decode origin (Json.object entries).draft =
      (Draft.foldEntries (Field.takeAmong (Partial.table origin)) .empty (Json.draftEntries entries) >>=
        Partial.finish) := by
    rw [← Partial.take_eq]
    rfl
  rw [hdecode, Json.foldEntries_bind_eq_ok_iff (Partial.lawful origin)]
  simp only [Partial.table, Partial.empty, List.forall_mem_cons, Partial.finish_eq_ok_iff]
  constructor
  · rintro ⟨⟨name, kind, failures, threshold, cooldown, opened, remaining, last, captured⟩,
      ⟨hname, hkind, hfailures, hthreshold, hcooldown, hopened, hremaining, hlast, hcaptured, -⟩,
      hname', rfl, rfl, rfl, rfl, hopened', hremaining', rfl, rfl⟩
    exact .object (Json.fills_draft_getD_iff.1 ⟨name, hname, hname'⟩) (Json.fills_draft_iff.1 hkind)
      (Json.fills_draft_iff.1 hfailures) (Json.fills_draft_iff.1 hthreshold) (Json.fills_draft_iff.1 hcooldown)
      (Json.fills_draft_getD_iff.1 ⟨opened, hopened, hopened'⟩)
      (Json.fills_draft_getD_iff.1 ⟨remaining, hremaining, hremaining'⟩) (Json.fills_draft_iff.1 hlast)
      (Json.fills_draft_iff.1 hcaptured)
  · rintro ⟨hname, hkind, hfailures, hthreshold, hcooldown, hopened, hremaining, hlast, hcaptured⟩
    obtain ⟨name, hname, hname'⟩ := Json.fills_draft_getD_iff.2 hname
    obtain ⟨opened, hopened, hopened'⟩ := Json.fills_draft_getD_iff.2 hopened
    obtain ⟨remaining, hremaining, hremaining'⟩ := Json.fills_draft_getD_iff.2 hremaining
    refine ⟨⟨name, some _, some _, some _, some _, opened, remaining, some _, some _⟩,
      ⟨hname, Json.fills_draft_iff.2 hkind, Json.fills_draft_iff.2 hfailures, Json.fills_draft_iff.2 hthreshold,
        Json.fills_draft_iff.2 hcooldown, hopened, hremaining, Json.fills_draft_iff.2 hlast,
        Json.fills_draft_iff.2 hcaptured, nofun⟩, hname', rfl, rfl, rfl, rfl, hopened', hremaining', rfl, rfl⟩

/-! ## Decoding arrays -/

theorem ofItems_eq_ok_iff {origin : Origin} {items : List Json} {snapshot : Snapshot} :
    ofItems origin (items.map Json.draft) = .ok snapshot ↔
      Json.GivesOne (Draft.decodeOptional Draft.decodeString) items[0]?.toList snapshot.name ∧
      Json.GivesOne (Kind.decode origin) items[1]?.toList snapshot.kind ∧
      Json.GivesOne Draft.decodeUInt32 items[2]?.toList snapshot.failures ∧
      Json.GivesOne Draft.decodeUInt32 items[3]?.toList snapshot.threshold ∧
      Json.GivesOne Draft.decodeUInt64 items[4]?.toList snapshot.cooldownMillis ∧
      Json.GivesOne (Draft.decodeOptional Draft.decodeTimestamp) items[5]?.toList snapshot.openedAt ∧
      Json.GivesOne (Draft.decodeOptional Draft.decodeUInt64) items[6]?.toList snapshot.remainingMillis ∧
      Json.GivesOne Draft.decodeBool items[7]?.toList snapshot.hasLastFailure ∧
      Json.GivesOne Draft.decodeTimestamp items[8]?.toList snapshot.capturedAt := by
  unfold ofItems
  simp only [Draft.bind_eq_ok_iff, Json.decodeItem_draft_iff]
  constructor
  · rintro ⟨_, hname, _, hkind, _, hfailures, _, hthreshold, _, hcooldown, _, hopened, _, hremaining, _, hlast,
      _, hcaptured, ⟨⟩⟩
    exact ⟨hname, hkind, hfailures, hthreshold, hcooldown, hopened, hremaining, hlast, hcaptured⟩
  · rintro ⟨hname, hkind, hfailures, hthreshold, hcooldown, hopened, hremaining, hlast, hcaptured⟩
    exact ⟨_, hname, _, hkind, _, hfailures, _, hthreshold, _, hcooldown, _, hopened, _, hremaining, _, hlast,
      _, hcaptured, rfl⟩

/-- An array decodes to the snapshot whose values it gives. -/
theorem decode_array_eq_ok_iff (origin : Origin) (items : List Json) (snapshot : Snapshot) :
    decode origin (Json.array items).draft = .ok snapshot ↔ Gives origin (.array items) snapshot := by
  have hdecode : decode origin (Json.array items).draft = .ok snapshot ↔
      ofItems origin (items.map Json.draft) = .ok snapshot ∧ items.length ≤ 9 := by
    rw [← Json.draftItems_eq_map, ← Json.length_draftItems items]
    exact Draft.bind_noneLeft_eq_ok_iff
  rw [hdecode, ofItems_eq_ok_iff]
  constructor
  · rintro ⟨⟨hname, hkind, hfailures, hthreshold, hcooldown, hopened, hremaining, hlast, hcaptured⟩, hleft⟩
    -- the last field is given by the item with index 8, and no item is left behind it
    have hlength : items.length = 9 := by
      obtain ⟨captured, hitem, -⟩ := hcaptured
      obtain ⟨hlong, -⟩ := List.getElem?_eq_some_iff.1 (Option.toList_eq_singleton_iff.1 hitem)
      omega
    match items, hlength with
    | [_, _, _, _, _, _, _, _, _], hlength =>
      exact .array hlength (.object (Or.inr hname) hkind hfailures hthreshold hcooldown (Or.inr hopened)
        (Or.inr hremaining) hlast hcaptured)
  · rintro (_ | ⟨hlength, hnamed⟩)
    match items, hlength with
    | [_, _, _, _, _, _, _, _, _], hlength =>
      obtain ⟨hname, hkind, hfailures, hthreshold, hcooldown, hopened, hremaining, hlast, hcaptured⟩ := hnamed
      refine ⟨⟨?_, hkind, hfailures, hthreshold, hcooldown, ?_, ?_, hlast, hcaptured⟩, Nat.le_of_eq hlength⟩
      · exact hname.resolve_left nofun
      · exact hopened.resolve_left nofun
      · exact hremaining.resolve_left nofun

/-- JSON decodes to the snapshot whose values it gives. -/
theorem decode_eq_ok_iff (origin : Origin) (j : Json) (snapshot : Snapshot) :
    decode origin j.draft = .ok snapshot ↔ Gives origin j snapshot := by
  cases j with
  | object entries => exact decode_object_eq_ok_iff origin entries snapshot
  | array items => exact decode_array_eq_ok_iff origin items snapshot
  | null | bool | number | string => exact iff_of_false nofun nofun

/-! ## Encoding -/

/-- The order of the entries does not matter. -/
theorem Gives.perm {origin : Origin} {entries entries' : List (String × Json)} {snapshot : Snapshot}
    (h : Gives origin (.object entries) snapshot) (hp : entries.Perm entries') :
    Gives origin (.object entries') snapshot := by
  have hvalues := Json.valuesOf_perm hp
  obtain ⟨hname, hkind, hfailures, hthreshold, hcooldown, hopened, hremaining, hlast, hcaptured⟩ := h
  exact .object (hname.perm (hvalues _)) (hkind.perm (hvalues _)) (hfailures.perm (hvalues _))
    (hthreshold.perm (hvalues _)) (hcooldown.perm (hvalues _)) (hopened.perm (hvalues _))
    (hremaining.perm (hvalues _)) (hlast.perm (hvalues _)) (hcaptured.perm (hvalues _))

theorem gives_encode (origin : Origin) (snapshot : Snapshot) : Gives origin snapshot.encode snapshot := by
  refine .object (Or.inr (Json.givesOne_of_mem nodup_keys (Draft.exact_string.inverts.optional nofun) ?_))
    (Json.givesOne_of_mem nodup_keys (Kind.inverts_decode origin) ?_)
    (Json.givesOne_of_mem nodup_keys Draft.exact_uint32.inverts ?_)
    (Json.givesOne_of_mem nodup_keys Draft.exact_uint32.inverts ?_)
    (Json.givesOne_of_mem nodup_keys Draft.exact_uint64.inverts ?_)
    (Or.inr (Json.givesOne_of_mem nodup_keys (Draft.inverts_timestamp.optional (by simp [Json.draft])) ?_))
    (Or.inr (Json.givesOne_of_mem nodup_keys (Draft.exact_uint64.inverts.optional nofun) ?_))
    (Json.givesOne_of_mem nodup_keys Draft.exact_bool.inverts ?_)
    (Json.givesOne_of_mem nodup_keys Draft.inverts_timestamp ?_)
  all_goals simp

theorem fits_encode (snapshot : Snapshot) : snapshot.encode.Fits := by
  have hname := Json.fits_optional .string (fun _ => trivial) snapshot.name
  have hopened := Json.fits_optional (fun t : Timestamp => .string t.text) (fun _ => trivial) snapshot.openedAt
  have hremaining := Json.fits_optional (fun n : UInt64 => .nat n.toNat) Json.fits_uint64 snapshot.remainingMillis
  exact ⟨hname, trivial, Json.fits_uint32 snapshot.failures, Json.fits_uint32 snapshot.threshold,
    Json.fits_uint64 snapshot.cooldownMillis, hopened, hremaining, trivial, trivial, trivial⟩

/-- The JSON of a snapshot is that snapshot. -/
theorem survives (snapshot : Snapshot) : Survives decode encode snapshot := by
  have hname := Json.sorted_optional .string (fun _ => rfl) snapshot.name
  have hopened := Json.sorted_optional (fun t : Timestamp => .string t.text) (fun _ => rfl) snapshot.openedAt
  have hremaining := Json.sorted_optional (fun n : UInt64 => .nat n.toNat) (fun _ => rfl) snapshot.remainingMillis
  refine survives_of_perm rfl nodup_keys ?_ snapshot.fits_encode fun origin entries' hp => ?_
  · simp [hname, hopened, hremaining, Kind.encode, Json.sorted_nat, Json.sorted]
  · exact (decode_eq_ok_iff origin _ snapshot).2 ((snapshot.gives_encode origin).perm hp)

/-! ## There and back again -/

/-- If a snapshot has been read, what is written for it is read as the same snapshot, for which the same is
written: as a value from either origin, as a text, and as a value whose objects are sorted. -/
structure Settled (read : Except Mismatch Snapshot) : Prop where
  value : ∀ written, read.map encode = .ok written → ∀ origin,
    decode origin written.draft = read ∧ (decode origin written.draft).map encode = .ok written
  sorted : ∀ written, read.map encode = .ok written →
    Json.decodeSorted decode written = read ∧ (Json.decodeSorted decode written).map encode = .ok written
  text : ∀ written, read.map (fun snapshot => snapshot.encode.text) = .ok written →
    Draft.decodeText decode written = read ∧
      (Draft.decodeText decode written).map (fun snapshot => snapshot.encode.text) = .ok written

theorem settled (read : Except Mismatch Snapshot) : Settled read := by
  cases read with
  | error mismatch => exact ⟨nofun, nofun, nofun⟩
  | ok snapshot =>
    have hsurvives := snapshot.survives
    constructor
    · rintro _ ⟨⟩ origin
      rw [hsurvives.value origin]
      exact ⟨rfl, rfl⟩
    · rintro _ ⟨⟩
      rw [hsurvives.sorted]
      exact ⟨rfl, rfl⟩
    · rintro _ ⟨⟩
      rw [hsurvives.text]
      exact ⟨rfl, rfl⟩

/-- No two snapshots are written alike. -/
theorem text_injective {snapshot snapshot' : Snapshot} (h : snapshot.encode.text = snapshot'.encode.text) :
    snapshot = snapshot' := by
  have hread := snapshot.survives.text
  rw [h, snapshot'.survives.text] at hread
  exact (Except.ok.inj hread).symm

/-- As JSON snapshots lose nothing, and they have one text each. Every snapshot decodes from its JSON, as a value and
as a text. JSON decodes to the snapshot whose values it gives: an object may give them in any order and among
other entries and need not give what may be absent, and an array gives all of them in order. Whatever JSON a
snapshot has been read from, what is written for it is read as the same snapshot, for which the same is written. -/
theorem json_loses_nothing :
    (∀ snapshot, Survives decode encode snapshot) ∧
    (∀ origin (j : Json) snapshot, decode origin j.draft = .ok snapshot ↔ Gives origin j snapshot) ∧
    (∀ origin (entries entries' : List (String × Json)), entries.Perm entries' → ∀ snapshot,
      decode origin (Json.object entries).draft = .ok snapshot ↔
        decode origin (Json.object entries').draft = .ok snapshot) ∧
    (∀ origin (j : Json), Settled (decode origin j.draft)) ∧ (∀ j, Settled (Json.decodeSorted decode j)) ∧
    (∀ text, Settled (Draft.decodeText decode text)) ∧
    ∀ snapshot snapshot' : Snapshot, snapshot.encode.text = snapshot'.encode.text ↔ snapshot = snapshot' := by
  refine ⟨survives, decode_eq_ok_iff, fun origin entries entries' hp snapshot => ?_, fun _ _ => settled _,
    fun _ => settled _, fun _ => settled _, fun _ _ => ⟨text_injective, fun h => h ▸ rfl⟩⟩
  rw [decode_eq_ok_iff, decode_eq_ok_iff]
  exact ⟨fun h => h.perm hp, fun h => h.perm hp.symm⟩

/-- An object in an order of its own, with times in another offset and in a leap second before the year 0, with an
entry that is passed over and without what may be absent, is a snapshot, and what is written for it is read as the
same. -/
theorem json_loses_nothing_lenient :
    let entries : List (String × Json) := [
      ("captured_at", .string "2024-02-29t00:30:59.5+01:00"), ("opened_at", .string "-0001-12-31T23:59:60Z"),
      ("note", .array [.nat 1]), ("state", .object [("open", .null)]), ("threshold", .nat 3),
      ("failure_count", .nat 4), ("cooldown_ms", .nat 100), ("has_last_failure", .bool true)]
    let written := "\x7b\"name\":null,\"state\":\"open\",\"failure_count\":4,\"threshold\":3,\"cooldown_ms\":100," ++
      "\"opened_at\":\"-0001-12-31T23:59:60Z\",\"cooldown_remaining_ms\":null,\"has_last_failure\":true," ++
      "\"captured_at\":\"2024-02-28T23:30:59.500Z\"\x7d"
    ∃ snapshot, decode .value (Json.object entries).draft = .ok snapshot ∧
      decode .value (Json.object entries.reverse).draft = .ok snapshot ∧
      snapshot.encode.text = written ∧ Draft.decodeText decode written = .ok snapshot := by
  intro entries written
  obtain ⟨-, -, hperm, hsettled, -⟩ := json_loses_nothing
  have hwritten : (decode .value (Json.object entries).draft).map (fun snapshot => snapshot.encode.text) =
      .ok written := by
    decide +kernel
  have hread := ((hsettled .value (Json.object entries)).text written hwritten).1
  cases hdecode : decode .value (Json.object entries).draft with
  | error mismatch =>
    rw [hdecode] at hwritten
    cases hwritten
  | ok snapshot =>
    rw [hdecode] at hwritten hread
    have hreverse : entries.Perm entries.reverse := (List.reverse_perm entries).symm
    exact ⟨snapshot, rfl, (hperm .value _ _ hreverse snapshot).1 hdecode, Except.ok.inj hwritten, hread⟩

end CircuitBreaker.Snapshot
