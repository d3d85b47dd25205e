/-
Encoding and decoding belong together. What has been encoded decodes to itself, and numbers, truth values,
strings, and those of them that may be absent decode from nothing else.
-/
import CircuitBreaker.Kind.Codec
import CircuitBreaker.Proofs.WrittenTimes

namespace CircuitBreaker

/-- A draft leaves no two values alike. -/
theorem Json.draft_injective {j j' : Json} (h : j.draft = j'.draft) : j = j' := by
  have hsame := congrArg Draft.json? h
  rwa [json?_draft, json?_draft, Option.some.injEq] at hsame

namespace Draft

variable {α β : Type}

theorem bind_eq_ok_iff {first : Except Mismatch α} {next : α → Except Mismatch β} {b : β} :
    (first >>= next) = .ok b ↔ ∃ a, first = .ok a ∧ next a = .ok b := by
  cases first with
  | error mismatch => simp [bind, Except.bind]
  | ok a => simp [bind, Except.bind]

/-- What has been encoded decodes to itself. -/
def Inverts (decode : Decoder α) (encode : α → Json) : Prop := ∀ a, decode (encode a).draft = .ok a

/-- What has been encoded decodes to itself, and nothing else decodes. -/
def Exact (decode : Decoder α) (encode : α → Json) : Prop := ∀ d a, decode d = .ok a ↔ d = (encode a).draft

variable {decode : Decoder α} {encode : α → Json}

theorem Exact.inverts (h : Exact decode encode) : Inverts decode encode := fun a => (h _ a).2 rfl

/-! ## Scalars -/

theorem decodeBelow_eq_ok_iff {limit n : Nat} {expected : String} {d : Draft} :
    decodeBelow limit expected d = .ok n ↔ d = .number (.integer n) ∧ n < limit := by
  unfold decodeBelow
  split
  · rename_i m
    simp only [Draft.number.injEq, Json.Number.integer.injEq]
    split_ifs with h
    · rw [Except.ok.injEq]
      omega
    · constructor
      · rintro ⟨⟩
      · rintro ⟨rfl, hlt⟩
        exact absurd ⟨Int.natCast_nonneg n, Int.ofNat_lt.2 hlt⟩ h
  · rename_i hd
    constructor
    · rintro ⟨⟩
    · rintro ⟨rfl, -⟩
      exact (hd n rfl).elim

/-- Words of a fixed width decode from the numbers that fit into them. -/
theorem exact_word {limit : Nat} {ofNat : Nat → α} {toNat : α → Nat} (expected : String)
    (hlt : ∀ a, toNat a < limit) (hto : ∀ n < limit, toNat (ofNat n) = n) (hof : ∀ a, ofNat (toNat a) = a) :
    Exact (fun d => do return ofNat (← decodeBelow limit expected d)) fun a => .nat (toNat a) := by
  intro d a
  rw [bind_eq_ok_iff]
  constructor
  · rintro ⟨n, hn, ⟨⟩⟩
    obtain ⟨rfl, hfits⟩ := decodeBelow_eq_ok_iff.1 hn
    exact congrArg (fun n : Nat => Draft.number (.integer n)) (hto n hfits).symm
  · rintro rfl
    exact ⟨toNat a, decodeBelow_eq_ok_iff.2 ⟨rfl, hlt a⟩, congrArg Except.ok (hof a)⟩

theorem exact_uint32 : Exact decodeUInt32 fun n => .nat n.toNat :=
  exact_word "u32" UInt32.toNat_lt (fun _ h => UInt32.toNat_ofNat_of_lt' h) fun _ => UInt32.ofNat_toNat

theorem exact_uint64 : Exact decodeUInt64 fun n => .nat n.toNat :=
  exact_word "u64" UInt64.toNat_lt (fun _ h => UInt64.toNat_ofNat_of_lt' h) fun _ => UInt64.ofNat_toNat

theorem exact_bool : Exact decodeBool .bool := by
  intro d b
  cases d <;> simp [decodeBool, Json.draft]

theorem exact_string : Exact decodeString .string := by
  intro d s
  cases d <;> simp [decodeString, Json.draft]

theorem inverts_timestamp : Inverts decodeTimestamp fun t => .string t.text := by
  intro t
  unfold decodeTimestamp
  simp [Json.draft, Timestamp.parse_text]

/-! ## Optional values and variants -/

theorem decodeOptional_of_ne_null {d : Draft} (h : d ≠ .null) :
    decodeOptional decode d = (decode d).map some := by
  unfold decodeOptional
  split
  · exact absurd rfl h
  · rfl

/-- A value that may be absent is `null` if it is. -/
theorem Inverts.optional (h : Inverts decode encode) (hn : ∀ a, (encode a).draft ≠ .null) :
    Inverts (decodeOptional decode) (.optional encode) := by
  intro value
  cases value with
  | none => rfl
  | some a =>
    show decodeOptional decode (encode a).draft = _
    rw [decodeOptional_of_ne_null (hn a), h a]
    rfl

theorem Exact.optional (h : Exact decode encode) (hn : ∀ a, (encode a).draft ≠ .null) :
    Exact (decodeOptional decode) (.optional encode) := by
  intro d value
  constructor
  · intro hd
    by_cases hnull : d = .null
    · subst hnull
      cases hd
      rfl
    · rw [decodeOptional_of_ne_null hnull] at hd
      cases ha : decode d with
      | error mismatch =>
        rw [ha] at hd
        cases hd
      | ok a =>
        rw [ha] at hd
        cases hd
        exact (h d a).1 ha
  · rintro rfl
    exact h.inverts.optional hn value

end Draft

theorem Kind.inverts_decode (origin : Origin) : Draft.Inverts (decode origin) encode := by
  intro kind
  cases kind <;> rfl

end CircuitBreaker
