/-
JSON text can be read back. The text of a value whose numbers are integers of 64 bits gives that value, and
nothing is left over.
-/
import CircuitBreaker.Json.Decoder
import CircuitBreaker.Json.Printer
import CircuitBreaker.Json.Reader
import CircuitBreaker.Proofs.Digits

namespace CircuitBreaker

namespace Json

/-- The number is an integer of 64 bits, with or without a sign. -/
def Number.Fits : Number → Prop
  | .integer n => -(Nat.pow 2 63 : Nat) ≤ n ∧ n < UInt64.size
  | .real _ _ => False

mutual

/-- All numbers in the value are integers of 64 bits. -/
def Fits : Json → Prop
  | .number n => n.Fits
  | .array items => itemsFit items
  | .object entries => entriesFit entries
  | .null | .bool _ | .string _ => True

/-- All numbers in the items are integers of 64 bits. -/
def itemsFit : List Json → Prop
  | [] => True
  | item :: items => item.Fits ∧ itemsFit items

/-- All numbers in the entries are integers of 64 bits. -/
def entriesFit : List (String × Json) → Prop
  | [] => True
  | (_, value) :: entries => value.Fits ∧ entriesFit entries

end

theorem fits_nat {n : Nat} (h : n < UInt64.size) : (nat n).Fits :=
  ⟨Int.le_trans (Int.neg_nonpos_of_nonneg (Int.natCast_nonneg _)) (Int.natCast_nonneg n), Int.ofNat_lt.2 h⟩

theorem fits_uint32 (n : UInt32) : (nat n.toNat).Fits :=
  fits_nat (Nat.lt_trans n.toNat_lt_size (by decide))

theorem fits_uint64 (n : UInt64) : (nat n.toNat).Fits := fits_nat n.toNat_lt_size

theorem fits_optional {α : Type} (encode : α → Json) (h : ∀ a, (encode a).Fits) (value : Option α) :
    (optional encode value).Fits := by
  cases value with
  | none => trivial
  | some a => exact h a

theorem printNumber_ofNat (n : Nat) : printNumber (.integer (.ofNat n)) = Text.decimalDigits n :=
  String.toList_ofList

theorem printNumber_negSucc (n : Nat) : printNumber (.integer (.negSucc n)) = '-' :: Text.decimalDigits (n + 1) := by
  simp [printNumber, Text.ofInt, Text.ofNat]

theorem printItems_cons (item next : Json) (items : List Json) :
    printItems (item :: next :: items) = item.print ++ ',' :: printItems (next :: items) := by
  rw [printItems]
  simp

theorem printEntries_cons (key : String) (value : Json) (next : String × Json) (entries : List (String × Json)) :
    printEntries ((key, value) :: next :: entries) =
      printString key ++ ':' :: value.print ++ ',' :: printEntries (next :: entries) := by
  rw [printEntries]
  simp

/-- The text of an integer starts with a digit or a minus sign. -/
theorem printNumber_eq_cons {n : Number} (h : n.Fits) :
    ∃ char chars, printNumber n = char :: chars ∧ (char = '-' ∨ Text.isDigit char = true) := by
  cases n with
  | real negative magnitude => cases h
  | integer n =>
    cases n with
    | ofNat n =>
      obtain ⟨char, chars, hdigits⟩ := List.exists_cons_of_ne_nil (Text.decimalDigits_ne_nil n)
      have hmem : char ∈ Text.decimalDigits n := by simp [hdigits]
      exact ⟨char, chars, (printNumber_ofNat n).trans hdigits, Or.inr (Text.isDigit_of_mem_fixedDigits hmem)⟩
    | negSucc n => exact ⟨'-', _, printNumber_negSucc n, Or.inl rfl⟩

end Json

namespace Draft

/-! ## Strings -/

theorem hexValue?_hexChar : ∀ n < 16, hexValue? (Json.hexChar n) = some n := by decide

/-- The pieces at the start of a text join to characters, up to the closing quote. -/
def Joins (text : List Char) (chars rest : List Char) : Prop :=
  ∃ parts, pieces text = some (parts, rest) ∧ joined? parts = some chars

variable {text chars rest : List Char}

theorem joins_nil : Joins ('"' :: rest) [] rest := ⟨[], by simp [pieces], rfl⟩

theorem Joins.escaped {char stands : Char} (h : Joins text chars rest) (hu : char ≠ 'u')
    (hs : escaped? char = some stands) : Joins ('\\' :: char :: text) (stands :: chars) rest := by
  obtain ⟨parts, hparts, hjoined⟩ := h
  refine ⟨.char stands :: parts, ?_, by simp [joined?, hjoined]⟩
  simp [pieces, hu, hs, hparts]

/-- A control character is written by its number. -/
theorem Joins.control {char : Char} (h : Joins text chars rest) (hc : char.toNat < 0x20) :
    Joins ('\\' :: 'u' :: '0' :: '0' :: Json.hexChar (char.toNat / 16) :: Json.hexChar (char.toNat % 16) :: text)
      (char :: chars) rest := by
  obtain ⟨parts, hparts, hjoined⟩ := h
  have hunit : unit? '0' '0' (Json.hexChar (char.toNat / 16)) (Json.hexChar (char.toNat % 16)) = some char.toNat := by
    unfold unit?
    rw [hexValue?_hexChar _ (by omega), hexValue?_hexChar _ (Nat.mod_lt _ (by decide))]
    show some (((0 * 16 + 0) * 16 + char.toNat / 16) * 16 + char.toNat % 16) = _
    congr 1
    omega
  refine ⟨.unit char.toNat :: parts, by simp [pieces, hunit, hparts], ?_⟩
  unfold joined?
  rw [if_neg (by omega), if_neg (by omega), hjoined, Char.ofNat_toNat]
  rfl

theorem Joins.plain {char : Char} (h : Joins text chars rest) (hquote : char ≠ '"') (hslash : char ≠ '\\')
    (hc : ¬ char.toNat < 0x20) : Joins (char :: text) (char :: chars) rest := by
  obtain ⟨parts, hparts, hjoined⟩ := h
  refine ⟨.char char :: parts, ?_, by simp [joined?, hjoined]⟩
  rw [pieces.eq_def]
  split <;> simp_all

/-- A character that is printed is read as that character. -/
theorem Joins.printChar (char : Char) (h : Joins text chars rest) :
    Joins (Json.printChar char ++ text) (char :: chars) rest := by
  unfold Json.printChar
  split
  · exact h.escaped (by decide) rfl
  · exact h.escaped (by decide) rfl
  · exact h.escaped (by decide) rfl
  · exact h.escaped (by decide) rfl
  · exact h.escaped (by decide) rfl
  · exact h.escaped (by decide) rfl
  · exact h.escaped (by decide) rfl
  · rename_i hquote hslash _ _ _ _ _
    split_ifs with hc
    · exact h.control hc
    · exact h.plain hquote hslash hc

theorem joins_flatMap (chars rest : List Char) : Joins (chars.flatMap Json.printChar ++ '"' :: rest) chars rest := by
  induction chars with
  | nil => exact joins_nil
  | cons char chars ih =>
    rw [List.flatMap_cons, List.append_assoc]
    exact ih.printChar char

/-- A string that is printed is read as that string. -/
theorem readString_print (s : String) (rest : List Char) :
    readString (s.toList.flatMap Json.printChar ++ '"' :: rest) = (.string s, some rest) := by
  obtain ⟨parts, hparts, hjoined⟩ := joins_flatMap s.toList rest
  unfold readString
  rw [hparts]
  dsimp only
  rw [hjoined]
  dsimp only
  rw [String.ofList_toList]

/-! ## Numbers -/

/-- The text does not go on with a part of a number. -/
def NumberEnds (rest : List Char) : Prop :=
  ∀ char ∈ rest.head?, Text.isDigit char = false ∧ char ≠ '.' ∧ char ≠ 'e' ∧ char ≠ 'E'

theorem numberEnds_nil : NumberEnds [] := nofun

theorem numberEnds_cons {char : Char} {rest : List Char}
    (h : Text.isDigit char = false ∧ char ≠ '.' ∧ char ≠ 'e' ∧ char ≠ 'E') : NumberEnds (char :: rest) := by
  rintro _ ⟨⟩
  exact h

theorem NumberEnds.digitsEnd (h : NumberEnds rest) : Text.DigitsEnd rest := fun char hchar => (h char hchar).1

theorem readFraction_of_ends (h : NumberEnds rest) : readFraction rest = some (none, rest) := by
  unfold readFraction
  split
  · exact absurd rfl (h '.' rfl).2.1
  · rfl

theorem readExponent_of_ends (h : NumberEnds rest) : readExponent rest = some (none, rest) := by
  unfold readExponent
  split
  · rfl
  · rename_i char rest
    obtain ⟨-, -, hlower, hupper⟩ := h char rfl
    rw [if_neg (by simp [hlower, hupper])]

theorem isWhole_decimalDigits (n : Nat) : isWhole (Text.decimalDigits n) = true := by
  obtain ⟨char, digits, hdigits, hzero⟩ := Text.head_decimalDigits n
  rw [hdigits] at hzero ⊢
  unfold isWhole
  split
  · rename_i h
    cases h
  · rfl
  · rename_i hmore h
    cases h
    cases hzero rfl
    exact absurd rfl hmore
  · rfl

/-- A numeral without point and exponent ends where its digits end. -/
theorem readNumeral_decimalDigits (n : Nat) (h : NumberEnds rest) :
    readNumeral (Text.decimalDigits n ++ rest) = some (⟨false, Text.decimalDigits n, none, none⟩, rest) ∧
      readNumeral ('-' :: Text.decimalDigits n ++ rest) = some (⟨true, Text.decimalDigits n, none, none⟩, rest) := by
  have hd : ∀ char ∈ Text.decimalDigits n, Text.isDigit char = true := fun _ h => Text.isDigit_of_mem_fixedDigits h
  have htake := Text.takeWhile_digits hd h.digitsEnd
  have hdrop := Text.dropWhile_digits hd h.digitsEnd
  have hwhole := isWhole_decimalDigits n
  have hfraction := readFraction_of_ends h
  have hexponent := readExponent_of_ends h
  constructor
  · have hminus {after : List Char} (h : Text.decimalDigits n ++ rest = '-' :: after) : False := by
      cases Text.isDigit_of_append_eq_cons (Text.decimalDigits_ne_nil n) hd h
    unfold readNumeral
    split
    rename_i negative text hsign
    split at hsign
    · rename_i hc
      exact (hminus hc).elim
    · obtain ⟨rfl, rfl⟩ := Prod.mk.inj hsign
      simp [htake, hdrop, hwhole, hfraction, hexponent]
  · unfold readNumeral
    simp [htake, hdrop, hwhole, hfraction, hexponent]

theorem le_appendDigits (start : Nat) (digits : List Char) : start ≤ Text.appendDigits start digits := by
  induction digits generalizing start with
  | nil => exact Nat.le_refl _
  | cons char digits ih =>
    have hle : start ≤ start * 10 + (Text.digitValue? char).getD 0 := by omega
    exact Nat.le_trans hle (ih _)

/-- No digit is left out of a number that fits. -/
theorem fitDigits_of_lt {start : Nat} {digits : List Char} (h : Text.appendDigits start digits < UInt64.size) :
    fitDigits start digits = (Text.appendDigits start digits, 0) := by
  induction digits generalizing start with
  | nil => rfl
  | cons char digits ih =>
    have hfirst : Text.appendDigits start [char] < UInt64.size := Nat.lt_of_le_of_lt (le_appendDigits _ digits) h
    unfold fitDigits
    dsimp only
    rw [if_pos hfirst]
    exact ih h

theorem fitDigits_decimalDigits {n : Nat} (h : n < UInt64.size) : fitDigits 0 (Text.decimalDigits n) = (n, 0) := by
  have hvalue : Text.appendDigits 0 (Text.decimalDigits n) = n := Text.ofDigits_decimalDigits n
  rw [fitDigits_of_lt (by rwa [hvalue]), hvalue]

theorem number?_natural {n : Nat} (h : n < UInt64.size) :
    Numeral.number? ⟨false, Text.decimalDigits n, none, none⟩ = some (.integer n) := by
  unfold Numeral.number?
  rw [fitDigits_decimalDigits h]
  rfl

theorem number?_negative {n : Nat} (hne : n ≠ 0) (h : n ≤ Nat.pow 2 63) :
    Numeral.number? ⟨true, Text.decimalDigits n, none, none⟩ = some (.integer (-n)) := by
  have hfits : n < UInt64.size := Nat.lt_of_le_of_lt h (by decide)
  have hinteger : (decide (n ≠ 0) && decide (n ≤ Nat.pow 2 63)) = true := by
    rw [decide_eq_true hne, decide_eq_true h]
    rfl
  unfold Numeral.number?
  rw [fitDigits_decimalDigits hfits]
  dsimp only
  rw [if_neg (by decide), if_neg (by decide), if_pos hinteger]
  rfl

/-- An integer that is printed is read as that integer. -/
theorem readNumber_print {n : Json.Number} (hn : n.Fits) (h : NumberEnds rest) :
    readNumber (Json.printNumber n ++ rest) = (.number n, some rest) := by
  cases n with
  | real negative magnitude => cases hn
  | integer n =>
    obtain ⟨hlow, hhigh⟩ := hn
    unfold readNumber
    cases n with
    | ofNat n =>
      rw [Json.printNumber_ofNat, (readNumeral_decimalDigits n h).1]
      dsimp only
      rw [number?_natural (Int.ofNat_lt.1 hhigh)]
      rfl
    | negSucc n =>
      have hmagnitude : n + 1 ≤ Nat.pow 2 63 := by omega
      rw [Json.printNumber_negSucc, (readNumeral_decimalDigits (n + 1) h).2]
      dsimp only
      rw [number?_negative (Nat.succ_ne_zero n) hmagnitude]
      rfl

/-! ## Values -/

theorem skipSpace_cons {char : Char} (h : isSpace char = false) : skipSpace (char :: text) = char :: text := by
  simp [skipSpace, h]

/-- What a number can start with is neither white space nor the start of another value. -/
theorem starts_number {char : Char} (h : char = '-' ∨ Text.isDigit char = true) :
    isSpace char = false ∧ char ≠ '"' ∧ char ≠ '[' ∧ char ≠ ']' ∧ char ≠ '\x7b' ∧ char ≠ 'n' ∧ char ≠ 't' ∧
      char ≠ 'f' := by
  rcases h with rfl | h
  · decide
  · obtain ⟨n, hn, rfl⟩ := Text.exists_digitChar h
    revert n
    decide

theorem readValue_number {fuel : Nat} {n : Json.Number} (hn : n.Fits) (h : NumberEnds rest) :
    readValue (fuel + 1) (Json.printNumber n ++ rest) = (.number n, some rest) := by
  have hread := readNumber_print hn h
  obtain ⟨char, chars, hprint, hchar⟩ := Json.printNumber_eq_cons hn
  rw [hprint, List.cons_append] at hread ⊢
  obtain ⟨hspace, hquote, hbracket, -, hbrace, hn, ht, hf⟩ := starts_number hchar
  rw [readValue, skipSpace_cons hspace]
  split <;> simp_all

theorem readValue_string (fuel : Nat) (s : String) (rest : List Char) :
    readValue (fuel + 1) (Json.printString s ++ rest) = (.string s, some rest) := by
  have hprint : Json.printString s ++ rest = '"' :: (s.toList.flatMap Json.printChar ++ '"' :: rest) := by
    simp [Json.printString]
  rw [hprint, readValue, skipSpace_cons (by decide)]
  exact readString_print s rest

/-- The text of a value starts with a character of its own. -/
theorem print_eq_cons {j : Json} (h : j.Fits) :
    ∃ char chars, j.print = char :: chars ∧ isSpace char = false ∧ char ≠ ']' := by
  match j with
  | .null => exact ⟨_, _, rfl, by decide⟩
  | .bool true => exact ⟨_, _, rfl, by decide⟩
  | .bool false => exact ⟨_, _, rfl, by decide⟩
  | .string _ => exact ⟨_, _, rfl, by decide⟩
  | .array _ => exact ⟨_, _, rfl, by decide⟩
  | .object _ => exact ⟨_, _, rfl, by decide⟩
  | .number n =>
    obtain ⟨char, chars, hprint, hchar⟩ := Json.printNumber_eq_cons h
    obtain ⟨hspace, -, -, hbracket, -⟩ := starts_number hchar
    exact ⟨char, chars, hprint, hspace, hbracket⟩

theorem readKey_print (key : String) (rest : List Char) :
    readKey (Json.printString key ++ ':' :: rest) = (some key, some rest) := by
  have hprint : Json.printString key ++ ':' :: rest =
      '"' :: (key.toList.flatMap Json.printChar ++ '"' :: ':' :: rest) := by
    simp [Json.printString]
  have hquote : isSpace '"' = false := by decide
  have hcolon : isSpace ':' = false := by decide
  unfold readKey
  rw [hprint, skipSpace_cons hquote]
  simp [readString_print, skipSpace_cons hcolon, string?]

theorem readValue_bracket {fuel : Nat} {char : Char} (hspace : isSpace char = false) (hclose : char ≠ ']') :
    readValue (fuel + 1) ('[' :: char :: text) =
      (.array (readItems fuel (char :: text)).1, (readItems fuel (char :: text)).2) := by
  have hbracket : isSpace '[' = false := by decide
  rw [readValue, skipSpace_cons hbracket]
  simp [skipSpace_cons hspace, hclose]

theorem readValue_brace {fuel : Nat} {char : Char} (hspace : isSpace char = false) (hclose : char ≠ '\x7d') :
    readValue (fuel + 1) ('\x7b' :: char :: text) =
      (.object (readEntries fuel (char :: text)).1, (readEntries fuel (char :: text)).2) := by
  have hbrace : isSpace '\x7b' = false := by decide
  rw [readValue, skipSpace_cons hbrace]
  simp [skipSpace_cons hspace, hclose]

theorem printItems_eq_cons {item : Json} (items : List Json) (h : item.Fits) :
    ∃ char chars, Json.printItems (item :: items) = char :: chars ∧ isSpace char = false ∧ char ≠ ']' := by
  obtain ⟨char, chars, hprint, hchar⟩ := print_eq_cons h
  cases items with
  | nil => exact ⟨char, chars ++ [']'], by rw [Json.printItems, hprint, List.cons_append], hchar⟩
  | cons next items =>
    exact ⟨char, chars ++ ',' :: Json.printItems (next :: items), by rw [Json.printItems_cons, hprint]; rfl, hchar⟩

theorem printEntries_eq_cons (key : String) (value : Json) (entries : List (String × Json)) :
    ∃ chars, Json.printEntries ((key, value) :: entries) = '"' :: chars := by
  cases entries with
  | nil => exact ⟨_, rfl⟩
  | cons next entries => exact ⟨_, rfl⟩

theorem numberEnds_comma : NumberEnds (',' :: rest) := numberEnds_cons (by decide)

theorem numberEnds_bracket : NumberEnds (']' :: rest) := numberEnds_cons (by decide)

theorem numberEnds_brace : NumberEnds ('\x7d' :: rest) := numberEnds_cons (by decide)

/-! ### Items and entries -/

section

variable {fuel : Nat} {item value : Draft} {key : Option String} {behind : List Char}

theorem readItems_last (h : readValue fuel text = (item, some (']' :: rest))) :
    readItems (fuel + 1) text = ([item], some rest) := by
  rw [readItems, h]
  rfl

theorem readItems_comma (h : readValue fuel text = (item, some (',' :: rest))) :
    readItems (fuel + 1) text = (item :: (readItems fuel rest).1, (readItems fuel rest).2) := by
  rw [readItems, h]
  rfl

theorem readEntries_last (hk : readKey text = (key, some behind))
    (h : readValue fuel behind = (value, some ('\x7d' :: rest))) :
    readEntries (fuel + 1) text = ([(key, value)], some rest) := by
  rw [readEntries, hk]
  dsimp only
  rw [h]
  rfl

theorem readEntries_comma (hk : readKey text = (key, some behind))
    (h : readValue fuel behind = (value, some (',' :: rest))) :
    readEntries (fuel + 1) text = ((key, value) :: (readEntries fuel rest).1, (readEntries fuel rest).2) := by
  rw [readEntries, hk]
  dsimp only
  rw [h]
  rfl

end

mutual

/-- A value that is printed is read as that value. Twice as much fuel as there are characters is enough, as a
value in an array or in an object takes at least two of them. -/
theorem readValue_print : (j : Json) → j.Fits → ∀ (fuel : Nat) (rest : List Char), 2 * j.print.length ≤ fuel →
    NumberEnds rest → readValue fuel (j.print ++ rest) = (j.draft, some rest)
  | .null, _, fuel + 1, rest, _, _ => rfl
  | .bool true, _, fuel + 1, rest, _, _ => rfl
  | .bool false, _, fuel + 1, rest, _, _ => rfl
  | .number n, hn, fuel + 1, rest, _, hr => readValue_number hn hr
  | .string s, _, fuel + 1, rest, _, _ => readValue_string fuel s rest
  | .array [], _, fuel + 1, rest, _, _ => rfl
  | .array (item :: items), hfit, fuel + 1, rest, hfuel, _ => by
    rw [Json.print, List.length_cons] at hfuel
    have hitems := readItems_print item items hfit fuel rest (by omega)
    obtain ⟨char, chars, hprint, hspace, hclose⟩ := printItems_eq_cons items hfit.1
    rw [hprint, List.cons_append] at hitems
    rw [Json.print, hprint, List.cons_append, List.cons_append, readValue_bracket hspace hclose, hitems]
    rfl
  | .object [], _, fuel + 1, rest, _, _ => rfl
  | .object ((key, value) :: entries), hfit, fuel + 1, rest, hfuel, _ => by
    rw [Json.print, List.length_cons] at hfuel
    have hentries := readEntries_print key value entries hfit fuel rest (by omega)
    obtain ⟨chars, hprint⟩ := printEntries_eq_cons key value entries
    rw [hprint, List.cons_append] at hentries
    rw [Json.print, hprint, List.cons_append, List.cons_append, readValue_brace (by decide) (by decide), hentries]
    rfl
  | j, hfit, 0, rest, hfuel, _ => by
    obtain ⟨char, chars, hprint, -⟩ := print_eq_cons hfit
    simp [hprint] at hfuel

theorem readItems_print : (item : Json) → (items : List Json) → Json.itemsFit (item :: items) →
    ∀ (fuel : Nat) (rest : List Char), 2 * (Json.printItems (item :: items)).length ≤ fuel →
    readItems fuel (Json.printItems (item :: items) ++ rest) = (Json.draftItems (item :: items), some rest)
  | item, [], hfit, fuel + 1, rest, hfuel => by
    simp only [Json.printItems, List.length_append, List.length_singleton] at hfuel
    have hitem := readValue_print item hfit.1 fuel (']' :: rest) (by omega) numberEnds_bracket
    rw [Json.printItems, List.append_assoc]
    exact readItems_last hitem
  | item, next :: items, hfit, fuel + 1, rest, hfuel => by
    rw [Json.printItems_cons, List.length_append, List.length_cons] at hfuel
    have hitem := readValue_print item hfit.1 fuel (',' :: (Json.printItems (next :: items) ++ rest)) (by omega)
      numberEnds_comma
    have hitems := readItems_print next items hfit.2 fuel rest (by omega)
    rw [Json.printItems_cons, List.append_assoc, List.cons_append, readItems_comma hitem, hitems]
    rfl
  | item, items, hfit, 0, rest, hfuel => by
    obtain ⟨char, chars, hprint, -⟩ := printItems_eq_cons items hfit.1
    simp [hprint] at hfuel

theorem readEntries_print : (key : String) → (value : Json) → (entries : List (String × Json)) →
    Json.entriesFit ((key, value) :: entries) → ∀ (fuel : Nat) (rest : List Char),
    2 * (Json.printEntries ((key, value) :: entries)).length ≤ fuel →
    readEntries fuel (Json.printEntries ((key, value) :: entries) ++ rest) =
      (Json.draftEntries ((key, value) :: entries), some rest)
  | key, value, [], hfit, fuel + 1, rest, hfuel => by
    simp only [Json.printEntries, List.length_append, List.length_cons, List.length_nil] at hfuel
    have hkey := readKey_print key (value.print ++ '\x7d' :: rest)
    have hvalue := readValue_print value hfit.1 fuel ('\x7d' :: rest) (by omega) numberEnds_brace
    simp only [Json.printEntries, List.append_assoc, List.cons_append, List.nil_append]
    exact readEntries_last hkey hvalue
  | key, value, (next, value') :: entries, hfit, fuel + 1, rest, hfuel => by
    rw [Json.printEntries_cons] at hfuel ⊢
    simp only [List.length_append, List.length_cons] at hfuel
    have hkey := readKey_print key (value.print ++ ',' :: (Json.printEntries ((next, value') :: entries) ++ rest))
    have hvalue := readValue_print value hfit.1 fuel (',' :: (Json.printEntries ((next, value') :: entries) ++ rest))
      (by omega) numberEnds_comma
    have hentries := readEntries_print next value' entries hfit.2 fuel rest (by omega)
    simp only [List.append_assoc, List.cons_append]
    rw [readEntries_comma hkey hvalue, hentries]
    rfl
  | key, value, entries, _, 0, rest, hfuel => by
    obtain ⟨chars, hprint⟩ := printEntries_eq_cons key value entries
    simp [hprint] at hfuel

end

/-! ## Texts -/

mutual

/-- What stands for a value is the draft of that value. -/
theorem draft_of_json? : (d : Draft) → ∀ {j : Json}, d.json? = some j → j.draft = d
  | .null, _, rfl => rfl
  | .bool _, _, rfl => rfl
  | .number _, _, rfl => rfl
  | .string _, _, rfl => rfl
  | .array items, j, h => by
    obtain ⟨values, hitems, rfl⟩ := Option.map_eq_some_iff.1 h
    rw [Json.draft, draftItems_of_json? items hitems]
  | .object entries, j, h => by
    obtain ⟨values, hentries, rfl⟩ := Option.map_eq_some_iff.1 h
    rw [Json.draft, draftEntries_of_json? entries hentries]

theorem draftItems_of_json? : (items : List Draft) → ∀ {values : List Json}, itemsJson? items = some values →
    Json.draftItems values = items
  | [], _, rfl => rfl
  | item :: items, values, h => by
    unfold itemsJson? at h
    split at h
    · rename_i hitem hitems
      cases h
      rw [Json.draftItems, draft_of_json? item hitem, draftItems_of_json? items hitems]
    · cases h

theorem draftEntries_of_json? : (entries : List (Option String × Draft)) → ∀ {values : List (String × Json)},
    entriesJson? entries = some values → Json.draftEntries values = entries
  | [], _, rfl => rfl
  | (none, value) :: entries, values, h => by simp [entriesJson?] at h
  | (some key, value) :: entries, values, h => by
    unfold entriesJson? at h
    split at h
    · rename_i hkey hvalue hentries
      cases h
      cases hkey
      rw [Json.draftEntries, draft_of_json? value hvalue, draftEntries_of_json? entries hentries]
    · cases h

end

end Draft

namespace Json

/-- The text of a value whose numbers are integers of 64 bits is the text of that value. -/
theorem parse?_text {j : Json} (h : j.Fits) : parse? j.text = some j := by
  have hread := Draft.readValue_print j h (2 * j.print.length + 2) [] (by omega) Draft.numberEnds_nil
  rw [List.append_nil] at hread
  unfold parse? Draft.ofText text
  rw [String.toList_ofList]
  dsimp only
  rw [hread]
  exact json?_draft j

/-- To decode the text of a value is to decode the value as it stands in the text. -/
theorem decodeText_of_parse? {α : Type} {text : String} {j : Json} (h : parse? text = some j)
    (decode : Origin → Decoder α) : Draft.decodeText decode text = decode .text j.draft := by
  unfold parse? at h
  unfold Draft.decodeText
  cases htext : Draft.ofText text with
  | mk draft ended =>
    rw [htext] at h
    cases ended with
    | false => cases h
    | true =>
      rw [Draft.draft_of_json? draft h]
      show (decode .text draft >>= fun a => _) = _
      cases decode .text draft with
      | error mismatch => rfl
      | ok a => rfl

end Json

end CircuitBreaker
