/-
Points of time survive their text. Whatever the year and however many digits the fraction of a second has, the
text of a point of time is read as that point, leap seconds included.
-/
import CircuitBreaker.Proofs.Calendar
import CircuitBreaker.Proofs.Digits
import CircuitBreaker.Time.Rfc3339

namespace CircuitBreaker.Timestamp

/-! ## Steps of reading -/

section

variable {α β : Type} {scan : Scan α} {text rest after : List Char} {a : α} {b : β}

/-- A step of reading takes the start of a text, up to the rest, and makes `a` of it. -/
def Takes (scan : Scan α) (text rest : List Char) (a : α) : Prop := scan text = .ok (a, rest)

theorem Takes.bind {next : α → Scan β} (h : Takes scan text rest a) (hn : Takes (next a) rest after b) :
    Takes (scan >>= next) text after b := by
  show StateT.bind scan next text = _
  unfold StateT.bind
  rw [h]
  exact hn

theorem takes_pure : Takes (pure a) text text a := rfl

theorem takes_get : Takes get text text text := rfl

theorem takes_set : Takes (set rest) text rest () := rfl

theorem takes_modify {f : List Char → List Char} : Takes (modify f) text (f text) () := rfl

/-- White space is passed over only if there is some. -/
theorem takes_trim (h : Text.trimStart text = text) : Takes (modify Text.trimStart) text text () := by
  have htrim : Takes (modify Text.trimStart) text (Text.trimStart text) () := takes_modify
  rwa [h] at htrim

/-- Digits are taken up to the width, or up to where they end. -/
theorem takes_digits {width : Nat} {taken : List Char} (hne : taken ≠ [])
    (hd : ∀ char ∈ taken, Text.isDigit char = true) (hw : taken.length ≤ width)
    (hr : Text.DigitsEnd (rest.take (width - taken.length))) : Takes (digits width) (taken ++ rest) rest taken := by
  have htaken : ((taken ++ rest).take width).takeWhile Text.isDigit = taken := by
    rw [List.take_append, List.take_of_length_le hw]
    exact Text.takeWhile_digits hd hr
  obtain ⟨char, chars, rfl⟩ := List.exists_cons_of_ne_nil hne
  rw [List.cons_append] at htaken ⊢
  unfold digits
  refine takes_get.bind ?_
  dsimp only
  rw [if_pos (hd char List.mem_cons_self), htaken]
  refine takes_set.bind ?_
  rw [← List.cons_append, List.drop_left]
  exact takes_pure

theorem takes_fixedDigits {width n : Nat} (hw : width ≠ 0) :
    Takes (digits width) (Text.fixedDigits width n ++ rest) rest (Text.fixedDigits width n) := by
  have hlength := Text.length_fixedDigits width n
  refine takes_digits (Text.fixedDigits_ne_nil hw) (fun _ h => Text.isDigit_of_mem_fixedDigits h) (by omega) ?_
  rw [hlength, Nat.sub_self]
  exact Text.digitsEnd_nil

theorem trimStart_fixedDigits {width n : Nat} (hw : width ≠ 0) :
    Text.trimStart (Text.fixedDigits width n ++ rest) = Text.fixedDigits width n ++ rest :=
  Text.trimStart_digits (Text.fixedDigits_ne_nil hw) fun _ h => Text.isDigit_of_mem_fixedDigits h

/-- Two digits are read as a part of a date or of a time of day. -/
theorem takes_part {low high n : Nat} (hlow : low ≤ n) (hhigh : n ≤ high) (hn : n < 100) :
    Takes (part low high) (Text.fixedDigits 2 n ++ rest) rest n := by
  unfold part
  refine (takes_trim (trimStart_fixedDigits (by decide))).bind ?_
  refine (takes_fixedDigits (by decide)).bind ?_
  rw [Text.ofDigits_fixedDigits_of_lt hn]
  dsimp only
  rw [if_pos ⟨hlow, hhigh⟩]
  exact takes_pure

theorem takes_mark {char : Char} (h : Text.isBlank char = false) : Takes (mark char) (char :: rest) rest () := by
  unfold mark
  refine (takes_trim (by simp [Text.trimStart, h])).bind (takes_get.bind ?_)
  dsimp only
  rw [if_pos rfl]
  exact takes_set

theorem takes_separator : Takes separator ('T' :: rest) rest () := by
  unfold separator
  refine takes_get.bind ?_
  exact takes_set

/-! ## Parts of a point of time -/

/-- A signed year goes up to the first character that is no digit. -/
theorem takes_paddedDigits {n : Nat} :
    Takes (digits (Text.paddedDigits 4 n ++ '-' :: rest).length) (Text.paddedDigits 4 n ++ '-' :: rest) ('-' :: rest)
      (Text.paddedDigits 4 n) := by
  have hend : Text.DigitsEnd ('-' :: rest) := Text.digitsEnd_cons (by decide)
  exact takes_digits (Text.fixedDigits_ne_nil (by omega)) (fun _ h => Text.isDigit_of_mem_fixedDigits h)
    (by simp) (hend.take _)

theorem takes_yearPart {year : Int} (hlow : -2147483648 ≤ year) (hhigh : year ≤ 2147483647) :
    Takes yearPart (yearDigits year ++ '-' :: rest) ('-' :: rest) year := by
  have hrange : Takes (if -2147483648 ≤ year ∧ year ≤ 2147483647 then pure year else throw .outOfRange)
      ('-' :: rest) ('-' :: rest) year := by
    rw [if_pos ⟨hlow, hhigh⟩]
    exact takes_pure
  unfold yearPart yearDigits
  split_ifs with hshort hneg
  -- four digits and no sign: the reading must not take the first digit for a sign
  · have hvalue : ((Text.ofDigits (Text.fixedDigits 4 year.toNat) : Nat) : Int) = year := by
      rw [Text.ofDigits_fixedDigits_of_lt (show year.toNat < 10000 by omega)]
      omega
    have hstart {char : Char} {after : List Char}
        (h : Text.fixedDigits 4 year.toNat ++ '-' :: rest = char :: after) : Text.isDigit char = true :=
      Text.isDigit_of_append_eq_cons (Text.fixedDigits_ne_nil (by decide))
        (fun _ h => Text.isDigit_of_mem_fixedDigits h) h
    refine (takes_trim (trimStart_fixedDigits (by decide))).bind (takes_get.bind ?_)
    dsimp only
    split
    · rename_i hsign
      cases hstart hsign
    · rename_i hsign
      cases hstart hsign
    · refine (takes_fixedDigits (by decide)).bind ?_
      rw [hvalue]
      exact takes_pure.bind hrange
  · refine (takes_trim rfl).bind (takes_get.bind (takes_set.bind ?_))
    refine takes_paddedDigits.bind ?_
    rw [Text.ofDigits_paddedDigits, show (-(year.natAbs : Int)) = year by omega]
    exact takes_pure.bind hrange
  · refine (takes_trim rfl).bind (takes_get.bind (takes_set.bind ?_))
    refine takes_paddedDigits.bind ?_
    rw [Text.ofDigits_paddedDigits, show (year.natAbs : Int) = year by omega]
    exact takes_pure.bind hrange

/-- The fraction is read back in nanoseconds, however many digits it was written with. -/
theorem takes_fractionPart {nanos : Nat} (h : nanos < 1000000000) :
    Takes fractionPart (fractionDigits nanos ++ ['Z']) ['Z'] nanos := by
  have hdigits (places value : Nat) (hplaces : places ≠ 0) (hnine : places ≤ 9) (hfits : value < Nat.pow 10 places)
      (hvalue : value * Nat.pow 10 (9 - places) = nanos) :
      Takes fractionPart ('.' :: Text.fixedDigits places value ++ ['Z']) ['Z'] nanos := by
    have hlength := Text.length_fixedDigits places value
    unfold fractionPart
    refine takes_get.bind (takes_set.bind ?_)
    refine (takes_digits (Text.fixedDigits_ne_nil hplaces) (fun _ h => Text.isDigit_of_mem_fixedDigits h)
      (by omega) ?_).bind (takes_modify.bind ?_)
    · have hend : Text.DigitsEnd ['Z'] := Text.digitsEnd_cons (by decide)
      exact hend.take _
    · rw [Text.ofDigits_fixedDigits_of_lt hfits, hlength, hvalue]
      exact takes_pure
  unfold fractionDigits
  split_ifs with hzero hmillis hmicros
  · rw [hzero]
    exact takes_get.bind takes_pure
  · exact hdigits 3 (nanos / 1000000) (by decide) (by decide) (show _ < 1000 by omega) (show _ * 1000000 = _ by omega)
  · exact hdigits 6 (nanos / 1000) (by decide) (by decide) (show _ < 1000000 by omega) (show _ * 1000 = _ by omega)
  · exact hdigits 9 nanos (by decide) (by decide) (show _ < 1000000000 by omega) (Nat.mul_one _)

theorem takes_offsetPart : Takes offsetPart ['Z'] [] 0 := by
  unfold offsetPart
  refine takes_get.bind ?_
  unfold offsetPart.signed
  exact takes_get.bind (takes_set.bind takes_pure)

end

/-! ## Whole points of time -/

/-- The seconds that can be represented are those of the days from the first to the last year. -/
theorem date_spec (t : Timestamp) :
    t.date.Valid ∧ t.date.dayNumber = t.seconds / 86400 + epochDay ∧ firstYear ≤ t.date.year ∧
      t.date.year ≤ lastYear := by
  obtain ⟨hfirst, hlast, -⟩ := t.representable
  obtain ⟨hvalid, hday⟩ := Date.ofDayNumber_spec (t.seconds / 86400 + epochDay)
  refine ⟨hvalid, hday, Date.year_ofDayNumber ?_ ?_⟩
  · unfold firstSecond at hfirst
    omega
  · unfold lastSecond at hlast
    omega

theorem secondOfDay_mod (t : Timestamp) : ((t.secondOfDay % 60 : Nat) : Int) = t.seconds % 60 := by
  unfold secondOfDay
  omega

/-- What is written of a point of time: its date and its time of day, in universal time. A leap second is the
second 60. -/
def parts (t : Timestamp) : Written :=
  ⟨t.date, t.secondOfDay / 3600, t.secondOfDay / 60 % 60, t.secondOfDay % 60 + t.nanos / 1000000000,
    t.nanos % 1000000000, 0⟩

/-- Reading the text gives what was written. -/
theorem takes_written (t : Timestamp) : Takes written t.chars [] t.parts := by
  obtain ⟨hvalid, -, hfirst, hlast⟩ := t.date_spec
  obtain ⟨hmonth, hmonth'⟩ := hvalid.month_bounds
  have hday := hvalid.day_le
  have hleap := t.representable.2.2
  have hyears : firstYear = -262143 ∧ lastYear = 262142 := ⟨rfl, rfl⟩
  have hseconds : t.secondOfDay < 86400 := by
    unfold secondOfDay
    omega
  have hminute := t.secondOfDay_mod
  have hcolon : Text.isBlank ':' = false := by decide
  have hdash : Text.isBlank '-' = false := by decide
  unfold written chars
  simp only [List.append_assoc, List.cons_append]
  refine (takes_yearPart (by omega) (by omega)).bind ((takes_mark hdash).bind ?_)
  refine (takes_part hmonth hmonth' (by omega)).bind ((takes_mark hdash).bind ?_)
  refine (takes_part hvalid.1 hday (by omega)).bind (takes_separator.bind ?_)
  refine (takes_part (Nat.zero_le _) (by omega) (by omega)).bind ((takes_mark hcolon).bind ?_)
  refine (takes_part (Nat.zero_le _) (by omega) (by omega)).bind ((takes_mark hcolon).bind ?_)
  refine (takes_part (Nat.zero_le _) (by omega) (by omega)).bind ?_
  refine (takes_fractionPart (Nat.mod_lt _ (by decide))).bind ?_
  exact (takes_trim rfl).bind (takes_offsetPart.bind (takes_get.bind takes_pure))

/-- The second 60 is a leap second, and any other is itself. -/
theorem leap_parts (t : Timestamp) :
    (if t.parts.second = 60 then 59 else t.parts.second) = t.secondOfDay % 60 ∧
      (if t.parts.second = 60 then t.parts.nanos + 1000000000 else t.parts.nanos) = t.nanos := by
  have hminute := t.secondOfDay_mod
  have hleap := t.representable.2.2
  have hsecond : t.parts.second = t.secondOfDay % 60 + t.nanos / 1000000000 := rfl
  have hnanos : t.parts.nanos = t.nanos % 1000000000 := rfl
  split_ifs <;> omega

theorem of?_eq_self (t : Timestamp) : of? t.seconds t.nanos = some t := dif_pos t.representable

/-- What is written of a point of time names that point. -/
theorem point_parts (t : Timestamp) : t.parts.point = .ok t := by
  obtain ⟨hvalid, hday, hyears⟩ := t.date_spec
  obtain ⟨hsecond, hnanos⟩ := t.leap_parts
  have hseconds : (t.date.dayNumber - epochDay) * 86400 +
      (t.secondOfDay / 3600 * 3600 + t.secondOfDay / 60 % 60 * 60 + t.secondOfDay % 60 : Nat) - 0 = t.seconds := by
    rw [hday]
    unfold secondOfDay
    omega
  unfold Written.point
  rw [if_neg (not_not_intro ⟨hvalid, hyears⟩), if_neg (not_not_intro (by simp [parts]))]
  dsimp only
  rw [hsecond, hnanos]
  dsimp only [parts]
  rw [hseconds, of?_eq_self]

/-- The text of a point of time is read as that point. -/
theorem parse_text (t : Timestamp) : parse t.text = .ok t := by
  have hwritten : written t.chars = .ok (t.parts, []) := t.takes_written
  unfold parse text
  rw [String.toList_ofList]
  show (written t.chars >>= _) = _
  rw [hwritten]
  exact t.point_parts

end CircuitBreaker.Timestamp
