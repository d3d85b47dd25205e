/-
Handles on clocks that are moved by hand. All clones of a handle show one clock. However the handles were
made and whichever of them moved it, the clock has moved by the exact sum of its advances, up to its limit.
So the order of the advances does not matter, readings never go back, and other clocks stay where they are.
-/
import CircuitBreaker.Proofs.ByHand
import Mathlib.Algebra.GroupWithZero.Nat
import Mathlib.Data.List.Forall2

namespace CircuitBreaker

/-! ## Capped sums -/

/-- The longest time whose seconds fit into 64 bits. -/
def Duration.longest : Duration := .ofParts 18446744073709551615 999999999

/-- A sum that stops at the longest time. -/
def Duration.saturatingAdd (a b : Duration) : Duration := min (a + b) longest

namespace ManualClock

/-- How far a clock has moved after advances that last so many nanoseconds together. -/
def capped (nanos : Nat) : Duration := ⟨min maxOffset.nanos nanos⟩

theorem capped_le (nanos : Nat) : capped nanos ≤ maxOffset := Nat.min_le_left _ _

theorem capped_mono {nanos later : Nat} (h : nanos ≤ later) : capped nanos ≤ capped later := by
  show min _ nanos ≤ min _ later
  omega

/-- To cap at each step is to cap the exact sum. -/
theorem moved_capped (nanos : Nat) (step : Duration) : moved (capped nanos) step = capped (nanos + step.nanos) := by
  refine congrArg Duration.mk ?_
  show min (min maxOffset.nanos nanos + step.nanos) maxOffset.nanos = min maxOffset.nanos (nanos + step.nanos)
  omega

/-- Times that are too long for their sum to fit come to the limit of a clock, too. -/
theorem moved_eq_saturating (elapsed step : Duration) :
    moved elapsed step = min (elapsed.saturatingAdd step) maxOffset := by
  have hlimit : maxOffset.nanos ≤ Duration.longest.nanos := by decide
  refine congrArg Duration.mk ?_
  show min (elapsed.nanos + step.nanos) maxOffset.nanos =
    min (min (elapsed.nanos + step.nanos) Duration.longest.nanos) maxOffset.nanos
  omega

end ManualClock

/-! ## What is done with handles -/

/-- Something that is done with handles, which are known by their numbers. -/
inductive ClockOp
  | fresh (origin : Instant) (wallOrigin : Timestamp)
  | clone (i : Nat)
  | advance (i : Nat) (step : Duration)

/-- Whether a handle is made. -/
def ClockOp.makes : ClockOp → Bool
  | fresh _ _ | clone _ => true
  | advance _ _ => false

/-- The handle that is used. -/
def ClockOp.uses? : ClockOp → Option Nat
  | fresh _ _ => none
  | clone i | advance i _ => some i

namespace ClockShelf

/-- Does something with the handles. -/
def perform (shelf : ClockShelf) : ClockOp → ClockShelf
  | .fresh origin wallOrigin => shelf.addFresh origin wallOrigin
  | .clone i => shelf.addClone i
  | .advance i step => shelf.advance i step

/-- The handles after all that was done with them. -/
def after (ops : List ClockOp) : ClockShelf := ops.foldl perform empty

/-- The clock behind a handle. -/
def clock? (shelf : ClockShelf) (i : Nat) : Option ManualClock := shelf.handles[i]?.map shelf.clock

theorem after_concat (ops : List ClockOp) (op : ClockOp) : after (ops ++ [op]) = (after ops).perform op :=
  List.foldl_append

end ClockShelf

/-! ## Families -/

/-- A handle among its clones: which handle was the first of them, and where their clock started. -/
structure Member where
  first : Nat
  origin : Instant
  wallOrigin : Timestamp

/-- The families of handles, and all advances, each with the first handle of the family that it was made for. -/
structure Families where
  members : List Member
  advances : List (Nat × Duration)

namespace Families

/-- The advance that is made. -/
def made (members : List Member) : ClockOp → Option (Nat × Duration)
  | .advance i step => members[i]?.map fun member => (member.first, step)
  | _ => none

/-- The handle that is made. A fresh one is the first of its family. -/
def joined (members : List Member) : ClockOp → Option Member
  | .fresh origin wallOrigin => some ⟨members.length, origin, wallOrigin⟩
  | .clone i => members[i]?
  | .advance _ _ => none

/-- The families when something has been done with the handles. -/
def perform (f : Families) (op : ClockOp) : Families :=
  ⟨f.members ++ (joined f.members op).toList, f.advances ++ (made f.members op).toList⟩

/-- The families after all that was done with the handles. -/
def after (ops : List ClockOp) : Families := ops.foldl perform ⟨[], []⟩

/-- The exact sum of the advances of a family, in nanoseconds. -/
def total (f : Families) (first : Nat) : Nat := ((f.advances.filter (·.1 = first)).map (·.2.nanos)).sum

/-- The clock that a handle should show. -/
def clock (f : Families) (member : Member) : ManualClock :=
  ⟨member.origin, member.wallOrigin, ManualClock.capped (f.total member.first)⟩

variable {f : Families} {shelf : ClockShelf} {firsts : List Nat}

theorem after_concat (ops : List ClockOp) (op : ClockOp) : after (ops ++ [op]) = (after ops).perform op :=
  List.foldl_append

theorem made_advance {members : List Member} {i : Nat} {member : Member} (h : members[i]? = some member)
    (step : Duration) : made members (.advance i step) = some (member.first, step) := by
  rw [made, h]
  rfl

theorem members_advance (f : Families) (i : Nat) (step : Duration) :
    (f.perform (.advance i step)).members = f.members :=
  List.append_nil _

theorem total_of_not_made {op : ClockOp} (h : made f.members op = none) : (f.perform op).total = f.total := by
  funext first
  unfold total perform
  rw [h]
  simp

theorem total_of_made {op : ClockOp} {mover : Nat} {step : Duration} (h : made f.members op = some (mover, step))
    (first : Nat) : (f.perform op).total first = f.total first + if mover = first then step.nanos else 0 := by
  unfold total perform
  rw [h]
  by_cases hf : mover = first
  · simp [hf]
  · simp [hf]

theorem total_le (f : Families) (op : ClockOp) (first : Nat) : f.total first ≤ (f.perform op).total first := by
  cases h : made f.members op with
  | none => rw [total_of_not_made h]
  | some advance =>
    rw [total_of_made h]
    omega

/-- A family without advances has moved nowhere. -/
theorem total_eq_zero {first : Nat} (h : ∀ advance ∈ f.advances, advance.1 ≠ first) : f.total first = 0 := by
  have hnone : f.advances.filter (·.1 = first) = [] := by
    refine List.filter_eq_nil_iff.2 fun advance ha => ?_
    simpa using h advance ha
  unfold total
  rw [hnone]
  rfl

/-! ## The shelf -/

/-- The handle on the shelf stands for this member. -/
structure StandsFor (firsts : List Nat) (handle : ClockHandle) (member : Member) : Prop where
  family : firsts[handle.family]? = some member.first
  origin : handle.origin = member.origin
  wallOrigin : handle.wallOrigin = member.wallOrigin

/-- On the shelf each family has a clock of its own, which has moved by the sum of the family's advances. -/
structure OnShelf (f : Families) (shelf : ClockShelf) (firsts : List Nat) : Prop where
  nodup : firsts.Nodup
  lt : ∀ first ∈ firsts, first < f.members.length
  advanced : ∀ advance ∈ f.advances, advance.1 ∈ firsts
  elapsed : shelf.elapsed = firsts.map fun first => ManualClock.capped (f.total first)
  handles : List.Forall₂ (StandsFor firsts) shelf.handles f.members

namespace OnShelf

/-- Handles and members come in pairs. -/
theorem paired (h : f.OnShelf shelf firsts) (i : Nat) :
    (∃ handle member, shelf.handles[i]? = some handle ∧ f.members[i]? = some member ∧
      StandsFor firsts handle member) ∨ shelf.handles[i]? = none ∧ f.members[i]? = none := by
  obtain ⟨hlength, hpair⟩ := List.forall₂_iff_get.1 h.handles
  by_cases hi : i < shelf.handles.length
  · have hi' : i < f.members.length := by omega
    exact Or.inl ⟨_, _, List.getElem?_eq_getElem hi, List.getElem?_eq_getElem hi', hpair i hi hi'⟩
  · exact Or.inr ⟨List.getElem?_eq_none (by omega), List.getElem?_eq_none (by omega)⟩

theorem elapsedOf (h : f.OnShelf shelf firsts) {handle : ClockHandle} {member : Member}
    (hs : StandsFor firsts handle member) :
    shelf.elapsedOf handle = ManualClock.capped (f.total member.first) := by
  unfold ClockShelf.elapsedOf
  rw [h.elapsed, List.getElem?_map, hs.family]
  rfl

/-- Every handle on the shelf shows the clock that it should show. -/
theorem clock? (h : f.OnShelf shelf firsts) (i : Nat) : shelf.clock? i = f.members[i]?.map f.clock := by
  unfold ClockShelf.clock?
  rcases h.paired i with ⟨handle, member, hhandle, hmember, hs⟩ | ⟨hhandle, hmember⟩
  · rw [hhandle, hmember]
    show some (shelf.clock handle) = some (f.clock member)
    rw [ClockShelf.clock, h.elapsedOf hs, hs.origin, hs.wallOrigin, clock]
  · rw [hhandle, hmember]
    rfl

/-- A fresh handle gets a clock that has not moved. -/
theorem fresh (h : f.OnShelf shelf firsts) (origin : Instant) (wallOrigin : Timestamp) :
    (f.perform (.fresh origin wallOrigin)).OnShelf (shelf.addFresh origin wallOrigin)
      (firsts ++ [f.members.length]) := by
  have hnew : f.members.length ∉ firsts := fun hm => Nat.lt_irrefl _ (h.lt _ hm)
  have htotal : (f.perform (.fresh origin wallOrigin)).total = f.total := total_of_not_made rfl
  have hlength : shelf.elapsed.length = firsts.length := by
    rw [h.elapsed, List.length_map]
  refine ⟨?_, ?_, ?_, ?_, ?_⟩
  · rw [← List.concat_eq_append]
    exact List.Nodup.concat hnew h.nodup
  · intro first hf
    have hmembers : (f.perform (.fresh origin wallOrigin)).members.length = f.members.length + 1 :=
      List.length_append
    rcases List.mem_append.1 hf with hf | hf
    · have := h.lt first hf
      omega
    · rw [List.mem_singleton.1 hf]
      omega
  · intro advance ha
    have ha : advance ∈ f.advances := by simpa [perform, made] using ha
    exact List.mem_append_left _ (h.advanced advance ha)
  · have hzero : f.total f.members.length = 0 :=
      total_eq_zero fun advance ha he => hnew (he ▸ h.advanced advance ha)
    rw [htotal, List.map_append, ← h.elapsed]
    show shelf.elapsed ++ [.zero] = shelf.elapsed ++ [ManualClock.capped (f.total f.members.length)]
    rw [hzero]
    rfl
  · refine List.rel_append (h.handles.imp fun handle member hs => ?_) ?_
    · refine ⟨?_, hs.origin, hs.wallOrigin⟩
      rw [List.getElem?_append_left (List.getElem?_eq_some_iff.1 hs.family).1]
      exact hs.family
    · refine List.Forall₂.cons ⟨?_, rfl, rfl⟩ .nil
      show (firsts ++ [f.members.length])[shelf.elapsed.length]? = some f.members.length
      rw [hlength]
      exact List.getElem?_concat_length

/-- A clone stands for a member of the same family. -/
theorem clone (h : f.OnShelf shelf firsts) (i : Nat) :
    (f.perform (.clone i)).OnShelf (shelf.addClone i) firsts := by
  have htotal : (f.perform (.clone i)).total = f.total := total_of_not_made rfl
  have hadvances : (f.perform (.clone i)).advances = f.advances := List.append_nil _
  have hmembers : (f.perform (.clone i)).members = f.members ++ f.members[i]?.toList := rfl
  have helapsed : (shelf.addClone i).elapsed = shelf.elapsed := by
    unfold ClockShelf.addClone
    split <;> rfl
  refine ⟨h.nodup, ?_, ?_, ?_, ?_⟩
  · intro first hf
    rw [hmembers, List.length_append]
    have := h.lt first hf
    omega
  · rw [hadvances]
    exact h.advanced
  · rw [helapsed, htotal]
    exact h.elapsed
  · rw [hmembers]
    unfold ClockShelf.addClone
    rcases h.paired i with ⟨handle, member, hhandle, hmember, hs⟩ | ⟨hhandle, hmember⟩
    · rw [hhandle, hmember]
      exact List.rel_append h.handles (.cons hs .nil)
    · rw [hhandle, hmember]
      simpa using h.handles

/-- An advance moves the clock of one family. -/
theorem advance (h : f.OnShelf shelf firsts) (i : Nat) (step : Duration) :
    (f.perform (.advance i step)).OnShelf (shelf.advance i step) firsts := by
  have hmembers := f.members_advance i step
  rcases h.paired i with ⟨handle, member, hhandle, hmember, hs⟩ | ⟨hhandle, hmember⟩
  · have hmade := made_advance hmember step
    have hshelf : shelf.advance i step =
        { shelf with elapsed := shelf.elapsed.modify handle.family (ManualClock.moved · step) } := by
      unfold ClockShelf.advance
      rw [hhandle]
    rw [hshelf]
    refine ⟨h.nodup, ?_, ?_, ?_, ?_⟩
    · rw [hmembers]
      exact h.lt
    · intro advance ha
      rw [perform, hmade] at ha
      rcases List.mem_append.1 ha with ha | ha
      · exact h.advanced advance ha
      · obtain rfl : advance = (member.first, step) := by simpa using ha
        exact List.mem_of_getElem? hs.family
    · refine List.ext_getElem? fun j => ?_
      show (shelf.elapsed.modify _ _)[j]? = _
      rw [List.getElem?_modify, h.elapsed, List.getElem?_map, List.getElem?_map]
      cases hj : firsts[j]? with
      | none => rfl
      | some first =>
        refine congrArg some ?_
        show (if handle.family = j then ManualClock.moved (ManualClock.capped (f.total first)) step
          else ManualClock.capped (f.total first)) = ManualClock.capped (Families.total _ first)
        rw [total_of_made hmade]
        by_cases hfamily : handle.family = j
        · obtain rfl : member.first = first := by
            rw [← hfamily, hs.family] at hj
            exact Option.some.inj hj
          rw [if_pos hfamily, if_pos rfl, ManualClock.moved_capped]
        · -- no two families share a clock
          have hne : member.first ≠ first := by
            rintro rfl
            have hlt := (List.getElem?_eq_some_iff.1 hs.family).1
            exact hfamily ((List.getElem?_inj hlt h.nodup).1 (hs.family.trans hj.symm))
          rw [if_neg hfamily, if_neg hne]
          rfl
    · rw [hmembers]
      exact h.handles
  · have hmade : made f.members (.advance i step) = none := by
      rw [made, hmember]
      rfl
    have hshelf : shelf.advance i step = shelf := by
      unfold ClockShelf.advance
      rw [hhandle]
    have hf : f.perform (.advance i step) = f := by
      unfold perform
      rw [hmade]
      simp [joined]
    rw [hshelf, hf]
    exact h

end OnShelf

/-- Whatever is done with handles, the shelf keeps a clock for each family. -/
theorem onShelf_after (ops : List ClockOp) : ∃ firsts, (after ops).OnShelf (ClockShelf.after ops) firsts := by
  induction ops using List.reverseRecOn with
  | nil => exact ⟨[], List.nodup_nil, nofun, nofun, rfl, .nil⟩
  | append_singleton ops op ih =>
    obtain ⟨firsts, h⟩ := ih
    rw [after_concat, ClockShelf.after_concat]
    cases op with
    | fresh origin wallOrigin => exact ⟨_, h.fresh origin wallOrigin⟩
    | clone i => exact ⟨_, h.clone i⟩
    | advance i step => exact ⟨_, h.advance i step⟩

/-- The handles show the clocks of their families. -/
theorem clock?_after (ops : List ClockOp) (i : Nat) :
    (ClockShelf.after ops).clock? i = (after ops).members[i]?.map (after ops).clock := by
  obtain ⟨firsts, h⟩ := onShelf_after ops
  exact h.clock? i

/-! ## Where clocks start -/

/-- Every clock has started as a fresh one. -/
theorem fresh_of_mem {ops : List ClockOp} {member : Member} (h : member ∈ (after ops).members) :
    .fresh member.origin member.wallOrigin ∈ ops := by
  induction ops using List.reverseRecOn with
  | nil => cases h
  | append_singleton ops op ih =>
    rw [after_concat] at h
    rcases List.mem_append.1 h with h | h
    · exact List.mem_append_left _ (ih h)
    · cases op with
      | fresh origin wallOrigin =>
        obtain rfl : member = ⟨_, origin, wallOrigin⟩ := by simpa [joined] using h
        exact List.mem_append_right _ (List.mem_singleton_self _)
      | clone i =>
        have hi : (after ops).members[i]? = some member := by simpa [joined] using h
        exact List.mem_append_left _ (ih (List.mem_of_getElem? hi))
      | advance => cases h

/-! ## More and more -/

/-- Later there are the same handles and perhaps more, and no family has gone back. -/
theorem after_append (ops more : List ClockOp) :
    (after ops).members <+: (after (ops ++ more)).members ∧
      ∀ first, (after ops).total first ≤ (after (ops ++ more)).total first := by
  induction more using List.reverseRecOn with
  | nil =>
    rw [List.append_nil]
    exact ⟨List.prefix_rfl, fun _ => Nat.le_refl _⟩
  | append_singleton more op ih =>
    obtain ⟨hmembers, htotal⟩ := ih
    rw [← List.append_assoc, after_concat]
    constructor
    · exact hmembers.trans (List.prefix_append _ _)
    · intro first
      exact Nat.le_trans (htotal first) (total_le _ op first)

/-! ## The order of advances -/

/-- Only handles that are there are used. -/
def Sound (ops : List ClockOp) : Prop :=
  ∀ before op rest, ops = before ++ op :: rest → ∀ i ∈ op.uses?, i < (after before).members.length

/-- The families depend on how handles were made, and not on their advances. -/
theorem members_after_filter (ops : List ClockOp) :
    (after (ops.filter ClockOp.makes)).members = (after ops).members := by
  induction ops using List.reverseRecOn with
  | nil => rfl
  | append_singleton ops op ih =>
    rw [List.filter_append, after_concat]
    cases op with
    | fresh | clone =>
      show (after (ops.filter ClockOp.makes ++ [_])).members = _
      rw [after_concat, perform, perform, ih]
    | advance i step =>
      show (after (ops.filter ClockOp.makes ++ [])).members = _
      rw [List.append_nil, ih]
      exact (List.append_nil _).symm

/-- The advances that were made may be told by looking at the families in the end. -/
theorem advances_of_sound {ops : List ClockOp} (h : Sound ops) (later : List Member) :
    (after ops).advances = ops.filterMap (made ((after ops).members ++ later)) := by
  induction ops using List.reverseRecOn generalizing later with
  | nil => rfl
  | append_singleton ops op ih =>
    obtain ⟨hops, hop⟩ := forall_splits_concat.1 h
    have hmade : made ((after ops).members ++ ((joined (after ops).members op).toList ++ later)) op =
        made (after ops).members op := by
      cases op with
      | advance i step => rw [made, made, List.getElem?_append_left (hop i rfl)]
      | fresh | clone => rfl
    rw [after_concat, List.filterMap_append]
    show (after ops).advances ++ (made (after ops).members op).toList = _
    rw [perform, List.append_assoc, ← ih hops, ← hmade]
    cases hm : made ((after ops).members ++ ((joined (after ops).members op).toList ++ later)) op with
    | none => simp [hm]
    | some advance => simp [hm]

/-- However advances are ordered among each other and among clones, every family has the same sum. -/
theorem after_of_perm {ops ops' : List ClockOp} (h : Sound ops) (h' : Sound ops') (hp : ops'.Perm ops)
    (hm : ops'.filter ClockOp.makes = ops.filter ClockOp.makes) :
    (after ops').members = (after ops).members ∧ ∀ first, (after ops').total first = (after ops).total first := by
  have hmembers : (after ops').members = (after ops).members := by
    rw [← members_after_filter ops', hm, members_after_filter]
  refine ⟨hmembers, fun first => ?_⟩
  have hadvances : (after ops').advances.Perm (after ops).advances := by
    rw [advances_of_sound h [], advances_of_sound h' [], hmembers]
    exact hp.filterMap _
  exact ((hadvances.filter _).map _).sum_nat

/-! ## What clocks show -/

/-- The clock has moved by so many nanoseconds, up to its limit, and shows its origins plus that, on both scales.
Neither sum goes too far to be shown, and the time fits into 64 bits of milliseconds with a sign. -/
structure Shows (clock : ManualClock) (member : Member) (nanos : Nat) : Prop where
  elapsed : clock.elapsed.nanos = min ManualClock.maxOffset.nanos nanos
  now : member.origin.add? clock.elapsed = some clock.now
  wallNow : member.wallOrigin.add? clock.elapsed = some clock.wallNow
  nanos_now : clock.now.nanos = member.origin.nanos + clock.elapsed.nanos
  nanos_wallNow : clock.wallNow.nanosSinceEpoch = member.wallOrigin.nanosSinceEpoch + clock.elapsed.nanos
  millis_lt : clock.elapsed.millis < 9223372036854775808

/-- All clocks can be moved to their limit. -/
def Ample (ops : List ClockOp) : Prop :=
  ∀ origin wallOrigin, .fresh origin wallOrigin ∈ ops →
    (origin.add? ManualClock.maxOffset).isSome = true ∧ (wallOrigin.add? ManualClock.maxOffset).isSome = true

theorem Ample.roomy {ops : List ClockOp} (h : Ample ops) {member : Member} (hm : member ∈ (after ops).members)
    (f : Families) : (f.clock member).Roomy :=
  have hfar := h _ _ (fresh_of_mem hm)
  ⟨hfar.1, hfar.2, ManualClock.capped_le _⟩

theorem shows_clock {member : Member} (h : (f.clock member).Roomy) :
    Shows (f.clock member) member (f.total member.first) := by
  have hwithin : (f.clock member).elapsed.nanos ≤ 100 * 365 * 24 * 60 * 60 * 1000000000 := h.within
  refine ⟨rfl, ?_, ?_, h.nanos_now, h.nanos_wallNow, ?_⟩
  · have hfar := Instant.isSome_add?.1 h.far
    have hlt : (f.clock member).origin.nanos + (f.clock member).elapsed.nanos < Instant.limit.nanos :=
      Nat.lt_of_le_of_lt (Nat.add_le_add_left h.within _) hfar
    have hadd := Instant.add?_of_lt hlt
    rw [ManualClock.now, hadd]
    exact hadd
  · obtain ⟨later, hadd⟩ := Option.isSome_iff_exists.1 (Timestamp.isSome_add?_of_le h.wallFar h.within)
    rw [ManualClock.wallNow, hadd]
    exact hadd
  · unfold Duration.millis
    omega

/-- An advance moves the clocks of one family, and all of these. -/
theorem clock_of_advance {i : Nat} {member : Member} (h : f.members[i]? = some member) (step : Duration)
    (other : Member) : (f.perform (.advance i step)).clock other =
      if other.first = member.first then (f.clock other).advance step else f.clock other := by
  have hmade := made_advance h step
  unfold clock
  rw [total_of_made hmade]
  by_cases hf : other.first = member.first
  · rw [if_pos hf, if_pos hf.symm, ManualClock.advance, ManualClock.moved_capped]
  · rw [if_neg hf, if_neg (Ne.symm hf)]
    rfl

/-- Later a clock shows no less than before. -/
theorem Ample.le_later {ops : List ClockOp} (h : Ample ops) (more : List ClockOp) {i : Nat} {member : Member}
    (hm : (after ops).members[i]? = some member) :
    let clock := (after ops).clock member
    let later := (after (ops ++ more)).clock member
    (after (ops ++ more)).members[i]? = some member ∧ clock.elapsed ≤ later.elapsed ∧
      clock.now.nanos ≤ later.now.nanos ∧ clock.wallNow.nanosSinceEpoch ≤ later.wallNow.nanosSinceEpoch := by
  intro clock later
  obtain ⟨hmembers, htotal⟩ := after_append ops more
  have hmem := List.mem_of_getElem? hm
  have hle : clock.elapsed.nanos ≤ later.elapsed.nanos := ManualClock.capped_mono (htotal member.first)
  have horigin : later.origin = clock.origin := rfl
  have hwall : later.wallOrigin = clock.wallOrigin := rfl
  have hroomy : clock.Roomy := h.roomy hmem _
  have hroomy' : later.Roomy := h.roomy hmem _
  refine ⟨?_, hle, ?_, ?_⟩
  · obtain ⟨rest, hrest⟩ := hmembers
    rw [← hrest, List.getElem?_append_left (List.getElem?_eq_some_iff.1 hm).1]
    exact hm
  · rw [hroomy.nanos_now, hroomy'.nanos_now, horigin]
    omega
  · rw [hroomy.nanos_wallNow, hroomy'.nanos_wallNow, hwall]
    omega

end Families

/-- A clock that is moved by hand is a shared, capped and monotone sum. Whatever is done with handles, in any
order, each of them shows the clock of its family: it has moved by the exact sum of all advances that were made
through any clone, before or after the handle was made, up to the limit, and it shows exactly its origins plus
that. Whatever is done later, no reading goes back. If the same is done with the advances in another order, the
same is shown. An advance moves the clocks of its family and no other. It does not matter that times are limited,
too, and that their sums stop at the longest time. -/
theorem clocks_show_capped_sums {ops : List ClockOp} (h : Families.Ample ops) :
    let shelf := ClockShelf.after ops
    let families := Families.after ops
    shelf.handles.length = families.members.length ∧
    (∀ i clock, shelf.clock? i = some clock → ∃ member, families.members[i]? = some member ∧
      Families.Shows clock member (families.total member.first)) ∧
    (∀ more i clock, shelf.clock? i = some clock → ∃ later, (ClockShelf.after (ops ++ more)).clock? i = some later ∧
      clock.elapsed ≤ later.elapsed ∧ clock.now.nanos ≤ later.now.nanos ∧
      clock.wallNow.nanosSinceEpoch ≤ later.wallNow.nanosSinceEpoch) ∧
    (∀ ops', Families.Sound ops → Families.Sound ops' → ops'.Perm ops →
      ops'.filter ClockOp.makes = ops.filter ClockOp.makes →
      ∀ i, (ClockShelf.after ops').clock? i = shelf.clock? i) ∧
    (∀ i member, families.members[i]? = some member → ∀ step j other, families.members[j]? = some other →
      (shelf.advance i step).clock? j =
        if other.first = member.first then (shelf.clock? j).map (·.advance step) else shelf.clock? j) ∧
    ∀ elapsed step, ManualClock.moved elapsed step = min (elapsed.saturatingAdd step) ManualClock.maxOffset := by
  intro shelf families
  obtain ⟨firsts, hshelf⟩ := Families.onShelf_after ops
  have hmember : ∀ i clock, shelf.clock? i = some clock →
      ∃ member, families.members[i]? = some member ∧ families.clock member = clock := by
    intro i clock hc
    rw [hshelf.clock? i] at hc
    exact Option.map_eq_some_iff.1 hc
  refine ⟨hshelf.handles.length_eq, ?_, ?_, ?_, ?_, ManualClock.moved_eq_saturating⟩
  · intro i clock hc
    obtain ⟨member, hm, rfl⟩ := hmember i clock hc
    exact ⟨member, hm, Families.shows_clock (h.roomy (List.mem_of_getElem? hm) _)⟩
  · intro more i clock hc
    obtain ⟨member, hm, rfl⟩ := hmember i clock hc
    obtain ⟨hm', hle⟩ := h.le_later more hm
    refine ⟨_, ?_, hle⟩
    rw [Families.clock?_after, hm']
    rfl
  · intro ops' hs hs' hp hmakes i
    obtain ⟨hmembers, htotal⟩ := Families.after_of_perm hs hs' hp hmakes
    have hclock : (Families.after ops').clock = families.clock := by
      funext member
      unfold Families.clock
      rw [htotal]
    rw [Families.clock?_after, hmembers, hclock, hshelf.clock? i]
  · intro i member hm step j other ho
    rw [(hshelf.advance i step).clock? j, hshelf.clock? j, families.members_advance i step, ho]
    show some _ = if _ then some _ else some _
    rw [Families.clock_of_advance hm]
    split <;> rfl

/-- A handle and its clone are moved by a quarter of a second each, and another clock is moved beyond its limit. -/
def ClockShelf.moves : List ClockOp :=
  [.fresh ⟨0⟩ .epoch, .advance 0 (.ofMillis 250), .clone 0, .fresh ⟨7⟩ .epoch, .advance 2 .longest,
    .advance 1 (.ofMillis 250)]

theorem ClockShelf.ample_moves : Families.Ample moves := by
  intro origin wallOrigin h
  rcases (by simpa [moves] using h : (origin = ⟨0⟩ ∧ wallOrigin = .epoch) ∨ (origin = ⟨7⟩ ∧ wallOrigin = .epoch)) with
    ⟨rfl, rfl⟩ | ⟨rfl, rfl⟩
  · decide
  · decide

/-- The clone was made after the first advance, and yet it shows both. The other clock has stopped at its limit. -/
theorem clocks_show_capped_sums_moves :
    let shelf := ClockShelf.after ClockShelf.moves
    Families.Ample ClockShelf.moves ∧
    (∃ clock, shelf.clock? 1 = some clock ∧ clock.elapsed = .ofMillis 500 ∧ clock.now.nanos = 500000000) ∧
    ∃ clock, shelf.clock? 2 = some clock ∧ clock.elapsed = ManualClock.maxOffset ∧
      clock.now.nanos = 7 + ManualClock.maxOffset.nanos := by
  intro shelf
  obtain ⟨-, hshows, -⟩ := clocks_show_capped_sums ClockShelf.ample_moves
  obtain ⟨clone, hclone, hshown⟩ := hshows 1 _ rfl
  obtain ⟨other, hother, hshown'⟩ := hshows 2 _ rfl
  obtain rfl : clone = ⟨0, ⟨0⟩, .epoch⟩ := (Option.some.inj hclone).symm
  obtain rfl : other = ⟨2, ⟨7⟩, .epoch⟩ := (Option.some.inj hother).symm
  refine ⟨ClockShelf.ample_moves, ⟨_, rfl, ?_, ?_⟩, _, rfl, ?_, ?_⟩
  · exact congrArg Duration.mk hshown.elapsed
  · rw [hshown.nanos_now, hshown.elapsed]
    rfl
  · exact congrArg Duration.mk hshown'.elapsed
  · rw [hshown'.nanos_now, hshown'.elapsed]
    rfl

end CircuitBreaker
