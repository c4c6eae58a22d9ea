import TradingAdvisor.Core.ZoneInfo

/-!
# Local times

A time zone read in both directions: the offset at an instant, and the two offsets with which a wall
time is read. The standard readings are the right ones where a wall time occurs, and those around
the gap where it does not. A wall time is resolved only when it occurs exactly once.

* `TzInfo`, `TzInfo.FollowsPep495` — a zone and the standard readings;
* `TzInfo.resolveUnambiguousUtc`, `normalizeMt5ServerTimestamp` — the resolution;
* **`TzInfo.resolvesExactly_of_pep495`**: it finds the one instant of a wall time, or raises;
* **`ZoneInfo.followsPep495_of_apart`**: binary search among the transitions gives the standard
  readings, as long as the windows of the transitions are apart.
-/

namespace TradingAdvisor

/-- A time zone: its offset at an instant, and its offset at a wall time. -/
structure TzInfo where
  offset : Timestamp → ℤ
  utcoffset : Fold → ℤ → ℤ

namespace TzInfo

variable (zone : TzInfo)

/-- The wall time at an instant. -/
def wallClock (t : Timestamp) : ℤ := t + zone.offset t

/-- The instant of a wall time in one of its readings. -/
def toUtc (fold : Fold) (wall : ℤ) : Timestamp := wall - zone.utcoffset fold wall

/-- The instant of a wall time that exists exactly once. -/
def resolveUnambiguousUtc (wall : ℤ) : Except ZoneInfo.WallTimeError Timestamp :=
  if zone.utcoffset .zero wall = zone.utcoffset .one wall then .ok (zone.toUtc .zero wall)
  else if zone.wallClock (zone.toUtc .zero wall) = wall ∧
      zone.wallClock (zone.toUtc .one wall) = wall then .error .ambiguous
  else .error .nonexistent

/-- The instant of a server time: its epoch seconds are the digits of a wall time. -/
def normalizeMt5ServerTimestamp (rawEpochSeconds : ℤ) : Except ZoneInfo.WallTimeError Timestamp :=
  zone.resolveUnambiguousUtc (rawEpochSeconds * 1000000)

/-- The only instant with this wall time. -/
def OnlyInstant (wall : ℤ) (u : Timestamp) : Prop := ∀ t, zone.wallClock t = wall ↔ t = u

/-- The readings of PEP 495: a wall time that occurs once is read as its instant, one that occurs
again as an earlier and as a later one, and one that is skipped with the offsets before and after
the transition that skips it. -/
structure FollowsPep495 : Prop where
  once : ∀ wall u, zone.OnlyInstant wall u → ∀ fold, zone.utcoffset fold wall = zone.offset u
  repeated : ∀ wall t t', t < t' → zone.wallClock t = wall → zone.wallClock t' = wall →
    zone.wallClock (zone.toUtc .zero wall) = wall ∧ zone.wallClock (zone.toUtc .one wall) = wall ∧
      zone.toUtc .zero wall < zone.toUtc .one wall
  skipped : ∀ wall, (∀ t, zone.wallClock t ≠ wall) → ∃ instant : Timestamp,
    instant + zone.offset (instant - 1) ≤ wall ∧ wall < instant + zone.offset instant ∧
      zone.utcoffset .zero wall = zone.offset (instant - 1) ∧
      zone.utcoffset .one wall = zone.offset instant

/-- A wall time is resolved to its only instant, and to none where it is skipped or repeated. -/
structure ResolvesExactly : Prop where
  resolves : ∀ wall u, zone.resolveUnambiguousUtc wall = .ok u ↔ zone.OnlyInstant wall u
  skipped : ∀ wall, (∀ t, zone.wallClock t ≠ wall) →
    zone.resolveUnambiguousUtc wall = .error .nonexistent
  repeated : ∀ wall t t', t ≠ t' → zone.wallClock t = wall → zone.wallClock t' = wall →
    zone.resolveUnambiguousUtc wall = .error .ambiguous
  server : ∀ raw u, zone.normalizeMt5ServerTimestamp raw = .ok u ↔
    zone.OnlyInstant (raw * 1000000) u

variable {zone} {wall : ℤ} {u t t' : Timestamp}

theorem resolve_of_once (h : zone.FollowsPep495) (hu : zone.OnlyInstant wall u) :
    zone.resolveUnambiguousUtc wall = .ok u := by
  have hread := h.once wall u hu
  have hclock : u + zone.offset u = wall := (hu u).mpr rfl
  unfold resolveUnambiguousUtc
  rw [if_pos ((hread .zero).trans (hread .one).symm), toUtc, hread .zero, ← hclock,
    add_sub_cancel_right]

theorem resolve_of_repeated (h : zone.FollowsPep495) (hlt : t < t') (ht : zone.wallClock t = wall)
    (ht' : zone.wallClock t' = wall) : zone.resolveUnambiguousUtc wall = .error .ambiguous := by
  obtain ⟨hzero, hone, hreadings⟩ := h.repeated wall t t' hlt ht ht'
  have hdiffer : zone.utcoffset .zero wall ≠ zone.utcoffset .one wall := by
    intro hsame
    rw [toUtc, toUtc, hsame] at hreadings
    exact lt_irrefl _ hreadings
  unfold resolveUnambiguousUtc
  rw [if_neg hdiffer, if_pos ⟨hzero, hone⟩]

theorem resolve_of_skipped (h : zone.FollowsPep495) (hskipped : ∀ t, zone.wallClock t ≠ wall) :
    zone.resolveUnambiguousUtc wall = .error .nonexistent := by
  obtain ⟨instant, hbefore, hafter, hzero, hone⟩ := h.skipped wall hskipped
  have hdiffer : zone.utcoffset .zero wall ≠ zone.utcoffset .one wall := by
    rw [hzero, hone]
    intro hsame
    rw [hsame] at hbefore
    exact absurd hafter (not_lt.mpr hbefore)
  unfold resolveUnambiguousUtc
  rw [if_neg hdiffer, if_neg fun hcon => hskipped _ hcon.1]

/-- **Local time resolution is exact** in every zone with the standard readings. -/
theorem resolvesExactly_of_pep495 (zone : TzInfo) (h : zone.FollowsPep495) :
    zone.ResolvesExactly := by
  have hresolves (wall : ℤ) (u : Timestamp) :
      zone.resolveUnambiguousUtc wall = .ok u ↔ zone.OnlyInstant wall u := by
    refine ⟨fun hok => ?_, resolve_of_once h⟩
    by_cases hoccurs : ∃ t, zone.wallClock t = wall
    · obtain ⟨t, ht⟩ := hoccurs
      have honly : zone.OnlyInstant wall t := by
        refine fun t' => ⟨fun ht' => ?_, fun heq => heq ▸ ht⟩
        by_contra hne
        rcases lt_or_gt_of_ne hne with hlt | hlt
        · rw [resolve_of_repeated h hlt ht' ht] at hok
          cases hok
        · rw [resolve_of_repeated h hlt ht ht'] at hok
          cases hok
      rw [resolve_of_once h honly] at hok
      cases hok
      exact honly
    · rw [resolve_of_skipped h (not_exists.mp hoccurs)] at hok
      cases hok
  refine ⟨hresolves, fun wall => resolve_of_skipped h, fun wall t t' hne ht ht' => ?_,
    fun raw u => hresolves (raw * 1000000) u⟩
  rcases lt_or_gt_of_ne hne with hlt | hlt
  · exact resolve_of_repeated h hlt ht ht'
  · exact resolve_of_repeated h hlt ht' ht

end TzInfo

/-! ## Binary search among the transitions -/

namespace ZoneInfo

open Bisect

variable (zone : ZoneInfo)

/-- The zone with the readings that binary search gives. -/
def toTzInfo : TzInfo where
  offset t := zone.offsetAt (zone.segment t)
  utcoffset := zone.utcoffset

/-- The window of a transition, in which wall times are skipped or repeated, is over before the next
one begins. -/
def Apart : Prop :=
  ∀ i, i + 1 < zone.size → zone.localTransition .zero i ≤ zone.localTransition .one (i + 1)

/-- The wall time is shown between transition `p - 1` and transition `p`. -/
def ShownIn (p : ℕ) (wall : ℤ) : Prop :=
  p ≤ zone.size ∧ (∀ i, p = i + 1 → zone.instantAt i + zone.offsetAt (i + 1) ≤ wall) ∧
    (p < zone.size → wall < zone.instantAt p + zone.offsetAt p)

variable {zone} {wall t : ℤ} {i j p : ℕ}

theorem segment_of_shownIn (h : zone.ShownIn p wall) :
    zone.segment (wall - zone.offsetAt p) = p := by
  obtain ⟨hsize, hafter, hbefore⟩ := h
  have hle : zone.segment (wall - zone.offsetAt p) ≤ p := by
    by_cases hp : p < zone.size
    · rw [segment_le_iff hp]
      have := hbefore hp
      omega
    · exact segment_le_size.trans (not_lt.mp hp)
  rcases p with _ | i
  · omega
  · have hnot : ¬ zone.segment (wall - zone.offsetAt (i + 1)) ≤ i := by
      rw [segment_le_iff (by omega)]
      have := hafter i rfl
      omega
    omega

theorem localTime_eq_iff :
    zone.localTime t = wall ↔ ∃ p, zone.ShownIn p wall ∧ t = wall - zone.offsetAt p := by
  constructor
  · intro h
    unfold localTime at h
    refine ⟨zone.segment t, ⟨segment_le_size, fun i hi => ?_, fun hlt => ?_⟩, by omega⟩
    · have hinstant := instantAt_le_of_segment hi
      rw [hi] at h
      omega
    · have hinstant := (segment_le_iff hlt).mp le_rfl
      omega
  · rintro ⟨p, hshown, rfl⟩
    unfold localTime
    rw [segment_of_shownIn hshown]
    omega

theorem localTransition_one_le : zone.localTransition .one i ≤ zone.localTransition .zero i := by
  have h := min_le_max (a := zone.offsetAt i) (b := zone.offsetAt (i + 1))
  simp only [localTransition]
  omega

theorem Apart.mono (h : zone.Apart) (fold : Fold) (hij : i ≤ j) (hj : j < zone.size) :
    zone.localTransition fold i ≤ zone.localTransition fold j := by
  induction j, hij using Nat.le_induction with
  | base => exact le_rfl
  | succ j hij ih =>
      have hprev := ih (by omega)
      have hapart := h j hj
      have hj' : zone.localTransition .one j ≤ zone.localTransition .zero j :=
        localTransition_one_le
      have hnext : zone.localTransition .one (j + 1) ≤ zone.localTransition .zero (j + 1) :=
        localTransition_one_le
      cases fold <;> omega

theorem Apart.localSegment_le_iff (h : zone.Apart) (fold : Fold) (wall : ℤ) (hi : i < zone.size) :
    zone.localSegment fold wall ≤ i ↔ wall < zone.localTransition fold i :=
  bisectRight_le_iff (fun _ _ hij hj hlt => hlt.trans_le (h.mono fold hij hj)) hi

theorem Apart.localSegment_le_size (h : zone.Apart) (fold : Fold) (wall : ℤ) :
    zone.localSegment fold wall ≤ zone.size :=
  bisectRight_le_length fun _ _ hij hj hlt => hlt.trans_le (h.mono fold hij hj)

/-- The two readings are at most one transition apart. -/
theorem Apart.localSegment_le (h : zone.Apart) (wall : ℤ) :
    zone.localSegment .zero wall ≤ zone.localSegment .one wall ∧
      zone.localSegment .one wall ≤ zone.localSegment .zero wall + 1 := by
  have hzero := h.localSegment_le_size .zero wall
  have hone := h.localSegment_le_size .one wall
  constructor
  · by_cases hlt : zone.localSegment .one wall < zone.size
    · rw [h.localSegment_le_iff .zero wall hlt]
      exact ((h.localSegment_le_iff .one wall hlt).mp le_rfl).trans_le localTransition_one_le
    · omega
  · by_cases hlt : zone.localSegment .zero wall + 1 < zone.size
    · rw [h.localSegment_le_iff .one wall hlt]
      exact ((h.localSegment_le_iff .zero wall (by omega)).mp le_rfl).trans_le (h _ hlt)
    · omega

/-- A wall time is shown only where one of its readings places it. -/
theorem Apart.readings_of_shownIn (h : zone.Apart) (hshown : zone.ShownIn p wall) :
    zone.localSegment .zero wall ≤ p ∧ p ≤ zone.localSegment .one wall := by
  obtain ⟨hsize, hafter, hbefore⟩ := hshown
  constructor
  · by_cases hp : p < zone.size
    · rw [h.localSegment_le_iff .zero wall hp]
      have hlt := hbefore hp
      have hmax := le_max_left (zone.offsetAt p) (zone.offsetAt (p + 1))
      simp only [localTransition]
      omega
    · exact (h.localSegment_le_size .zero wall).trans (not_lt.mp hp)
  · rcases p with _ | i
    · exact Nat.zero_le _
    · have hnot : ¬ zone.localSegment .one wall ≤ i := by
        rw [h.localSegment_le_iff .one wall (by omega)]
        have hle := hafter i rfl
        have hmin := min_le_right (zone.offsetAt i) (zone.offsetAt (i + 1))
        simp only [localTransition]
        omega
      omega

theorem Apart.shownIn_of_eq (h : zone.Apart) (hp : zone.localSegment .zero wall = p)
    (hp' : zone.localSegment .one wall = p) : zone.ShownIn p wall := by
  refine ⟨hp ▸ h.localSegment_le_size .zero wall, fun i hi => ?_, fun hlt => ?_⟩
  · have hsize : i < zone.size := by
      have := h.localSegment_le_size .zero wall
      omega
    have hnot := (h.localSegment_le_iff .zero wall hsize).not.mp (by omega)
    have hmax := le_max_right (zone.offsetAt i) (zone.offsetAt (i + 1))
    simp only [localTransition] at hnot
    omega
  · have hlow := (h.localSegment_le_iff .one wall hlt).mp hp'.le
    have hmin := min_le_left (zone.offsetAt p) (zone.offsetAt (p + 1))
    simp only [localTransition] at hlow
    omega

/-- Where they differ, the wall time lies in the window of the transition between them. -/
theorem Apart.window_of_ne (h : zone.Apart) (hp : zone.localSegment .zero wall = p)
    (hp' : zone.localSegment .one wall = p + 1) :
    p < zone.size ∧ zone.localTransition .one p ≤ wall ∧ wall < zone.localTransition .zero p := by
  have hsize : p < zone.size := by
    have := h.localSegment_le_size .one wall
    omega
  refine ⟨hsize, ?_, (h.localSegment_le_iff .zero wall hsize).mp hp.le⟩
  exact not_lt.mp ((h.localSegment_le_iff .one wall hsize).not.mp (by omega))

/-- In the window of a fold the wall time is shown before and after the transition. -/
theorem Apart.shownIn_of_fold (h : zone.Apart) (hp : zone.localSegment .zero wall = p)
    (hp' : zone.localSegment .one wall = p + 1) (hfold : zone.offsetAt (p + 1) < zone.offsetAt p) :
    zone.ShownIn p wall ∧ zone.ShownIn (p + 1) wall := by
  obtain ⟨hsize, hlow, hhigh⟩ := h.window_of_ne hp hp'
  simp only [localTransition, min_eq_right hfold.le, max_eq_left hfold.le] at hlow hhigh
  refine ⟨⟨hsize.le, fun i hi => ?_, fun _ => hhigh⟩, ⟨hsize, fun i hi => ?_, fun hlt => ?_⟩⟩
  · have hsize' : i < zone.size := by omega
    have hnot := (h.localSegment_le_iff .zero wall hsize').not.mp (by omega)
    have hmax := le_max_right (zone.offsetAt i) (zone.offsetAt (i + 1))
    simp only [localTransition] at hnot
    omega
  · obtain rfl : p = i := by omega
    exact hlow
  · have hnext := (h.localSegment_le_iff .one wall hlt).mp hp'.le
    have hmin := min_le_left (zone.offsetAt (p + 1)) (zone.offsetAt (p + 1 + 1))
    simp only [localTransition] at hnext
    omega

/-- In the window of a gap the wall time is not shown. -/
theorem Apart.not_shownIn_of_gap (h : zone.Apart) (hp : zone.localSegment .zero wall = p)
    (hp' : zone.localSegment .one wall = p + 1) (hgap : zone.offsetAt p < zone.offsetAt (p + 1))
    (q : ℕ) : ¬ zone.ShownIn q wall := by
  intro hshown
  obtain ⟨hsize, hlow, hhigh⟩ := h.window_of_ne hp hp'
  simp only [localTransition, min_eq_left hgap.le, max_eq_right hgap.le] at hlow hhigh
  obtain ⟨hle, hge⟩ := h.readings_of_shownIn hshown
  obtain rfl | rfl : q = p ∨ q = p + 1 := by omega
  · have := hshown.2.2 hsize
    omega
  · have := hshown.2.1 p rfl
    omega

theorem Apart.localTime_eq_iff_of_eq (h : zone.Apart) (hp : zone.localSegment .zero wall = p)
    (hp' : zone.localSegment .one wall = p) :
    zone.localTime t = wall ↔ t = wall - zone.offsetAt p := by
  rw [localTime_eq_iff]
  constructor
  · rintro ⟨q, hshown, rfl⟩
    obtain ⟨hle, hge⟩ := h.readings_of_shownIn hshown
    obtain rfl : q = p := by omega
    rfl
  · rintro rfl
    exact ⟨p, h.shownIn_of_eq hp hp', rfl⟩

/-- The two readings of a wall time: the same one, those before and after a fold, or those around a
gap. -/
theorem Apart.readings (h : zone.Apart) (wall : ℤ) :
    ∃ p, zone.localSegment .zero wall = p ∧
      (zone.localSegment .one wall = p ∨
        zone.localSegment .one wall = p + 1 ∧ zone.offsetAt (p + 1) < zone.offsetAt p ∨
        zone.localSegment .one wall = p + 1 ∧ zone.offsetAt p < zone.offsetAt (p + 1)) := by
  refine ⟨_, rfl, ?_⟩
  obtain ⟨hle, hge⟩ := h.localSegment_le wall
  rcases hle.eq_or_lt with heq | hlt
  · exact .inl heq.symm
  · have hnext : zone.localSegment .one wall = zone.localSegment .zero wall + 1 := by omega
    obtain ⟨-, hlow, hhigh⟩ := h.window_of_ne rfl hnext
    have hwindow := hlow.trans_lt hhigh
    simp only [localTransition] at hwindow
    rcases lt_trichotomy (zone.offsetAt (zone.localSegment .zero wall))
      (zone.offsetAt (zone.localSegment .zero wall + 1)) with hoffset | hoffset | hoffset
    · exact .inr (.inr ⟨hnext, hoffset⟩)
    · rw [hoffset, min_self, max_self] at hwindow
      exact absurd hwindow (lt_irrefl _)
    · exact .inr (.inl ⟨hnext, hoffset⟩)

/-- **Binary search gives the standard readings**, in a zone whose transitions are apart. -/
theorem followsPep495_of_apart (zone : ZoneInfo) (h : zone.Apart) :
    zone.toTzInfo.FollowsPep495 := by
  refine ⟨fun wall u hu fold => ?_, fun wall t t' hlt ht ht' => ?_, fun wall hskipped => ?_⟩
  · obtain ⟨p, hp, hsame | ⟨hnext, hfold⟩ | ⟨hnext, hgap⟩⟩ := h.readings wall
    · have hu' : u = wall - zone.offsetAt p :=
        (h.localTime_eq_iff_of_eq hp hsame).mp ((hu u).mpr rfl)
      have hoffset : zone.toTzInfo.offset u = zone.offsetAt p := by
        rw [hu']
        exact congrArg zone.offsetAt (segment_of_shownIn (h.shownIn_of_eq hp hsame))
      rw [hoffset]
      cases fold
      · exact congrArg zone.offsetAt hp
      · exact congrArg zone.offsetAt hsame
    · obtain ⟨hbefore, hafter⟩ := h.shownIn_of_fold hp hnext hfold
      have hfirst := (hu _).mp (localTime_eq_iff.mpr ⟨p, hbefore, rfl⟩)
      have hsecond := (hu _).mp (localTime_eq_iff.mpr ⟨p + 1, hafter, rfl⟩)
      exact absurd (hfirst.trans hsecond.symm) (sub_lt_sub_left hfold wall).ne
    · obtain ⟨q, hshown, -⟩ := localTime_eq_iff.mp ((hu u).mpr rfl)
      exact absurd hshown (h.not_shownIn_of_gap hp hnext hgap q)
  · obtain ⟨p, hp, hsame | ⟨hnext, hfold⟩ | ⟨hnext, hgap⟩⟩ := h.readings wall
    · have hfirst := (h.localTime_eq_iff_of_eq hp hsame).mp ht
      have hsecond := (h.localTime_eq_iff_of_eq hp hsame).mp ht'
      exact absurd (hfirst.trans hsecond.symm) hlt.ne
    · obtain ⟨hbefore, hafter⟩ := h.shownIn_of_fold hp hnext hfold
      have hzero : zone.toTzInfo.toUtc .zero wall = wall - zone.offsetAt p :=
        congrArg (fun n => wall - zone.offsetAt n) hp
      have hone : zone.toTzInfo.toUtc .one wall = wall - zone.offsetAt (p + 1) :=
        congrArg (fun n => wall - zone.offsetAt n) hnext
      rw [hzero, hone]
      exact ⟨localTime_eq_iff.mpr ⟨p, hbefore, rfl⟩, localTime_eq_iff.mpr ⟨p + 1, hafter, rfl⟩,
        sub_lt_sub_left hfold wall⟩
    · obtain ⟨q, hshown, -⟩ := localTime_eq_iff.mp ht
      exact absurd hshown (h.not_shownIn_of_gap hp hnext hgap q)
  · obtain ⟨p, hp, hsame | ⟨hnext, hfold⟩ | ⟨hnext, hgap⟩⟩ := h.readings wall
    · exact absurd ((h.localTime_eq_iff_of_eq hp hsame).mpr rfl) (hskipped _)
    · obtain ⟨hbefore, -⟩ := h.shownIn_of_fold hp hnext hfold
      exact absurd (localTime_eq_iff.mpr ⟨p, hbefore, rfl⟩) (hskipped _)
    · obtain ⟨hsize, hlow, hhigh⟩ := h.window_of_ne hp hnext
      have hbefore : zone.toTzInfo.offset (zone.instantAt p - 1) = zone.offsetAt p :=
        congrArg zone.offsetAt (segment_before_instantAt hsize)
      have hafter : zone.toTzInfo.offset (zone.instantAt p) = zone.offsetAt (p + 1) :=
        congrArg zone.offsetAt (segment_instantAt hsize)
      simp only [localTransition, min_eq_left hgap.le, max_eq_right hgap.le] at hlow hhigh
      refine ⟨zone.instantAt p, ?_, ?_, ?_, ?_⟩
      · rw [hbefore]
        exact hlow
      · rw [hafter]
        exact hhigh
      · rw [hbefore]
        exact congrArg zone.offsetAt hp
      · rw [hafter]
        exact congrArg zone.offsetAt hnext

end ZoneInfo

/-- A zone one hour ahead of UTC, and two hours from its first transition to its second one. -/
def summerZone : ZoneInfo where
  initialOffset := minutes 60
  transitions := [⟨minutes 1000, minutes 120⟩, ⟨minutes 5000, minutes 60⟩]
  increasing := by decide

theorem resolvesExactly_summerZone :
    summerZone.toTzInfo.ResolvesExactly ∧
      summerZone.resolveUnambiguousUtc (minutes 1070) = .error .nonexistent ∧
      summerZone.resolveUnambiguousUtc (minutes 5070) = .error .ambiguous := by
  have hapart : summerZone.Apart := by
    intro i hi
    have hsize : summerZone.size = 2 := rfl
    obtain rfl : i = 0 := by omega
    decide
  exact ⟨TzInfo.resolvesExactly_of_pep495 summerZone.toTzInfo
    (ZoneInfo.followsPep495_of_apart summerZone hapart), by decide +kernel, by decide +kernel⟩

end TradingAdvisor
