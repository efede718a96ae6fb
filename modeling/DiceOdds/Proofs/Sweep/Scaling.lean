import DiceOdds.Proofs.Numeric.Exact
import DiceOdds.Sweep.Basic
import Mathlib.Algebra.Order.Field.Basic
import Mathlib.Data.List.Flatten

/-!
# Scaling to the Peak

With exact numbers, scaling a series puts its peak at one.  A share of the peak grows with the
number (`shareOf_le_iff`), so the order of the entries is kept, and a scaled series has the share
of the peak for its own peak (`peak_map`).  From this it follows that scaling twice, or after
stretching, makes no difference.  A grid is scaled as the series of all its entries, row after row
(`flatten_normalizeGrid`), and keeps its shape; so what holds of series holds of grids.

**Main statement**: `curves_are_scaled_to_the_peak`.
-/

namespace DiceOdds

variable {ys : List ℚ} {top y z : ℚ}

/-! ## §1 Peaks -/

/-- The peak is the greatest entry. -/
theorem isGreatest_peak (h : ys ≠ []) : IsGreatest {y | y ∈ ys} (peak ys) := by
  obtain ⟨y, ys, rfl⟩ := List.exists_cons_of_ne_nil h
  have hmax : (y :: ys).max? = some (peak (y :: ys)) := List.max?_cons'
  obtain ⟨hmem, hle⟩ := List.max?_eq_some_iff.mp hmax
  exact ⟨hmem, hle⟩

theorem le_peak (h : y ∈ ys) : y ≤ peak ys := (isGreatest_peak (List.ne_nil_of_mem h)).2 h

/-- What grows with the entries has its peak where they have theirs. -/
theorem peak_map {f : ℚ → ℚ} (hf : Monotone f) (hzero : f 0 = 0) (ys : List ℚ) :
    peak (ys.map f) = f (peak ys) := by
  cases ys with
  | nil => exact hzero.symm
  | cons y ys =>
    show (ys.map f).foldl max (f y) = f (ys.foldl max y)
    rw [List.foldl_map]
    exact List.foldl_hom f fun x y => hf.map_max.symm

/-! ## §2 Shares -/

theorem Numeric.atMost_nought_iff : Numeric.atMost top Numeric.nought = true ↔ top ≤ 0 :=
  decide_eq_true_iff

theorem shareOf_of_nonpos (h : top ≤ 0) (y : ℚ) : shareOf top y = 0 :=
  if_pos (Numeric.atMost_nought_iff.mpr h)

theorem shareOf_of_pos (h : 0 < top) (y : ℚ) : shareOf top y = y / top :=
  if_neg fun hnought => absurd (Numeric.atMost_nought_iff.mp hnought) (not_le.mpr h)

@[simp] theorem shareOf_zero (top : ℚ) : shareOf top 0 = 0 := by
  rcases le_or_gt top 0 with htop | htop
  · exact shareOf_of_nonpos htop 0
  · rw [shareOf_of_pos htop, zero_div]

theorem shareOf_self (h : 0 < top) : shareOf top top = 1 := by
  rw [shareOf_of_pos h, div_self (ne_of_gt h)]

theorem shareOf_le_iff (h : 0 < top) : shareOf top y ≤ shareOf top z ↔ y ≤ z := by
  rw [shareOf_of_pos h, shareOf_of_pos h, div_le_div_iff_of_pos_right h]

theorem monotone_shareOf (top : ℚ) : Monotone (shareOf top) := by
  intro y z hyz
  rcases le_or_gt top 0 with htop | htop
  · rw [shareOf_of_nonpos htop, shareOf_of_nonpos htop]
  · exact (shareOf_le_iff htop).mpr hyz

/-- A share of a share is that share, for the peak has become one. -/
theorem shareOf_shareOf (top y : ℚ) :
    shareOf (shareOf top top) (shareOf top y) = shareOf top y := by
  rcases le_or_gt top 0 with htop | htop
  · rw [shareOf_of_nonpos htop y, shareOf_zero]
  · rw [shareOf_self htop, shareOf_of_pos one_pos, div_one]

theorem shareOf_mul {c : ℚ} (hc : 0 < c) (top y : ℚ) :
    shareOf (c * top) (c * y) = shareOf top y := by
  rcases le_or_gt top 0 with htop | htop
  · rw [shareOf_of_nonpos htop, shareOf_of_nonpos (mul_nonpos_of_nonneg_of_nonpos hc.le htop)]
  · rw [shareOf_of_pos htop, shareOf_of_pos (mul_pos hc htop), mul_div_mul_left _ _ (ne_of_gt hc)]

/-! ## §3 Series -/

/-- Numbers that are others, scaled so that the greatest of them is one. -/
structure ScaledToPeak (ys zs : List ℚ) : Prop where
  length : zs.length = ys.length
  between : ∀ z ∈ zs, 0 ≤ z ∧ z ≤ 1
  /-- Entries stand in the order in which they stood before, and tie where they tied. -/
  order : ∀ (i j : Nat) (y y' z z' : ℚ), ys[i]? = some y → ys[j]? = some y' →
    zs[i]? = some z → zs[j]? = some z' → (z < z' ↔ y < y') ∧ (z = z' ↔ y = y')
  one_mem : (∃ y ∈ ys, y ≠ 0) → 1 ∈ zs
  noughts : (∀ y ∈ ys, y = 0) → ∀ z ∈ zs, z = 0
  /-- An entry is the share that the number at its place has of the greatest number. -/
  share : ∀ top, IsGreatest {y | y ∈ ys} top → ∀ (i : Nat) (y z : ℚ),
    ys[i]? = some y → zs[i]? = some z → z * top = y

theorem peak_normalize (ys : List ℚ) : peak (normalize ys) = shareOf (peak ys) (peak ys) :=
  peak_map (monotone_shareOf _) (shareOf_zero _) ys

theorem normalize_normalize (ys : List ℚ) : normalize (normalize ys) = normalize ys := by
  rw [normalize, peak_normalize, normalize, List.map_map]
  exact List.map_congr_left fun y _ => shareOf_shareOf _ y

theorem normalize_map_mul {c : ℚ} (hc : 0 < c) (ys : List ℚ) :
    normalize (ys.map (c * ·)) = normalize ys := by
  have hpeak : peak (ys.map (c * ·)) = c * peak ys :=
    peak_map (fun y z hyz => mul_le_mul_of_nonneg_left hyz hc.le) (mul_zero c) ys
  rw [normalize, hpeak, normalize, List.map_map]
  exact List.map_congr_left fun y _ => shareOf_mul hc _ y

theorem getElem?_normalize {i : Nat} (hz : (normalize ys)[i]? = some z) (hy : ys[i]? = some y) :
    z = shareOf (peak ys) y := by
  rw [normalize, List.getElem?_map, hy] at hz
  exact (Option.some.inj hz).symm

theorem exists_of_mem_normalize (hz : z ∈ normalize ys) : ∃ y ∈ ys, z = shareOf (peak ys) y := by
  obtain ⟨y, hy, rfl⟩ := List.mem_map.mp hz
  exact ⟨y, hy, rfl⟩

/-- Where nothing is above nought there is nothing to scale to. -/
theorem scaledToPeak_of_noughts (hys : ∀ y ∈ ys, y = 0) : ScaledToPeak ys (normalize ys) := by
  have hzs : ∀ z ∈ normalize ys, z = 0 := by
    intro z hz
    obtain ⟨y, hy, rfl⟩ := exists_of_mem_normalize hz
    rw [hys y hy, shareOf_zero]
  exact {
    length := List.length_map _
    between := fun z hz => by simp [hzs z hz]
    order := fun i j y y' z z' hy hy' hz hz' => by
      simp [hys y (List.mem_of_getElem? hy), hys y' (List.mem_of_getElem? hy'),
        hzs z (List.mem_of_getElem? hz), hzs z' (List.mem_of_getElem? hz')]
    one_mem := fun ⟨y, hy, hne⟩ => absurd (hys y hy) hne
    noughts := fun _ => hzs
    share := fun top _ i y z hy hz => by
      rw [hys y (List.mem_of_getElem? hy), hzs z (List.mem_of_getElem? hz), zero_mul] }

theorem scaledToPeak_of_pos (hpos : ∀ y ∈ ys, 0 ≤ y) (hpeak : 0 < peak ys) :
    ScaledToPeak ys (normalize ys) where
  length := List.length_map _
  between z hz := by
    obtain ⟨y, hy, rfl⟩ := exists_of_mem_normalize hz
    rw [← shareOf_zero (peak ys), ← shareOf_self hpeak]
    exact ⟨monotone_shareOf _ (hpos y hy), monotone_shareOf _ (le_peak hy)⟩
  order i j y y' z z' hy hy' hz hz' := by
    rw [getElem?_normalize hz hy, getElem?_normalize hz' hy']
    refine ⟨lt_iff_lt_of_le_iff_le (shareOf_le_iff hpeak), ?_⟩
    rw [le_antisymm_iff, le_antisymm_iff, shareOf_le_iff hpeak, shareOf_le_iff hpeak]
  one_mem := by
    rintro ⟨y, hy, -⟩
    rw [← shareOf_self hpeak]
    exact List.mem_map_of_mem (isGreatest_peak (List.ne_nil_of_mem hy)).1
  noughts hys z hz := by
    obtain ⟨y, hy, rfl⟩ := exists_of_mem_normalize hz
    rw [hys y hy, shareOf_zero]
  share top htop i y z hy hz := by
    have hne : ys ≠ [] := List.ne_nil_of_mem (List.mem_of_getElem? hy)
    rw [htop.unique (isGreatest_peak hne), getElem?_normalize hz hy, shareOf_of_pos hpeak,
      div_mul_cancel₀ y (ne_of_gt hpeak)]

/-- **Non-negative numbers are scaled to their peak.** -/
theorem scaledToPeak_normalize (hpos : ∀ y ∈ ys, 0 ≤ y) : ScaledToPeak ys (normalize ys) := by
  rcases le_or_gt (peak ys) 0 with hpeak | hpeak
  · exact scaledToPeak_of_noughts fun y hy => le_antisymm ((le_peak hy).trans hpeak) (hpos y hy)
  · exact scaledToPeak_of_pos hpos hpeak

/-! ## §4 Grids -/

/-- All rows are of one width. -/
def Rectangular (rows : List (List ℚ)) : Prop := ∃ width, ∀ row ∈ rows, row.length = width

/-- Only the lengths of the rows matter. -/
theorem Rectangular.of_map_length {rows rows' : List (List ℚ)} (h : Rectangular rows)
    (hlength : rows'.map List.length = rows.map List.length) : Rectangular rows' := by
  obtain ⟨width, hwidth⟩ := h
  refine ⟨width, fun row' hrow' => ?_⟩
  have hmem : row'.length ∈ rows.map List.length := hlength ▸ List.mem_map_of_mem hrow'
  obtain ⟨row, hrow, heq⟩ := List.mem_map.mp hmem
  rw [← heq, hwidth row hrow]

theorem normalizeRows_of_rectangular {rows : List (List ℚ)} (h : Rectangular rows) :
    normalizeRows rows = .ok (normalizeGrid rows) := by
  obtain ⟨width, hwidth⟩ := h
  refine if_pos (List.all_eq_true.mpr fun row hrow => decide_eq_true ?_)
  obtain ⟨first, rest, rfl⟩ := List.exists_cons_of_ne_nil (List.ne_nil_of_mem hrow)
  rw [hwidth row hrow, List.headD_cons, hwidth first List.mem_cons_self]

/-- A grid is scaled as the series of its entries, row after row. -/
theorem flatten_normalizeGrid (rows : List (List ℚ)) :
    (normalizeGrid rows).flatten = normalize rows.flatten :=
  List.map_flatten.symm

theorem map_length_map_map (f : ℚ → ℚ) (rows : List (List ℚ)) :
    (rows.map (·.map f)).map List.length = rows.map List.length := by
  rw [List.map_map]
  exact List.map_congr_left fun row _ => List.length_map f

theorem map_length_normalizeGrid (rows : List (List ℚ)) :
    (normalizeGrid rows).map List.length = rows.map List.length :=
  map_length_map_map _ rows

theorem normalizeGrid_normalizeGrid (rows : List (List ℚ)) :
    normalizeGrid (normalizeGrid rows) = normalizeGrid rows := by
  rw [List.eq_iff_flatten_eq, map_length_normalizeGrid]
  refine ⟨?_, rfl⟩
  rw [flatten_normalizeGrid, flatten_normalizeGrid, normalize_normalize]

theorem normalizeGrid_map_mul {c : ℚ} (hc : 0 < c) (rows : List (List ℚ)) :
    normalizeGrid (rows.map (·.map (c * ·))) = normalizeGrid rows := by
  rw [List.eq_iff_flatten_eq, map_length_normalizeGrid, map_length_normalizeGrid,
    map_length_map_map]
  refine ⟨?_, rfl⟩
  rw [flatten_normalizeGrid, flatten_normalizeGrid, ← List.map_flatten, normalize_map_mul hc]

/-- **Curves are scaled to their peak.**  A series of numbers that are not below nought is scaled
to lie between nought and one, in its order and with its ties; one of its entries is one, unless all
of them are nought and stay so.  Scaling it twice, or stretching it before, makes no difference.
All of this holds of rectangular grids, which keep their shape and are scaled as the series of all
their entries, row after row; and so are the figures of a sweep. -/
theorem curves_are_scaled_to_the_peak :
    (∀ s : Series ℚ, (∀ y ∈ s.ys, 0 ≤ y) →
      ScaledToPeak s.ys s.normalized ∧
      Series.normalized { s with ys := s.normalized } = s.normalized ∧
      ∀ c : ℚ, 0 < c → Series.normalized { s with ys := s.ys.map (c * ·) } = s.normalized) ∧
    (∀ rows : List (List ℚ), Rectangular rows → (∀ row ∈ rows, ∀ y ∈ row, 0 ≤ y) →
      ∃ scaled, normalizeRows rows = .ok scaled ∧
        scaled.map List.length = rows.map List.length ∧
        scaled.flatten = normalize rows.flatten ∧
        ScaledToPeak rows.flatten scaled.flatten ∧
        normalizeRows scaled = .ok scaled ∧
        ∀ c : ℚ, 0 < c → normalizeRows (rows.map (·.map (c * ·))) = .ok scaled) ∧
    ∀ (g : Grid ℚ) (f : Figure), Rectangular (g.figure f) →
      normalizeRows (g.figure f) = .ok (g.normalized f) := by
  refine ⟨fun s hpos => ?_, fun rows hrows hpos => ?_,
    fun g f hrows => normalizeRows_of_rectangular hrows⟩
  · exact ⟨scaledToPeak_normalize hpos, normalize_normalize s.ys,
      fun c hc => normalize_map_mul hc s.ys⟩
  · have hflat : ∀ y ∈ rows.flatten, 0 ≤ y := by
      intro y hy
      obtain ⟨row, hrow, hy⟩ := List.mem_flatten.mp hy
      exact hpos row hrow y hy
    have hshape := map_length_normalizeGrid rows
    refine ⟨normalizeGrid rows, normalizeRows_of_rectangular hrows, hshape,
      flatten_normalizeGrid rows, ?_, ?_, fun c hc => ?_⟩
    · rw [flatten_normalizeGrid]
      exact scaledToPeak_normalize hflat
    · rw [normalizeRows_of_rectangular (hrows.of_map_length hshape), normalizeGrid_normalizeGrid]
    · have hstretched := map_length_map_map (c * ·) rows
      rw [normalizeRows_of_rectangular (hrows.of_map_length hstretched), normalizeGrid_map_mul hc]

/-- Each row of this grid has its own greatest entry, but the grid is scaled to that of both, and so
is its double. -/
theorem second_row_holds_the_peak :
    Rectangular [[1, 2], [4, 0]] ∧ (∀ row ∈ [[1, 2], [4, 0]], ∀ y ∈ row, (0 : ℚ) ≤ y) ∧
    normalizeRows [[1, 2], [4, 0]] = .ok [[(1 / 4 : ℚ), 1 / 2], [1, 0]] ∧
    normalizeRows [[2 * 1, 2 * 2], [2 * 4, 2 * 0]] = .ok [[(1 / 4 : ℚ), 1 / 2], [1, 0]] := by
  have hrows : Rectangular [[1, 2], [4, 0]] := ⟨2, by decide⟩
  have hpos : ∀ row ∈ [[1, 2], [4, 0]], ∀ y ∈ row, (0 : ℚ) ≤ y := by decide
  have hscaled : normalizeRows [[1, 2], [4, 0]] = .ok [[(1 / 4 : ℚ), 1 / 2], [1, 0]] := by
    decide +kernel
  obtain ⟨scaled, hok, -, -, -, -, hstretched⟩ :=
    curves_are_scaled_to_the_peak.2.1 [[1, 2], [4, 0]] hrows hpos
  cases hok.symm.trans hscaled
  exact ⟨hrows, hpos, hscaled, hstretched 2 two_pos⟩

end DiceOdds
