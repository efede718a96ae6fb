import DiceOdds.Text.Integer
import Mathlib.Data.List.TakeWhile
import Mathlib.Data.Nat.Digits.Defs

/-!
# The Grammar of Integer Literals

A literal is a stretch of digits behind an optional sign, with blanks around the whole; the digits
may be of any script, and a single underscore may stand between two of them (`Spells`, `IsLiteral`).
Reading accepts the literals, each with the integer that it stands for, and nothing else
(`readInt?_eq_some_iff`): no digit is a blank, a sign or an underscore, so that a text can be taken
apart in one way only.  A number as it is written is a literal of its own (`isLiteral_toString`).
-/

namespace DiceOdds.Text

/-! ## §1 Characters -/

/-- Digits are found ten to a run, and none of them is a blank, a sign, an underscore or an
equality sign. -/
theorem not_mark_of_run :
    (digitZeros.all fun base => (List.range 10).all fun i =>
      !isBlank (Char.ofNat (base + i)) && ['+', '-', '_', '='].all (Char.ofNat (base + i) != ·)) =
        true := by
  decide +kernel

theorem not_mark_of_digit {c : Char} {d : Nat} (h : digitValue? c = some d) :
    isBlank c = false ∧ ∀ mark ∈ ['+', '-', '_', '='], c ≠ mark := by
  obtain ⟨base, hfind, -⟩ := Option.map_eq_some_iff.mp h
  have hrun := List.find?_some hfind
  simp only [Bool.and_eq_true, decide_eq_true_eq] at hrun
  have hc : Char.ofNat (base + (c.toNat - base)) = c := by
    rw [Nat.add_sub_cancel' hrun.1, Char.ofNat_toNat]
  have hbase := List.all_eq_true.mp not_mark_of_run base (List.mem_of_find?_eq_some hfind)
  have hmark := List.all_eq_true.mp hbase (c.toNat - base) (List.mem_range.mpr (by omega))
  rw [hc, Bool.and_eq_true, Bool.not_eq_true', List.all_eq_true] at hmark
  exact ⟨hmark.1, fun mark hmem => bne_iff_ne.mp (hmark.2 mark hmem)⟩

/-- The ten digits as they are written. -/
theorem digitValue?_digitChar {d : Nat} (h : d < 10) : digitValue? (Nat.digitChar d) = some d := by
  have hcode := Nat.toNat_digitChar_of_lt_ten h
  apply digitValue?_of_ascii
  rw [asciiDigitValue?, hcode, if_pos (by omega), Nat.add_sub_cancel_left]

/-! ## §2 Digits -/

/-- The characters are digits, with single underscores between some of them, and they write the
number. -/
inductive Spells : List Char → Nat → Prop where
  | digit {c : Char} {d : Nat} (hc : digitValue? c = some d) : Spells [c] d
  | next {cs : List Char} {n : Nat} (hcs : Spells cs n) {c : Char} {d : Nat}
      (hc : digitValue? c = some d) : Spells (cs ++ [c]) (10 * n + d)
  | group {cs : List Char} {n : Nat} (hcs : Spells cs n) {c : Char} {d : Nat}
      (hc : digitValue? c = some d) : Spells (cs ++ ['_', c]) (10 * n + d)

theorem groupedDigitsFrom_digit {c : Char} {d : Nat} (hc : digitValue? c = some d) (n : Nat)
    (cs : List Char) : groupedDigitsFrom n (c :: cs) = groupedDigitsFrom (10 * n + d) cs := by
  rw [groupedDigitsFrom.eq_3 n c cs, hc, Option.bind_some]
  rintro c' cs' rfl rfl
  exact (not_mark_of_digit hc).2 '_' (by decide) rfl

theorem groupedDigitsFrom_group {c : Char} {d : Nat} (hc : digitValue? c = some d) (n : Nat)
    (cs : List Char) :
    groupedDigitsFrom n ('_' :: c :: cs) = groupedDigitsFrom (10 * n + d) cs := by
  rw [groupedDigitsFrom, hc, Option.bind_some]

/-- What has been read is what reading goes on from. -/
theorem groupedDigitsFrom_append {n m : Nat} {cs : List Char}
    (h : groupedDigitsFrom n cs = some m) (more : List Char) :
    groupedDigitsFrom n (cs ++ more) = groupedDigitsFrom m more := by
  fun_induction groupedDigitsFrom n cs with
  | case1 n =>
    cases h
    rfl
  | case2 n c cs ih =>
    obtain ⟨d, hc, hrest⟩ := Option.bind_eq_some_iff.mp h
    exact (groupedDigitsFrom_group hc n (cs ++ more)).trans (ih d hrest)
  | case3 n c cs hmark ih =>
    obtain ⟨d, hc, hrest⟩ := Option.bind_eq_some_iff.mp h
    exact (groupedDigitsFrom_digit hc n (cs ++ more)).trans (ih d hrest)

theorem groupedDigits?_append {n : Nat} {cs : List Char} (h : groupedDigits? cs = some n)
    (more : List Char) : groupedDigits? (cs ++ more) = groupedDigitsFrom n more := by
  cases cs with
  | nil => cases h
  | cons c cs =>
    obtain ⟨d, hc, hrest⟩ := Option.bind_eq_some_iff.mp h
    show ((digitValue? c).bind fun d => groupedDigitsFrom d (cs ++ more)) = _
    rw [hc, Option.bind_some, groupedDigitsFrom_append hrest]

/-- Behind digits that spell a number, what is read spells a number with them. -/
theorem spells_of_groupedDigitsFrom {before cs : List Char} {n m : Nat} (hbefore : Spells before n)
    (h : groupedDigitsFrom n cs = some m) : Spells (before ++ cs) m := by
  fun_induction groupedDigitsFrom n cs generalizing before with
  | case1 n =>
    cases h
    rwa [List.append_nil]
  | case2 n c cs ih =>
    obtain ⟨d, hc, hrest⟩ := Option.bind_eq_some_iff.mp h
    simpa using ih d (hbefore.group hc) hrest
  | case3 n c cs hmark ih =>
    obtain ⟨d, hc, hrest⟩ := Option.bind_eq_some_iff.mp h
    simpa using ih d (hbefore.next hc) hrest

/-- **Digits are read as they spell.** -/
theorem groupedDigits?_eq_some_iff {cs : List Char} {n : Nat} :
    groupedDigits? cs = some n ↔ Spells cs n := by
  constructor
  · intro h
    cases cs with
    | nil => cases h
    | cons c cs =>
      obtain ⟨d, hc, hrest⟩ := Option.bind_eq_some_iff.mp h
      exact spells_of_groupedDigitsFrom (.digit hc) hrest
  · intro h
    induction h with
    | digit hc =>
      rw [groupedDigits?, hc]
      rfl
    | next _ hc ih => rw [groupedDigits?_append ih, groupedDigitsFrom_digit hc, groupedDigitsFrom]
    | group _ hc ih => rw [groupedDigits?_append ih, groupedDigitsFrom_group hc, groupedDigitsFrom]

/-- What spells a number starts and ends with a digit. -/
theorem Spells.ends {cs : List Char} {n : Nat} (h : Spells cs n) :
    (∃ c d rest, cs = c :: rest ∧ digitValue? c = some d) ∧
      ∃ c d rest, cs = rest ++ [c] ∧ digitValue? c = some d := by
  induction h with
  | digit hc => exact ⟨⟨_, _, [], rfl, hc⟩, _, _, [], rfl, hc⟩
  | next _ hc ih =>
    obtain ⟨⟨c, d, rest, rfl, hfirst⟩, -⟩ := ih
    exact ⟨⟨c, d, _, rfl, hfirst⟩, _, _, _, rfl, hc⟩
  | @group cs n _ c' d' hc ih =>
    obtain ⟨⟨c, d, rest, rfl, hfirst⟩, -⟩ := ih
    refine ⟨⟨c, d, _, rfl, hfirst⟩, c', d', c :: rest ++ ['_'], ?_, hc⟩
    simp

/-- Every character is a digit or an underscore. -/
theorem Spells.mem {cs : List Char} {n : Nat} (h : Spells cs n) {c : Char} (hc : c ∈ cs) :
    c = '_' ∨ ∃ d, digitValue? c = some d := by
  induction h with
  | digit hd => exact .inr ⟨_, List.mem_singleton.mp hc ▸ hd⟩
  | next _ hd ih =>
    rcases List.mem_append.mp hc with hc | hc
    · exact ih hc
    · exact .inr ⟨_, List.mem_singleton.mp hc ▸ hd⟩
  | group _ hd ih =>
    rcases List.mem_append.mp hc with hc | hc
    · exact ih hc
    · rcases List.mem_cons.mp hc with rfl | hc
      · exact .inl rfl
      · exact .inr ⟨_, List.mem_singleton.mp hc ▸ hd⟩

/-- A number lies below the power of ten that has as many digits as its text. -/
theorem Spells.lt_pow {cs : List Char} {n : Nat} (h : Spells cs n) :
    n < 10 ^ cs.countP fun c => (digitValue? c).isSome := by
  induction h with
  | digit hc => simpa [hc] using digitValue?_lt hc
  | next _ hc ih =>
    have hd := digitValue?_lt hc
    simp only [List.countP_append, List.countP_singleton, hc, Option.isSome_some, if_true,
      Nat.pow_succ]
    omega
  | group _ hc ih =>
    have hd := digitValue?_lt hc
    have hunderscore : digitValue? '_' = none := by decide
    simp only [List.countP_append, List.countP_cons, List.countP_nil, hunderscore, hc,
      Option.isSome_none, Option.isSome_some, Bool.false_eq_true, if_true, if_false, Nat.pow_succ]
    omega

/-! ## §3 Blanks around -/

/-- A text is what is left of it between blanks. -/
theorem exists_trim (cs : List Char) : ∃ before behind : List Char,
    cs = before ++ trim cs ++ behind ∧ (∀ c ∈ before, isBlank c = true) ∧
      ∀ c ∈ behind, isBlank c = true := by
  have hright : ∀ rest : List Char,
      rest = dropRight isBlank rest ++ (rest.reverse.takeWhile isBlank).reverse := by
    intro rest
    rw [dropRight, ← List.reverse_append, List.takeWhile_append_dropWhile, List.reverse_reverse]
  refine ⟨cs.takeWhile isBlank, ((cs.dropWhile isBlank).reverse.takeWhile isBlank).reverse,
    ?_, fun c hc => List.mem_takeWhile_imp hc, fun c hc => ?_⟩
  · rw [List.append_assoc, trim, ← hright, List.takeWhile_append_dropWhile]
  · exact List.mem_takeWhile_imp (List.mem_reverse.mp hc)

/-- The ends of the text are no blanks. -/
def HasFirmEnds (core : List Char) : Prop :=
  (∃ c rest, core = c :: rest ∧ isBlank c = false) ∧
    ∃ c rest, core = rest ++ [c] ∧ isBlank c = false

/-- Of a text with firm ends, only the blanks around it are dropped. -/
theorem trim_eq {before core behind : List Char} (hbefore : ∀ c ∈ before, isBlank c = true)
    (hcore : HasFirmEnds core) (hbehind : ∀ c ∈ behind, isBlank c = true) :
    trim (before ++ core ++ behind) = core := by
  obtain ⟨⟨c, rest, hhead, hc⟩, c', rest', hlast, hc'⟩ := hcore
  have hleft : (before ++ core ++ behind).dropWhile isBlank = core ++ behind := by
    rw [List.append_assoc, List.dropWhile_append_of_pos hbefore, hhead, List.cons_append,
      List.dropWhile_cons_of_neg (by simp [hc])]
  have hbehind' : ∀ c ∈ behind.reverse, isBlank c = true :=
    fun c h => hbehind c (List.mem_reverse.mp h)
  rw [trim, hleft, dropRight, List.reverse_append, List.dropWhile_append_of_pos hbehind', hlast,
    List.reverse_append, List.reverse_singleton, List.singleton_append,
    List.dropWhile_cons_of_neg (by simp [hc']), List.reverse_cons, List.reverse_reverse]

/-! ## §4 Literals -/

/-- The text is a literal of the integer: digits that spell its magnitude, behind a sign or none,
with blanks around. -/
inductive IsLiteral : List Char → Int → Prop where
  | unsigned {before digits behind : List Char} {n : Nat}
      (hbefore : ∀ c ∈ before, isBlank c = true) (hdigits : Spells digits n)
      (hbehind : ∀ c ∈ behind, isBlank c = true) : IsLiteral (before ++ digits ++ behind) n
  | plus {before digits behind : List Char} {n : Nat}
      (hbefore : ∀ c ∈ before, isBlank c = true) (hdigits : Spells digits n)
      (hbehind : ∀ c ∈ behind, isBlank c = true) :
      IsLiteral (before ++ '+' :: digits ++ behind) n
  | minus {before digits behind : List Char} {n : Nat}
      (hbefore : ∀ c ∈ before, isBlank c = true) (hdigits : Spells digits n)
      (hbehind : ∀ c ∈ behind, isBlank c = true) :
      IsLiteral (before ++ '-' :: digits ++ behind) (-n)

theorem Spells.hasFirmEnds {cs : List Char} {n : Nat} (h : Spells cs n) : HasFirmEnds cs := by
  obtain ⟨⟨c, d, rest, hhead, hc⟩, c', d', rest', hlast, hc'⟩ := h.ends
  exact ⟨⟨c, rest, hhead, (not_mark_of_digit hc).1⟩, c', rest', hlast, (not_mark_of_digit hc').1⟩

theorem Spells.hasFirmEnds_cons {cs : List Char} {n : Nat} (h : Spells cs n) {sign : Char}
    (hsign : isBlank sign = false) : HasFirmEnds (sign :: cs) := by
  obtain ⟨-, c, rest, hlast, hc⟩ := h.hasFirmEnds
  exact ⟨⟨sign, cs, rfl, hsign⟩, c, sign :: rest, by rw [hlast]; rfl, hc⟩

/-- Digits are not taken for a sign. -/
theorem Spells.splitSign_eq {cs : List Char} {n : Nat} (h : Spells cs n) :
    splitSign cs = (false, cs) := by
  obtain ⟨⟨c, d, rest, rfl, hc⟩, -⟩ := h.ends
  have hmark := (not_mark_of_digit hc).2
  rw [splitSign.eq_3]
  · rintro rest' h
    exact hmark '-' (by decide) (List.cons.inj h).1
  · rintro rest' h
    exact hmark '+' (by decide) (List.cons.inj h).1

/-- What is split off is a sign, if there is one. -/
theorem eq_of_splitSign {cs digits : List Char} {negative : Bool}
    (h : splitSign cs = (negative, digits)) :
    (cs = '-' :: digits ∧ negative = true) ∨ (cs = '+' :: digits ∧ negative = false) ∨
      (cs = digits ∧ negative = false) := by
  unfold splitSign at h
  split at h
  · cases h
    exact .inl ⟨rfl, rfl⟩
  · cases h
    exact .inr (.inl ⟨rfl, rfl⟩)
  · cases h
    exact .inr (.inr ⟨rfl, rfl⟩)

theorem readInt?_of_splitSign {s : String} {digits : List Char} {negative : Bool}
    (h : splitSign (trim s.toList) = (negative, digits)) :
    readInt? s = (groupedDigits? digits).map (withSign negative) := by
  rw [readInt?, h]

/-- **Reading accepts the literals**, each with the integer that it stands for. -/
theorem readInt?_eq_some_iff {s : String} {x : Int} :
    readInt? s = some x ↔ IsLiteral s.toList x := by
  constructor
  · intro h
    obtain ⟨before, behind, hs, hbefore, hbehind⟩ := exists_trim s.toList
    obtain ⟨⟨negative, digits⟩, hsplit⟩ : ∃ split, splitSign (trim s.toList) = split := ⟨_, rfl⟩
    rw [readInt?_of_splitSign hsplit] at h
    obtain ⟨n, hdigits, rfl⟩ := Option.map_eq_some_iff.mp h
    have hspells := groupedDigits?_eq_some_iff.mp hdigits
    rcases eq_of_splitSign hsplit with ⟨hcore, rfl⟩ | ⟨hcore, rfl⟩ | ⟨hcore, rfl⟩
    · rw [hs, hcore]
      exact .minus hbefore hspells hbehind
    · rw [hs, hcore]
      exact .plus hbefore hspells hbehind
    · rw [hs, hcore]
      exact .unsigned hbefore hspells hbehind
  · intro h
    have hread : ∀ {core digits : List Char} {negative : Bool} {n : Nat}, trim s.toList = core →
        splitSign core = (negative, digits) → Spells digits n →
        readInt? s = some (withSign negative n) := by
      intro core digits negative n htrim hsplit hdigits
      rw [readInt?_of_splitSign (htrim ▸ hsplit), groupedDigits?_eq_some_iff.mpr hdigits]
      rfl
    generalize hs : s.toList = cs at h hread
    -- the sign, if there is one, is what the digits do not start with
    cases h with
    | unsigned hbefore hdigits hbehind =>
      exact hread (trim_eq hbefore hdigits.hasFirmEnds hbehind) hdigits.splitSign_eq hdigits
    | plus hbefore hdigits hbehind =>
      exact hread (trim_eq hbefore (hdigits.hasFirmEnds_cons rfl) hbehind) rfl hdigits
    | minus hbefore hdigits hbehind =>
      exact hread (trim_eq hbefore (hdigits.hasFirmEnds_cons rfl) hbehind) rfl hdigits

/-! ## §5 Written numbers -/

/-- The digits in which a number is written spell it. -/
theorem spells_toDigits (n : Nat) : Spells (Nat.toDigits 10 n) n := by
  induction n using Nat.strong_induction_on with
  | _ n ih =>
    rcases Nat.lt_or_ge n 10 with hn | hn
    · rw [Nat.toDigits_of_lt_base hn]
      exact .digit (digitValue?_digitChar hn)
    · have hlast : digitValue? (Nat.digitChar (n % 10)) = some (n % 10) :=
        digitValue?_digitChar (Nat.mod_lt n (by decide))
      have hspells := (ih (n / 10) (by omega)).next hlast
      rwa [Nat.div_add_mod, ← Nat.toDigits_of_base_le (by decide) hn] at hspells

/-- A number as it is written is a literal. -/
theorem isLiteral_toString (x : Int) : IsLiteral (toString x).toList x := by
  have hnone : ∀ c ∈ ([] : List Char), isBlank c = true := List.forall_mem_nil _
  rw [Int.toString_eq_repr]
  cases x with
  | ofNat n =>
    show IsLiteral n.repr.toList n
    rw [Nat.toList_repr]
    simpa using IsLiteral.unsigned hnone (spells_toDigits n) hnone
  | negSucc n =>
    show IsLiteral ("-" ++ n.succ.repr).toList (-(n.succ : Nat))
    rw [String.toList_append, Nat.toList_repr]
    simpa using IsLiteral.minus hnone (spells_toDigits n.succ) hnone

/-- The magnitude of a literal lies below the power of ten that has as many digits. -/
theorem IsLiteral.natAbs_lt_pow {cs : List Char} {x : Int} (h : IsLiteral cs x) :
    x.natAbs < 10 ^ cs.countP fun c => (digitValue? c).isSome := by
  have hpart : ∀ {digits : List Char} {n : Nat}, Spells digits n → digits.Sublist cs →
      n < 10 ^ cs.countP fun c => (digitValue? c).isSome := fun hdigits hsub =>
    Nat.lt_of_lt_of_le hdigits.lt_pow (Nat.pow_le_pow_right (by decide) hsub.countP_le)
  -- the digits are what is left without the sign and the blanks
  cases h with
  | unsigned _ hdigits _ =>
    exact hpart hdigits (.trans (List.sublist_append_right ..) (List.sublist_append_left ..))
  | plus _ hdigits _ =>
    exact hpart hdigits (.trans (.trans (List.sublist_cons_self ..) (List.sublist_append_right ..))
      (List.sublist_append_left ..))
  | minus _ hdigits _ =>
    rw [Int.natAbs_neg]
    exact hpart hdigits (.trans (.trans (List.sublist_cons_self ..) (List.sublist_append_right ..))
      (List.sublist_append_left ..))

/-- No literal holds an equality sign. -/
theorem IsLiteral.eq_notMem {cs : List Char} {x : Int} (h : IsLiteral cs x) : '=' ∉ cs := by
  have hblank : ∀ {cs : List Char}, (∀ c ∈ cs, isBlank c = true) → '=' ∉ cs := by
    intro cs hcs hmem
    exact absurd (hcs '=' hmem) (by decide)
  have hdigit : ∀ {cs : List Char} {n : Nat}, Spells cs n → '=' ∉ cs := by
    intro cs n hcs hmem
    rcases hcs.mem hmem with heq | ⟨d, hd⟩
    · exact absurd heq (by decide)
    · exact (not_mark_of_digit hd).2 '=' (by decide) rfl
  cases h with
  | unsigned hbefore hdigits hbehind =>
    simp [hblank hbefore, hdigit hdigits, hblank hbehind]
  | plus hbefore hdigits hbehind =>
    simp [hblank hbefore, hdigit hdigits, hblank hbehind]
  | minus hbefore hdigits hbehind =>
    simp [hblank hbefore, hdigit hdigits, hblank hbehind]

end DiceOdds.Text
