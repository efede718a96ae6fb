import DiceOdds.CommandLine.Options
import DiceOdds.Proofs.Text.Literals
import DiceOdds.Proofs.Traversal

/-!
# Frozen Dice as Texts

A frozen die is read from a text exactly if a literal stands before the first equality sign and
another one behind it (`readPin_eq_ok_iff`); no literal holds such a sign, so a position and a face
as they are written are read back (`readPin_pinText`).  The command line reads the same texts in the
same way, unless a number has too many digits, and arguments that freeze dice add just these dice to
the options (`ofArguments_append_pins`).
-/

namespace DiceOdds

open Text

/-! ## §1 Splitting -/

namespace Text

variable {mark : Char} {s before behind : String}

theorem splitFirst?_eq_none_iff : splitFirst? mark s = none ↔ mark ∉ s.toList := by
  unfold splitFirst?
  split
  · next hdrop =>
    have hall := List.dropWhile_eq_nil_iff.mp hdrop
    refine iff_of_true rfl fun hmem => ?_
    simpa using hall mark hmem
  · next c rest hdrop =>
    have hmem : c ∈ s.toList := (List.dropWhile_sublist _).subset (hdrop ▸ List.mem_cons_self)
    exact iff_of_false nofun (not_not.mpr (head_dropWhile_ne hdrop ▸ hmem))

/-- A text is split where the mark has not occurred before. -/
theorem splitFirst?_eq_some_iff :
    splitFirst? mark s = some (before, behind) ↔
      s.toList = before.toList ++ mark :: behind.toList ∧ mark ∉ before.toList := by
  constructor
  · intro h
    refine ⟨toList_of_splitFirst? h, ?_⟩
    unfold splitFirst? at h
    split at h
    · cases h
    · cases h
      intro hmem
      rw [String.toList_ofList] at hmem
      simpa using List.mem_takeWhile_imp hmem
  · rintro ⟨hs, hnew⟩
    have hbefore : ∀ c ∈ before.toList, (c != mark) = true := by
      intro c hc
      have hne : c ≠ mark := fun heq => hnew (heq ▸ hc)
      simpa using hne
    have hdrop : s.toList.dropWhile (· != mark) = mark :: behind.toList := by
      rw [hs, List.dropWhile_append_of_pos hbefore, List.dropWhile_cons_of_neg (by simp)]
    have htake : s.toList.takeWhile (· != mark) = before.toList := by
      rw [hs, List.takeWhile_append_of_pos hbefore, List.takeWhile_cons_of_neg (by simp),
        List.append_nil]
    simp only [splitFirst?, hdrop, htake, String.ofList_toList]

theorem splitFirst?_of_toList {before behind : List Char} (hs : s.toList = before ++ mark :: behind)
    (hfirst : mark ∉ before) :
    splitFirst? mark s = some (String.ofList before, String.ofList behind) := by
  rw [splitFirst?_eq_some_iff, String.toList_ofList, String.toList_ofList]
  exact ⟨hs, hfirst⟩

end Text

namespace CommandLine

/-! ## §2 Reading a frozen die -/

variable {s : String} {e : Int × Int}

theorem readPinWith_eq_ok_iff {number? : String → Option Int} :
    readPinWith number? s = .ok e ↔ ∃ before behind, splitFirst? '=' s = some (before, behind) ∧
      number? before = some e.1 ∧ number? behind = some e.2 := by
  constructor
  · intro h
    unfold readPinWith at h
    split at h
    · cases h
    · next before behind hsplit =>
      split at h
      · next position face hposition hface =>
        cases h
        exact ⟨before, behind, hsplit, hposition, hface⟩
      · cases h
  · rintro ⟨before, behind, hsplit, hposition, hface⟩
    simp only [readPinWith, hsplit, hposition, hface]

theorem readPinWith_eq_error_iff {number? : String → Option Int} {fault : PinFault} :
    readPinWith number? s = .error fault ↔
      (splitFirst? '=' s = none ∧ fault = .noSign s) ∨
      ∃ before behind, splitFirst? '=' s = some (before, behind) ∧
        (number? before = none ∨ number? behind = none) ∧ fault = .notIntegers s := by
  constructor
  · intro h
    unfold readPinWith at h
    split at h
    · next hsplit =>
      cases h
      exact .inl ⟨hsplit, rfl⟩
    · next before behind hsplit =>
      split at h
      · cases h
      · next hno =>
        cases h
        refine .inr ⟨before, behind, hsplit, ?_, rfl⟩
        cases hposition : number? before with
        | none => exact .inl rfl
        | some position =>
          exact .inr (Option.eq_none_iff_forall_ne_some.mpr fun face => hno position face hposition)
  · rintro (⟨hsplit, rfl⟩ | ⟨before, behind, hsplit, hnone, rfl⟩)
    · simp only [readPinWith, hsplit]
    · rcases hnone with hnone | hnone
      · simp only [readPinWith, hsplit, hnone]
      · cases hposition : number? before <;> simp only [readPinWith, hsplit, hposition, hnone]

/-- Without a sign there is nothing to split. -/
theorem readPin_of_notMem (h : '=' ∉ s.toList) : readPin s = .error (.noSign s) :=
  readPinWith_eq_error_iff.mpr (.inl ⟨splitFirst?_eq_none_iff.mpr h, rfl⟩)

theorem readInt?_eq_none_iff {s : String} :
    readInt? s = none ↔ ¬∃ x, IsLiteral s.toList x := by
  rw [Option.eq_none_iff_forall_ne_some, not_exists]
  exact forall_congr' fun x => not_congr readInt?_eq_some_iff

/-- Before and behind the first sign there have to be literals. -/
theorem readPin_of_not_literal {before behind : List Char} (hs : s.toList = before ++ '=' :: behind)
    (hfirst : '=' ∉ before) (h : (¬∃ x, IsLiteral before x) ∨ ¬∃ x, IsLiteral behind x) :
    readPin s = .error (.notIntegers s) := by
  refine readPinWith_eq_error_iff.mpr (.inr ⟨_, _, splitFirst?_of_toList hs hfirst, ?_, rfl⟩)
  rwa [readInt?_eq_none_iff, readInt?_eq_none_iff, String.toList_ofList, String.toList_ofList]

/-- **What is read as a frozen die**: a literal, an equality sign and another literal. -/
theorem readPin_eq_ok_iff :
    readPin s = .ok e ↔ ∃ before behind : List Char,
      s.toList = before ++ '=' :: behind ∧ IsLiteral before e.1 ∧ IsLiteral behind e.2 := by
  rw [readPin, readPinWith_eq_ok_iff]
  constructor
  · rintro ⟨before, behind, hsplit, hposition, hface⟩
    exact ⟨_, _, (splitFirst?_eq_some_iff.mp hsplit).1, readInt?_eq_some_iff.mp hposition,
      readInt?_eq_some_iff.mp hface⟩
  · rintro ⟨before, behind, hs, hposition, hface⟩
    refine ⟨_, _, splitFirst?_of_toList hs hposition.eq_notMem, ?_, ?_⟩
    · rwa [readInt?_eq_some_iff, String.toList_ofList]
    · rwa [readInt?_eq_some_iff, String.toList_ofList]

/-- A frozen die as it is written. -/
def pinText (e : Int × Int) : String := toString e.1 ++ "=" ++ toString e.2

theorem toList_pinText (e : Int × Int) :
    (pinText e).toList = (toString e.1).toList ++ '=' :: (toString e.2).toList := by
  rw [pinText, String.toList_append, String.toList_append, List.append_assoc]
  rfl

theorem splitFirst?_pinText (e : Int × Int) :
    splitFirst? '=' (pinText e) = some (toString e.1, toString e.2) :=
  splitFirst?_eq_some_iff.mpr ⟨toList_pinText e, (isLiteral_toString e.1).eq_notMem⟩

/-- What is written is read back. -/
theorem readPin_pinText (e : Int × Int) : readPin (pinText e) = .ok e :=
  readPin_eq_ok_iff.mpr ⟨_, _, toList_pinText e, isLiteral_toString e.1, isLiteral_toString e.2⟩

/-! ## §3 Long numbers -/

theorem readShortInt?_eq_some_iff {x : Int} :
    readShortInt? s = some x ↔ digitCount s ≤ mostDigits ∧ readInt? s = some x := by
  unfold readShortInt?
  split
  · next hshort => simp [hshort]
  · next hlong => simp [hlong]

/-- A number below a power of ten has no more digits than the exponent says. -/
theorem digitCount_toString_le {x : Int} {k : Nat} (hk : 0 < k)
    (h : decide (x.natAbs < Nat.pow 10 k) = true) : digitCount (toString x) ≤ k := by
  have hdigits : (Nat.toDigits 10 x.natAbs).length ≤ k :=
    (Nat.length_toDigits_le_iff (by decide) hk).mpr (of_decide_eq_true h)
  rw [digitCount, Int.toString_eq_repr]
  refine Nat.le_trans ?_ hdigits
  cases x with
  | ofNat n =>
    show n.repr.toList.countP _ ≤ _
    rw [Nat.toList_repr]
    exact List.countP_le_length
  | negSucc n =>
    show ("-" ++ n.succ.repr).toList.countP _ ≤ _
    rw [String.toList_append, List.countP_append, Nat.toList_repr]
    -- the sign is no digit
    have hsign : "-".toList.countP (fun c => (digitValue? c).isSome) = 0 := by decide
    rw [hsign, Nat.zero_add]
    exact List.countP_le_length

/-- A number that can be written can be read. -/
theorem readShortInt?_toString {x : Int} (h : isWritable x) :
    readShortInt? (toString x) = some x :=
  readShortInt?_eq_some_iff.mpr
    ⟨digitCount_toString_le (by decide) h, readInt?_eq_some_iff.mpr (isLiteral_toString x)⟩

/-- A number lies below the power of ten whose exponent is no less than the number of its
digits. -/
theorem natAbs_lt_of_readInt? {x : Int} {k : Nat} (h : readInt? s = some x)
    (hk : digitCount s ≤ k) : decide (x.natAbs < Nat.pow 10 k) = true := by
  have hbelow := (readInt?_eq_some_iff.mp h).natAbs_lt_pow
  exact decide_eq_true (Nat.lt_of_lt_of_le hbelow (Nat.pow_le_pow_right (by decide) hk))

/-- A number that can be read can be written. -/
theorem isWritable_of_readShortInt? {x : Int} (h : readShortInt? s = some x) : isWritable x := by
  obtain ⟨hshort, hread⟩ := readShortInt?_eq_some_iff.mp h
  exact natAbs_lt_of_readInt? hread hshort

/-- The numbers of a frozen die that is read have few enough digits to be written. -/
theorem isWritable_of_readPinWith_short (h : readPinWith readShortInt? s = .ok e) :
    isWritable e.1 ∧ isWritable e.2 := by
  obtain ⟨_, _, -, hposition, hface⟩ := readPinWith_eq_ok_iff.mp h
  exact ⟨isWritable_of_readShortInt? hposition, isWritable_of_readShortInt? hface⟩

theorem readPinWith_short_pinText {e : Int × Int} (h : isWritable e.1 ∧ isWritable e.2) :
    readPinWith readShortInt? (pinText e) = .ok e :=
  readPinWith_eq_ok_iff.mpr
    ⟨_, _, splitFirst?_pinText e, readShortInt?_toString h.1, readShortInt?_toString h.2⟩

theorem readShortInt?_eq_none (h : readInt? s = none) : readShortInt? s = none := by
  unfold readShortInt?
  split
  · exact h
  · rfl

/-- What is no frozen die is none for the command line either, and for the same reason. -/
theorem readPinWith_short_of_error {fault : PinFault} (h : readPin s = .error fault) :
    readPinWith readShortInt? s = .error fault := by
  rcases readPinWith_eq_error_iff.mp h with hsign | ⟨before, behind, hsplit, hnone, hfault⟩
  · exact readPinWith_eq_error_iff.mpr (.inl hsign)
  · refine readPinWith_eq_error_iff.mpr (.inr ⟨before, behind, hsplit, ?_, hfault⟩)
    exact hnone.imp readShortInt?_eq_none readShortInt?_eq_none

/-! ## §4 Arguments -/

/-- A frozen die as an argument.  It is attached to its option, for behind a blank a position below
nought would be taken for an option. -/
def pinArgument (e : Int × Int) : String := "--pin=" ++ pinText e

theorem toList_pinArgument (e : Int × Int) :
    (pinArgument e).toList = "--pin".toList ++ '=' :: (pinText e).toList := by
  rw [pinArgument, String.toList_append]
  rfl

theorem eq_mem_pinText (e : Int × Int) : '=' ∈ (pinText e).toList := by
  simp [toList_pinText]

theorem eq_mem_pinArgument (e : Int × Int) : '=' ∈ (pinArgument e).toList := by
  simp [toList_pinArgument]

theorem ne_hyphens (h : '=' ∈ s.toList) : s ≠ "--" := by
  rintro rfl
  exact absurd h (by decide)

/-- No option is spelled with an equality sign. -/
theorem spelled?_of_eq_mem (h : '=' ∈ s.toList) (attached : Option String) :
    spelled? s attached = none := by
  have hspellings : ∀ p ∈ spellings, '=' ∉ p.1.toList := by decide
  rw [spelled?, Option.map_eq_none_iff, List.find?_eq_none]
  intro p hp hs
  exact hspellings p hp (beq_iff_eq.mp hs ▸ h)

theorem classify_pinArgument (e : Int × Int) :
    classify (pinArgument e) = .ok (.option .pin (some (pinText e))) := by
  have hsplit : splitFirst? '=' (pinArgument e) = some ("--pin", pinText e) :=
    splitFirst?_eq_some_iff.mpr ⟨toList_pinArgument e, by decide⟩
  have hspelled := spelled?_of_eq_mem (eq_mem_pinArgument e) none
  have hattached : splitAttached (pinArgument e) = ("--pin", some (pinText e)) := by
    simp only [splitAttached, hsplit]
  have hpin : spelled? "--pin" (some (pinText e)) = some (.option .pin (some (pinText e))) := rfl
  unfold classify
  split
  · simp only [hspelled, hattached, hpin]
  · next hother => exact absurd (toList_pinArgument e) (hother _ _)

theorem classifyAll_cons {token : Token} (hs : s ≠ "--") (htoken : classify s = .ok token)
    (rest : List String) :
    classifyAll (s :: rest) = (classifyAll rest).map ((s, token) :: ·) := by
  rw [classifyAll, if_neg (by simpa using hs), htoken]

/-- Unless two hyphens stand in front, arguments are told apart one by one. -/
theorem classifyAll_append {before : List String} {tokens : List (String × Token)}
    (h : classifyAll before = .ok tokens) (hplain : "--" ∉ before) (behind : List String) :
    classifyAll (before ++ behind) = (classifyAll behind).map (tokens ++ ·) := by
  induction before generalizing tokens with
  | nil =>
    cases h
    rw [List.nil_append]
    cases classifyAll behind <;> rfl
  | cons s before ih =>
    obtain ⟨hs, hplain⟩ : s ≠ "--" ∧ "--" ∉ before := by
      simpa [eq_comm] using hplain
    cases htoken : classify s with
    | error stop =>
      rw [classifyAll, if_neg (by simpa using hs), htoken] at h
      cases h
    | ok token =>
      rw [classifyAll_cons hs htoken, map_eq_ok_iff] at h
      obtain ⟨rest, hrest, rfl⟩ := h
      rw [List.cons_append, classifyAll_cons hs htoken, ih hrest hplain]
      cases classifyAll behind <;> rfl

/-- What is read behind options that are complete adds to them. -/
theorem readFrom_append {os os' : Options} {stray : List String} {tokens : List (String × Token)}
    (h : readFrom os stray tokens = .ok os') (more : List (String × Token)) :
    readFrom os stray (tokens ++ more) = readFrom os' [] more := by
  fun_induction readFrom os stray tokens with
  | case1 os stray hstray =>
    cases h
    rw [List.nil_append, List.isEmpty_iff.mp hstray]
  | case3 os stray s rest ih => exact ih h
  | case4 os stray s rest ih => exact ih h
  | case5 os stray s rest ih => exact ih h
  | case6 os stray s o short attached rest next hnext ih =>
    rw [List.cons_append, readFrom, hnext]
    exact ih h
  | case8 os stray s o value rest next hnext ih =>
    rw [List.cons_append, readFrom, hnext]
    exact ih h
  | case10 os stray s o value rest next hnext ih =>
    rw [List.cons_append, List.cons_append, readFrom, hnext]
    exact ih h
  | _ => cases h

theorem acceptAttached_pinText {os : Options} {e : Int × Int}
    (h : isWritable e.1 ∧ isWritable e.2) :
    os.acceptAttached .pin (pinText e) = .ok { os with pins := os.pins ++ [.value e] } := by
  have hplain := ne_hyphens (eq_mem_pinText e)
  rw [Options.acceptAttached, if_neg (by simpa using hplain), Options.accept,
    readPinWith_short_pinText h]

theorem classifyAll_pinArguments (es : List (Int × Int)) :
    classifyAll (es.map pinArgument) =
      .ok (es.map fun e => (pinArgument e, .option .pin (some (pinText e)))) := by
  induction es with
  | nil => rfl
  | cons e es ih =>
    rw [List.map_cons, classifyAll_cons (ne_hyphens (eq_mem_pinArgument e))
      (classify_pinArgument e), ih]
    rfl

theorem readFrom_pinArguments {es : List (Int × Int)}
    (h : ∀ e ∈ es, isWritable e.1 ∧ isWritable e.2) (os : Options) :
    readFrom os [] (es.map fun e => (pinArgument e, .option .pin (some (pinText e)))) =
      .ok { os with pins := os.pins ++ es.map .value } := by
  induction es generalizing os with
  | nil =>
    rw [List.map_nil, List.map_nil, List.append_nil]
    rfl
  | cons e es ih =>
    obtain ⟨he, hes⟩ := List.forall_mem_cons.mp h
    rw [List.map_cons, readFrom, acceptAttached_pinText he]
    refine (ih hes _).trans ?_
    rw [List.append_assoc, List.map_cons]
    rfl

/-- The numbers of all frozen dice have few enough digits to be written. -/
def Options.Writable (os : Options) : Prop :=
  ∀ e, .value e ∈ os.pins → isWritable e.1 ∧ isWritable e.2

theorem Options.Writable.accept {os os' : Options} {o : Opt} (hos : os.Writable)
    (h : os.accept o s = .ok os') : os'.Writable := by
  have hkept : os'.pins = os.pins ∨
      ∃ e, readPinWith readShortInt? s = .ok e ∧ os'.pins = os.pins ++ [.value e] := by
    cases o with
    | pin =>
      rw [Options.accept] at h
      split at h
      · next e hread =>
        cases h
        exact .inr ⟨e, hread, rfl⟩
      · cases h
    | count | batchSize | seed =>
      obtain ⟨n, -, rfl⟩ := map_eq_ok_iff.mp h
      exact .inl rfl
    | game | dice =>
      simp only [Options.accept] at h
      split at h
      · cases h
        exact .inl rfl
      · cases h
    | help => cases h
    | preset | noFrozen =>
      cases h
      exact .inl rfl
  intro e he
  rcases hkept with hpins | ⟨e', hread, hpins⟩
  · exact hos e (hpins ▸ he)
  · rw [hpins, List.mem_append, List.mem_singleton] at he
    rcases he with he | heq
    · exact hos e he
    · cases heq
      exact isWritable_of_readPinWith_short hread

theorem Options.Writable.acceptAttached {os os' : Options} {o : Opt} (hos : os.Writable)
    (h : os.acceptAttached o s = .ok os') : os'.Writable := by
  unfold Options.acceptAttached at h
  split at h
  · cases h
    intro e he
    cases o <;> simp only [Options.leave, List.mem_append, List.mem_singleton, reduceCtorEq,
      or_false] at he <;> exact hos e he
  · exact hos.accept h

theorem Options.Writable.acceptFlag {os os' : Options} {o : Opt} {short : Bool}
    {attached : Option String} (hos : os.Writable)
    (h : os.acceptFlag o short attached = .ok os') : os'.Writable := by
  unfold Options.acceptFlag at h
  split at h
  · exact hos.accept h
  · cases h

/-- **Frozen dice that are given by arguments can be written.** -/
theorem writable_ofArguments {arguments : List String} {os : Options}
    (h : Options.ofArguments arguments = .ok os) : os.Writable := by
  have hread : ∀ {os' : Options} {stray : List String} {tokens : List (String × Token)},
      os'.Writable → readFrom os' stray tokens = .ok os → os.Writable := by
    intro os' stray tokens hos hread
    fun_induction readFrom os' stray tokens with
    | case1 => cases hread; exact hos
    | case3 _ _ _ _ ih => exact ih hos hread
    | case4 _ _ _ _ ih => exact ih hos hread
    | case5 _ _ _ _ ih => exact ih hos hread
    | case6 _ _ _ _ _ _ _ _ hnext ih => exact ih (hos.acceptFlag hnext) hread
    | case8 _ _ _ _ _ _ _ hnext ih => exact ih (hos.acceptAttached hnext) hread
    | case10 _ _ _ _ _ _ _ hnext ih => exact ih (hos.accept hnext) hread
    | _ => cases hread
  unfold Options.ofArguments at h
  split at h
  · exact hread (fun e he => absurd he List.not_mem_nil) h
  · cases h

/-- **Arguments that freeze dice add these dice to the options**, in order. -/
theorem ofArguments_append_pins {before : List String} {os : Options}
    (h : Options.ofArguments before = .ok os) (hplain : "--" ∉ before) {es : List (Int × Int)}
    (hes : ∀ e ∈ es, isWritable e.1 ∧ isWritable e.2) :
    Options.ofArguments (before ++ es.map pinArgument) =
      .ok { os with pins := os.pins ++ es.map .value } := by
  unfold Options.ofArguments at h ⊢
  split at h
  · next tokens htokens =>
    rw [classifyAll_append htokens hplain, classifyAll_pinArguments]
    exact (readFrom_append h _).trans (readFrom_pinArguments hes os)
  · cases h

end CommandLine

end DiceOdds
