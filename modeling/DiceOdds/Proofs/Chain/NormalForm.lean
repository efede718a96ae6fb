import DiceOdds.Proofs.Chain.Lifting
import Mathlib.Data.List.SplitBy
import Mathlib.Data.List.TakeWhile

/-!
# The Normal Form of a Chain

A chain of linked scores is cut before every clause that is linked by `or`.  Its verdict is
the disjunction over these segments of the conjunction of their scores (`normalForm`).

Gathering keeps one open group while it walks along the links.  Two facts about the walk
carry everything here:

- the open group stands for the part of its segment that has been passed, so that closing
  it contributes one conjunction (`any_gather`);
- there is one group for the lead and one for each link other than `and`, so the groups
  outnumber the `or` links exactly when some later clause carries `first` (`length_gather`).

**Main statement**: `resolve_eq_normalForm`.
-/

namespace DiceOdds.Chain

variable {β : Type} [Verdict β]

/-! ## §1 Segments -/

/-- Linked scores, cut before each one that is linked by `or`.  Nothing comes before the
lead, so its link cuts nothing. -/
def segments {β : Type} (links : List (Option Link)) (scores : List β) :
    List (List (Option Link × β)) :=
  (links.zip scores).splitBy fun _ next => next.1 != some .or

/-- Some segment holds with all of its scores. -/
def normalForm (links : List (Option Link)) (scores : List Bool) : Bool :=
  (segments links scores).any fun segment => segment.all Prod.snd

theorem isChain_cons_of_forall {α : Type} {p : α → Bool} (a : α) {l : List α}
    (h : ∀ x ∈ l, p x = true) : (a :: l).IsChain fun _ y => p y = true := by
  induction l generalizing a with
  | nil => exact .singleton a
  | cons b l ih =>
    exact .cons_cons (h b List.mem_cons_self) (ih b fun x hx => h x (List.mem_cons_of_mem _ hx))

/-- A cut that depends on the later member only takes members while they need no cut. -/
private theorem splitBy_cons {α : Type} (p : α → Bool) (a : α) (l : List α) :
    (a :: l).splitBy (fun _ y => p y) =
      (a :: l.takeWhile p) :: (l.dropWhile p).splitBy fun _ y => p y := by
  have hchain : (a :: l.takeWhile p).IsChain fun _ y => p y = true :=
    isChain_cons_of_forall a fun x hx => List.mem_takeWhile_imp hx
  have hcut : ∀ x ∈ (a :: l.takeWhile p).getLast?, ∀ y ∈ (l.dropWhile p).head?, p y = false := by
    intro x _ y hy
    have := List.head?_dropWhile_not p l
    rw [hy] at this
    simpa using this
  calc (a :: l).splitBy (fun _ y => p y)
      = ((a :: l.takeWhile p) ++ l.dropWhile p).splitBy (fun _ y => p y) := by
        rw [List.cons_append, List.takeWhile_append_dropWhile]
    _ = (a :: l.takeWhile p).splitBy (fun _ y => p y) ++
          (l.dropWhile p).splitBy (fun _ y => p y) := List.splitBy_append hcut
    _ = _ := by rw [List.splitBy_of_isChain (List.cons_ne_nil _ _) hchain]; rfl

private theorem normalForm_cons (lead : Option Link) (group : Bool) (links : List (Option Link))
    (scores : List Bool) :
    normalForm (lead :: links) (group :: scores) =
      (group && ((links.zip scores).takeWhile fun x => x.1 != some .or).all Prod.snd ||
        (((links.zip scores).dropWhile fun x => x.1 != some .or).splitBy
          fun _ next => next.1 != some .or).any fun segment => segment.all Prod.snd) := by
  rw [normalForm, segments, List.zip_cons_cons, splitBy_cons, List.any_cons, List.all_cons]

/-- Nothing comes before the lead, so its link does not matter. -/
theorem normalForm_lead (lead lead' : Option Link) (group : Bool) (links : List (Option Link))
    (scores : List Bool) :
    normalForm (lead :: links) (group :: scores) =
      normalForm (lead' :: links) (group :: scores) := by
  rw [normalForm_cons, normalForm_cons]

@[simp] theorem normalForm_singleton (lead : Option Link) (group : Bool) :
    normalForm [lead] [group] = group := by
  simp [normalForm_cons]

/-- A clause that starts no segment joins the one before it. -/
theorem normalForm_join {link : Option Link} (h : link ≠ some .or) (lead : Option Link)
    (group score : Bool) (links : List (Option Link)) (scores : List Bool) :
    normalForm (lead :: link :: links) (group :: score :: scores) =
      normalForm (lead :: links) ((group && score) :: scores) := by
  have hjoin : ((link, score).1 != some .or) = true := bne_iff_ne.mpr h
  simp only [normalForm_cons, List.zip_cons_cons, List.takeWhile_cons, List.dropWhile_cons, hjoin,
    if_true, List.all_cons, Bool.and_assoc]

/-- A clause that is linked by `or` starts a new segment. -/
theorem normalForm_or (lead : Option Link) (group score : Bool) (links : List (Option Link))
    (scores : List Bool) :
    normalForm (lead :: some .or :: links) (group :: score :: scores) =
      (group || normalForm (some .or :: links) (score :: scores)) := by
  have hcut : ((some Link.or, score).1 != some .or) = false := by simp
  rw [normalForm_cons, List.zip_cons_cons, List.takeWhile_cons, List.dropWhile_cons]
  simp only [hcut, Bool.false_eq_true, if_false, List.all_nil, Bool.and_true]
  rfl

/-! ## §2 The walk along the links -/

/-- Gathering fails at the first missing link, and only there. -/
theorem faultOf_gather {links : List (Option Link)} : ∀ {scores : List β},
    scores.length = links.length → ∀ (index : Nat) (group : β),
      faultOf (gather index group links scores) =
        (links.findIdx? Option.isNone).map fun k => .unlinked (index + k) := by
  induction links with
  | nil => intro scores _ index group; cases scores <;> rfl
  | cons link links ih =>
    intro scores hlength index group
    cases scores with
    | nil => cases hlength
    | cons score scores =>
      have hrest : scores.length = links.length := Nat.succ.inj hlength
      rw [List.findIdx?_cons]
      cases link with
      | none => rfl
      | some link =>
        -- whatever the link is, the walk goes on one place further
        have hnext : ∀ g : β, faultOf (gather (index + 1) g links scores) =
            ((links.findIdx? Option.isNone).map (· + 1)).map fun k => .unlinked (index + k) := by
          intro g
          rw [ih hrest, Option.map_map]
          exact congrArg (Option.map · _) (funext fun k => by
            simp only [Function.comp]; congr 1; omega)
        cases link with
        | first => exact (faultOf_map _ _).trans (hnext score)
        | or => exact (faultOf_map _ _).trans (hnext score)
        | and => exact hnext (Verdict.both group score)

/-- There is one group for the lead and one for each link other than `and`. -/
theorem length_gather {links : List (Option Link)} : ∀ {scores : List β} {index : Nat}
    {group : β} {groups : List β}, scores.length = links.length →
      gather index group links scores = .ok groups →
      groups.length = links.countP (· != some .and) + 1 := by
  induction links with
  | nil =>
    intro scores index group groups _ h
    cases scores <;> cases h <;> rfl
  | cons link links ih =>
    intro scores index group groups hlength h
    cases scores with
    | nil => cases hlength
    | cons score scores =>
      have hrest : scores.length = links.length := Nat.succ.inj hlength
      -- a link that closes the group adds one group to those of the rest
      have hclose : ((gather (index + 1) score links scores).map (group :: ·) = .ok groups) →
          groups.length = links.countP (· != some .and) + 1 + 1 := by
        intro h
        cases hgather : gather (index + 1) score links scores with
        | error e => rw [hgather] at h; cases h
        | ok rest =>
          rw [hgather] at h
          cases h
          rw [List.length_cons, ih hrest hgather]
      rcases link with _ | link
      · cases h
      · cases link with
        | first => simpa using hclose h
        | or => simpa using hclose h
        | and => simpa using ih hrest h

/-- The groups of a chain without stray `first` make up its normal form. -/
theorem any_gather {links : List (Option Link)} : ∀ {scores : List Bool} {index : Nat}
    {group : Bool} {groups : List Bool} (lead : Option Link), scores.length = links.length →
      some .first ∉ links → gather index group links scores = .ok groups →
      groups.any id = normalForm (lead :: links) (group :: scores) := by
  induction links with
  | nil =>
    intro scores index group groups lead hlength _ h
    cases scores with
    | nil => cases h; simp
    | cons score scores => cases hlength
  | cons link links ih =>
    intro scores index group groups lead hlength hfirst h
    cases scores with
    | nil => cases hlength
    | cons score scores =>
      have hrest : scores.length = links.length := Nat.succ.inj hlength
      have hfirst' : some .first ∉ links := fun hmem => hfirst (List.mem_cons_of_mem _ hmem)
      rcases link with _ | link
      · cases h
      · cases link with
        | first => exact absurd List.mem_cons_self hfirst
        | and =>
          rw [normalForm_join (by decide)]
          exact ih lead hrest hfirst' h
        | or =>
          rw [normalForm_or]
          cases hgather : gather (index + 1) score links scores with
          | error e => simp [gather, hgather, Except.map] at h
          | ok rest =>
            have hgroups : groups = group :: rest := by
              simpa [gather, hgather, Except.map] using h.symm
            rw [hgroups, List.any_cons, ih (some .or) hrest hfirst' hgather]
            rfl

/-! ## §3 The first missing link -/

/-- The clause at `i` follows the lead without a link, and no clause in between does. -/
def FirstUnlinked (links : List (Option Link)) (i : Nat) : Prop :=
  1 ≤ i ∧ links[i]? = some none ∧ ∀ j, 1 ≤ j → j < i → links[j]? ≠ some none

private theorem isNone_getElem_iff {links : List (Option Link)} {k : Nat} (hk : k < links.length) :
    links[k].isNone = true ↔ links[k]? = some none := by
  rw [List.getElem?_eq_getElem hk, Option.some_inj, Option.isNone_iff_eq_none]

theorem findIdx?_isNone_eq_some_iff {lead : Option Link} {links : List (Option Link)} {k : Nat} :
    links.findIdx? Option.isNone = some k ↔ FirstUnlinked (lead :: links) (k + 1) := by
  rw [List.findIdx?_eq_some_iff_getElem]
  constructor
  · rintro ⟨hk, hnone, hbefore⟩
    refine ⟨Nat.succ_pos k, (isNone_getElem_iff hk).mp hnone, fun j hj hjk => ?_⟩
    obtain ⟨j, rfl⟩ : ∃ i, j = i + 1 := ⟨j - 1, by omega⟩
    intro hmissing
    have hj' : j < links.length := by omega
    exact hbefore j (by omega) ((isNone_getElem_iff hj').mpr hmissing)
  · rintro ⟨-, hnone, hbefore⟩
    have hk : k < links.length := Nat.lt_of_succ_lt_succ (List.getElem?_eq_some_iff.mp hnone).1
    refine ⟨hk, (isNone_getElem_iff hk).mpr hnone, fun j hj hmissing => ?_⟩
    have hj' : j < links.length := by omega
    exact hbefore (j + 1) (by omega) (by omega) ((isNone_getElem_iff hj').mp hmissing)

theorem findIdx?_isNone_eq_none_iff {links : List (Option Link)} :
    links.findIdx? Option.isNone = none ↔ none ∉ links := by
  rw [List.findIdx?_eq_none_iff]
  refine ⟨fun h hmem => absurd (h none hmem) (by decide), fun h link hlink => ?_⟩
  cases link with
  | none => exact absurd hlink h
  | some link => rfl

/-! ## §4 Resolving -/

variable {lead : Option Link} {links : List (Option Link)} {score : β} {scores : List β}

theorem resolve_of_unlinked (hlength : scores.length = links.length) {k : Nat}
    (hk : links.findIdx? Option.isNone = some k) :
    resolve (lead :: links) (score :: scores) = .error (.unlinked (k + 1)) := by
  have hgather : gather 1 score links scores = .error (.unlinked (k + 1)) := by
    rw [← faultOf_eq_some_iff, faultOf_gather hlength, hk, Nat.add_comm]
    rfl
  simp [resolve, hlength, hgather]

private theorem countP_ne_and {links : List (Option Link)} (hnone : none ∉ links) :
    links.countP (· != some .and) = links.count (some .or) + links.count (some .first) := by
  induction links with
  | nil => rfl
  | cons link links ih =>
    have hrest := ih fun hmem => hnone (List.mem_cons_of_mem _ hmem)
    rcases link with _ | link
    · exact absurd List.mem_cons_self hnone
    · cases link <;> simp [hrest] <;> omega

variable (lead score) in
/-- A chain without missing links has groups, one more for each stray `first` than its
`or` links account for. -/
theorem exists_gather_eq_ok (hlength : scores.length = links.length) (hnone : none ∉ links) :
    ∃ group groups, gather 1 score links scores = .ok (group :: groups) ∧
      groups.length = countOr (lead :: links) + links.count (some .first) := by
  have hfault : faultOf (gather 1 score links scores) = none := by
    rw [faultOf_gather hlength, findIdx?_isNone_eq_none_iff.mpr hnone]
    rfl
  obtain ⟨groups, hgroups⟩ := faultOf_eq_none_iff.mp hfault
  have hcount := length_gather hlength hgroups
  rw [countP_ne_and hnone] at hcount
  cases groups with
  | nil => cases hcount
  | cons group groups => exact ⟨group, groups, hgroups, Nat.succ.inj hcount⟩

theorem resolve_of_strayFirst (hlength : scores.length = links.length) (hnone : none ∉ links)
    (hfirst : some .first ∈ links) :
    resolve (lead :: links) (score :: scores) = .error .strayFirst := by
  obtain ⟨group, groups, hgather, hcount⟩ :=
    exists_gather_eq_ok lead score hlength hnone
  have hstray : 0 < links.count (some .first) := List.count_pos_iff.mpr hfirst
  have hne : groups.length ≠ countOr (lead :: links) := by omega
  simp [resolve, hlength, hgather, hne]

variable (lead score) in
theorem exists_resolve_eq_ok (hlength : scores.length = links.length) (hnone : none ∉ links)
    (hfirst : some .first ∉ links) :
    ∃ group groups, gather 1 score links scores = .ok (group :: groups) ∧
      resolve (lead :: links) (score :: scores) = .ok (anyGroup group groups) := by
  obtain ⟨group, groups, hgather, hcount⟩ :=
    exists_gather_eq_ok lead score hlength hnone
  rw [List.count_eq_zero.mpr hfirst, Nat.add_zero] at hcount
  exact ⟨group, groups, hgather, by simp [resolve, hlength, hgather, hcount]⟩

theorem anyGroup_eq_any (group : Bool) (groups : List Bool) :
    anyGroup group groups = (group :: groups).any id := by
  induction groups generalizing group with
  | nil => simp [anyGroup]
  | cons g groups ih =>
    show anyGroup (group || g) groups = _
    rw [ih]
    simp [Bool.or_assoc]

/-- A chain of single truth values without missing links and without stray `first` has the
verdict of its normal form. -/
theorem resolve_of_linked {scores : List Bool} {score : Bool}
    (hlength : scores.length = links.length) (hnone : none ∉ links)
    (hfirst : some .first ∉ links) :
    resolve (lead :: links) (score :: scores) =
      .ok (normalForm (lead :: links) (score :: scores)) := by
  obtain ⟨group, groups, hgather, hresolve⟩ :=
    exists_resolve_eq_ok lead score hlength hnone hfirst
  rw [hresolve, anyGroup_eq_any, any_gather lead hlength hfirst hgather]

/-! ## §5 How resolving can end -/

/-- The endings of resolving a chain, each with the condition under which it comes about.
The conditions exclude each other. -/
inductive Ending {β : Type} (links : List (Option Link)) (scores : List β) :
    Except ChainFault β → Prop where
  | empty (h : links = []) : Ending links scores (.error .empty)
  | uneven (h : links ≠ []) (hlength : scores.length ≠ links.length) :
      Ending links scores (.error (.uneven scores.length links.length))
  | unlinked (h : links ≠ []) (hlength : scores.length = links.length) {i : Nat}
      (hi : FirstUnlinked links i) : Ending links scores (.error (.unlinked i))
  | strayFirst (h : links ≠ []) (hlength : scores.length = links.length)
      (hnone : none ∉ links.tail) (hfirst : some .first ∈ links.tail) :
      Ending links scores (.error .strayFirst)
  | verdict (h : links ≠ []) (hlength : scores.length = links.length)
      (hnone : none ∉ links.tail) (hfirst : some .first ∉ links.tail) (v : β) :
      Ending links scores (.ok v)

theorem FirstUnlinked.unique {links : List (Option Link)} {i j : Nat} (hi : FirstUnlinked links i)
    (hj : FirstUnlinked links j) : i = j := by
  obtain ⟨hi1, hi, hbefore_i⟩ := hi
  obtain ⟨hj1, hj, hbefore_j⟩ := hj
  rcases Nat.lt_trichotomy i j with hlt | heq | hgt
  · exact absurd hi (hbefore_j i hi1 hlt)
  · exact heq
  · exact absurd hj (hbefore_i j hj1 hgt)

theorem FirstUnlinked.none_mem {links : List (Option Link)} {i : Nat}
    (h : FirstUnlinked links i) : none ∈ links.tail := by
  obtain ⟨hi, hnone, -⟩ := h
  obtain ⟨i, rfl⟩ : ∃ k, i = k + 1 := ⟨i - 1, by omega⟩
  cases links with
  | nil => cases hnone
  | cons lead links => exact List.mem_of_getElem? hnone

theorem ending_resolve (links : List (Option Link)) (scores : List β) :
    Ending links scores (resolve links scores) := by
  cases links with
  | nil => exact .empty rfl
  | cons lead links =>
    have hne : lead :: links ≠ [] := List.cons_ne_nil _ _
    by_cases hlength : scores.length = (lead :: links).length
    · cases scores with
      | nil => cases hlength
      | cons score scores =>
        have hrest : scores.length = links.length := Nat.succ.inj hlength
        cases hk : links.findIdx? Option.isNone with
        | some k =>
          rw [resolve_of_unlinked hrest hk]
          exact .unlinked hne hlength (findIdx?_isNone_eq_some_iff.mp hk)
        | none =>
          have hnone := findIdx?_isNone_eq_none_iff.mp hk
          by_cases hfirst : some .first ∈ links
          · rw [resolve_of_strayFirst hrest hnone hfirst]
            exact .strayFirst hne hlength hnone hfirst
          · obtain ⟨group, groups, -, hresolve⟩ :=
              exists_resolve_eq_ok lead score hrest hnone hfirst
            rw [hresolve]
            exact .verdict hne hlength hnone hfirst _
    · have huneven : resolve (lead :: links) scores =
          .error (.uneven scores.length (lead :: links).length) := by
        cases scores with
        | nil => rfl
        | cons score scores =>
          have hrest : scores.length ≠ links.length := fun h => hlength (congrArg Nat.succ h)
          simp only [resolve, if_neg hrest]
      rw [huneven]
      exact .uneven hne hlength

omit [Verdict β] in
/-- Two endings of one chain have the same fault. -/
theorem Ending.faultOf_eq {links : List (Option Link)} {scores : List β}
    {x y : Except ChainFault β} (hx : Ending links scores x) (hy : Ending links scores y) :
    faultOf x = faultOf y := by
  cases hx with
  | empty h => cases hy <;> first | rfl | contradiction
  | uneven h hlength => cases hy <;> first | rfl | contradiction
  | unlinked h hlength hi =>
    cases hy with
    | unlinked _ _ hj => rw [hi.unique hj]
    | strayFirst _ _ hnone _ => exact absurd hi.none_mem hnone
    | verdict _ _ hnone _ _ => exact absurd hi.none_mem hnone
    | _ => contradiction
  | strayFirst h hlength hnone hfirst =>
    cases hy with
    | unlinked _ _ hj => exact absurd hj.none_mem hnone
    | strayFirst => rfl
    | _ => contradiction
  | verdict h hlength hnone hfirst v =>
    cases hy with
    | unlinked _ _ hj => exact absurd hj.none_mem hnone
    | verdict => rfl
    | _ => contradiction

theorem resolve_eq_error {links : List (Option Link)} {scores : List β} {e : ChainFault}
    (h : Ending links scores (.error e)) : resolve links scores = .error e :=
  faultOf_eq_some_iff.mp ((ending_resolve links scores).faultOf_eq h)

section Conditions

variable {links : List (Option Link)} {scores : List β}

theorem resolve_eq_empty_iff : resolve links scores = .error .empty ↔ links = [] := by
  refine ⟨fun h => ?_, fun h => resolve_eq_error (.empty h)⟩
  have hending := ending_resolve links scores
  rw [h] at hending
  cases hending with
  | empty h => exact h

theorem resolve_eq_uneven_iff {m n : Nat} : resolve links scores = .error (.uneven m n) ↔
    links ≠ [] ∧ scores.length ≠ links.length ∧ m = scores.length ∧ n = links.length := by
  constructor
  · intro h
    have hending := ending_resolve links scores
    rw [h] at hending
    cases hending with
    | uneven hne hlength => exact ⟨hne, hlength, rfl, rfl⟩
  · rintro ⟨h, hlength, rfl, rfl⟩
    exact resolve_eq_error (.uneven h hlength)

theorem resolve_eq_unlinked_iff {i : Nat} : resolve links scores = .error (.unlinked i) ↔
    links ≠ [] ∧ scores.length = links.length ∧ FirstUnlinked links i := by
  constructor
  · intro h
    have hending := ending_resolve links scores
    rw [h] at hending
    cases hending with
    | unlinked hne hlength hi => exact ⟨hne, hlength, hi⟩
  · rintro ⟨h, hlength, hi⟩
    exact resolve_eq_error (.unlinked h hlength hi)

theorem resolve_eq_strayFirst_iff : resolve links scores = .error .strayFirst ↔
    links ≠ [] ∧ scores.length = links.length ∧
      none ∉ links.tail ∧ some .first ∈ links.tail := by
  constructor
  · intro h
    have hending := ending_resolve links scores
    rw [h] at hending
    cases hending with
    | strayFirst hne hlength hnone hfirst => exact ⟨hne, hlength, hnone, hfirst⟩
  · rintro ⟨h, hlength, hnone, hfirst⟩
    exact resolve_eq_error (.strayFirst h hlength hnone hfirst)

theorem exists_resolve_eq_ok_iff : (∃ v, resolve links scores = .ok v) ↔
    links ≠ [] ∧ scores.length = links.length ∧
      none ∉ links.tail ∧ some .first ∉ links.tail := by
  constructor
  · rintro ⟨v, h⟩
    have hending := ending_resolve links scores
    rw [h] at hending
    cases hending with
    | verdict hne hlength hnone hfirst => exact ⟨hne, hlength, hnone, hfirst⟩
  · rintro ⟨h, hlength, hnone, hfirst⟩
    cases scores with
    | nil => exact absurd (List.eq_nil_of_length_eq_zero hlength.symm) h
    | cons score scores =>
      exact faultOf_eq_none_iff.mp
        ((ending_resolve links _).faultOf_eq (.verdict h hlength hnone hfirst score))

end Conditions

/-- The link of the lead is never looked at. -/
theorem resolve_modifyHead (lead : Option Link) (links : List (Option Link)) (scores : List β) :
    resolve (links.modifyHead fun _ => lead) scores = resolve links scores := by
  cases links with
  | nil => rfl
  | cons _ links => cases scores <;> rfl

/-! ## §6 Truth values and vectors of truth values -/

theorem resolve_eq_ok_normalForm {links : List (Option Link)} {scores : List Bool} {v : Bool}
    (h : resolve links scores = .ok v) : v = normalForm links scores := by
  obtain ⟨hne, hlength, hnone, hfirst⟩ := exists_resolve_eq_ok_iff.mp ⟨v, h⟩
  cases links with
  | nil => exact absurd rfl hne
  | cons lead links =>
    cases scores with
    | nil => cases hlength
    | cons score scores =>
      rw [resolve_of_linked (Nat.succ.inj hlength) hnone hfirst] at h
      cases h
      rfl

theorem forall₂_scoreAt {n : Nat} {scores : List (List Bool)} (h : ∀ bs ∈ scores, bs.length = n)
    {j : Nat} (hj : j < n) :
    List.Forall₂ (ScoreAt n j) scores (scores.map fun bs => bs.getD j false) := by
  induction scores with
  | nil => exact .nil
  | cons bs scores ih =>
    have hbs := h bs List.mem_cons_self
    refine .cons ⟨hbs, ?_⟩ (ih fun bs hbs => h bs (List.mem_cons_of_mem _ hbs))
    have hj' : j < bs.length := hbs ▸ hj
    simp [hj']

/-- The entries of a verdict on vectors are the verdicts on the entries. -/
theorem resolve_map_getD {n : Nat} {scores : List (List Bool)}
    (h : ∀ bs ∈ scores, bs.length = n) (links : List (Option Link)) {j : Nat} (hj : j < n) :
    resolve links (scores.map fun bs => bs.getD j false) =
      (resolve links scores).map fun bs => bs.getD j false := by
  have hagree := resolve_agree_getElem? links (forall₂_scoreAt h hj)
  generalize resolve links scores = x at hagree
  generalize resolve links (scores.map fun bs => bs.getD j false) = y at hagree
  cases hagree with
  | error e => rfl
  | @ok bs b hentry => simp [Except.map, hentry.2]

theorem length_of_resolve_eq_ok {n : Nat} {scores : List (List Bool)}
    (h : ∀ bs ∈ scores, bs.length = n) {links : List (Option Link)} {v : List Bool}
    (hv : resolve links scores = .ok v) : v.length = n := by
  have hagree := resolve_agree (compatible_isVector n) links (forall₂_isVector h)
  rw [hv] at hagree
  generalize resolve links ((scores.map Score.each).map some) = x at hagree
  cases hagree with
  | ok hvector => exact hvector.2

/-- **A chain resolves to its normal form, or fails at its first flaw.**  The flaws are
looked for in the order in which they are listed: no clause at all, more or fewer scores than
clauses, a missing link, a stray `first`.  A chain without flaw has the verdict of its normal
form.  The link of the lead does not matter, and on vectors of one length everything happens
entry by entry, also where scores of any extent are resolved. -/
theorem resolve_eq_normalForm (links : List (Option Link)) :
    -- scores of every kind
    (∀ {β : Type} [Verdict β] (scores : List β),
      (resolve links scores = .error .empty ↔ links = []) ∧
      (∀ m n, resolve links scores = .error (.uneven m n) ↔
        links ≠ [] ∧ scores.length ≠ links.length ∧ m = scores.length ∧ n = links.length) ∧
      (∀ i, resolve links scores = .error (.unlinked i) ↔
        links ≠ [] ∧ scores.length = links.length ∧ FirstUnlinked links i) ∧
      (resolve links scores = .error .strayFirst ↔
        links ≠ [] ∧ scores.length = links.length ∧
          none ∉ links.tail ∧ some .first ∈ links.tail) ∧
      ((∃ v, resolve links scores = .ok v) ↔
        links ≠ [] ∧ scores.length = links.length ∧
          none ∉ links.tail ∧ some .first ∉ links.tail) ∧
      (∀ lead, resolve (links.modifyHead fun _ => lead) scores = resolve links scores)) ∧
    -- single truth values
    (∀ scores : List Bool,
      (∀ v, resolve links scores = .ok v → v = normalForm links scores) ∧
      resolveScores links (scores.map Score.single) =
        ((resolve links scores).map Score.single).mapError fun e => .rejected (.malformed e)) ∧
    -- vectors of one length
    (∀ (n : Nat) (scores : List (List Bool)), (∀ bs ∈ scores, bs.length = n) →
      (∀ v, resolve links scores = .ok v → v.length = n) ∧
      (∀ j < n, resolve links (scores.map fun bs => bs.getD j false) =
        (resolve links scores).map fun bs => bs.getD j false) ∧
      resolveScores links (scores.map Score.each) =
        ((resolve links scores).map Score.each).mapError fun e => .rejected (.malformed e)) ∧
    -- the wording of the flaws
    ChainFault.message .empty = "Specify at least one condition" ∧
    (∀ m n, ChainFault.message (.uneven m n) = s!"Got {m} scores for {n} conditions") ∧
    (∀ i, ChainFault.message (.unlinked i) = s!"Condition {i} has no conjunction") ∧
    ChainFault.message .strayFirst = "Incorrect or-conjunction clauses" := by
  refine ⟨fun scores => ⟨resolve_eq_empty_iff, fun m n => resolve_eq_uneven_iff,
    fun i => resolve_eq_unlinked_iff, resolve_eq_strayFirst_iff, exists_resolve_eq_ok_iff,
    fun lead => resolve_modifyHead lead links scores⟩, fun scores => ⟨?_, ?_⟩,
    fun n scores h => ⟨?_, ?_, ?_⟩, rfl, fun m n => rfl, fun i => rfl, rfl⟩
  · intro v hv
    exact resolve_eq_ok_normalForm hv
  · exact resolveScores_single links scores
  · intro v hv
    exact length_of_resolve_eq_ok h hv
  · intro j hj
    exact resolve_map_getD h links hj
  · exact resolveScores_each h links

/-- The lead and its `and` fail, the group behind the `or` holds. -/
example : resolve [some .first, some .and, some .or, some .and] [true, false, true, true] =
    .ok true := by
  decide

end DiceOdds.Chain
