import CSO.Python.Reading

/-! Where a pattern matches, and the pieces into which its matches cut a text. -/
namespace CSO.Python.Regex

/-- A way to read on from one place to another. Of a text that must not follow nothing is said. -/
inductive Matches (isWord : Char → Bool) : Regex → Cursor → Cursor → Prop
  | empty (s) : Matches isWord .empty s s
  | set {p before c rest groups} (h : p c = true) :
      Matches isWord (.set p) ⟨before, c :: rest, groups⟩ ⟨some c, rest, groups⟩
  | seq {first second s t v} : Matches isWord first s t → Matches isWord second t v →
      Matches isWord (.seq first second) s v
  | altFirst {first second s t} : Matches isWord first s t → Matches isWord (.alt first second) s t
  | altSecond {first second s t} :
      Matches isWord second s t → Matches isWord (.alt first second) s t
  | starNone {body} (s) : Matches isWord (.star body) s s
  | starMore {body s t v} : Matches isWord body s t → Matches isWord (.star body) t v →
      Matches isWord (.star body) s v
  | group {number body s t} : Matches isWord body s t →
      Matches isWord (.group number body) s
        { t with groups := (number, s.consumed t) :: t.groups }
  | boundary {s} (h : isBoundary isWord s = true) : Matches isWord .boundary s s
  | atStart {s} (h : s.before = none) : Matches isWord .atStart s s
  | atEnd {s} (h : s.rest = []) : Matches isWord .atEnd s s
  | behind {p s} (h : s.before.any p = true) : Matches isWord (.behind p) s s
  | notBehind {p s} (h : s.before.any p = false) : Matches isWord (.notBehind p) s s
  | ahead {body s t} : Matches isWord body s t → Matches isWord (.ahead body) s s
  | notAhead {body} (s) : Matches isWord (.notAhead body) s s

variable {isWord : Char → Bool} {r : Regex} {s t m : Cursor} {k : Cursor → Option Cursor}

theorem repeated_matches {body : Regex}
    (hbody : ∀ s k m, body.exec isWord s k = some m → ∃ t, Matches isWord body s t ∧ k t = some m)
    {n : ℕ} (h : repeated (body.exec isWord) k n s = some m) :
    ∃ t, Matches isWord (.star body) s t ∧ k t = some m := by
  induction n generalizing s with
  | zero => exact ⟨s, .starNone s, h⟩
  | succ n ih =>
    rcases Option.or_eq_some_iff.mp h with hmore | ⟨-, hstop⟩
    · obtain ⟨t, hfirst, ht⟩ := hbody _ _ _ hmore
      split_ifs at ht
      obtain ⟨v, hrest, hv⟩ := ih ht
      exact ⟨v, .starMore hfirst hrest, hv⟩
    · exact ⟨s, .starNone s, hstop⟩

/-- What is found was read, and the continuation accepted it. -/
theorem exec_matches (h : r.exec isWord s k = some m) :
    ∃ t, Matches isWord r s t ∧ k t = some m := by
  induction r generalizing s k m with
  | empty => exact ⟨s, .empty s, h⟩
  | set p =>
    obtain ⟨before, text, groups⟩ := s
    cases text with
    | nil => cases h
    | cons c rest =>
      change (if p c then k _ else none) = some m at h
      split_ifs at h with hc
      exact ⟨_, .set hc, h⟩
  | seq first second ihfirst ihsecond =>
    obtain ⟨t, hfirst, ht⟩ := ihfirst h
    obtain ⟨v, hsecond, hv⟩ := ihsecond ht
    exact ⟨v, .seq hfirst hsecond, hv⟩
  | alt first second ihfirst ihsecond =>
    rcases Option.or_eq_some_iff.mp h with hfirst | ⟨-, hsecond⟩
    · obtain ⟨t, hfirst, ht⟩ := ihfirst hfirst
      exact ⟨t, .altFirst hfirst, ht⟩
    · obtain ⟨t, hsecond, ht⟩ := ihsecond hsecond
      exact ⟨t, .altSecond hsecond, ht⟩
  | star body ih => exact repeated_matches (fun _ _ _ => ih) h
  | group number body ih =>
    obtain ⟨t, hbody, ht⟩ := ih h
    exact ⟨_, .group hbody, ht⟩
  | boundary =>
    rw [exec] at h
    split_ifs at h with hs
    exact ⟨s, .boundary hs, h⟩
  | atStart =>
    rw [exec] at h
    split_ifs at h with hs
    exact ⟨s, .atStart hs, h⟩
  | atEnd =>
    rw [exec] at h
    split_ifs at h with hs
    exact ⟨s, .atEnd hs, h⟩
  | behind p =>
    rw [exec] at h
    split_ifs at h with hs
    exact ⟨s, .behind hs, h⟩
  | notBehind p =>
    rw [exec] at h
    split_ifs at h with hs
    exact ⟨s, .notBehind (Bool.eq_false_iff.mpr hs), h⟩
  | ahead body ih =>
    rw [exec] at h
    split_ifs at h with hs
    obtain ⟨v, hv⟩ := Option.isSome_iff_exists.mp hs
    obtain ⟨t, hbody, -⟩ := ih hv
    exact ⟨s, .ahead hbody, h⟩
  | notAhead body ih =>
    rw [exec] at h
    split_ifs at h
    exact ⟨s, .notAhead s, h⟩

theorem last_append (used more : List Char) (before : Option Char) :
    (used ++ more).getLast?.or before = more.getLast?.or (used.getLast?.or before) := by
  rw [List.getLast?_append, Option.or_assoc]

theorem last_cons (c : Char) (used : List Char) (before : Option Char) :
    (c :: used).getLast?.or before = used.getLast?.or (some c) := last_append [c] used before

/-- Reading leaves the rest of the text. -/
theorem Matches.suffix (h : Matches isWord r s t) :
    ∃ used, s.rest = used ++ t.rest ∧ t.before = used.getLast?.or s.before := by
  induction h with
  | set => exact ⟨[_], rfl, rfl⟩
  | seq _ _ ihfirst ihsecond | starMore _ _ ihfirst ihsecond =>
    obtain ⟨used, hrest, hbefore⟩ := ihfirst
    obtain ⟨more, hrest', hbefore'⟩ := ihsecond
    refine ⟨used ++ more, ?_, ?_⟩
    · rw [hrest, hrest', List.append_assoc]
    · rw [hbefore', hbefore, last_append]
  | altFirst _ ih | altSecond _ ih | group _ ih => exact ih
  | empty | starNone | boundary | atStart | atEnd | behind | notBehind | ahead | notAhead =>
    exact ⟨[], rfl, rfl⟩

theorem matchAt_matches {before : Option Char} {text : List Char}
    (h : r.matchAt isWord before text = some m) : Matches isWord r ⟨before, text, []⟩ m := by
  obtain ⟨t, hmatches, ht⟩ := exec_matches h
  cases ht
  exact hmatches

theorem matchAt_suffix {before : Option Char} {text : List Char}
    (h : r.matchAt isWord before text = some m) :
    ∃ used, text = used ++ m.rest ∧ m.before = used.getLast?.or before :=
  (matchAt_matches h).suffix

theorem matches_seq {first second : Regex} (h : Matches isWord (.seq first second) s t) :
    ∃ v, Matches isWord first s v ∧ Matches isWord second v t := by
  cases h with
  | seq hfirst hsecond => exact ⟨_, hfirst, hsecond⟩

theorem matches_alt {first second : Regex} (h : Matches isWord (.alt first second) s t) :
    Matches isWord first s t ∨ Matches isWord second s t := by
  cases h with
  | altFirst hfirst => exact .inl hfirst
  | altSecond hsecond => exact .inr hsecond

theorem matches_set {p : Char → Bool} (h : Matches isWord (.set p) s t) :
    ∃ c, p c = true ∧ s.rest = c :: t.rest ∧ t.before = some c := by
  cases h with
  | set hc => exact ⟨_, hc, rfl, rfl⟩

theorem matches_behind {p : Char → Bool} (h : Matches isWord (.behind p) s t) :
    s.before.any p = true ∧ t = s := by
  cases h with
  | behind hs => exact ⟨hs, rfl⟩

theorem matches_star {p : Char → Bool} (h : Matches isWord (.star (.set p)) s t) :
    ∃ used, s.rest = used ++ t.rest ∧ ∀ c ∈ used, p c = true := by
  generalize hr : Regex.star (.set p) = r at h
  induction h with
  | starNone => exact ⟨[], rfl, nofun⟩
  | starMore hfirst _ _ ih =>
    cases hr
    obtain ⟨c, hc, hrest, -⟩ := matches_set hfirst
    obtain ⟨used, hused, hall⟩ := ih rfl
    refine ⟨c :: used, by rw [hrest, hused]; rfl, fun d hd => ?_⟩
    rcases List.mem_cons.mp hd with rfl | hd
    · exact hc
    · exact hall d hd
  | _ => cases hr

theorem matches_plus {p : Char → Bool} (h : Matches isWord (plus (.set p)) s t) :
    ∃ used, s.rest = used ++ t.rest ∧ used ≠ [] ∧ ∀ c ∈ used, p c = true := by
  obtain ⟨v, hfirst, hmore⟩ := matches_seq h
  obtain ⟨c, hc, hrest, -⟩ := matches_set hfirst
  obtain ⟨used, hused, hall⟩ := matches_star hmore
  refine ⟨c :: used, by rw [hrest, hused]; rfl, List.cons_ne_nil c used, fun d hd => ?_⟩
  rcases List.mem_cons.mp hd with rfl | hd
  · exact hc
  · exact hall d hd

theorem matches_text {word : List Char} (h : Matches isWord (Regex.text word) s t) :
    ∃ used, s.rest = used ++ t.rest ∧ used.map fold = word := by
  induction word generalizing s with
  | nil =>
    cases h
    exact ⟨[], rfl, rfl⟩
  | cons c word ih =>
    obtain ⟨v, hfirst, hmore⟩ := matches_seq h
    obtain ⟨x, hx, hrest, -⟩ := matches_set hfirst
    obtain ⟨used, hused, hword⟩ := ih hmore
    exact ⟨x :: used, by rw [hrest, hused]; rfl,
      by rw [List.map_cons, of_decide_eq_true hx, hword]⟩

/-! After a match the search goes on behind it. -/

theorem finditerFrom_skip (used rest : List Char) (before : Option Char) :
    r.finditerFrom isWord used.length before (used ++ rest) =
      r.finditerFrom isWord 0 (used.getLast?.or before) rest := by
  induction used generalizing before with
  | nil => rfl
  | cons c used ih => exact (ih (some c)).trans (by rw [last_cons])

theorem finditerFrom_match {used : List Char} {before : Option Char} (hne : used ≠ [])
    (h : r.matchAt isWord before (used ++ m.rest) = some m) :
    r.finditerFrom isWord 0 before (used ++ m.rest) =
      m :: r.finditerFrom isWord 0 (used.getLast?.or before) m.rest := by
  obtain ⟨c, used, rfl⟩ := List.exists_cons_of_ne_nil hne
  rw [List.cons_append] at h
  rw [List.cons_append, finditerFrom, h, last_cons, ← finditerFrom_skip]
  have hskip : (used ++ m.rest).length - m.rest.length = used.length := by
    rw [List.length_append, Nat.add_sub_cancel]
  simp only [hskip]

theorem splitFrom_skip (used rest : List Char) (before : Option Char) :
    r.splitFrom isWord used.length before (used ++ rest) =
      r.splitFrom isWord 0 (used.getLast?.or before) rest := by
  induction used generalizing before with
  | nil => rfl
  | cons c used ih => exact (ih (some c)).trans (by rw [last_cons])

theorem splitFrom_match {used : List Char} {before : Option Char} (hne : used ≠ [])
    (h : r.matchAt isWord before (used ++ m.rest) = some m) :
    r.splitFrom isWord 0 before (used ++ m.rest) =
      ([], (used, (r.splitFrom isWord 0 (used.getLast?.or before) m.rest).1) ::
        (r.splitFrom isWord 0 (used.getLast?.or before) m.rest).2) := by
  obtain ⟨c, used, rfl⟩ := List.exists_cons_of_ne_nil hne
  rw [List.cons_append] at h
  rw [List.cons_append, splitFrom, h, last_cons, ← splitFrom_skip]
  have hskip : (used ++ m.rest).length - m.rest.length = used.length := by
    rw [List.length_append, Nat.add_sub_cancel]
  have htake : (c :: (used ++ m.rest)).take ((used ++ m.rest).length + 1 - m.rest.length) =
      c :: used := by
    have hlength : (used ++ m.rest).length + 1 - m.rest.length = (c :: used).length := by
      rw [List.length_append, List.length_cons]
      omega
    rw [hlength, ← List.cons_append, List.take_left]
  simp only [hskip, htake]

/-- A text cut at separators: the first piece, and every separator with the piece after. -/
inductive Pieces (Sep : Option Char → List Char → List Char → Prop) :
    Option Char → List Char → List Char → List (List Char × List Char) → Prop
  | whole (before text) : Pieces Sep before text text []
  | cut (first) {before sep rest piece more} : Sep (first.getLast?.or before) sep rest →
      Pieces Sep (sep.getLast?.or (first.getLast?.or before)) rest piece more →
      Pieces Sep before (first ++ (sep ++ rest)) first ((sep, piece) :: more)

variable {Sep : Option Char → List Char → List Char → Prop} {before : Option Char}
  {text first : List Char} {more : List (List Char × List Char)}

theorem Pieces.cons {c : Char} (h : Pieces Sep (some c) text first more) :
    Pieces Sep before (c :: text) (c :: first) more := by
  cases h with
  | whole => exact .whole before (c :: text)
  | cut hsep hmore =>
    refine Pieces.cut (c :: _) ?_ ?_
    · rwa [last_cons]
    · rwa [last_cons]

/-- The matches of a pattern cut a text so. -/
theorem pieces_split
    (hsep : ∀ {before used m}, r.matchAt isWord before (used ++ m.rest) = some m →
      used ≠ [] ∧ Sep before used m.rest) (before : Option Char) (text : List Char) :
    Pieces Sep before text (r.splitFrom isWord 0 before text).1
      (r.splitFrom isWord 0 before text).2 := by
  induction hn : text.length using Nat.strong_induction_on generalizing before text with
  | _ n ih =>
    cases text with
    | nil => exact .whole before []
    | cons c text =>
      cases hmatch : r.matchAt isWord before (c :: text) with
      | none =>
        rw [splitFrom, hmatch]
        refine Pieces.cons (ih text.length ?_ _ text rfl)
        rw [← hn]
        exact Nat.lt_succ_self _
      | some m =>
        obtain ⟨used, hused, -⟩ := matchAt_suffix hmatch
        rw [hused] at hmatch ⊢
        obtain ⟨hne, hcut⟩ := hsep hmatch
        rw [splitFrom_match hne hmatch]
        refine Pieces.cut [] hcut (ih m.rest.length ?_ _ _ rfl)
        have hpos := List.length_pos_iff.mpr hne
        rw [← hn, hused, List.length_append]
        omega

/-- One text in the place of every match. -/
theorem subFrom_const (word : List Char) (skip : ℕ) (before : Option Char) (text : List Char) :
    r.subFrom isWord (fun _ _ => word) skip before text =
      (r.splitFrom isWord skip before text).1 ++
        (r.splitFrom isWord skip before text).2.flatMap fun part => word ++ part.2 := by
  induction text generalizing skip before with
  | nil => rw [subFrom, splitFrom]; rfl
  | cons c text ih =>
    cases skip with
    | succ skip => exact ih skip (some c)
    | zero =>
      rw [subFrom, splitFrom]
      cases r.matchAt isWord before (c :: text) with
      | none =>
        exact congrArg (c :: ·) (ih 0 (some c))
      | some m =>
        exact (congrArg (word ++ ·) (ih _ (some c))).trans (List.append_assoc _ _ _).symm

end CSO.Python.Regex
