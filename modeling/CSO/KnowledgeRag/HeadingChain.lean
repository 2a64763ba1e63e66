import CSO.KnowledgeRag.Parsers
import Mathlib.Data.List.Induction

/-! The headings above a place in a source: the chain of the nearest ones of lower levels, and the
stack the parsers keep, which is cut by its length. -/
namespace CSO.KnowledgeRag

variable {α : Type}

/-- The headings above a level, the nearest first. -/
def ancestors (level : ℕ) : List (ℕ × α) → List (ℕ × α)
  | [] => []
  | heading :: earlier =>
    if heading.1 < level then heading :: ancestors heading.1 earlier else ancestors level earlier

/-- The closest heading and those above it, the nearest first. -/
def lineage : List (ℕ × α) → List (ℕ × α)
  | [] => []
  | heading :: earlier => heading :: ancestors heading.1 earlier

/-- The chain of the nearest preceding headings with strictly increasing levels that ends in the
closest one. -/
def headingChain (headings : List (ℕ × α)) : List (ℕ × α) := (lineage headings.reverse).reverse

/-- The stack of the parsers, with the levels of its headings. -/
def pushHeading (stack : List (ℕ × α)) (heading : ℕ × α) : List (ℕ × α) :=
  if heading.1 = 1 then [heading] else Parsing.cutStack heading.1 stack ++ [heading]

def indexStack (headings : List (ℕ × α)) : List (ℕ × α) := headings.foldl pushHeading []

theorem ancestors_eq (level : ℕ) (earlier : List (ℕ × α)) :
    ancestors level earlier = (lineage earlier).filter (·.1 < level) := by
  induction earlier generalizing level with
  | nil => rfl
  | cons heading earlier ih =>
    rw [ancestors, lineage, ih heading.1]
    by_cases hlower : heading.1 < level
    · rw [if_pos hlower, List.filter_cons_of_pos (by simpa using hlower), List.filter_filter]
      congr 1
      refine List.filter_congr fun x _ => ?_
      by_cases hx : x.1 < heading.1
      · have hlevel : x.1 < level := by omega
        simp [hx, hlevel]
      · simp [hx]
    · rw [if_neg hlower, List.filter_cons_of_neg (by simpa using hlower), List.filter_filter,
        ih level]
      refine List.filter_congr fun x _ => ?_
      by_cases hx : x.1 < level
      · have hheading : x.1 < heading.1 := by omega
        simp [hx, hheading]
      · simp [hx]

/-- A heading takes those of lower levels over from the chain before it. -/
theorem headingChain_append (headings : List (ℕ × α)) (heading : ℕ × α) :
    headingChain (headings ++ [heading]) =
      (headingChain headings).filter (·.1 < heading.1) ++ [heading] := by
  rw [headingChain, List.reverse_append, List.reverse_singleton, List.singleton_append, lineage,
    List.reverse_cons, ancestors_eq, headingChain, List.filter_reverse]

theorem indexStack_append (headings : List (ℕ × α)) (heading : ℕ × α) :
    indexStack (headings ++ [heading]) = pushHeading (indexStack headings) heading := by
  rw [indexStack, List.foldl_append]
  rfl

theorem headingChain_subset (headings : List (ℕ × α)) : headingChain headings ⊆ headings := by
  induction headings using List.reverseRecOn with
  | nil => exact List.Subset.refl _
  | append_singleton headings heading ih =>
    rw [headingChain_append]
    intro x hx
    rcases List.mem_append.mp hx with hx | hx
    · exact List.mem_append_left _ (ih (List.mem_of_mem_filter hx))
    · exact List.mem_append_right _ hx

theorem mem_cutStack {β : Type} {level : ℕ} {stack : List β} {x : β}
    (h : x ∈ Parsing.cutStack level stack) : x ∈ stack := by
  rw [Parsing.cutStack] at h
  split_ifs at h
  · exact List.mem_of_mem_dropLast h
  · exact List.mem_of_mem_take h

theorem indexStack_subset (headings : List (ℕ × α)) : indexStack headings ⊆ headings := by
  induction headings using List.reverseRecOn with
  | nil => exact List.Subset.refl _
  | append_singleton headings heading ih =>
    rw [indexStack_append, pushHeading]
    intro x hx
    split_ifs at hx
    · exact List.mem_append_right _ hx
    · rcases List.mem_append.mp hx with hx | hx
      · exact List.mem_append_left _ (ih (mem_cutStack hx))
      · exact List.mem_append_right _ hx

/-- The levels of a list of headings strictly increase. -/
def Increasing (headings : List (ℕ × α)) : Prop := headings.Pairwise (·.1 < ·.1)

instance (headings : List (ℕ × α)) : Decidable (Increasing headings) :=
  inferInstanceAs (Decidable (List.Pairwise _ _))

theorem increasing_append {headings : List (ℕ × α)} {heading : ℕ × α} :
    Increasing (headings ++ [heading]) ↔
      Increasing headings ∧ ∀ x ∈ headings, x.1 < heading.1 := by
  rw [Increasing, List.pairwise_append]
  constructor
  · rintro ⟨hheadings, -, hlast⟩
    exact ⟨hheadings, fun x hx => hlast x hx heading List.mem_cons_self⟩
  · rintro ⟨hheadings, hlast⟩
    refine ⟨hheadings, List.pairwise_singleton _ _, fun x hx y hy => ?_⟩
    rw [List.mem_singleton.mp hy]
    exact hlast x hx

theorem increasing_headingChain (headings : List (ℕ × α)) : Increasing (headingChain headings) := by
  induction headings using List.reverseRecOn with
  | nil => exact List.Pairwise.nil
  | append_singleton headings heading ih =>
    rw [headingChain_append, increasing_append]
    constructor
    · exact List.Pairwise.filter _ ih
    · intro x hx
      simpa using List.of_mem_filter hx

/-- Of headings with increasing levels none is left out. -/
theorem headingChain_of_increasing {headings : List (ℕ × α)} (h : Increasing headings) :
    headingChain headings = headings := by
  induction headings using List.reverseRecOn with
  | nil => rfl
  | append_singleton headings heading ih =>
    rw [increasing_append] at h
    rw [headingChain_append, ih h.1, List.filter_eq_self.mpr]
    intro x hx
    exact decide_eq_true (h.2 x hx)

/-- Headings of a level or a higher one do not count below it. -/
theorem filter_headingChain_append {level : ℕ} (headings deeper : List (ℕ × α))
    (hdeeper : ∀ x ∈ deeper, level ≤ x.1) :
    (headingChain (headings ++ deeper)).filter (·.1 < level) =
      (headingChain headings).filter (·.1 < level) := by
  induction deeper using List.reverseRecOn with
  | nil => rw [List.append_nil]
  | append_singleton deeper heading ih =>
    have hheading := hdeeper heading (List.mem_append_right _ List.mem_cons_self)
    have hlast : ([heading] : List (ℕ × α)).filter (·.1 < level) = [] :=
      List.filter_cons_of_neg (by simpa using hheading)
    rw [← List.append_assoc, headingChain_append, List.filter_append, hlast, List.append_nil,
      List.filter_filter, ← ih fun x hx => hdeeper x (List.mem_append_left _ hx)]
    refine List.filter_congr fun x _ => ?_
    by_cases hx : x.1 < level
    · have hlower : x.1 < heading.1 := by omega
      simp [hx, hlower]
    · simp [hx]

/-! Headings of level 0, which no markdown and no HTML has. -/

/-- The last heading of level 0. -/
def lastTop (headings : List (ℕ × α)) : Option (ℕ × α) := (headings.filter (·.1 = 0)).getLast?

/-- The last heading of level 0 stands first in the stack. -/
def Rooted (headings : List (ℕ × α)) : Prop :=
  ∀ top, lastTop headings = some top → (indexStack headings).head? = some top

theorem lastTop_append (headings : List (ℕ × α)) (heading : ℕ × α) :
    lastTop (headings ++ [heading]) = if heading.1 = 0 then some heading else lastTop headings := by
  rw [lastTop, List.filter_append]
  split_ifs with htop
  · rw [List.filter_cons_of_pos (by simpa using htop), List.filter_nil, List.getLast?_concat]
  · rw [List.filter_cons_of_neg (by simpa using htop), List.filter_nil, List.append_nil, lastTop]

theorem level_of_lastTop {headings : List (ℕ × α)} {top : ℕ × α}
    (h : lastTop headings = some top) : top.1 = 0 := by
  have hmem : top ∈ headings.filter (·.1 = 0) := List.mem_of_getLast? h
  simpa using List.of_mem_filter hmem

theorem lastTop_eq_none {headings : List (ℕ × α)} (h : lastTop headings = none) :
    ∀ x ∈ headings, 1 ≤ x.1 := by
  intro x hx
  by_contra hzero
  have hmem : x ∈ headings.filter (·.1 = 0) :=
    List.mem_filter.mpr ⟨hx, decide_eq_true (by omega)⟩
  rw [lastTop, List.getLast?_eq_none_iff] at h
  rw [h] at hmem
  exact List.not_mem_nil hmem

/-- The chain begins with it. -/
theorem head?_headingChain {headings : List (ℕ × α)} {top : ℕ × α}
    (h : lastTop headings = some top) : (headingChain headings).head? = some top := by
  induction headings using List.reverseRecOn with
  | nil => cases h
  | append_singleton headings heading ih =>
    rw [lastTop_append] at h
    rw [headingChain_append]
    split_ifs at h with hzero
    · rw [List.filter_eq_nil_iff.mpr fun x _ => by simp [hzero]]
      exact h
    · have htop := level_of_lastTop h
      have hhead := ih h
      cases hchain : headingChain headings with
      | nil =>
        rw [hchain] at hhead
        cases hhead
      | cons first rest =>
        rw [hchain] at hhead
        cases hhead
        have hlower : top.1 < heading.1 := by omega
        rw [List.filter_cons_of_pos (by simpa using hlower), List.cons_append, List.head?_cons]

/-- The stack holds no heading deeper than its level allows. -/
def Deep (stack : List (ℕ × α)) : Prop := ∀ k, 1 ≤ k → ∀ x ∈ stack.drop k, k + 1 ≤ x.1

theorem deep_singleton (heading : ℕ × α) : Deep [heading] := by
  intro k hk x hx
  rw [List.drop_eq_nil_of_le hk] at hx
  cases hx

theorem Deep.push {stack : List (ℕ × α)} (h : Deep stack) {heading : ℕ × α}
    (hlevel : 2 ≤ heading.1) : Deep (stack.take (heading.1 - 1) ++ [heading]) := by
  intro k hk x hx
  rw [List.drop_append] at hx
  rcases List.mem_append.mp hx with hx | hx
  · rw [List.drop_take] at hx
    exact h k hk x (List.mem_of_mem_take hx)
  · have hlength : (stack.take (heading.1 - 1)).length ≤ heading.1 - 1 := List.length_take_le _ _
    have hfirst : k - (stack.take (heading.1 - 1)).length = 0 := by
      by_contra hlate
      rw [List.drop_eq_nil_of_le (by simpa using Nat.one_le_iff_ne_zero.mpr hlate)] at hx
      cases hx
    rw [hfirst, List.drop_zero] at hx
    rw [List.mem_singleton.mp hx]
    omega

theorem head?_take_append {stack : List (ℕ × α)} {k : ℕ} (hk : 1 ≤ k) (heading : ℕ × α) :
    (stack.take k ++ [heading]).head? = some (stack.head?.getD heading) := by
  cases stack with
  | nil => rw [List.take_nil]; rfl
  | cons first rest =>
    obtain ⟨n, rfl⟩ := Nat.exists_eq_add_of_le' hk
    rfl

/-- A stack with the last heading of level 0 at its bottom has the chain of all headings: what it
lacks is cut off by the headings it has. -/
theorem headingChain_indexStack {headings : List (ℕ × α)} (hnodup : headings.Nodup)
    (hrooted : Rooted headings) :
    headingChain headings = headingChain (indexStack headings) ∧ Deep (indexStack headings) := by
  induction headings using List.reverseRecOn with
  | nil => exact ⟨rfl, fun k _ x hx => by rw [indexStack, List.foldl_nil, List.drop_nil] at hx; cases hx⟩
  | append_singleton headings heading ih =>
    rw [Rooted, lastTop_append] at hrooted
    rw [indexStack_append, pushHeading] at hrooted ⊢
    rw [headingChain_append]
    have hfresh : heading ∉ headings := fun hmem =>
      List.disjoint_of_nodup_append hnodup hmem List.mem_cons_self
    by_cases hone : heading.1 = 1
    · rw [if_pos hone] at hrooted ⊢
      rw [if_neg (by omega)] at hrooted
      have hnone : lastTop headings = none := by
        cases hlast : lastTop headings with
        | none => rfl
        | some top =>
          have hhead := Option.some.inj (hrooted top hlast)
          have hzero := level_of_lastTop hlast
          rw [← hhead] at hzero
          omega
      have hempty : (headingChain headings).filter (·.1 < heading.1) = [] := by
        refine List.filter_eq_nil_iff.mpr fun x hx => ?_
        have hlevel := lastTop_eq_none hnone x (headingChain_subset headings hx)
        simp only [decide_eq_true_eq]
        omega
      rw [hempty]
      exact ⟨rfl, deep_singleton heading⟩
    · rw [if_neg hone, Parsing.cutStack] at hrooted ⊢
      by_cases hzero : heading.1 = 0
      · rw [if_pos hzero, if_pos hzero] at hrooted
        rw [if_pos hzero]
        have hhead := hrooted heading rfl
        have hbottom : (indexStack headings).dropLast = [] := by
          cases hrest : (indexStack headings).dropLast with
          | nil => rfl
          | cons first rest =>
            rw [hrest] at hhead
            have hmem : first ∈ (indexStack headings).dropLast := by
              rw [hrest]
              exact List.mem_cons_self
            rw [← Option.some.inj hhead] at hfresh
            exact absurd (indexStack_subset headings (List.mem_of_mem_dropLast hmem)) hfresh
        have hempty : (headingChain headings).filter (·.1 < heading.1) = [] :=
          List.filter_eq_nil_iff.mpr fun x _ => by simp [hzero]
        rw [hbottom, hempty]
        exact ⟨rfl, deep_singleton heading⟩
      · rw [if_neg hzero, if_neg hzero] at hrooted
        rw [if_neg hzero]
        have hbefore : Rooted headings := by
          intro top htop
          have hhead := hrooted top htop
          rw [head?_take_append (by omega)] at hhead
          have hlevel := level_of_lastTop htop
          cases hstack : (indexStack headings).head? with
          | none =>
            rw [hstack] at hhead
            have hsame : heading = top := Option.some.inj hhead
            rw [hsame] at hzero
            exact absurd hlevel hzero
          | some first =>
            rw [hstack] at hhead
            exact hhead
        obtain ⟨hchain, hdeep⟩ := ih (List.Nodup.of_append_left hnodup) hbefore
        constructor
        · rw [headingChain_append, hchain]
          congr 1
          have hcut := filter_headingChain_append ((indexStack headings).take (heading.1 - 1))
            ((indexStack headings).drop (heading.1 - 1)) fun x hx => show heading.1 ≤ x.1 by
              have hlevel := hdeep (heading.1 - 1) (by omega) x hx
              omega
          rw [List.take_append_drop] at hcut
          exact hcut
        · exact hdeep.push (by omega)

/-- The stack is the chain exactly where its levels increase from the last heading of level 0 on. -/
theorem indexStack_eq_iff {headings : List (ℕ × α)} (hnodup : headings.Nodup) :
    indexStack headings = headingChain headings ↔
      Increasing (indexStack headings) ∧ Rooted headings := by
  constructor
  · intro hsame
    constructor
    · rw [hsame]
      exact increasing_headingChain headings
    · intro top htop
      rw [hsame]
      exact head?_headingChain htop
  · rintro ⟨hincreasing, hrooted⟩
    rw [(headingChain_indexStack hnodup hrooted).1, headingChain_of_increasing hincreasing]

end CSO.KnowledgeRag
